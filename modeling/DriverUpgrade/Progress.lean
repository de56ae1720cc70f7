import DriverUpgrade.Processors
import DriverUpgrade.PhaseMachine

/-! Progress. In a fault-free pass over driver pods that all carry a template generation no step
fails, so every node the snapshot lists gets the whole of its block, a node under
`UpgradeRequired` when the slots reach it. An upgrade whose collaborators do their work therefore
runs to its end: the node is cordoned, its driver pod replaced, and it ends in `Done`,
uncordoned. Nor does a fault-free pass forget a node waiting on the pod or drain manager: each is
handed every node of the phases it owns. -/
namespace DriverUpgrade

/-- The driver pods a snapshot lists all carry a template generation. -/
def GenerationsKnown (cs : ClusterUpgradeState) : Prop :=
  ∀ s, ∀ ns ∈ cs.nodeStates s, ∃ g, ns.driverPod.templateGeneration = .ok g

theorem planCalls_flatten {ps : List (List Step)} (h : ∀ p ∈ ps, planResult p = none) :
    planCalls ps.flatten = (ps.map planCalls).flatten := by
  induction ps with
  | nil => rfl
  | cons p ps ih =>
    rw [List.flatten_cons, planCalls_append (h p (List.mem_cons_self _ _)),
      ih fun q hq => h q (List.mem_cons_of_mem _ hq)]
    rfl

theorem sublist_planCalls_flatMap {l : List NodeUpgradeState} {f : NodeUpgradeState → List Step}
    (h : ∀ x ∈ l, planResult (f x) = none) {x : NodeUpgradeState} (hx : x ∈ l) :
    (planCalls (f x)).Sublist (planCalls (l.flatMap f)) := by
  rw [(planCalls_flatMap h).1]
  exact List.sublist_flatten_of_mem (List.mem_map_of_mem _ hx)

theorem waitForJobsRequiredSteps_result (spec : Option WaitForCompletionSpec)
    (ns : NodeUpgradeState) :
    planResult (waitForJobsRequiredSteps spec ns) = none := by
  unfold waitForJobsRequiredSteps
  split_ifs <;> rfl

section Known

variable (keys : UpgradeKeys) {cs : ClusterUpgradeState} (policy : DriverUpgradePolicySpec)
  (hgen : GenerationsKnown cs)
include hgen

theorem doneOrUnknownSteps_result (s : UpgradeState) :
    ∀ ns ∈ cs.nodeStates s, planResult (doneOrUnknownSteps keys s ns) = none :=
  fun ns hns => (doneOrUnknownSteps_calls keys s ns _ (hgen s ns hns).choose_spec).1

theorem podRestartSteps_result :
    ∀ ns ∈ cs.nodeStates .podRestartRequired, planResult (podRestartSteps keys ns) = none :=
  fun ns hns => (podRestartSteps_calls keys ns _ (hgen _ ns hns).choose_spec).1

theorem inSyncSteps_result :
    ∀ ns ∈ cs.nodeStates .failed, planResult (inSyncSteps keys ns) = none :=
  fun ns hns => (inSyncSteps_calls keys ns _ (hgen _ ns hns).choose_spec).1

/-- No processor's plan fails. -/
theorem processorPlan_result (s : UpgradeState) :
    planResult (processorPlan keys cs policy s) = none := by
  cases s
  case unknown | done => exact (planCalls_flatMap (doneOrUnknownSteps_result keys hgen _)).2
  case upgradeRequired => exact planResult_map_call _ _
  case waitForJobsRequired =>
    simp only [processorPlan, waitForJobsRequiredPlan]
    rw [planResult_append (planCalls_flatMap fun ns _ => waitForJobsRequiredSteps_result _ ns).2]
    split <;> (try split_ifs) <;> rfl
  case podDeletionRequired =>
    simp only [processorPlan, podDeletionRequiredPlan]
    split_ifs <;> rfl
  case drainRequired =>
    simp only [processorPlan, drainPlan]
    split
    · split_ifs
      exacts [rfl, (planCalls_flatMap fun _ _ => by rfl).2]
    · exact (planCalls_flatMap fun _ _ => by rfl).2
  case podRestartRequired =>
    rw [processorPlan, podRestartPlan,
      planResult_append (planCalls_flatMap (podRestartSteps_result keys hgen)).2]
    rfl
  case failed => exact (planCalls_flatMap (inSyncSteps_result keys hgen)).2
  all_goals exact (planCalls_flatMap fun _ _ => by rfl).2

/-- The block of a listed node is part of its processor's fault-free calls; under
`UpgradeRequired`, when the node is among those the slots reach. -/
theorem nodeSteps_sublist_processorPlan {s : UpgradeState} {ns : NodeUpgradeState}
    (hns : ns ∈ cs.nodeStates s)
    (hslot : s = .upgradeRequired → ns ∈ ((cs.nodeStates .upgradeRequired).filter
      fun ns => !skipNodeUpgrade keys ns.node).take (upgradesAvailable cs policy).toNat) :
    (planCalls (nodeSteps keys policy s ns)).Sublist
      (planCalls (processorPlan keys cs policy s)) := by
  cases s <;> simp only [nodeSteps, processorPlan]
  case unknown | done => exact sublist_planCalls_flatMap (doneOrUnknownSteps_result keys hgen _) hns
  case upgradeRequired =>
    rw [upgradeRequiredPlan, planCalls_map_call]
    exact List.singleton_sublist.mpr (List.mem_map_of_mem _ (hslot rfl))
  case waitForJobsRequired =>
    simp only [waitForJobsRequiredPlan]
    rw [planCalls_append (planCalls_flatMap fun ns _ => waitForJobsRequiredSteps_result _ ns).2]
    exact (sublist_planCalls_flatMap (fun ns _ => waitForJobsRequiredSteps_result _ ns) hns).trans
      (List.sublist_append_left _ _)
  case podDeletionRequired => exact List.nil_sublist _
  case drainRequired =>
    cases hd : drainEnabled policy.drainSpec
    · rw [if_neg Bool.false_ne_true, drainPlan_of_not_enabled keys _ hd]
      exact sublist_planCalls_flatMap (fun _ _ => by rfl) hns
    · exact List.nil_sublist _
  case podRestartRequired =>
    rw [podRestartPlan, planCalls_append (planCalls_flatMap (podRestartSteps_result keys hgen)).2]
    exact (sublist_planCalls_flatMap (podRestartSteps_result keys hgen) hns).trans
      (List.sublist_append_left _ _)
  case failed => exact sublist_planCalls_flatMap (inSyncSteps_result keys hgen) hns
  all_goals exact sublist_planCalls_flatMap (fun _ _ => by rfl) hns

/-- A fault-free pass makes about a listed node exactly the calls of its block. -/
theorem passPlan_callsFor_eq (hnd : (listedNames cs).Nodup) {s : UpgradeState}
    {ns : NodeUpgradeState} (hns : ns ∈ cs.nodeStates s)
    (hslot : s = .upgradeRequired → ns ∈ ((cs.nodeStates .upgradeRequired).filter
      fun ns => !skipNodeUpgrade keys ns.node).take (upgradesAvailable cs policy).toNat) :
    callsFor ns.node.name (planCalls (passPlan keys cs policy)) =
      planCalls (nodeSteps keys policy s ns) := by
  have hsub : (planCalls (nodeSteps keys policy s ns)).Sublist
      (planCalls (passPlan keys cs policy)) := by
    rw [passPlan, planCalls_flatten fun p hp => by
      obtain ⟨s', -, rfl⟩ := List.mem_map.mp hp
      exact processorPlan_result keys policy hgen s']
    exact (nodeSteps_sublist_processorPlan keys policy hgen hns hslot).trans
      (List.sublist_flatten_of_mem (List.mem_map_of_mem _
        (List.mem_map_of_mem _ (mem_processingOrder s))))
  have hown : callsFor ns.node.name (planCalls (nodeSteps keys policy s ns)) =
      planCalls (nodeSteps keys policy s ns) := by
    simpa using callsFor_of_namesOwn (nodeSteps_namesOwn keys policy s) ns ns.node.name
  exact (passPlan_callsFor hnd keys policy hns).eq_of_length_le
    (hown ▸ (hsub.filter _).length_le)

end Known

theorem Cluster.generationsKnown {c : Cluster}
    (hgen : ∀ r ∈ c.records, ∃ g, r.driverPod.templateGeneration = .ok g) :
    GenerationsKnown c.snapshot := fun _ ns hns => by
  obtain ⟨r, hr, rfl⟩ := List.mem_map.mp hns
  exact hgen r (List.mem_filter.mp hr).1

/-- A fault-free pass with auto upgrade on logs the calls of its plan, each answered with
success. -/
theorem Cluster.passEffects_noFaults_log (keys : UpgradeKeys) (c : Cluster)
    (hauto : c.policy.autoUpgrade = true) :
    (c.passEffects keys noFaults).log =
      (planCalls (passPlan keys c.snapshot c.policy)).map (·, none) := by
  rw [Cluster.passEffects, applyState_eq_execute keys hauto, (execute_noFaults _ _).2]
  rfl

/-- What a fault-free pass does to a node whose driver pod, like every other, carries a
template generation: it applies the node's whole block, under `UpgradeRequired` when the slots
reach the node. -/
theorem Cluster.pass_record_noFaults (keys : UpgradeKeys) (c : Cluster)
    (hauto : c.policy.autoUpgrade = true)
    (hgen : ∀ r ∈ c.records, ∃ g, r.driverPod.templateGeneration = .ok g) {r : NodeRecord}
    (hr : r ∈ c.records)
    (hslot : r.phase = .upgradeRequired → r.toNodeUpgradeState ∈
      ((c.snapshot.nodeStates .upgradeRequired).filter fun ns => !skipNodeUpgrade keys ns.node).take
        (upgradesAvailable c.snapshot c.policy).toNat) :
    (c.passEffects keys noFaults).log.foldl NodeRecord.applyEntry r =
      (planCalls (nodeSteps keys c.policy r.phase r.toNodeUpgradeState)).foldl
        NodeRecord.applyCall r := by
  have hnames : ∀ x ∈ entriesFor r.node.name (c.passEffects keys noFaults).log,
      x.1.nodeName = some r.node.name := fun x hx => by
    simpa using (List.mem_filter.mp hx).2
  rw [foldl_applyEntry_entriesFor, foldl_applyEntry_of_names hnames,
    c.passEffects_noFaults_log keys hauto,
    ← passPlan_callsFor_eq keys c.policy (Cluster.generationsKnown hgen)
      c.listedNames_snapshot_nodup (Cluster.mem_snapshot hr) hslot]
  simp [succeeded, entriesFor, callsFor, List.filter_map, Function.comp_def,
    NodeRecord.toNodeUpgradeState]

/-- With drain off, a pass leaves the policy as it was. -/
theorem Cluster.pass_policy_of_drain_disabled (keys : UpgradeKeys) (φ : Faults) (c : Cluster)
    (hdrain : drainEnabled c.policy.drainSpec = false) : (c.pass keys φ).policy = c.policy := by
  rcases c.passEffects_drainSpec keys φ with h | ⟨spec, hspec, he, -⟩
  · change { c.policy with drainSpec := (c.passEffects keys φ).drainSpec } = c.policy
    rw [h]
  · rw [hspec] at hdrain
    exact absurd he (by simpa [drainEnabled] using hdrain)

theorem Cluster.eq_of_records {c c' : Cluster} (h : c.records = c'.records)
    (hp : c.policy = c'.policy) : c = c' := by
  cases c
  cases c'
  simp only at h hp
  subst h hp
  rfl

/-- A fault-free pass on a cluster of one node, with drain off: the node gets its whole block,
under `UpgradeRequired` when it has no skip label and `MaxParallelUpgrades` is not negative. -/
theorem Cluster.pass_single (keys : UpgradeKeys) (r : NodeRecord) (policy : DriverUpgradePolicySpec)
    (hauto : policy.autoUpgrade = true) (hdrain : drainEnabled policy.drainSpec = false)
    (hgen : ∃ g, r.driverPod.templateGeneration = .ok g)
    (hslot : r.phase = .upgradeRequired →
      skipNodeUpgrade keys r.node = false ∧ 0 ≤ policy.maxParallelUpgrades) :
    (Cluster.mk [r] policy (List.nodup_singleton _)).pass keys noFaults =
      ⟨[(planCalls (nodeSteps keys policy r.phase r.toNodeUpgradeState)).foldl
        NodeRecord.applyCall r], policy, List.nodup_singleton _⟩ := by
  refine Cluster.eq_of_records ?_ (Cluster.pass_policy_of_drain_disabled _ _ _ hdrain)
  have hgen' : ∀ r' ∈ [r], ∃ g, r'.driverPod.templateGeneration = .ok g :=
    fun r' hr' => List.mem_singleton.mp hr' ▸ hgen
  rw [Cluster.pass_records, List.map_singleton,
    Cluster.pass_record_noFaults keys ⟨[r], policy, _⟩ hauto hgen' (List.mem_singleton_self r)]
  intro hp
  obtain ⟨hskip, hN⟩ := hslot hp
  have hur : (Cluster.mk [r] policy (List.nodup_singleton _)).snapshot.nodeStates
      .upgradeRequired = [r.toNodeUpgradeState] := by
    simp [Cluster.snapshot, hp]
  have hfree : 1 ≤ (upgradesAvailable (Cluster.mk [r] policy (List.nodup_singleton _)).snapshot
      policy).toNat := by
    simp only [upgradesAvailable, hur, DriverUpgrade.upgradesInProgress, Cluster.snapshot,
      List.filter_singleton, hp]
    split_ifs
    · simp
    · simp
      omega
  rw [hur, List.filter_singleton]
  simp only [NodeRecord.toNodeUpgradeState, hskip, Bool.not_false, cond_true]
  refine List.mem_take_iff_getElem.mpr ⟨0, ?_, rfl⟩
  simp only [List.length_take, List.length_singleton]
  omega

/-! ### Every waiting node is handed over -/

/-- The nodes the cluster holds in phase `s`, in its order. -/
def Cluster.nodesIn (c : Cluster) (s : UpgradeState) : List Node :=
  (c.records.filter (·.phase = s)).map (·.node)

theorem Cluster.snapshot_nodes (c : Cluster) (s : UpgradeState) :
    (c.snapshot.nodeStates s).map (·.node) = c.nodesIn s := by
  simp [Cluster.snapshot, Cluster.nodesIn, NodeRecord.toNodeUpgradeState, Function.comp_def]

/-- Every call of a processor's plan is made, and succeeds, in a fault-free pass. -/
theorem Cluster.issued_of_processorPlan (keys : UpgradeKeys) (c : Cluster)
    (hauto : c.policy.autoUpgrade = true)
    (hgen : ∀ r ∈ c.records, ∃ g, r.driverPod.templateGeneration = .ok g) (s : UpgradeState)
    {call : Call} (h : call ∈ planCalls (processorPlan keys c.snapshot c.policy s)) :
    (call, none) ∈ (c.passEffects keys noFaults).log := by
  rw [c.passEffects_noFaults_log keys hauto, passPlan, planCalls_flatten fun p hp => by
    obtain ⟨s', -, rfl⟩ := List.mem_map.mp hp
    exact processorPlan_result keys c.policy (Cluster.generationsKnown hgen) s']
  refine List.mem_map_of_mem _ (List.mem_flatten_of_mem ?_ h)
  exact List.mem_map_of_mem _ (List.mem_map_of_mem _ (mem_processingOrder s))

/-- A fault-free pass forgets no node waiting on a collaborator: it hands each the nodes of its
phase, in the cluster's order. The pod manager gets the nodes in `WaitForJobsRequired` to wait
for their jobs when a pod selector is set, and those in `PodDeletionRequired` to evict their pods;
the drain manager, with drain on, gets the nodes in `DrainRequired` under the augmented selector;
and the pod manager gets the driver pods `podsToRestart` picks among `PodRestartRequired`. -/
theorem Cluster.pass_hands_over (keys : UpgradeKeys) (c : Cluster)
    (hauto : c.policy.autoUpgrade = true)
    (hgen : ∀ r ∈ c.records, ∃ g, r.driverPod.templateGeneration = .ok g) :
    let issued (call : Call) : Prop := (call, none) ∈ (c.passEffects keys noFaults).log
    (∀ spec, c.policy.waitForCompletion = some spec → spec.podSelector ≠ "" →
      c.nodesIn .waitForJobsRequired ≠ [] →
      issued (.scheduleCheckOnPodCompletion
        ⟨spec.podSelector, none, c.nodesIn .waitForJobsRequired⟩)) ∧
    (c.nodesIn .podDeletionRequired ≠ [] →
      issued (.schedulePodEviction ⟨"", c.policy.podDeletion, c.nodesIn .podDeletionRequired⟩)) ∧
    (∀ spec, c.policy.drainSpec = some spec → spec.enable = true →
      issued (.scheduleNodesDrain ⟨skipDrainSpec keys spec, c.nodesIn .drainRequired⟩)) ∧
    issued (.schedulePodsRestart (podsToRestart (c.snapshot.nodeStates .podRestartRequired))) := by
  intro issued
  have hin := c.issued_of_processorPlan keys hauto hgen
  refine ⟨fun spec hw hsel hne => hin .waitForJobsRequired ?_,
    fun hne => hin .podDeletionRequired ?_, fun spec hd he => hin .drainRequired ?_,
    hin .podRestartRequired ?_⟩
  · rw [processorPlan, waitForJobsRequiredPlan.eq_def,
      planCalls_append (planCalls_flatMap fun ns _ => waitForJobsRequiredSteps_result _ ns).2, hw]
    simp [c.snapshot_nodes, hsel, hne, planCalls]
  · simp [processorPlan, podDeletionRequiredPlan, c.snapshot_nodes, hne, planCalls]
  · simp [processorPlan, drainPlan, hd, he, c.snapshot_nodes, planCalls]
  · rw [processorPlan, podRestartPlan, planCalls_append
      (planCalls_flatMap (podRestartSteps_result keys (Cluster.generationsKnown hgen))).2]
    simp [planCalls]

theorem pass_hands_over_waiting_nodes :
    let keys : UpgradeKeys := ⟨"skip", "initial-state", "skip-drain"⟩
    let pod : Pod := ⟨.ok 1, none, "Running", [⟨true⟩]⟩
    let a : Node := ⟨"a", true, [], []⟩
    let b : Node := ⟨"b", true, [], []⟩
    let d : Node := ⟨"d", true, [], []⟩
    let c : Cluster := ⟨[⟨a, .waitForJobsRequired, pod, ⟨2⟩, false⟩,
      ⟨b, .podDeletionRequired, pod, ⟨2⟩, false⟩, ⟨d, .drainRequired, pod, ⟨2⟩, false⟩],
      ⟨true, 0, some ⟨"app=batch"⟩, none, some ⟨true, ""⟩⟩, by decide⟩
    (.scheduleCheckOnPodCompletion ⟨"app=batch", none, [a]⟩, none) ∈
        (c.passEffects keys noFaults).log ∧
      (.schedulePodEviction ⟨"", none, [b]⟩, none) ∈ (c.passEffects keys noFaults).log ∧
      (.scheduleNodesDrain ⟨⟨true, "skip-drain!=true"⟩, [d]⟩, none) ∈
        (c.passEffects keys noFaults).log := by
  intro keys pod a b d c
  have h := Cluster.pass_hands_over keys c rfl (by simp [c, pod])
  exact ⟨h.1 _ rfl (by decide) (by decide), h.2.1 (by decide), h.2.2.1 _ rfl rfl⟩

/-- An upgrade whose collaborators do their work completes. Take a cluster of one node that is
schedulable, carries no initial-state marker and no skip label, and is under `UpgradeRequired`
with a driver pod behind its daemon set; the policy has auto upgrade on,
`MaxParallelUpgrades` not negative, no wait-for-completion selector, and drain off. Fault-free
passes take the node to `CordonRequired`, cordon it and take it to `WaitForJobsRequired`, then
to `PodDeletionRequired`; after the pod manager moves it to `DrainRequired`, a pass takes it to
`PodRestartRequired` and the next leaves it there while its pod restarts; once the pod is
replaced by one in sync with the daemon set, a pass takes it to `UncordonRequired` and the last
uncordons it and writes `Done`. The statement lists every cluster the run passes through. -/
theorem upgrade_completes (keys : UpgradeKeys) (node : Node) (oldPod newPod : Pod) (ds : DaemonSet)
    (policy : DriverUpgradePolicySpec) (g : Int) (w : Bool)
    (hsched : node.unschedulable = false)
    (hmarker : hasAnnotationKey node keys.initialStateAnnotationKey = false)
    (hskip : skipNodeUpgrade keys node = false)
    (hold : oldPod.templateGeneration = .ok g) (hbehind : g ≠ ds.generation)
    (hnew : newPod.templateGeneration = .ok ds.generation) (hrunning : newPod.phase = "Running")
    (hready : newPod.containerStatuses ≠ [] ∧ ∀ c ∈ newPod.containerStatuses, c.ready = true)
    (hauto : policy.autoUpgrade = true) (hN : 0 ≤ policy.maxParallelUpgrades)
    (hwait : noPodSelector policy.waitForCompletion = true)
    (hdrain : drainEnabled policy.drainSpec = false) :
    let c : Cluster := ⟨[⟨node, .upgradeRequired, oldPod, ds, w⟩], policy, List.nodup_singleton _⟩
    let cordoned : Node := { node with unschedulable := true }
    (c.trace keys [.pass noFaults, .pass noFaults, .pass noFaults, .move node.name .drainRequired,
      .pass noFaults, .pass noFaults, .updateDriver node.name newPod ds, .pass noFaults,
      .pass noFaults]).map (·.records) =
      [[⟨node, .upgradeRequired, oldPod, ds, w⟩], [⟨node, .cordonRequired, oldPod, ds, w⟩],
        [⟨cordoned, .waitForJobsRequired, oldPod, ds, w⟩],
        [⟨cordoned, .podDeletionRequired, oldPod, ds, w⟩],
        [⟨cordoned, .drainRequired, oldPod, ds, w⟩],
        [⟨cordoned, .podRestartRequired, oldPod, ds, w⟩],
        [⟨cordoned, .podRestartRequired, oldPod, ds, w⟩],
        [⟨cordoned, .podRestartRequired, newPod, ds, w⟩],
        [⟨cordoned, .uncordonRequired, newPod, ds, w⟩], [⟨node, .done, newPod, ds, false⟩]] := by
  intro c cordoned
  obtain ⟨name, u, labels, annotations⟩ := node
  subst hsched
  /- a pass on a one-node cluster whose node is past `UpgradeRequired` -/
  have hpass : ∀ r : NodeRecord, r.phase ≠ .upgradeRequired →
      (∃ g, r.driverPod.templateGeneration = .ok g) →
      Cluster.step keys ⟨[r], policy, List.nodup_singleton _⟩ (.pass noFaults) =
        ⟨[(planCalls (nodeSteps keys policy r.phase r.toNodeUpgradeState)).foldl
          NodeRecord.applyCall r], policy, List.nodup_singleton _⟩ :=
    fun r hr hg => Cluster.pass_single keys r policy hauto hdrain hg fun h => absurd h hr
  /- the node after each event of the run -/
  let node' : Node := ⟨name, true, labels, annotations⟩
  let r₁ : NodeRecord := ⟨⟨name, false, labels, annotations⟩, .cordonRequired, oldPod, ds, w⟩
  let r₂ : NodeRecord := ⟨node', .waitForJobsRequired, oldPod, ds, w⟩
  let r₃ : NodeRecord := ⟨node', .podDeletionRequired, oldPod, ds, w⟩
  let r₄ : NodeRecord := ⟨node', .drainRequired, oldPod, ds, w⟩
  let r₅ : NodeRecord := ⟨node', .podRestartRequired, oldPod, ds, w⟩
  let r₆ : NodeRecord := ⟨node', .podRestartRequired, newPod, ds, w⟩
  let r₇ : NodeRecord := ⟨node', .uncordonRequired, newPod, ds, w⟩
  let single (r : NodeRecord) : Cluster := ⟨[r], policy, List.nodup_singleton _⟩
  have e1 : c.step keys (.pass noFaults) = single r₁ := by
    rw [Cluster.step, Cluster.pass_single keys _ policy hauto hdrain ⟨g, hold⟩ fun _ => ⟨hskip, hN⟩]
    rfl
  have e2 : (single r₁).step keys (.pass noFaults) = single r₂ := by
    rw [hpass r₁ nofun ⟨g, hold⟩]
    rfl
  have e3 : (single r₂).step keys (.pass noFaults) = single r₃ := by
    rw [hpass r₂ nofun ⟨g, hold⟩]
    simp only [r₂, nodeSteps, waitForJobsRequiredSteps, hwait, if_true]
    rfl
  have e4 : (single r₃).step keys (.move name .drainRequired) = single r₄ :=
    Cluster.eq_of_records (by simp [single, r₃, r₄, node', Cluster.step, Cluster.mapRecords,
      UpgradeState.outOfBand]) rfl
  have e5 : (single r₄).step keys (.pass noFaults) = single r₅ := by
    rw [hpass r₄ nofun ⟨g, hold⟩]
    simp only [r₄, nodeSteps, hdrain, Bool.false_eq_true, if_false]
    rfl
  have e6 : (single r₅).step keys (.pass noFaults) = single r₅ := by
    rw [hpass r₅ nofun ⟨g, hold⟩]
    simp only [r₅, nodeSteps, podRestartSteps, NodeRecord.toNodeUpgradeState, hold, ne_eq,
      hbehind, not_false_eq_true, if_true]
    rfl
  have e7 : (single r₅).step keys (.updateDriver name newPod ds) = single r₆ :=
    Cluster.eq_of_records (by simp [single, r₅, r₆, node', Cluster.step, Cluster.mapRecords]) rfl
  have e8 : (single r₆).step keys (.pass noFaults) = single r₇ := by
    rw [hpass r₆ nofun ⟨_, hnew⟩]
    simp only [hasAnnotationKey] at hmarker
    simp [r₆, r₇, node', nodeSteps, podRestartSteps, inSyncSteps, syncedNodeSteps,
      NodeRecord.toNodeUpgradeState, hnew,
      isDriverPodInSync_of_generation ⟨node', newPod, ds⟩ _ hnew, hrunning, hready.1,
      eq_true hready.2, hasAnnotationKey, hmarker, planCalls,
      NodeRecord.applyCall]
  have e9 : (single r₇).step keys (.pass noFaults) =
      single ⟨⟨name, false, labels, annotations⟩, .done, newPod, ds, false⟩ := by
    rw [hpass r₇ nofun ⟨_, hnew⟩]
    rfl
  simp only [Cluster.trace_cons, Cluster.trace_nil, List.map_cons, List.map_nil]
  rw [e1, e2, e3, e4, e5, e6, e7, e8, e9]

theorem upgrade_completes_one_node :
    let keys : UpgradeKeys := ⟨"skip", "initial-state", "skip-drain"⟩
    let node : Node := ⟨"a", false, [], []⟩
    let oldPod : Pod := ⟨.ok 1, none, "Running", [⟨true⟩]⟩
    let newPod : Pod := ⟨.ok 2, none, "Running", [⟨true⟩]⟩
    let policy : DriverUpgradePolicySpec := ⟨true, 1, none, none, none⟩
    let c : Cluster := ⟨[⟨node, .upgradeRequired, oldPod, ⟨2⟩, false⟩], policy,
      List.nodup_singleton _⟩
    let cordoned : Node := { node with unschedulable := true }
    (c.trace keys [.pass noFaults, .pass noFaults, .pass noFaults, .move node.name .drainRequired,
      .pass noFaults, .pass noFaults, .updateDriver node.name newPod ⟨2⟩, .pass noFaults,
      .pass noFaults]).map (·.records) =
      [[⟨node, .upgradeRequired, oldPod, ⟨2⟩, false⟩], [⟨node, .cordonRequired, oldPod, ⟨2⟩, false⟩],
        [⟨cordoned, .waitForJobsRequired, oldPod, ⟨2⟩, false⟩],
        [⟨cordoned, .podDeletionRequired, oldPod, ⟨2⟩, false⟩],
        [⟨cordoned, .drainRequired, oldPod, ⟨2⟩, false⟩],
        [⟨cordoned, .podRestartRequired, oldPod, ⟨2⟩, false⟩],
        [⟨cordoned, .podRestartRequired, oldPod, ⟨2⟩, false⟩],
        [⟨cordoned, .podRestartRequired, newPod, ⟨2⟩, false⟩],
        [⟨cordoned, .uncordonRequired, newPod, ⟨2⟩, false⟩],
        [⟨node, .done, newPod, ⟨2⟩, false⟩]] := by
  intro keys node oldPod newPod policy c cordoned
  exact upgrade_completes keys node oldPod newPod ⟨2⟩ policy 1 false rfl rfl rfl rfl (by decide)
    rfl rfl ⟨by decide, by decide⟩ rfl (by decide) rfl rfl

end DriverUpgrade
