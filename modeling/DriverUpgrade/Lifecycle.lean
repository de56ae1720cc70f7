import DriverUpgrade.Waves
import DriverUpgrade.Independence

/-! A node's upgrade from a rollout of its driver daemon set back to `Done`, on every path of the
policy: with a wait-for-completion selector or without, with drain on or off, for a node the
administrator had cordoned or not. The pod and drain managers do their part as out-of-band moves;
a move to the phase the node is already in changes nothing, so one script serves every policy.
The node ends in `Done` on its new driver pod and otherwise exactly as it started: a node that was
cordoned gets the initial-state marker, skips the uncordon, and loses the marker again. A node
the pod manager moved to `Failed` waits there while its driver pod is out of sync, and leaves the
upgrade by the same way once a pod in sync replaces it. -/
namespace DriverUpgrade

/-- Two policies that decide alike for every node: they may differ in the drain spec's selector,
which `ProcessDrainNodes` writes back through the shared policy, but not in its `Enable` flag. -/
structure DriverUpgradePolicySpec.SameDecisions (p p' : DriverUpgradePolicySpec) : Prop where
  auto : p'.autoUpgrade = p.autoUpgrade
  maxParallel : p'.maxParallelUpgrades = p.maxParallelUpgrades
  wait : p'.waitForCompletion = p.waitForCompletion
  drain : drainEnabled p'.drainSpec = drainEnabled p.drainSpec

theorem nodeSteps_of_sameDecisions {p p' : DriverUpgradePolicySpec} (h : p.SameDecisions p')
    (keys : UpgradeKeys) (s : UpgradeState) (ns : NodeUpgradeState) :
    nodeSteps keys p' s ns = nodeSteps keys p s ns := by
  cases s <;> simp only [nodeSteps, h.wait, h.drain]

/-- A cluster of the one node `r`, under a policy that decides as `policy` does. -/
def Cluster.OneNode (policy : DriverUpgradePolicySpec) (c : Cluster) (r : NodeRecord) : Prop :=
  c.records = [r] ∧ policy.SameDecisions c.policy

section OneNode

variable (keys : UpgradeKeys) {policy : DriverUpgradePolicySpec} {c : Cluster} {r : NodeRecord}

/-- A fault-free pass on one node applies its block; the slots reach a lone node under
`UpgradeRequired` without the skip label. -/
theorem Cluster.OneNode.pass (h : c.OneNode policy r) (r' : NodeRecord)
    (hauto : policy.autoUpgrade = true) (hgen : ∃ g, r.driverPod.templateGeneration = .ok g)
    (hslot : r.phase = .upgradeRequired →
      skipNodeUpgrade keys r.node = false ∧ 0 ≤ policy.maxParallelUpgrades)
    (hr' : (planCalls (nodeSteps keys policy r.phase r.toNodeUpgradeState)).foldl
      NodeRecord.applyCall r = r') :
    (c.step keys (.pass noFaults)).OneNode policy r' := by
  obtain ⟨hc, hp⟩ := h
  refine ⟨?_, hp.auto, hp.maxParallel, hp.wait,
    (drainEnabled_passEffects keys noFaults c).trans hp.drain⟩
  have hgen' : ∀ x ∈ c.records, ∃ g, x.driverPod.templateGeneration = .ok g := fun x hx => by
    rw [hc, List.mem_singleton] at hx
    exact hx ▸ hgen
  have hmem := hc ▸ List.mem_singleton_self r
  rw [Cluster.step, c.pass_noFaults_records keys (hp.auto.trans hauto) hgen', hc,
    List.map_singleton, Cluster.nodeCalls, nodeSteps_of_sameDecisions hp, ← hr']
  by_cases hph : r.phase = .upgradeRequired
  · obtain ⟨hskip, hN⟩ := hslot hph
    have hslots : c.policy.maxParallelUpgrades = 0 ∨
        (c.records.length : Int) ≤ c.policy.maxParallelUpgrades := by
      rw [hc, hp.maxParallel, List.length_singleton]
      omega
    simp [Cluster.admitted_of_slots keys hslots hmem hph, hskip]
  · simp only [hph, false_and, if_false]

/-- The pod or drain manager moves the node within the phases it owns. -/
theorem Cluster.OneNode.move (h : c.OneNode policy r) (q : UpgradeState)
    (hq : q.outOfBand = true) (r' : NodeRecord)
    (hr' : (if r.phase.outOfBand then { r with phase := q } else r) = r') :
    (c.step keys (.move r.node.name q)).OneNode policy r' := by
  refine ⟨?_, h.2⟩
  simp only [Cluster.step, Cluster.mapRecords, h.1, List.map_singleton, hq, and_true, true_and,
    ← hr']

/-- The node's driver pod is replaced. -/
theorem Cluster.OneNode.updateDriver (h : c.OneNode policy r) (pod : Pod) (ds : DaemonSet) :
    (c.step keys (.updateDriver r.node.name pod ds)).OneNode policy
      { r with driverPod := pod, driverDaemonSet := ds } := by
  refine ⟨?_, h.2⟩
  simp [Cluster.step, Cluster.mapRecords, h.1]

end OneNode

theorem filter_key_ne_of_lookup {annotations : List (String × String)} {key : String}
    (h : annotations.lookup key = none) : annotations.filter (·.1 ≠ key) = annotations := by
  induction annotations with
  | nil => rfl
  | cons p l ih =>
    obtain ⟨k, v⟩ := p
    by_cases hk : key = k
    · simp [List.lookup_cons, hk] at h
    · rw [List.lookup_cons, beq_false_of_ne hk] at h
      rw [List.filter_cons_of_pos (by simpa using Ne.symm hk), ih h]

/-- Setting a key that was absent and deleting it again leaves the annotations as they were. -/
theorem updateAnnotations_set_delete {annotations : List (String × String)} {key value : String}
    (h : annotations.lookup key = none) (hv : value ≠ "null") :
    updateAnnotations (updateAnnotations annotations key value) key "null" = annotations := by
  simp only [updateAnnotations, hv, if_false, if_true]
  rw [List.filter_cons_of_neg (by simp), List.filter_filter, ← filter_key_ne_of_lookup h]
  simp

theorem Pod.InSync.driverPodInSync {ds : DaemonSet} {pod : Pod} (h : pod.InSync ds)
    (node : Node) : isDriverPodInSync ⟨node, pod, ds⟩ = .ok true := by
  rw [isDriverPodInSync_of_generation _ _ h.generation]
  simpa [h.generation, h.running, h.containers] using h.ready

theorem generation_of_isDriverPodInSync {ns : NodeUpgradeState} {b : Bool}
    (h : isDriverPodInSync ns = .ok b) : ∃ g, ns.driverPod.templateGeneration = .ok g := by
  cases hg : ns.driverPod.templateGeneration with
  | error err => simp [isDriverPodInSync, hg] at h
  | ok g => exact ⟨g, rfl⟩

/-- A driver pod in sync is at its daemon set's generation. -/
theorem generation_of_driverPodInSync {ns : NodeUpgradeState}
    (h : isDriverPodInSync ns = .ok true) :
    ns.driverPod.templateGeneration = .ok ns.driverDaemonSet.generation := by
  obtain ⟨g, hg⟩ := generation_of_isDriverPodInSync h
  rw [isDriverPodInSync_of_generation ns g hg, Except.ok.injEq, decide_eq_true_eq] at h
  exact h.1

/-- The events of one node's upgrade: the passes, with the pod manager's moves to
`PodDeletionRequired` and `DrainRequired`, the drain manager's move to `PodRestartRequired`, and
the new driver pod. -/
def lifecycleEvents (name : String) (newPod : Pod) (ds : DaemonSet) : List Event :=
  [.pass noFaults, .pass noFaults, .pass noFaults, .pass noFaults,
    .move name .podDeletionRequired, .pass noFaults, .move name .drainRequired, .pass noFaults,
    .move name .podRestartRequired, .pass noFaults, .updateDriver name newPod ds,
    .pass noFaults, .pass noFaults]

/-- An upgrade gives the node back as it found it. Take a node in `Done`, without the
initial-state marker or the skip label, cordoned or not, whose driver pod has fallen behind its
daemon set, under any policy with auto upgrade on and `MaxParallelUpgrades ≥ 0`, whatever its
wait-for-completion selector and drain spec. Fault-free passes, the managers' moves and a new
driver pod in sync with the daemon set leave the node in `Done` on the new pod, with the
schedulability and annotations it started with. The statement lists every cluster the run passes
through: a node the administrator had cordoned takes the initial-state marker and skips
`UncordonRequired`; without a wait-for-completion selector the operator itself takes the node on
to `PodDeletionRequired`, with drain off to `PodRestartRequired`, and otherwise the node waits
for the pod or drain manager's move. -/
theorem upgrade_round_trip (keys : UpgradeKeys) (node : Node) (oldPod newPod : Pod)
    (ds : DaemonSet) (policy : DriverUpgradePolicySpec) (w : Bool)
    (hmarker : hasAnnotationKey node keys.initialStateAnnotationKey = false)
    (hskip : skipNodeUpgrade keys node = false)
    (hbehind : ∃ g, oldPod.templateGeneration = .ok g ∧ g ≠ ds.generation)
    (hnew : newPod.InSync ds) (hauto : policy.autoUpgrade = true)
    (hN : 0 ≤ policy.maxParallelUpgrades) :
    let c : Cluster := ⟨[⟨node, .done, oldPod, ds, w⟩], policy, List.nodup_singleton _⟩
    let marked : Node := { node with
      annotations := if node.unschedulable then
        updateAnnotations node.annotations keys.initialStateAnnotationKey "true"
        else node.annotations }
    let old (q : UpgradeState) : NodeRecord :=
      ⟨{ marked with unschedulable := true }, q, oldPod, ds, node.unschedulable⟩
    (c.trace keys (lifecycleEvents node.name newPod ds)).map (·.records) =
      [[⟨node, .done, oldPod, ds, w⟩], [⟨marked, .upgradeRequired, oldPod, ds, node.unschedulable⟩],
        [⟨marked, .cordonRequired, oldPod, ds, node.unschedulable⟩], [old .waitForJobsRequired],
        [old (if noPodSelector policy.waitForCompletion then .podDeletionRequired
          else .waitForJobsRequired)],
        [old .podDeletionRequired], [old .podDeletionRequired], [old .drainRequired],
        [old (if drainEnabled policy.drainSpec then .drainRequired else .podRestartRequired)],
        [old .podRestartRequired], [old .podRestartRequired],
        [{ old .podRestartRequired with driverPod := newPod }],
        [if node.unschedulable then ⟨node, .done, newPod, ds, false⟩
          else ⟨{ marked with unschedulable := true }, .uncordonRequired, newPod, ds, false⟩],
        [⟨node, .done, newPod, ds, false⟩]] := by
  obtain ⟨g, hg, hne⟩ := hbehind
  obtain ⟨name, u, labels, annotations⟩ := node
  intro c marked old
  have hlookup : annotations.lookup keys.initialStateAnnotationKey = none := by
    simpa [hasAnnotationKey] using hmarker
  have h₀ : c.OneNode policy ⟨⟨name, u, labels, annotations⟩, .done, oldPod, ds, w⟩ :=
    ⟨rfl, ⟨rfl, rfl, rfl, rfl⟩⟩
  /- the rollout is noticed: `UpgradeRequired`, and the marker on a cordoned node -/
  have h₁ := h₀.pass keys ⟨marked, .upgradeRequired, oldPod, ds, u⟩ hauto ⟨g, hg⟩ nofun (by
    cases u <;> simp [marked, nodeSteps, doneOrUnknownSteps, NodeRecord.toNodeUpgradeState, hg,
      hne, isNodeUnschedulable, planCalls, NodeRecord.applyCall])
  have h₂ := h₁.pass keys ⟨marked, .cordonRequired, oldPod, ds, u⟩ hauto ⟨g, hg⟩
    (fun _ => ⟨hskip, hN⟩) rfl
  have h₃ := h₂.pass keys (old .waitForJobsRequired) hauto ⟨g, hg⟩ nofun rfl
  /- without a selector the manager writes `PodDeletionRequired`; with one, the pod manager -/
  have h₄ := h₃.pass keys (old (if noPodSelector policy.waitForCompletion then
      .podDeletionRequired else .waitForJobsRequired)) hauto ⟨g, hg⟩ nofun (by
    simp only [old, nodeSteps, waitForJobsRequiredSteps]
    cases noPodSelector policy.waitForCompletion <;> rfl)
  have h₅ := h₄.move keys .podDeletionRequired rfl (old .podDeletionRequired)
    (by cases noPodSelector policy.waitForCompletion <;> rfl)
  have h₆ := h₅.pass keys (old .podDeletionRequired) hauto ⟨g, hg⟩ nofun rfl
  have h₇ := h₆.move keys .drainRequired rfl (old .drainRequired) rfl
  /- with drain off the manager writes `PodRestartRequired`; with it on, the drain manager -/
  have h₈ := h₇.pass keys (old (if drainEnabled policy.drainSpec then .drainRequired else
      .podRestartRequired)) hauto ⟨g, hg⟩ nofun (by
    simp only [old, nodeSteps]
    cases drainEnabled policy.drainSpec <;> rfl)
  have h₉ := h₈.move keys .podRestartRequired rfl (old .podRestartRequired)
    (by cases drainEnabled policy.drainSpec <;> rfl)
  /- a driver pod behind its daemon set is left to restart -/
  have h₁₀ := h₉.pass keys (old .podRestartRequired) hauto ⟨g, hg⟩ nofun (by
    simp [old, nodeSteps, podRestartSteps, NodeRecord.toNodeUpgradeState, hg, hne, planCalls])
  have h₁₁ := h₁₀.updateDriver keys newPod ds
  /- the new pod in sync ends the upgrade: through `UncordonRequired` and the uncordon, or for a
  cordoned node straight to `Done`, dropping the marker -/
  have h₁₂ := h₁₁.pass keys (if u then ⟨⟨name, u, labels, annotations⟩, .done, newPod, ds, false⟩
      else ⟨{ marked with unschedulable := true }, .uncordonRequired, newPod, ds, false⟩) hauto
      ⟨_, hnew.generation⟩ nofun (by
    cases u <;> simp [old, marked, nodeSteps, podRestartSteps, inSyncSteps,
      syncedNodeSteps, NodeRecord.toNodeUpgradeState, hnew.generation, hnew.driverPodInSync,
      hasAnnotationKey, hlookup, planCalls, NodeRecord.applyCall,
      updateAnnotations_set_delete hlookup (by decide : ("true" : String) ≠ "null")])
  have h₁₃ := h₁₂.pass keys ⟨⟨name, u, labels, annotations⟩, .done, newPod, ds, false⟩ hauto
    ⟨_, by split_ifs <;> exact hnew.generation⟩ (by split_ifs <;> exact nofun) (by
    cases u <;> simp [marked, nodeSteps, doneOrUnknownSteps, uncordonRequiredSteps,
      NodeRecord.toNodeUpgradeState, hnew.generation, planCalls, NodeRecord.applyCall])
  simp only [lifecycleEvents, Cluster.trace_cons, Cluster.trace_nil, List.map_cons, List.map_nil,
    List.cons.injEq, true_and, and_true]
  exact ⟨h₁.1, h₂.1, h₃.1, h₄.1, h₅.1, h₆.1, h₇.1, h₈.1, h₉.1, h₁₀.1, h₁₁.1, h₁₂.1, h₁₃.1⟩

theorem upgrade_round_trip_cordoned_drain_selector :
    let keys : UpgradeKeys := ⟨"skip", "initial-state", "skip-drain"⟩
    let node : Node := ⟨"a", true, [], []⟩
    let oldPod : Pod := ⟨.ok 1, none, "Running", [⟨true⟩]⟩
    let newPod : Pod := ⟨.ok 2, none, "Running", [⟨true⟩]⟩
    let ds : DaemonSet := ⟨2⟩
    let policy : DriverUpgradePolicySpec :=
      ⟨true, 1, some ⟨"app=batch"⟩, none, some ⟨true, "app!=system"⟩⟩
    let c : Cluster := ⟨[⟨node, .done, oldPod, ds, false⟩], policy, List.nodup_singleton _⟩
    let marked : Node := { node with
      annotations := if node.unschedulable then
        updateAnnotations node.annotations keys.initialStateAnnotationKey "true"
        else node.annotations }
    let old (q : UpgradeState) : NodeRecord :=
      ⟨{ marked with unschedulable := true }, q, oldPod, ds, node.unschedulable⟩
    (c.trace keys (lifecycleEvents node.name newPod ds)).map (·.records) =
      [[⟨node, .done, oldPod, ds, false⟩],
        [⟨marked, .upgradeRequired, oldPod, ds, node.unschedulable⟩],
        [⟨marked, .cordonRequired, oldPod, ds, node.unschedulable⟩], [old .waitForJobsRequired],
        [old (if noPodSelector policy.waitForCompletion then .podDeletionRequired
          else .waitForJobsRequired)],
        [old .podDeletionRequired], [old .podDeletionRequired], [old .drainRequired],
        [old (if drainEnabled policy.drainSpec then .drainRequired else .podRestartRequired)],
        [old .podRestartRequired], [old .podRestartRequired],
        [{ old .podRestartRequired with driverPod := newPod }],
        [if node.unschedulable then ⟨node, .done, newPod, ds, false⟩
          else ⟨{ marked with unschedulable := true }, .uncordonRequired, newPod, ds, false⟩],
        [⟨node, .done, newPod, ds, false⟩]] := by
  intro keys node oldPod newPod ds policy c
  exact upgrade_round_trip keys node oldPod newPod ds policy false rfl rfl ⟨1, rfl, by decide⟩
    ⟨rfl, rfl, nofun, by simp [newPod]⟩ rfl (by decide)

end DriverUpgrade
