import DriverUpgrade.Cordon
import DriverUpgrade.Progress

/-! A pass, node by node. A node's block writes its phase at most once, to a phase the table
lists, and the table writes no phase back to itself. So under any faults a pass leaves each node
in its old phase or in the phase the fault-free pass gives it. Every call only overwrites and the
two calls of a block commute, so a fault-free retry on the same input, over what a failed pass
got through, leaves the nodes as the fault-free pass alone. A fault-free pass over driver pods
that all carry a template generation applies to each node its own calls: its whole block, but
none to a node under `UpgradeRequired` that the slots do not reach. It leaves the cluster as it
is exactly when every node waits: on a driver pod behind its daemon set, on a slot, on the pod
or drain manager, or on its restarted driver pod. -/
namespace DriverUpgrade

theorem phaseTable_ne {policy : DriverUpgradePolicySpec} {p q : UpgradeState}
    (h : phaseTable policy p q = true) : q ≠ p := by
  rintro rfl
  cases q <;> simp_all [phaseTable]

theorem foldl_applyCall_phase_of_no_write {r : NodeRecord} {P : List Call}
    (h : ∀ c ∈ P, c.isPhaseWrite = false) : (P.foldl NodeRecord.applyCall r).phase = r.phase := by
  rcases foldl_applyCall_phase r P with h' | ⟨n, q, hm, -⟩
  · exact h'
  · exact absurd (h _ hm) (by simp [Call.isPhaseWrite])

/-- Calls that write a node's phase once leave it in the phase they write. -/
theorem foldl_applyCall_phase_of_write {r : NodeRecord} {P : List Call} {n : Node}
    {q : UpgradeState} (hw : Call.changeNodeUpgradeState n q ∈ P)
    (hone : (P.filter Call.isPhaseWrite).length ≤ 1) :
    (P.foldl NodeRecord.applyCall r).phase = q := by
  induction P generalizing r with
  | nil => simp at hw
  | cons c P ih =>
    rw [List.foldl_cons]
    rcases List.mem_cons.mp hw with rfl | hw
    · /- the calls after the write write no phase -/
      have hnil : P.filter Call.isPhaseWrite = [] := by
        simp only [List.filter_cons, Call.isPhaseWrite, if_true, List.length_cons] at hone
        exact List.length_eq_zero.mp (by omega)
      have hrest : ∀ c ∈ P, c.isPhaseWrite = false := fun c hc => by
        simpa using List.filter_eq_nil_iff.mp hnil c hc
      rw [foldl_applyCall_phase_of_no_write hrest]
      rfl
    · have hpos : 0 < (P.filter Call.isPhaseWrite).length :=
        List.length_pos.mpr (List.ne_nil_of_mem (List.mem_filter.mpr ⟨hw, rfl⟩))
      cases hc : c.isPhaseWrite
      · exact ih hw (by simpa [List.filter_cons, hc] using hone)
      · simp only [List.filter_cons, hc, if_true, List.length_cons] at hone
        omega

/-- A block that makes a call writes the node's phase. -/
theorem nodeSteps_writes (keys : UpgradeKeys) (policy : DriverUpgradePolicySpec)
    (s : UpgradeState) (ns : NodeUpgradeState) (h : planCalls (nodeSteps keys policy s ns) ≠ []) :
    ∃ q, Call.changeNodeUpgradeState ns.node q ∈ planCalls (nodeSteps keys policy s ns) := by
  revert h
  cases s <;> simp only [nodeSteps, doneOrUnknownSteps, cordonRequiredSteps,
    waitForJobsRequiredSteps, drainRequiredSteps, podRestartSteps, inSyncSteps, syncedNodeSteps,
    uncordonRequiredSteps]
  all_goals repeat' (first | split | split_ifs)
  all_goals first
    | exact fun h => absurd rfl h
    | exact fun _ => ⟨_, List.mem_cons_self _ _⟩
    | exact fun _ => ⟨_, List.mem_cons_of_mem _ (List.mem_cons_self _ _)⟩

/-! ### Under faults -/

/-- With auto upgrade on, a fault-free pass applies to each node the calls its plan makes about
it. -/
theorem Cluster.pass_record_callsFor (keys : UpgradeKeys) (c : Cluster)
    (hauto : c.policy.autoUpgrade = true) (r : NodeRecord) :
    (c.passEffects keys noFaults).log.foldl NodeRecord.applyEntry r =
      (callsFor r.node.name (planCalls (passPlan keys c.snapshot c.policy))).foldl
        NodeRecord.applyCall r := by
  have hlog : (c.passEffects keys noFaults).log =
      (planCalls (passPlan keys c.snapshot c.policy)).map (·, none) := by
    rw [Cluster.passEffects, applyState_eq_execute keys hauto, (execute_noFaults _ _).2]
    rfl
  have hnames : ∀ x ∈ entriesFor r.node.name (c.passEffects keys noFaults).log,
      x.1.nodeName = some r.node.name := fun x hx => by
    simpa using (List.mem_filter.mp hx).2
  rw [foldl_applyEntry_entriesFor, foldl_applyEntry_of_names hnames, hlog]
  simp [succeeded, entriesFor, callsFor, List.filter_map, Function.comp_def]

/-- Under any faults, a pass leaves each node in the phase it had or in the phase the fault-free
pass gives it: a failure cuts a node's block before its phase write or after it. -/
theorem Cluster.pass_phase_faults (keys : UpgradeKeys) (φ : Faults) (c : Cluster) :
    ∀ r' ∈ (c.pass keys φ).records, ∃ r ∈ c.records, ∃ r'' ∈ (c.pass keys noFaults).records,
      r.node.name = r'.node.name ∧ r''.node.name = r'.node.name ∧
        (r'.phase = r.phase ∨ r'.phase = r''.phase) := by
  intro r' hr'
  obtain ⟨r, hr, rfl⟩ := List.mem_map.mp hr'
  refine ⟨r, hr, _, List.mem_map_of_mem _ hr, (NodeRecord.foldl_applyEntry_name r _).symm,
    by simp only [NodeRecord.foldl_applyEntry_name], ?_⟩
  obtain ⟨P, hpre, hsub, heq⟩ := c.pass_record keys φ hr
  have hfit := nodeSteps_fits keys c.policy r.phase r.toNodeUpgradeState
  rw [heq]
  by_cases hw : ∃ n q, Call.changeNodeUpgradeState n q ∈ P
  · /- the write went through, and the fault-free pass makes it too -/
    obtain ⟨n, q, hm⟩ := hw
    have hname : n.name = r.node.name := by
      simpa [Call.nodeName] using List.all_eq_true.mp hfit.names _ (hpre.subset hm)
    cases hauto : c.policy.autoUpgrade
    · simp [Cluster.passEffects, applyState, hauto] at hsub
      simp [hsub] at hm
    have hplan : Call.changeNodeUpgradeState n q ∈
        callsFor r.node.name (planCalls (passPlan keys c.snapshot c.policy)) :=
      List.mem_filter.mpr ⟨(c.passCalls_prefix keys φ hauto).subset (hsub.subset hm),
        by simp [Call.nodeName, hname]⟩
    have hnoFaults := (passPlan_callsFor c.listedNames_snapshot_nodup keys c.policy
      (Cluster.mem_snapshot hr)).sublist
    right
    rw [c.pass_record_callsFor keys hauto r, foldl_applyCall_phase_of_write hm
      (hfit.sublist hpre.sublist).oneWrite, foldl_applyCall_phase_of_write hplan
      (hfit.sublist hnoFaults).oneWrite]
  · left
    push_neg at hw
    exact foldl_applyCall_phase_of_no_write fun
      | .changeNodeUpgradeState n q, hc => absurd hc (hw n q)
      | Call.changeNodeUpgradeAnnotation _ _ _, _ | .cordon _, _ | .uncordon _, _
      | .scheduleCheckOnPodCompletion _, _ | .schedulePodEviction _, _
      | .scheduleNodesDrain _, _ | .schedulePodsRestart _, _ => rfl

theorem pass_phase_faults_cordon_fails :
    let keys : UpgradeKeys := ⟨"skip", "initial-state", "skip-drain"⟩
    let r : NodeRecord :=
      ⟨⟨"a", false, [], []⟩, .cordonRequired, ⟨.ok 1, none, "Running", [⟨true⟩]⟩, ⟨2⟩, false⟩
    let c : Cluster := ⟨[r], ⟨true, 0, none, none, none⟩, by decide⟩
    let φ : Faults := fun _ => some "cordon failed"
    r ∈ (c.pass keys φ).records ∧ ∃ r₀ ∈ c.records, ∃ r'' ∈ (c.pass keys noFaults).records,
      r₀.node.name = r.node.name ∧ r''.node.name = r.node.name ∧
        (r.phase = r₀.phase ∨ r.phase = r''.phase) := by
  intro keys r c φ
  have hmem : r ∈ (c.pass keys φ).records := by decide
  exact ⟨hmem, Cluster.pass_phase_faults keys φ c r hmem⟩

/-! ### Retrying a pass on the same input -/

theorem updateAnnotations_idem (annotations : List (String × String)) (key value : String) :
    updateAnnotations (updateAnnotations annotations key value) key value =
      updateAnnotations annotations key value := by
  unfold updateAnnotations
  split_ifs <;> simp [List.filter_filter]

/-- A call only overwrites: making it twice is making it once. -/
theorem NodeRecord.applyCall_idem (r : NodeRecord) (c : Call) :
    (r.applyCall c).applyCall c = r.applyCall c := by
  cases c with
  | changeNodeUpgradeState _ q => cases q <;> simp [NodeRecord.applyCall]
  | _ => simp [NodeRecord.applyCall, updateAnnotations_idem]

@[simp] theorem NodeRecord.foldl_applyCall_name (r : NodeRecord) (P : List Call) :
    (P.foldl NodeRecord.applyCall r).node.name = r.node.name := by
  induction P generalizing r with
  | nil => rfl
  | cons c P ih => simp [ih]

/-- Calls that may be replayed: a prefix of them and then a longer prefix has the effect of the
longer prefix alone. -/
def Replayable (calls : List Call) : Prop :=
  ∀ P Q, P <+: Q → Q <+: calls → ∀ r : NodeRecord,
    Q.foldl NodeRecord.applyCall (P.foldl NodeRecord.applyCall r) =
      Q.foldl NodeRecord.applyCall r

theorem prefix_pair {a b : α} {l : List α} (h : l <+: [a, b]) :
    l = [] ∨ l = [a] ∨ l = [a, b] := by
  rcases l with _ | ⟨x, _ | ⟨y, _ | ⟨z, l⟩⟩⟩
  · exact .inl rfl
  · obtain ⟨rfl, -⟩ := List.cons_prefix_cons.mp h
    exact .inr (.inl rfl)
  · obtain ⟨rfl, hy⟩ := List.cons_prefix_cons.mp h
    obtain ⟨rfl, -⟩ := List.cons_prefix_cons.mp hy
    exact .inr (.inr rfl)
  · simpa using h.length_le

theorem Replayable.nil : Replayable [] := fun _ _ hPQ hQ _ => by
  rw [List.prefix_nil.mp (hPQ.trans hQ), List.prefix_nil.mp hQ]
  rfl

/-- Two calls that commute may be replayed. -/
theorem Replayable.pair {x y : Call}
    (hxy : ∀ r : NodeRecord, (r.applyCall x).applyCall y = (r.applyCall y).applyCall x) :
    Replayable [x, y] := by
  intro P Q hPQ hQ r
  have hlen := hPQ.length_le
  rcases prefix_pair (hPQ.trans hQ) with rfl | rfl | rfl <;>
    rcases prefix_pair hQ with rfl | rfl | rfl
  all_goals simp only [List.foldl_cons, List.foldl_nil, List.length_cons, List.length_nil] at hlen ⊢
  all_goals try first | rfl | omega | rw [NodeRecord.applyCall_idem]
  /- the whole pair over itself: swap the middle two calls -/
  rw [hxy ((r.applyCall x).applyCall y), NodeRecord.applyCall_idem, ← hxy (r.applyCall x),
    NodeRecord.applyCall_idem]

theorem Replayable.single (x : Call) : Replayable [x] := fun P Q hPQ hQ r =>
  Replayable.pair (x := x) (y := x) (fun _ => rfl) P Q hPQ (hQ.trans ⟨[x], rfl⟩) r

/-- A node's block may be replayed: it has at most two calls, and the two of a pair commute. -/
theorem nodeSteps_replayable (keys : UpgradeKeys) (policy : DriverUpgradePolicySpec)
    (s : UpgradeState) (ns : NodeUpgradeState) :
    Replayable (planCalls (nodeSteps keys policy s ns)) := by
  cases s <;> simp only [nodeSteps, doneOrUnknownSteps, cordonRequiredSteps,
    waitForJobsRequiredSteps, drainRequiredSteps, podRestartSteps, inSyncSteps, syncedNodeSteps,
    uncordonRequiredSteps]
  all_goals repeat' (first | split | split_ifs)
  all_goals first
    | exact Replayable.nil
    | exact Replayable.single _
    | exact Replayable.pair fun _ => rfl

/-- Retrying a pass on the same input completes it, as the manager's documentation promises:
applying the calls a pass got through under any faults, and then the calls of a fault-free pass on
the same snapshot and policy, leaves every node as the fault-free pass alone does. The calls that
went through about a node are a prefix of its fault-free calls, and a node's block may be replayed
over a prefix of it. -/
theorem Cluster.retry_on_same_input (keys : UpgradeKeys) (φ : Faults) (c : Cluster) :
    (c.pass keys φ).records.map
        (fun r => (c.passEffects keys noFaults).log.foldl NodeRecord.applyEntry r) =
      (c.pass keys noFaults).records := by
  simp only [Cluster.pass_records, List.map_map]
  refine List.map_congr_left fun r hr => ?_
  cases hauto : c.policy.autoUpgrade
  · simp [Cluster.passEffects, applyState, hauto]
  obtain ⟨P, hP, hsub, heq⟩ := c.pass_record keys φ hr
  have hQ :=
    passPlan_callsFor c.listedNames_snapshot_nodup keys c.policy (Cluster.mem_snapshot hr)
  /- the calls that went through are a prefix of the fault-free pass's calls about the node -/
  have hPQ : P <+: callsFor r.node.name (planCalls (passPlan keys c.snapshot c.policy)) := by
    refine List.prefix_of_prefix_length_le hP hQ (List.Sublist.length_le ?_)
    have hown : P.filter (·.nodeName == some r.node.name) = P := List.filter_eq_self.mpr
      fun x hx => List.all_eq_true.mp (nodeSteps_fits keys c.policy r.phase _).names x
        (hP.subset hx)
    rw [← hown]
    exact (hsub.trans (c.passCalls_prefix keys φ hauto).sublist).filter _
  rw [Function.comp_apply, heq, c.pass_record_callsFor keys hauto,
    NodeRecord.foldl_applyCall_name, c.pass_record_callsFor keys hauto]
  exact nodeSteps_replayable keys c.policy r.phase _ _ _ hPQ hQ r

/-! ### Fault-free passes -/

theorem map_eq_self_iff {f : α → α} {l : List α} : l.map f = l ↔ ∀ x ∈ l, f x = x := by
  induction l with
  | nil => simp
  | cons a l ih => simp [ih]

/-- `ProcessUpgradeRequiredNodes` reaches the node: it is among the first `upgradesAvailable`
nodes the snapshot lists under `UpgradeRequired` without the skip label. -/
def Cluster.admitted (keys : UpgradeKeys) (c : Cluster) (r : NodeRecord) : Bool :=
  decide (r.toNodeUpgradeState ∈ ((c.snapshot.nodeStates .upgradeRequired).filter
    fun ns => !skipNodeUpgrade keys ns.node).take (upgradesAvailable c.snapshot c.policy).toNat)

/-- The calls a fault-free pass makes about a node: its block, but none while it waits under
`UpgradeRequired` for a slot. -/
def Cluster.nodeCalls (keys : UpgradeKeys) (c : Cluster) (r : NodeRecord) : List Call :=
  if r.phase = .upgradeRequired ∧ c.admitted keys r = false then []
  else planCalls (nodeSteps keys c.policy r.phase r.toNodeUpgradeState)

/-- What a node waits on when a fault-free pass leaves it alone: in `Done`, nothing, its driver
pod being at its daemon set's generation; in `UpgradeRequired`, a slot; the pod manager, for the
jobs to finish (a wait-for-completion selector is set), for the eviction, or for the drain (drain
is on); or its driver pod, to be restarted and come back in sync. -/
def Cluster.waiting (keys : UpgradeKeys) (c : Cluster) (r : NodeRecord) : Bool :=
  match r.phase with
  | .done => r.driverPod.templateGeneration == .ok r.driverDaemonSet.generation
  | .upgradeRequired => !c.admitted keys r
  | .waitForJobsRequired => !noPodSelector c.policy.waitForCompletion
  | .podDeletionRequired => true
  | .drainRequired => drainEnabled c.policy.drainSpec
  | .podRestartRequired | .failed => isDriverPodInSync r.toNodeUpgradeState == .ok false
  | .unknown | .cordonRequired | .uncordonRequired => false

/-- Over driver pods that all carry a template generation, the calls a fault-free pass's plan
makes about a node are the node's own calls. -/
theorem Cluster.callsFor_passPlan (keys : UpgradeKeys) (c : Cluster)
    (hgen : ∀ r ∈ c.records, ∃ g, r.driverPod.templateGeneration = .ok g) {r : NodeRecord}
    (hr : r ∈ c.records) :
    callsFor r.node.name (planCalls (passPlan keys c.snapshot c.policy)) = c.nodeCalls keys r := by
  have hknown : GenerationsKnown c.snapshot := fun s ns hns => by
    obtain ⟨r', hr', rfl⟩ := List.mem_map.mp hns
    exact hgen r' (List.mem_filter.mp hr').1
  unfold Cluster.nodeCalls
  split_ifs with hwait
  · /- a node under `UpgradeRequired` the slots do not reach gets no call -/
    obtain ⟨hp, hadm⟩ := hwait
    have hpre :=
      passPlan_callsFor c.listedNames_snapshot_nodup keys c.policy (Cluster.mem_snapshot hr)
    rw [hp] at hpre
    refine List.eq_nil_iff_forall_not_mem.mpr fun call hcall => ?_
    obtain rfl : call = _ := List.mem_singleton.mp (hpre.subset hcall)
    obtain ⟨ns, hns, hnode⟩ := passPlan_writes_cordonRequired keys c.policy
      c.listedNames_snapshot_nodup (List.mem_filter.mp hcall).1
    obtain ⟨r', hr', rfl⟩ := List.mem_map.mp (List.mem_filter.mp (List.take_subset _ _ hns)).1
    obtain rfl : r' = r :=
      List.inj_on_of_nodup_map c.nodup (List.mem_filter.mp hr').1 hr (congrArg Node.name hnode)
    simp [Cluster.admitted, hns] at hadm
  · exact passPlan_callsFor_eq keys c.policy hknown c.listedNames_snapshot_nodup
      (Cluster.mem_snapshot hr) fun hp => by simpa [Cluster.admitted, hp] using hwait

theorem Cluster.pass_noFaults_records (keys : UpgradeKeys) (c : Cluster)
    (hauto : c.policy.autoUpgrade = true)
    (hgen : ∀ r ∈ c.records, ∃ g, r.driverPod.templateGeneration = .ok g) :
    (c.pass keys noFaults).records =
      c.records.map fun r => (c.nodeCalls keys r).foldl NodeRecord.applyCall r := by
  rw [Cluster.pass_records]
  exact List.map_congr_left fun r hr => by
    rw [c.pass_record_callsFor keys hauto r, c.callsFor_passPlan keys hgen hr]

/-- A node's own calls change it exactly when there are some: each writes its phase anew. -/
theorem Cluster.foldl_nodeCalls_eq_self_iff (keys : UpgradeKeys) (c : Cluster) (r : NodeRecord) :
    (c.nodeCalls keys r).foldl NodeRecord.applyCall r = r ↔ c.nodeCalls keys r = [] := by
  refine ⟨fun h => ?_, fun h => by rw [h]; rfl⟩
  by_contra hne
  have hblock :
      c.nodeCalls keys r = planCalls (nodeSteps keys c.policy r.phase r.toNodeUpgradeState) := by
    unfold Cluster.nodeCalls at hne ⊢
    split_ifs at hne ⊢
    exacts [absurd rfl hne, rfl]
  rw [hblock] at h hne
  obtain ⟨q, hq⟩ := nodeSteps_writes keys c.policy r.phase _ hne
  have hfit := nodeSteps_fits keys c.policy r.phase r.toNodeUpgradeState
  have hphase := foldl_applyCall_phase_of_write (r := r) hq hfit.oneWrite
  rw [h] at hphase
  exact phaseTable_ne (List.all_eq_true.mp hfit.allowed _ hq) hphase.symm

/-- Over a driver pod that carries a template generation, the in-sync check makes no call
exactly when the pod is not in sync. -/
theorem inSyncSteps_calls_eq_nil_iff (keys : UpgradeKeys) (ns : NodeUpgradeState) (g : Int)
    (hg : ns.driverPod.templateGeneration = .ok g) :
    planCalls (inSyncSteps keys ns) = [] ↔ isDriverPodInSync ns = .ok false := by
  obtain ⟨b, hb⟩ : ∃ b, isDriverPodInSync ns = .ok b := ⟨_, isDriverPodInSync_of_generation ns g hg⟩
  rw [inSyncSteps, hb]
  cases b
  · simp [planCalls]
  · simp only [if_true, syncedNodeSteps]
    split_ifs <;> simp [planCalls]

theorem Cluster.nodeCalls_eq_nil_iff (keys : UpgradeKeys) (c : Cluster) {r : NodeRecord}
    (hgen : ∃ g, r.driverPod.templateGeneration = .ok g) :
    c.nodeCalls keys r = [] ↔ c.waiting keys r = true := by
  obtain ⟨g, hg⟩ := hgen
  have hsync := inSyncSteps_calls_eq_nil_iff keys r.toNodeUpgradeState g hg
  have hdone := fun s => (doneOrUnknownSteps_calls keys s r.toNodeUpgradeState g hg).2
  unfold Cluster.nodeCalls Cluster.waiting
  cases hp : r.phase <;> simp only [nodeSteps, reduceCtorEq, false_and, true_and, if_false]
  case unknown => simp only [hdone, if_true]; split_ifs <;> simp
  case done =>
    rw [hdone]
    by_cases hd : r.driverPod.templateGeneration = .ok r.driverDaemonSet.generation <;>
      simp [NodeRecord.toNodeUpgradeState, hd]
  case upgradeRequired => cases c.admitted keys r <;> simp [planCalls]
  case cordonRequired => simp [cordonRequiredSteps, planCalls]
  case waitForJobsRequired => rw [waitForJobsRequiredSteps]; split_ifs <;> simp [planCalls, *]
  case podDeletionRequired => simp [planCalls]
  case drainRequired => split_ifs <;> simp [drainRequiredSteps, planCalls, *]
  case podRestartRequired =>
    rw [podRestartSteps, show r.toNodeUpgradeState.driverPod.templateGeneration = .ok g from hg]
    dsimp only
    split_ifs with hd
    · have hd' : g ≠ r.driverDaemonSet.generation := hd
      simp [isDriverPodInSync, NodeRecord.toNodeUpgradeState, hg, hd', planCalls]
    · simp [hsync]
  case failed => simp [hsync]
  case uncordonRequired => simp [uncordonRequiredSteps, planCalls]

/-- A fault-free pass over driver pods that all carry a template generation acts on each node on
its own: a node's record after it is the node's own calls applied to it, its whole block unless
it waits under `UpgradeRequired` for a slot, so the nodes interact only through the slots. The
pass leaves the cluster as it is exactly when every node waits. -/
theorem Cluster.pass_by_node (keys : UpgradeKeys) (c : Cluster)
    (hauto : c.policy.autoUpgrade = true)
    (hgen : ∀ r ∈ c.records, ∃ g, r.driverPod.templateGeneration = .ok g) :
    (c.pass keys noFaults).records =
      c.records.map (fun r => (c.nodeCalls keys r).foldl NodeRecord.applyCall r) ∧
    ((c.pass keys noFaults).records = c.records ↔ ∀ r ∈ c.records, c.waiting keys r = true) := by
  have hmap := c.pass_noFaults_records keys hauto hgen
  refine ⟨hmap, ?_⟩
  rw [hmap, map_eq_self_iff]
  exact forall₂_congr fun r hr =>
    (c.foldl_nodeCalls_eq_self_iff keys r).trans (c.nodeCalls_eq_nil_iff keys (hgen r hr))

theorem pass_by_node_waiting_cluster :
    let keys : UpgradeKeys := ⟨"skip", "initial-state", "skip-drain"⟩
    let pod : Pod := ⟨.ok 2, none, "Running", [⟨true⟩]⟩
    let c : Cluster := ⟨[⟨⟨"a", false, [], []⟩, .done, pod, ⟨2⟩, false⟩,
      ⟨⟨"b", true, [], []⟩, .podDeletionRequired, pod, ⟨2⟩, false⟩],
      ⟨true, 1, none, none, none⟩, by decide⟩
    c.policy.autoUpgrade = true ∧ (∀ r ∈ c.records, ∃ g, r.driverPod.templateGeneration = .ok g) ∧
    (c.pass keys noFaults).records =
      c.records.map (fun r => (c.nodeCalls keys r).foldl NodeRecord.applyCall r) ∧
    ((c.pass keys noFaults).records = c.records ↔ ∀ r ∈ c.records, c.waiting keys r = true) := by
  intro keys pod c
  have hgen : ∀ r ∈ c.records, ∃ g, r.driverPod.templateGeneration = .ok g := fun r hr => by
    rcases List.mem_pair.mp hr with rfl | rfl <;> exact ⟨2, rfl⟩
  exact ⟨rfl, hgen, Cluster.pass_by_node keys c rfl hgen⟩

end DriverUpgrade
