import DriverUpgrade.NodeBlocks

/-! The cluster the manager reconciles, and its runs. A cluster holds, for each node, its
persisted phase, its driver pod and daemon set; a pass rebuilds the snapshot from it, runs
`applyState` on it and applies the calls that succeeded. The effect of each call follows the
interfaces of the State Provider and Cordon Manager (spec §6), which are not in the source: a
failed call changes nothing, and the annotation value `"null"` deletes the key. Between passes,
the pod and drain managers move nodes among the phases they own, nodes are added, cordoned or
uncordoned from outside while no upgrade runs on them, and driver pods are replaced. With auto
upgrade off the passes of a run do nothing. -/
namespace DriverUpgrade

/-- The phases `upgradesInProgress` counts. -/
def UpgradeState.inProgress : UpgradeState → Bool
  | .cordonRequired | .waitForJobsRequired | .podDeletionRequired | .drainRequired
  | .podRestartRequired | .failed | .uncordonRequired => true
  | _ => false

/-- The phases the pod and drain managers move nodes among, out of band. -/
def UpgradeState.outOfBand : UpgradeState → Bool
  | .waitForJobsRequired | .podDeletionRequired | .drainRequired | .podRestartRequired
  | .failed => true
  | _ => false

structure NodeRecord where
  node : Node
  phase : UpgradeState
  driverPod : Pod
  driverDaemonSet : DaemonSet
  /-- History variable, read by no code: whether the node was unschedulable when its phase
  was last written `UpgradeRequired`; a write of `Done` resets it. -/
  wasUnschedulable : Bool
  deriving DecidableEq, Repr

def NodeRecord.toNodeUpgradeState (r : NodeRecord) : NodeUpgradeState :=
  ⟨r.node, r.driverPod, r.driverDaemonSet⟩

/-- Modelled from the spec (§6, the State Provider, which is not under `src/`):
`ChangeNodeUpgradeAnnotation` on a node's annotations, where the value `"null"` deletes the key. -/
def updateAnnotations (annotations : List (String × String)) (key value : String) :
    List (String × String) :=
  if value = "null" then annotations.filter (·.1 ≠ key)
  else (key, value) :: annotations.filter (·.1 ≠ key)

/-- Modelled from the spec (§6, the State Provider and the Cordon Manager, which are not under
`src/`): the effect of a call that succeeded on the record of the node it names. The calls that
schedule work for the pod and drain managers change no record. -/
def NodeRecord.applyCall (r : NodeRecord) : Call → NodeRecord
  | .changeNodeUpgradeState _ newState =>
    { r with
      phase := newState
      wasUnschedulable :=
        if newState = .upgradeRequired then r.node.unschedulable
        else if newState = .done then false else r.wasUnschedulable }
  | Call.changeNodeUpgradeAnnotation _ key value =>
    { r with node := { r.node with annotations := updateAnnotations r.node.annotations key value } }
  | .cordon _ => { r with node := { r.node with unschedulable := true } }
  | .uncordon _ => { r with node := { r.node with unschedulable := false } }
  | _ => r

@[simp] theorem NodeRecord.applyCall_name (r : NodeRecord) (c : Call) :
    (r.applyCall c).node.name = r.node.name := by
  cases c <;> rfl

/-- A logged call changes the record of the node it names when it succeeded. -/
def NodeRecord.applyEntry (r : NodeRecord) (entry : Call × Option Error) : NodeRecord :=
  if entry.1.nodeName = some r.node.name ∧ entry.2 = none then r.applyCall entry.1 else r

@[simp] theorem NodeRecord.applyEntry_name (r : NodeRecord) (entry : Call × Option Error) :
    (r.applyEntry entry).node.name = r.node.name := by
  unfold NodeRecord.applyEntry; split_ifs <;> simp

theorem NodeRecord.foldl_applyEntry_name (r : NodeRecord) (log : List (Call × Option Error)) :
    (log.foldl NodeRecord.applyEntry r).node.name = r.node.name := by
  induction log generalizing r with
  | nil => rfl
  | cons x log ih => simp [ih]

/-- A cluster: its nodes, named once each, and the policy object every pass is handed. -/
structure Cluster where
  records : List NodeRecord
  policy : DriverUpgradePolicySpec
  nodup : (records.map (·.node.name)).Nodup

/-- The snapshot the caller builds from the persisted phases: the nodes under each phase, in
the cluster's order. -/
def Cluster.snapshot (c : Cluster) : ClusterUpgradeState :=
  ⟨fun s => (c.records.filter (·.phase = s)).map NodeRecord.toNodeUpgradeState⟩

/-- Changes the records by a map that keeps every node's name. -/
def Cluster.mapRecords (c : Cluster) (f : NodeRecord → NodeRecord)
    (hf : ∀ r, (f r).node.name = r.node.name) : Cluster where
  records := c.records.map f
  policy := c.policy
  nodup := by simpa [Function.comp_def, hf] using c.nodup

/-- The effects of one pass: the calls it logged and the drain spec it leaves in the policy. -/
def Cluster.passEffects (keys : UpgradeKeys) (φ : Faults) (c : Cluster) : Effects :=
  (applyState keys (some c.snapshot) (some c.policy) φ ⟨[], c.policy.drainSpec⟩).2

/-- One `ApplyState` pass on the rebuilt snapshot. The policy object is shared between passes,
so the drain spec `ProcessDrainNodes` writes through it stays. -/
def Cluster.pass (keys : UpgradeKeys) (φ : Faults) (c : Cluster) : Cluster :=
  { c.mapRecords (fun r => (c.passEffects keys φ).log.foldl NodeRecord.applyEntry r)
      (NodeRecord.foldl_applyEntry_name · _) with
    policy := { c.policy with drainSpec := (c.passEffects keys φ).drainSpec } }

@[simp] theorem Cluster.pass_records (keys : UpgradeKeys) (φ : Faults) (c : Cluster) :
    (c.pass keys φ).records =
      c.records.map fun r => (c.passEffects keys φ).log.foldl NodeRecord.applyEntry r := rfl

inductive Event where
  /-- An `ApplyState` pass under the faults `φ`. -/
  | pass (φ : Faults)
  /-- The pod or drain manager moves a node between the phases it owns. -/
  | move (name : String) (newState : UpgradeState)
  /-- A node joins the cluster; it has no phase yet. -/
  | addNode (node : Node) (driverPod : Pod) (driverDaemonSet : DaemonSet)
  /-- A node not under upgrade is cordoned or uncordoned from outside. -/
  | setUnschedulable (name : String) (unschedulable : Bool)
  /-- The node's driver pod is replaced, or its daemon set rolled out. -/
  | updateDriver (name : String) (driverPod : Pod) (driverDaemonSet : DaemonSet)

def Cluster.addNode (c : Cluster) (node : Node) (driverPod : Pod) (driverDaemonSet : DaemonSet) :
    Cluster :=
  if h : node.name ∈ c.records.map (·.node.name) then c
  else
    { records := c.records ++ [⟨node, .unknown, driverPod, driverDaemonSet, false⟩]
      policy := c.policy
      nodup := by simpa [List.nodup_append, h] using c.nodup }

def Cluster.step (keys : UpgradeKeys) (c : Cluster) : Event → Cluster
  | .pass φ => c.pass keys φ
  | .move name newState => c.mapRecords
      (fun r => if r.node.name = name ∧ r.phase.outOfBand ∧ newState.outOfBand then
        { r with phase := newState } else r)
      (fun r => by dsimp only; split <;> rfl)
  | .addNode node driverPod driverDaemonSet => c.addNode node driverPod driverDaemonSet
  | .setUnschedulable name unschedulable => c.mapRecords
      (fun r => if r.node.name = name ∧ (r.phase = .done ∨ r.phase = .unknown) then
        { r with node := { r.node with unschedulable := unschedulable } } else r)
      (fun r => by dsimp only; split <;> rfl)
  | .updateDriver name driverPod driverDaemonSet => c.mapRecords
      (fun r => if r.node.name = name then
        { r with driverPod := driverPod, driverDaemonSet := driverDaemonSet } else r)
      (fun r => by dsimp only; split <;> rfl)

def Cluster.run (keys : UpgradeKeys) (c : Cluster) (events : List Event) : Cluster :=
  events.foldl (Cluster.step keys) c

/-- Every cluster a run passes through, from its start to its end. -/
def Cluster.trace (keys : UpgradeKeys) (c : Cluster) (events : List Event) : List Cluster :=
  events.scanl (Cluster.step keys) c

@[simp] theorem Cluster.trace_nil (keys : UpgradeKeys) (c : Cluster) : c.trace keys [] = [c] :=
  rfl

@[simp] theorem Cluster.trace_cons (keys : UpgradeKeys) (c : Cluster) (ev : Event)
    (events : List Event) : c.trace keys (ev :: events) = c :: (c.step keys ev).trace keys events :=
  rfl

/-- The trace of a run ends on the cluster the run leaves. -/
theorem Cluster.trace_ends_at_run (keys : UpgradeKeys) (c : Cluster) (events : List Event) :
    (c.trace keys events).getLast? = some (c.run keys events) := by
  induction events generalizing c with
  | nil => rfl
  | cons ev events ih => rw [Cluster.trace_cons, List.getLast?_cons, ih]; rfl

/-- A property every step keeps holds after every run. -/
theorem Cluster.run_invariant (keys : UpgradeKeys) (P : Cluster → Prop)
    (hstep : ∀ c ev, P c → P (c.step keys ev)) (c : Cluster) (events : List Event) (h : P c) :
    P (c.run keys events) := by
  induction events generalizing c with
  | nil => exact h
  | cons ev events ih => exact ih _ (hstep c ev h)

/-- A property of records holds of every record after every step when passes keep it, a joining
node has it, and the out-of-band events keep it on the records they change. -/
theorem Cluster.step_forall (keys : UpgradeKeys) {P : NodeRecord → Prop}
    (hpass : ∀ φ (c : Cluster), (∀ r ∈ c.records, P r) → ∀ r ∈ (c.pass keys φ).records, P r)
    (hmove : ∀ r q, P r → r.phase.outOfBand = true → q.outOfBand = true →
      P { r with phase := q })
    (hadd : ∀ node pod ds, P ⟨node, .unknown, pod, ds, false⟩)
    (hsched : ∀ r u, P r → r.phase = .done ∨ r.phase = .unknown →
      P { r with node := { r.node with unschedulable := u } })
    (hdriver : ∀ r pod ds, P r → P { r with driverPod := pod, driverDaemonSet := ds })
    (c : Cluster) (ev : Event) (h : ∀ r ∈ c.records, P r) :
    ∀ r ∈ (c.step keys ev).records, P r := by
  cases ev with
  | pass φ => exact hpass φ c h
  | addNode node pod ds =>
    simp only [Cluster.step, Cluster.addNode]
    split_ifs
    · exact h
    · intro r hr
      rcases List.mem_append.mp hr with hr | hr
      · exact h r hr
      · exact List.mem_singleton.mp hr ▸ hadd node pod ds
  | move name q =>
    simp only [Cluster.step, Cluster.mapRecords, List.mem_map]
    rintro _ ⟨r, hr, rfl⟩
    split_ifs with hm
    exacts [hmove r q (h r hr) hm.2.1 hm.2.2, h r hr]
  | setUnschedulable name u =>
    simp only [Cluster.step, Cluster.mapRecords, List.mem_map]
    rintro _ ⟨r, hr, rfl⟩
    split_ifs with hm
    exacts [hsched r u (h r hr) hm.2, h r hr]
  | updateDriver name pod ds =>
    simp only [Cluster.step, Cluster.mapRecords, List.mem_map]
    rintro _ ⟨r, hr, rfl⟩
    split_ifs
    exacts [hdriver r pod ds (h r hr), h r hr]

/-! ### Auto upgrade off -/

def Event.isPass : Event → Bool
  | .pass _ => true
  | _ => false

/-- With auto upgrade off a pass makes no call and changes nothing. -/
theorem Cluster.pass_of_autoUpgrade_false (keys : UpgradeKeys) (φ : Faults) (c : Cluster)
    (h : c.policy.autoUpgrade = false) : c.pass keys φ = c := by
  have he : c.passEffects keys φ = ⟨[], c.policy.drainSpec⟩ := by
    simp [Cluster.passEffects, applyState, h]
  obtain ⟨records, policy, nodup⟩ := c
  simp only [Cluster.pass, Cluster.mapRecords, he, List.foldl_nil, List.map_id']

/-- The events other than passes leave the policy. -/
theorem Cluster.step_policy (keys : UpgradeKeys) (c : Cluster) {ev : Event}
    (h : ev.isPass = false) : (c.step keys ev).policy = c.policy := by
  cases ev with
  | pass => cases h
  | addNode =>
    simp only [Cluster.step, Cluster.addNode]
    split_ifs <;> rfl
  | _ => rfl

/-- Auto upgrade off freezes the manager: over any run, the policy keeps auto upgrade off, every
pass does nothing, and the run ends as the run of its other events alone. -/
theorem Cluster.run_autoUpgrade_off (keys : UpgradeKeys) (c : Cluster)
    (h : c.policy.autoUpgrade = false) (events : List Event) :
    (c.run keys events).policy.autoUpgrade = false ∧
      c.run keys events = c.run keys (events.filter fun ev => !ev.isPass) := by
  induction events generalizing c with
  | nil => exact ⟨h, rfl⟩
  | cons ev events ih =>
    cases hev : ev.isPass
    · have hp := c.step_policy keys hev
      simpa [Cluster.run, List.filter_cons, hev] using ih (c.step keys ev) (hp ▸ h)
    · obtain ⟨φ, rfl⟩ : ∃ φ, ev = .pass φ := by cases ev <;> simp_all [Event.isPass]
      simpa [Cluster.run, List.filter_cons, Event.isPass, Cluster.step,
        c.pass_of_autoUpgrade_false keys φ h] using ih c h

/-! ### A pass, node by node -/

/-- The calls of a log that succeeded. -/
def succeeded (entries : List (Call × Option Error)) : List Call :=
  (entries.filter (·.2.isNone)).map Prod.fst

theorem foldl_applyEntry_entriesFor (r : NodeRecord) (log : List (Call × Option Error)) :
    log.foldl NodeRecord.applyEntry r =
      (entriesFor r.node.name log).foldl NodeRecord.applyEntry r := by
  induction log generalizing r with
  | nil => rfl
  | cons x log ih =>
    by_cases hx : x.1.nodeName = some r.node.name
    · simp only [List.foldl_cons, entriesFor, List.filter_cons, hx, beq_self_eq_true, if_true]
      rw [ih, NodeRecord.applyEntry_name]
      rfl
    · have hr : r.applyEntry x = r := by simp [NodeRecord.applyEntry, hx]
      simpa [entriesFor, List.filter_cons, hx, hr] using ih r

theorem foldl_applyEntry_of_names {r : NodeRecord} {entries : List (Call × Option Error)}
    (h : ∀ x ∈ entries, x.1.nodeName = some r.node.name) :
    entries.foldl NodeRecord.applyEntry r = (succeeded entries).foldl NodeRecord.applyCall r := by
  induction entries generalizing r with
  | nil => rfl
  | cons x entries ih =>
    have hrest : ∀ y ∈ entries, y.1.nodeName = some (r.applyEntry x).node.name := fun y hy => by
      simpa using h y (List.mem_cons_of_mem _ hy)
    obtain ⟨c, _ | err⟩ := x
    · have hc : c.nodeName = some r.node.name := h _ (List.mem_cons_self _ _)
      simpa [succeeded, NodeRecord.applyEntry, hc] using ih hrest
    · simpa [succeeded, NodeRecord.applyEntry] using ih hrest

/-- The calls that succeeded in the entries of a block are a prefix of the block's calls. -/
theorem succeeded_prefix {A B : List (Call × Option Error)} {calls : List Call}
    (hpre : (A ++ B).map Prod.fst <+: calls) (hB : B.length ≤ 1)
    (hA : ∀ x ∈ A, x.2 = none ∨ droppedCall x.1 = true)
    (hcalls : ∀ c ∈ calls, droppedCall c = true → calls = [c]) :
    succeeded (A ++ B) <+: calls := by
  by_cases hfail : ∃ x ∈ A, x.2 ≠ none
  · /- a dropped error: the block is that one call, and nothing succeeded -/
    obtain ⟨x, hx, hne⟩ := hfail
    have hone := hcalls _ (hpre.subset (List.mem_map_of_mem _ (List.mem_append_left _ hx)))
      ((hA x hx).resolve_left hne)
    have hlen : (A ++ B).length ≤ 1 := by simpa [hone] using hpre.length_le
    have hmem := List.mem_append_left B hx
    have hAB : A ++ B = [x] := by
      rcases hAB : A ++ B with _ | ⟨y, _ | ⟨z, t⟩⟩
      · simp [hAB] at hmem
      · simp_all
      · simp [hAB] at hlen
    simp [hAB, succeeded, Option.isNone_iff_eq_none, hne]
  · push_neg at hfail
    have hsA : succeeded A = A.map Prod.fst := by
      have hall : A.filter (·.2.isNone) = A := List.filter_eq_self.mpr fun x hx => by
        simp [hfail x hx]
      simp only [succeeded, hall]
    have hsB : succeeded B <+: B.map Prod.fst := prefix_of_sublist_of_length_le_one
      ((List.filter_sublist B).map _) (by simpa using hB)
    refine List.IsPrefix.trans ?_ hpre
    rw [List.map_append, succeeded, List.filter_append, List.map_append, ← succeeded,
      ← succeeded, hsA]
    exact (List.prefix_append_right_inj _).mpr hsB

theorem Cluster.mem_snapshot {c : Cluster} {r : NodeRecord} (hr : r ∈ c.records) :
    r.toNodeUpgradeState ∈ c.snapshot.nodeStates r.phase :=
  List.mem_map_of_mem _ (List.mem_filter.mpr ⟨hr, by simp⟩)

theorem Cluster.listedNames_snapshot_nodup (c : Cluster) : (listedNames c.snapshot).Nodup := by
  have hnames : ∀ s, ((c.snapshot.nodeStates s).map (·.node.name)) =
      (c.records.filter (·.phase = s)).map (·.node.name) := fun s => by
    simp [Cluster.snapshot, Function.comp_def, NodeRecord.toNodeUpgradeState]
  refine List.nodup_flatMap.mpr ⟨fun s _ => hnames s ▸ c.nodup.sublist
    ((List.filter_sublist _).map _), processingOrder_nodup.pairwise_of_forall_ne ?_⟩
  intro s _ s' _ hne x hx hx'
  beta_reduce at hx hx'
  obtain ⟨r, hr, rfl⟩ := List.mem_map.mp (hnames s ▸ hx)
  obtain ⟨r', hr', hname⟩ := List.mem_map.mp (hnames s' ▸ hx')
  have hrr := List.inj_on_of_nodup_map c.nodup (List.mem_filter.mp hr).1
    (List.mem_filter.mp hr').1 hname.symm
  subst hrr
  exact hne ((of_decide_eq_true (List.mem_filter.mp hr).2).symm.trans
    (of_decide_eq_true (List.mem_filter.mp hr').2))

/-- What one pass does to a node: it applies a prefix of the node's block, the calls the
manager makes for it under its phase, whatever the faults; those calls are in the pass's log. -/
theorem Cluster.pass_record (keys : UpgradeKeys) (φ : Faults) (c : Cluster) {r : NodeRecord}
    (hr : r ∈ c.records) :
    ∃ P, P <+: planCalls (nodeSteps keys c.policy r.phase r.toNodeUpgradeState) ∧
      P.Sublist ((c.passEffects keys φ).log.map Prod.fst) ∧
      (c.passEffects keys φ).log.foldl NodeRecord.applyEntry r =
        P.foldl NodeRecord.applyCall r := by
  rw [foldl_applyEntry_entriesFor]
  cases hauto : c.policy.autoUpgrade
  · exact ⟨[], List.nil_prefix, List.nil_sublist _,
      by simp [Cluster.passEffects, applyState, hauto, entriesFor]⟩
  obtain ⟨A, B, hent, hpre, hB, hA⟩ := applyState_entriesFor (c.listedNames_snapshot_nodup) keys
    c.policy hauto (Cluster.mem_snapshot hr) φ ⟨[], c.policy.drainSpec⟩
  have hnames : ∀ x ∈ entriesFor r.node.name (c.passEffects keys φ).log,
      x.1.nodeName = some r.node.name := fun x hx => by
    simpa using (List.mem_filter.mp hx).2
  have hent' : entriesFor r.node.name (c.passEffects keys φ).log = A ++ B := hent
  refine ⟨succeeded (A ++ B), succeeded_prefix hpre hB hA
    (nodeSteps_fits keys c.policy r.phase _).droppedAlone, ?_, ?_⟩
  · rw [← hent']
    exact ((List.filter_sublist _).trans (List.filter_sublist _)).map _
  · rw [foldl_applyEntry_of_names hnames, hent']

/-- A property of records that every prefix of every node's block keeps is kept by every pass. -/
theorem Cluster.pass_forall_of_block (keys : UpgradeKeys) (φ : Faults) (c : Cluster)
    {P : NodeRecord → Prop}
    (hblock : ∀ r ∈ c.records, ∀ k, P (((planCalls (nodeSteps keys c.policy r.phase
      r.toNodeUpgradeState)).take k).foldl NodeRecord.applyCall r)) :
    ∀ r ∈ (c.pass keys φ).records, P r := by
  simp only [Cluster.pass_records, List.mem_map]
  rintro _ ⟨r, hr, rfl⟩
  obtain ⟨calls, hpre, -, heq⟩ := c.pass_record keys φ hr
  rw [heq, List.prefix_iff_eq_take.mp hpre]
  exact hblock r hr _

/-! ### The policy object across passes -/

theorem skipDrainSpec_podSelector_length_lt (keys : UpgradeKeys) (spec : DrainSpec) :
    (skipDrainSpec keys spec).podSelector.length <
      (skipDrainSpec keys (skipDrainSpec keys spec)).podSelector.length := by
  have h6 : "!=true".length = 6 := rfl
  have h1 : ",".length = 1 := rfl
  have hne : (skipDrainSpec keys spec).podSelector ≠ "" := by
    intro h
    have := congrArg String.length h
    unfold skipDrainSpec at this
    split_ifs at this <;> simp [h6] at this
  conv_rhs => rw [skipDrainSpec]
  simp [hne, h6, h1]
  omega

/-- A fault-free pass on a cluster with no nodes and drain enabled: it writes the augmented
selector into the policy and calls only the drain and pod managers. -/
theorem Cluster.passEffects_of_records_nil (keys : UpgradeKeys) (c : Cluster)
    (hc : c.records = []) (spec : DrainSpec) (hauto : c.policy.autoUpgrade = true)
    (hspec : c.policy.drainSpec = some spec) (henable : spec.enable = true) :
    c.passEffects keys noFaults = ⟨[(.scheduleNodesDrain ⟨skipDrainSpec keys spec, []⟩, none),
      (.schedulePodsRestart [], none)], some (skipDrainSpec keys spec)⟩ := by
  rw [Cluster.passEffects, applyState_realizes, liftOutcome_snd]
  rcases hw : c.policy.waitForCompletion <;>
  simp [hw, applyStatePlan, passPlan, processingOrder, processorPlan, Cluster.snapshot, hc, hauto,
    hspec, henable, drainPlan, podRestartPlan, podsToRestart, upgradeRequiredPlan,
    waitForJobsRequiredPlan, podDeletionRequiredPlan, upgradeFailedPlan, execute, Effects.record]

/-- `ProcessDrainNodes` writes the selector it builds into the policy object it is handed, so
a pass that reaches it changes the policy: on a cluster with no nodes and drain enabled, a second
fault-free pass with the same policy hands `ScheduleNodesDrain` the selector augmented twice,
longer than the first pass's. -/
theorem drain_selector_grows (keys : UpgradeKeys) (policy : DriverUpgradePolicySpec)
    (spec : DrainSpec) (hauto : policy.autoUpgrade = true) (hspec : policy.drainSpec = some spec)
    (henable : spec.enable = true) :
    let c : Cluster := ⟨[], policy, List.nodup_nil⟩
    let c₁ := c.pass keys noFaults
    c₁.policy.drainSpec = some (skipDrainSpec keys spec) ∧
    (c₁.passEffects keys noFaults).log =
      [(.scheduleNodesDrain ⟨skipDrainSpec keys (skipDrainSpec keys spec), []⟩, none),
        (.schedulePodsRestart [], none)] ∧
    (skipDrainSpec keys spec).podSelector.length <
      (skipDrainSpec keys (skipDrainSpec keys spec)).podSelector.length := by
  intro c c₁
  have h₁ : c₁.policy.drainSpec = some (skipDrainSpec keys spec) := by
    simp only [c₁, Cluster.pass, c.passEffects_of_records_nil keys rfl spec hauto hspec henable]
  refine ⟨h₁, ?_, skipDrainSpec_podSelector_length_lt keys spec⟩
  rw [c₁.passEffects_of_records_nil keys rfl _ hauto h₁ henable]

theorem drain_selector_grows_empty_selector :
    let keys : UpgradeKeys := ⟨"skip", "initial-state", "skip-drain"⟩
    let policy : DriverUpgradePolicySpec := ⟨true, 1, none, none, some ⟨true, ""⟩⟩
    let c : Cluster := ⟨[], policy, List.nodup_nil⟩
    let c₁ := c.pass keys noFaults
    policy.autoUpgrade = true ∧
    c₁.policy.drainSpec = some ⟨true, "skip-drain!=true"⟩ ∧
    (c₁.passEffects keys noFaults).log =
      [(.scheduleNodesDrain ⟨⟨true, "skip-drain!=true,skip-drain!=true"⟩, []⟩, none),
        (.schedulePodsRestart [], none)] := by
  obtain ⟨h₁, h₂, -⟩ := drain_selector_grows ⟨"skip", "initial-state", "skip-drain"⟩
    ⟨true, 1, none, none, some ⟨true, ""⟩⟩ ⟨true, ""⟩ rfl rfl rfl
  exact ⟨rfl, h₁.trans (by decide), h₂.trans (by decide)⟩

end DriverUpgrade