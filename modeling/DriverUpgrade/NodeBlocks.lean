import Mathlib.Data.List.Nodup
import Mathlib.Data.List.Pairwise
import DriverUpgrade.Faults

/-! Per-node view of a pass. Every call but the batch calls of the pod and drain managers names
one node, and a node listed once in the snapshot only gets the calls of its own block: the
steps its state's processor takes for it. -/
namespace DriverUpgrade

/-- The node a call is about; `none` for the batch calls of the pod and drain managers. -/
def Call.nodeName : Call → Option String
  | .changeNodeUpgradeState n _ => some n.name
  | Call.changeNodeUpgradeAnnotation n _ _ => some n.name
  | .cordon n => some n.name
  | .uncordon n => some n.name
  | _ => none

def callsFor (name : String) (calls : List Call) : List Call :=
  calls.filter (·.nodeName == some name)

@[simp] theorem callsFor_nil (name : String) : callsFor name [] = [] := rfl

@[simp] theorem callsFor_append (name : String) (l l' : List Call) :
    callsFor name (l ++ l') = callsFor name l ++ callsFor name l' := List.filter_append _ _

theorem prefix_planCalls_append (p q : List Step) :
    planCalls (p ++ q) <+: planCalls p ++ planCalls q := by
  induction p with
  | nil => exact List.prefix_refl _
  | cons s p ih =>
    cases s with
    | call c | ignore c => simpa [planCalls] using ih
    | fail err => simp [planCalls]
    | setDrainSpec d => simpa [planCalls] using ih

theorem prefix_planCalls_flatten (ps : List (List Step)) :
    planCalls ps.flatten <+: (ps.map planCalls).flatten := by
  induction ps with
  | nil => exact List.prefix_refl _
  | cons p ps ih =>
    exact (prefix_planCalls_append p _).trans ((List.prefix_append_right_inj _).mpr ih)

/-- Every call of `f ns` names the node of `ns`. -/
def NamesOwn (f : NodeUpgradeState → List Step) : Prop :=
  ∀ ns, (planCalls (f ns)).all (·.nodeName == some ns.node.name)

theorem callsFor_of_namesOwn {f : NodeUpgradeState → List Step} (hf : NamesOwn f)
    (ns : NodeUpgradeState) (name : String) :
    callsFor name (planCalls (f ns)) = if ns.node.name = name then planCalls (f ns) else [] := by
  have hc := List.all_eq_true.mp (hf ns)
  split_ifs with h
  · exact List.filter_eq_self.mpr fun c hm => by simpa [h] using hc c hm
  · exact List.filter_eq_nil_iff.mpr fun c hm => by simp_all

theorem prefix_callsFor_flatMap {f : NodeUpgradeState → List Step} (hf : NamesOwn f)
    (l : List NodeUpgradeState) (name : String) :
    callsFor name (planCalls (l.flatMap f)) <+:
      (l.filter (·.node.name = name)).flatMap fun ns => planCalls (f ns) := by
  induction l with
  | nil => exact List.prefix_refl _
  | cons ns l ih =>
    rw [List.flatMap_cons]
    refine ((prefix_planCalls_append _ _).filter _).trans ?_
    rw [← callsFor, callsFor_append, callsFor_of_namesOwn hf]
    by_cases h : ns.node.name = name <;> simpa [h] using ih

theorem prefix_callsFor_append (name : String) (p q : List Step) :
    callsFor name (planCalls (p ++ q)) <+:
      callsFor name (planCalls p) ++ callsFor name (planCalls q) :=
  by simpa using (prefix_planCalls_append p q).filter (·.nodeName == some name)

def drainEnabled : Option DrainSpec → Bool
  | some spec => spec.enable
  | none => false

/-- The steps a pass takes for one node listed under a state. -/
def nodeSteps (keys : UpgradeKeys) (policy : DriverUpgradePolicySpec) :
    UpgradeState → NodeUpgradeState → List Step
  | .unknown, ns => doneOrUnknownSteps keys .unknown ns
  | .done, ns => doneOrUnknownSteps keys .done ns
  | .upgradeRequired, ns => [.call (.changeNodeUpgradeState ns.node .cordonRequired)]
  | .cordonRequired, ns => cordonRequiredSteps ns
  | .waitForJobsRequired, ns => waitForJobsRequiredSteps policy.waitForCompletion ns
  | .podDeletionRequired, _ => []
  | .drainRequired, ns => if drainEnabled policy.drainSpec then [] else drainRequiredSteps ns
  | .podRestartRequired, ns => podRestartSteps keys ns
  | .failed, ns => inSyncSteps keys ns
  | .uncordonRequired, ns => uncordonRequiredSteps ns

/-- The phase table: the phases a pass may write for a node it finds under a state. -/
def phaseTable (policy : DriverUpgradePolicySpec) : UpgradeState → UpgradeState → Bool
  | .unknown, q => q == .upgradeRequired || q == .done
  | .done, q => q == .upgradeRequired
  | .upgradeRequired, q => q == .cordonRequired
  | .cordonRequired, q => q == .waitForJobsRequired
  | .waitForJobsRequired, q => q == .podDeletionRequired && noPodSelector policy.waitForCompletion
  | .podDeletionRequired, _ => false
  | .drainRequired, q => q == .podRestartRequired && !drainEnabled policy.drainSpec
  | .podRestartRequired, q => q == .uncordonRequired || q == .done
  | .failed, q => q == .uncordonRequired || q == .done
  | .uncordonRequired, q => q == .done

/-- The calls the phase table allows for a node found under a state: the phase writes it lists,
cordon only under `CordonRequired` and uncordon only under `UncordonRequired`. -/
def allowedCall (policy : DriverUpgradePolicySpec) (s : UpgradeState) : Call → Bool
  | .changeNodeUpgradeState _ q => phaseTable policy s q
  | .cordon _ => s == .cordonRequired
  | .uncordon _ => s == .uncordonRequired
  | _ => true

def Call.isPhaseWrite : Call → Bool
  | .changeNodeUpgradeState _ _ => true
  | _ => false

/-- What the calls of a node's block may be: each names the node and is allowed under its state,
at most one is a phase write, and a call whose error is dropped is the block's only call. -/
structure BlockFits (policy : DriverUpgradePolicySpec) (s : UpgradeState) (ns : NodeUpgradeState)
    (calls : List Call) : Prop where
  names : calls.all (·.nodeName == some ns.node.name)
  allowed : calls.all (allowedCall policy s)
  oneWrite : (calls.filter Call.isPhaseWrite).length ≤ 1
  droppedAlone : ∀ c ∈ calls, droppedCall c = true → calls = [c]

theorem BlockFits.sublist {policy : DriverUpgradePolicySpec} {s : UpgradeState}
    {ns : NodeUpgradeState} {calls calls' : List Call} (h : calls'.Sublist calls)
    (hf : BlockFits policy s ns calls) : BlockFits policy s ns calls' where
  names := List.all_eq_true.mpr fun c hc => List.all_eq_true.mp hf.names c (h.subset hc)
  allowed := List.all_eq_true.mpr fun c hc => List.all_eq_true.mp hf.allowed c (h.subset hc)
  oneWrite := ((h.filter _).length_le).trans hf.oneWrite
  droppedAlone c hc hd := by
    rcases List.sublist_singleton.mp (hf.droppedAlone c (h.subset hc) hd ▸ h) with rfl | rfl
    exacts [absurd hc (List.not_mem_nil c), rfl]

section Shapes
variable {policy : DriverUpgradePolicySpec} {s : UpgradeState} {ns : NodeUpgradeState}

theorem BlockFits.nil : BlockFits policy s ns [] :=
  ⟨rfl, rfl, Nat.zero_le _, fun _ h => absurd h (List.not_mem_nil _)⟩

theorem BlockFits.single {c : Call} (hn : c.nodeName = some ns.node.name)
    (ha : allowedCall policy s c = true) : BlockFits policy s ns [c] where
  names := by simp [hn]
  allowed := by simp [ha]
  oneWrite := List.length_filter_le _ _
  droppedAlone _ h _ := by rw [List.mem_singleton.mp h]

/-- A two-call block: one call at most is a phase write and neither call's error is dropped. -/
theorem BlockFits.pair {c c' : Call} (hn : c.nodeName = some ns.node.name)
    (hn' : c'.nodeName = some ns.node.name) (ha : allowedCall policy s c = true)
    (ha' : allowedCall policy s c' = true) (hw : (c.isPhaseWrite && c'.isPhaseWrite) = false)
    (hd : (droppedCall c || droppedCall c') = false) : BlockFits policy s ns [c, c'] where
  names := by simp [hn, hn']
  allowed := by simp [ha, ha']
  oneWrite := by
    cases h : c.isPhaseWrite <;> cases h' : c'.isPhaseWrite <;> simp_all [List.filter_cons]
  droppedAlone _ h hdr := by
    simp only [Bool.or_eq_false_iff] at hd
    rcases List.mem_pair.mp h with rfl | rfl <;> simp_all

end Shapes

theorem nodeSteps_fits (keys : UpgradeKeys) (policy : DriverUpgradePolicySpec) (s : UpgradeState)
    (ns : NodeUpgradeState) : BlockFits policy s ns (planCalls (nodeSteps keys policy s ns)) := by
  cases s <;> simp only [nodeSteps, doneOrUnknownSteps, cordonRequiredSteps,
    waitForJobsRequiredSteps, drainRequiredSteps, podRestartSteps, inSyncSteps, syncedNodeSteps,
    uncordonRequiredSteps]
  all_goals repeat' (first | split | split_ifs)
  all_goals first
    | contradiction
    | exact .nil
    | exact .pair rfl rfl rfl rfl rfl rfl
    | exact .single rfl (by simp_all [allowedCall, phaseTable])

theorem nodeSteps_namesOwn (keys : UpgradeKeys) (policy : DriverUpgradePolicySpec)
    (s : UpgradeState) : NamesOwn (nodeSteps keys policy s) :=
  fun ns => (nodeSteps_fits keys policy s ns).names

theorem length_filter_name_le_one {l : List NodeUpgradeState} (hnd : (l.map (·.node.name)).Nodup)
    (name : String) : (l.filter (·.node.name = name)).length ≤ 1 := by
  have hsub : (l.filter (·.node.name = name)).map (·.node.name) ⊆ [name] := by
    intro x hx
    obtain ⟨ns, hns, rfl⟩ := List.mem_map.mp hx
    simpa using (List.mem_filter.mp hns).2
  have hnd' := hnd.sublist ((List.filter_sublist (p := fun x => decide (x.node.name = name)) l).map
    (·.node.name))
  simpa using (List.subperm_of_subset hnd' hsub).length_le

theorem prefix_of_sublist_of_length_le_one {l₁ l₂ : List α} (h : l₁.Sublist l₂)
    (hl : l₂.length ≤ 1) : l₁ <+: l₂ := by
  match l₂, h with
  | [], h => simp [List.sublist_nil.mp h]
  | [a], h =>
    rcases List.sublist_singleton.mp h with rfl | rfl
    exacts [List.nil_prefix, List.prefix_refl _]
  | _ :: _ :: _, _ => simp at hl

theorem drainPlan_of_not_enabled (keys : UpgradeKeys) (l : List NodeUpgradeState)
    {d : Option DrainSpec} (h : drainEnabled d = false) :
    drainPlan keys l d = l.flatMap drainRequiredSteps := by
  rcases d with _ | spec
  · rfl
  · simp only [drainEnabled] at h
    simp [drainPlan, h]

theorem callsFor_drainPlan_of_enabled (keys : UpgradeKeys) (l : List NodeUpgradeState)
    {d : Option DrainSpec} (h : drainEnabled d = true) (name : String) :
    callsFor name (planCalls (drainPlan keys l d)) = [] := by
  rcases d with _ | spec
  · cases h
  · simp only [drainEnabled] at h
    simp [drainPlan, h, planCalls, callsFor, Call.nodeName]

/-- The calls a processor's plan makes about one node are a prefix of that node's steps. -/
theorem processorPlan_callsFor (keys : UpgradeKeys) (cs : ClusterUpgradeState)
    (policy : DriverUpgradePolicySpec) (s : UpgradeState)
    (hnd : ((cs.nodeStates s).map (·.node.name)).Nodup) (name : String) :
    callsFor name (planCalls (processorPlan keys cs policy s)) <+:
      ((cs.nodeStates s).filter (·.node.name = name)).flatMap
        fun ns => planCalls (nodeSteps keys policy s ns) := by
  have own := nodeSteps_namesOwn keys policy s
  /- the batch calls of the pod and drain managers name no node -/
  have batch : ∀ (p q : List Step), callsFor name (planCalls q) = [] →
      callsFor name (planCalls (p ++ q)) <+: callsFor name (planCalls p) := fun p q hq => by
    simpa [hq] using prefix_callsFor_append name p q
  cases s
  case upgradeRequired =>
    /- the plan writes for a sublist of the listed nodes, in which `name` occurs at most once -/
    have hsub := ((List.take_sublist (upgradesAvailable cs policy).toNat _).trans
      (List.filter_sublist (p := fun ns : NodeUpgradeState => !skipNodeUpgrade keys ns.node)
      (cs.nodeStates .upgradeRequired))).filter fun ns => decide (ns.node.name = name)
    obtain ⟨t, ht⟩ :=
      prefix_of_sublist_of_length_le_one hsub (length_filter_name_le_one hnd name)
    rw [processorPlan, upgradeRequiredPlan, List.map_eq_flatMap, ← ht, List.flatMap_append]
    exact (prefix_callsFor_flatMap own _ name).trans (List.prefix_append _ _)
  case waitForJobsRequired =>
    refine (batch _ _ ?_).trans (prefix_callsFor_flatMap own _ name)
    split <;> (try split_ifs) <;> simp [planCalls, callsFor, Call.nodeName]
  case podDeletionRequired =>
    simp only [processorPlan, podDeletionRequiredPlan]
    split_ifs <;> simp [planCalls, callsFor, Call.nodeName]
  case drainRequired =>
    cases hd : drainEnabled policy.drainSpec
    · have hn : nodeSteps keys policy .drainRequired = drainRequiredSteps :=
        funext fun ns => by simp [nodeSteps, hd]
      rw [processorPlan, drainPlan_of_not_enabled keys _ hd, ← hn]
      exact prefix_callsFor_flatMap own _ name
    · rw [processorPlan, callsFor_drainPlan_of_enabled keys _ hd]
      exact List.nil_prefix
  case podRestartRequired =>
    exact (batch _ _ (by simp [planCalls, callsFor, Call.nodeName])).trans
      (prefix_callsFor_flatMap own _ name)
  all_goals exact prefix_callsFor_flatMap own _ name

theorem prefix_callsFor_flatten (name : String) (ps : List (List Step)) :
    callsFor name (planCalls ps.flatten) <+:
      (ps.map fun p => callsFor name (planCalls p)).flatten := by
  induction ps with
  | nil => exact List.prefix_refl _
  | cons p ps ih =>
    exact (prefix_callsFor_append name p _).trans ((List.prefix_append_right_inj _).mpr ih)

theorem flatten_map_eq_of_ne {l : List σ} {s : σ} {g : σ → List α} (hnd : l.Nodup)
    (hs : s ∈ l) (hg : ∀ s', s' ≠ s → g s' = []) : (l.map g).flatten = g s := by
  induction l with
  | nil => simp at hs
  | cons a l ih =>
    rw [List.nodup_cons] at hnd
    by_cases h : a = s
    · subst h
      have hrest : ∀ s' ∈ l, g s' = [] := fun s' hs' => hg s' (ne_of_mem_of_not_mem hs' hnd.1)
      simpa using hrest
    · simp [hg a h, ih hnd.2 ((List.mem_cons.mp hs).resolve_left (Ne.symm h))]

/-- The names of the nodes a snapshot lists, state by state in processing order. -/
def listedNames (cs : ClusterUpgradeState) : List String :=
  processingOrder.flatMap fun s => (cs.nodeStates s).map (·.node.name)

theorem mem_processingOrder (s : UpgradeState) : s ∈ processingOrder := by
  cases s <;> decide

theorem processingOrder_nodup : processingOrder.Nodup := by decide

/-- The entries of a log about one node. -/
def entriesFor (name : String) (log : List (Call × Option Error)) : List (Call × Option Error) :=
  log.filter (·.1.nodeName == some name)

theorem entriesFor_map_fst (name : String) (log : List (Call × Option Error)) :
    (entriesFor name log).map Prod.fst = callsFor name (log.map Prod.fst) :=
  (List.filter_map (p := fun c : Call => c.nodeName == some name) Prod.fst log).symm

theorem applyState_eq_execute (keys : UpgradeKeys) {cs : ClusterUpgradeState}
    {policy : DriverUpgradePolicySpec} (hauto : policy.autoUpgrade = true) (φ : Faults)
    (e : Effects) :
    (applyState keys (some cs) (some policy) φ e).2 =
      (execute φ (passPlan keys cs policy) e).2 := by
  rw [applyState_realizes keys _ _ φ e, liftOutcome_snd]
  simp [applyStatePlan, hauto]

/-- Entries whose calls are a prefix of a two-call block whose first call's error is not dropped:
an entry for the second call comes after a successful first call. -/
theorem entries_of_prefix_pair {A B : List (Call × Option Error)} {c c' : Call}
    (hpre : (A ++ B).map Prod.fst <+: [c, c']) (hB : B.length ≤ 1)
    (hA : ∀ x ∈ A, x.2 = none ∨ droppedCall x.1 = true) (hc : droppedCall c = false)
    {x : Call × Option Error} (hx : x ∈ A ++ B) (hxc : x.1 ≠ c) : A ++ B = [(c, none), x] := by
  rcases A with _ | ⟨a, _ | ⟨a', A⟩⟩ <;> rcases B with _ | ⟨b, _ | ⟨b', B⟩⟩ <;>
    simp_all [List.cons_prefix_cons]
  all_goals rcases hx with rfl | rfl <;> simp_all [Prod.ext_iff]

section Listed

variable {cs : ClusterUpgradeState} (hnd : (listedNames cs).Nodup)
include hnd

theorem nodup_names_of_listed (s : UpgradeState) : ((cs.nodeStates s).map (·.node.name)).Nodup :=
  (List.nodup_flatMap.mp hnd).1 s (mem_processingOrder s)

theorem filter_name_eq_nil_of_listed {s s' : UpgradeState} (h : s ≠ s') {ns : NodeUpgradeState}
    (hns : ns ∈ cs.nodeStates s) : (cs.nodeStates s').filter (·.node.name = ns.node.name) = [] :=
  List.filter_eq_nil_iff.mpr fun ns' hns' heq =>
    (List.nodup_flatMap.mp hnd).2.forall
      (fun _ _ h _ h₁ h₂ => h h₂ h₁ : Symmetric (List.Disjoint on _))
      (mem_processingOrder s) (mem_processingOrder s') h (List.mem_map_of_mem _ hns)
      (List.mem_map.mpr ⟨ns', hns', of_decide_eq_true heq⟩)

theorem filter_name_eq_singleton {s : UpgradeState} {ns : NodeUpgradeState}
    (hns : ns ∈ cs.nodeStates s) :
    (cs.nodeStates s).filter (·.node.name = ns.node.name) = [ns] :=
  ((List.singleton_sublist.mpr (List.mem_filter.mpr ⟨hns, by simp⟩)).eq_of_length_le
    (length_filter_name_le_one (nodup_names_of_listed hnd s) _)).symm

variable (keys : UpgradeKeys) (policy : DriverUpgradePolicySpec)

/-- The calls a fault-free pass makes about a listed node are a prefix of the node's block. -/
theorem passPlan_callsFor {s : UpgradeState} {ns : NodeUpgradeState}
    (hns : ns ∈ cs.nodeStates s) :
    callsFor ns.node.name (planCalls (passPlan keys cs policy)) <+:
      planCalls (nodeSteps keys policy s ns) := by
  have hother : ∀ s', s' ≠ s →
      callsFor ns.node.name (planCalls (processorPlan keys cs policy s')) = [] := fun s' h =>
    List.prefix_nil.mp (by
      simpa [filter_name_eq_nil_of_listed hnd (Ne.symm h) hns] using
        processorPlan_callsFor keys cs policy s' (nodup_names_of_listed hnd s') ns.node.name)
  have hself := processorPlan_callsFor keys cs policy s (nodup_names_of_listed hnd s) ns.node.name
  rw [filter_name_eq_singleton hnd hns, List.flatMap_singleton] at hself
  refine (prefix_callsFor_flatten _ _).trans ?_
  rw [List.map_map, flatten_map_eq_of_ne processingOrder_nodup (mem_processingOrder s)
    (g := (fun p => callsFor ns.node.name (planCalls p)) ∘ processorPlan keys cs policy) hother]
  exact hself

/-- A pass makes no call about a node the snapshot does not list. -/
theorem passPlan_callsFor_unlisted {name : String} (h : name ∉ listedNames cs) :
    callsFor name (planCalls (passPlan keys cs policy)) = [] := by
  have hnil : ∀ s, callsFor name (planCalls (processorPlan keys cs policy s)) = [] := fun s => by
    have hf : (cs.nodeStates s).filter (·.node.name = name) = [] :=
      List.filter_eq_nil_iff.mpr fun ns hns heq => h (List.mem_flatMap.mpr
        ⟨s, mem_processingOrder s, List.mem_map.mpr ⟨ns, hns, of_decide_eq_true heq⟩⟩)
    simpa [hf] using processorPlan_callsFor keys cs policy s (nodup_names_of_listed hnd s) name
  refine List.prefix_nil.mp ((prefix_callsFor_flatten name _).trans ?_)
  simp [hnil]

/-- In a pass under any faults, the entries about a listed node are the calls of its block up to
the first failing one; those before it succeeded or had their error dropped. -/
theorem applyState_entriesFor (hauto : policy.autoUpgrade = true) {s : UpgradeState}
    {ns : NodeUpgradeState} (hns : ns ∈ cs.nodeStates s) (φ : Faults) (e : Effects) :
    ∃ A B, entriesFor ns.node.name (applyState keys (some cs) (some policy) φ e).2.log =
        entriesFor ns.node.name e.log ++ (A ++ B) ∧
      (A ++ B).map Prod.fst <+: planCalls (nodeSteps keys policy s ns) ∧ B.length ≤ 1 ∧
      ∀ x ∈ A, x.2 = none ∨ droppedCall x.1 = true := by
  obtain ⟨A, B, hlog, hpre, hB, hA⟩ := execute_log (passPlan_taggedBy keys cs policy) φ e
  refine ⟨entriesFor ns.node.name A, entriesFor ns.node.name B, ?_, ?_,
    (List.filter_sublist B).length_le.trans hB, fun x hx => hA x (List.mem_filter.mp hx).1⟩
  · rw [applyState_eq_execute keys hauto, hlog]
    simp [entriesFor]
  · rw [show entriesFor ns.node.name A ++ entriesFor ns.node.name B =
      entriesFor ns.node.name (A ++ B) from (List.filter_append _ _).symm, entriesFor_map_fst]
    exact (hpre.filter _).trans (passPlan_callsFor hnd keys policy hns)

/-- Every call of a pass that names a node belongs to the block of a node listed under that
name. -/
theorem passPlan_call_listed {c : Call} {name : String} (hname : c.nodeName = some name)
    (hc : c ∈ planCalls (passPlan keys cs policy)) :
    ∃ s, ∃ ns ∈ cs.nodeStates s, c ∈ planCalls (nodeSteps keys policy s ns) := by
  have hmem : c ∈ callsFor name (planCalls (passPlan keys cs policy)) :=
    List.mem_filter.mpr ⟨hc, by simp [hname]⟩
  by_cases hl : name ∈ listedNames cs
  · obtain ⟨s, -, hs⟩ := List.mem_flatMap.mp hl
    obtain ⟨ns, hns, rfl⟩ := List.mem_map.mp hs
    exact ⟨s, ns, hns, (passPlan_callsFor hnd keys policy hns).subset hmem⟩
  · simp [passPlan_callsFor_unlisted hnd keys policy hl] at hmem

/-- A call of a pass that names a node is in the block of a node listed under that name, and is
allowed under that node's state. -/
theorem applyState_call_listed (hauto : policy.autoUpgrade = true) (φ : Faults)
    (drainSpec : Option DrainSpec) {c : Call} {name : String} (hname : c.nodeName = some name)
    (hc : c ∈
      (applyState keys (some cs) (some policy) φ ⟨[], drainSpec⟩).2.log.map Prod.fst) :
    ∃ s, ∃ ns ∈ cs.nodeStates s,
      c ∈ planCalls (nodeSteps keys policy s ns) ∧ allowedCall policy s c = true := by
  obtain ⟨l, hl, heq⟩ := execute_calls_prefix φ (passPlan keys cs policy) ⟨[], drainSpec⟩
  rw [applyState_eq_execute keys hauto, heq] at hc
  obtain ⟨s, ns, hns, hmem⟩ :=
    passPlan_call_listed hnd keys policy hname (hl.subset (by simpa using hc))
  exact ⟨s, ns, hns, hmem, List.all_eq_true.mp (nodeSteps_fits keys policy s ns).allowed _ hmem⟩

/-- A pass cordons only nodes it found under `CordonRequired`. -/
theorem applyState_cordon_listed (hauto : policy.autoUpgrade = true) (φ : Faults)
    (drainSpec : Option DrainSpec) {n : Node}
    (hn : Call.cordon n ∈
      (applyState keys (some cs) (some policy) φ ⟨[], drainSpec⟩).2.log.map Prod.fst) :
    ∃ ns ∈ cs.nodeStates .cordonRequired, ns.node = n := by
  obtain ⟨s, ns, hns, hc, hs⟩ :=
    applyState_call_listed hnd keys policy hauto φ drainSpec (c := .cordon n) rfl hn
  obtain rfl : s = .cordonRequired := by simpa [allowedCall] using hs
  simp [nodeSteps, cordonRequiredSteps, planCalls] at hc
  exact ⟨ns, hns, hc.symm⟩

/-- A pass uncordons only nodes it found under `UncordonRequired`. -/
theorem applyState_uncordon_listed (hauto : policy.autoUpgrade = true) (φ : Faults)
    (drainSpec : Option DrainSpec) {n : Node}
    (hn : Call.uncordon n ∈
      (applyState keys (some cs) (some policy) φ ⟨[], drainSpec⟩).2.log.map Prod.fst) :
    ∃ ns ∈ cs.nodeStates .uncordonRequired, ns.node = n := by
  obtain ⟨s, ns, hns, hc, hs⟩ :=
    applyState_call_listed hnd keys policy hauto φ drainSpec (c := .uncordon n) rfl hn
  obtain rfl : s = .uncordonRequired := by simpa [allowedCall] using hs
  simp [nodeSteps, uncordonRequiredSteps, planCalls] at hc
  exact ⟨ns, hns, hc.symm⟩

end Listed

/-- Under a snapshot listing each node once and a policy with auto upgrade on, under any faults,
the calls of one pass about a node listed under a state follow the phase table: at most one
phase write, to a phase the table lists (none under `PodDeletionRequired`), and under
`CordonRequired` the write only after a successful cordon, under `UncordonRequired` only after a
successful uncordon; cordon and uncordon are only called for nodes listed under `CordonRequired`
and `UncordonRequired`. -/
theorem applyState_refines_phaseTable (keys : UpgradeKeys) (cs : ClusterUpgradeState)
    (policy : DriverUpgradePolicySpec) (hauto : policy.autoUpgrade = true)
    (hnd : (listedNames cs).Nodup) (φ : Faults) (drainSpec : Option DrainSpec) :
    let log := (applyState keys (some cs) (some policy) φ ⟨[], drainSpec⟩).2.log
    (∀ s, ∀ ns ∈ cs.nodeStates s,
      let entries := entriesFor ns.node.name log
      let calls := entries.map Prod.fst
      ((calls.filter Call.isPhaseWrite).length ≤ 1 ∧
        ∀ n q, Call.changeNodeUpgradeState n q ∈ calls → phaseTable policy s q = true) ∧
      (s = .podDeletionRequired → ∀ n q, Call.changeNodeUpgradeState n q ∉ calls) ∧
      (s = .cordonRequired → ∀ n q r, (Call.changeNodeUpgradeState n q, r) ∈ entries →
        [(Call.cordon ns.node, none), (Call.changeNodeUpgradeState n q, r)].Sublist entries) ∧
      (s = .uncordonRequired → ∀ n q r, (Call.changeNodeUpgradeState n q, r) ∈ entries →
        [(Call.uncordon ns.node, none), (Call.changeNodeUpgradeState n q, r)].Sublist entries)) ∧
    (∀ n, Call.cordon n ∈ log.map Prod.fst → ∃ ns ∈ cs.nodeStates .cordonRequired, ns.node = n) ∧
    (∀ n, Call.uncordon n ∈ log.map Prod.fst →
      ∃ ns ∈ cs.nodeStates .uncordonRequired, ns.node = n) := by
  intro log
  refine ⟨fun s ns hns => ?_, fun n hn => applyState_cordon_listed hnd keys policy hauto φ _ hn,
    fun n hn => applyState_uncordon_listed hnd keys policy hauto φ _ hn⟩
  obtain ⟨A, B, hent, hpre, hB, hA⟩ :=
    applyState_entriesFor hnd keys policy hauto hns φ ⟨[], drainSpec⟩
  intro entries calls
  have he : entries = A ++ B := by simpa [entriesFor] using hent
  have hfit : BlockFits policy s ns calls :=
    (nodeSteps_fits keys policy s ns).sublist (by simpa only [calls, he] using hpre.sublist)
  have hwrite :
      ∀ n q, Call.changeNodeUpgradeState n q ∈ calls → phaseTable policy s q = true :=
    fun n q h => List.all_eq_true.mp hfit.allowed _ h
  refine ⟨⟨hfit.oneWrite, hwrite⟩,
    fun hs n q h => by simpa [hs, phaseTable] using hwrite n q h, ?_, ?_⟩
  · rintro rfl n q r hw
    rw [he] at hw ⊢
    have hpair : (A ++ B).map Prod.fst <+:
        [.cordon ns.node, .changeNodeUpgradeState ns.node .waitForJobsRequired] := hpre
    rw [entries_of_prefix_pair hpair hB hA rfl hw (by simp)]
  · rintro rfl n q r hw
    rw [he] at hw ⊢
    have hpair : (A ++ B).map Prod.fst <+:
        [.uncordon ns.node, .changeNodeUpgradeState ns.node .done] := hpre
    rw [entries_of_prefix_pair hpair hB hA rfl hw (by simp)]

theorem applyState_refines_phaseTable_cordoned :
    let keys : UpgradeKeys := ⟨"skip", "initial-state", "skip-drain"⟩
    let pod : Pod := ⟨.ok 1, none, "Running", [⟨true⟩]⟩
    let cs : ClusterUpgradeState := ⟨fun s =>
      if s = .cordonRequired then [⟨⟨"a", false, [], []⟩, pod, ⟨1⟩⟩]
      else if s = .uncordonRequired then [⟨⟨"b", true, [], []⟩, pod, ⟨1⟩⟩] else []⟩
    let policy : DriverUpgradePolicySpec := ⟨true, 1, none, none, none⟩
    let log := (applyState keys (some cs) (some policy) noFaults ⟨[], none⟩).2.log
    policy.autoUpgrade = true ∧ (listedNames cs).Nodup ∧
    (∀ s, ∀ ns ∈ cs.nodeStates s,
      let entries := entriesFor ns.node.name log
      let calls := entries.map Prod.fst
      ((calls.filter Call.isPhaseWrite).length ≤ 1 ∧
        ∀ n q, Call.changeNodeUpgradeState n q ∈ calls → phaseTable policy s q = true) ∧
      (s = .podDeletionRequired → ∀ n q, Call.changeNodeUpgradeState n q ∉ calls) ∧
      (s = .cordonRequired → ∀ n q r, (Call.changeNodeUpgradeState n q, r) ∈ entries →
        [(Call.cordon ns.node, none), (Call.changeNodeUpgradeState n q, r)].Sublist entries) ∧
      (s = .uncordonRequired → ∀ n q r, (Call.changeNodeUpgradeState n q, r) ∈ entries →
        [(Call.uncordon ns.node, none), (Call.changeNodeUpgradeState n q, r)].Sublist entries)) ∧
    (∀ n, Call.cordon n ∈ log.map Prod.fst → ∃ ns ∈ cs.nodeStates .cordonRequired, ns.node = n) ∧
    (∀ n, Call.uncordon n ∈ log.map Prod.fst →
      ∃ ns ∈ cs.nodeStates .uncordonRequired, ns.node = n) :=
  ⟨rfl, by decide, applyState_refines_phaseTable _ _ _ rfl (by decide) noFaults none⟩

end DriverUpgrade
