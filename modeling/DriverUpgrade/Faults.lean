import DriverUpgrade.Plans

/-! Faults: the calls whose errors a pass drops, and the theorem that a pass against any
answers from its collaborators is the fault-free pass cut at the first failure it does not
drop. -/
namespace DriverUpgrade

/-- The calls whose errors a pass drops: the `PodDeletionRequired` writes of
`ProcessWaitForJobsRequiredNodes`. -/
def droppedCall : Call → Bool
  | .changeNodeUpgradeState _ .podDeletionRequired => true
  | _ => false

namespace TaggedBy

variable {dropped : Call → Bool}

theorem nil : TaggedBy dropped [] := by simp [TaggedBy]

theorem append {p q : List Step} (hp : TaggedBy dropped p) (hq : TaggedBy dropped q) :
    TaggedBy dropped (p ++ q) := by
  intro s hs
  rcases List.mem_append.mp hs with h | h
  exacts [hp s h, hq s h]

theorem flatMap {l : List α} {f : α → List Step} (h : ∀ x ∈ l, TaggedBy dropped (f x)) :
    TaggedBy dropped (l.flatMap f) := by
  intro s hs
  obtain ⟨x, hx, hs⟩ := List.mem_flatMap.mp hs
  exact h x hx s hs

theorem flatten {ps : List (List Step)} (h : ∀ p ∈ ps, TaggedBy dropped p) :
    TaggedBy dropped ps.flatten := by
  intro s hs
  obtain ⟨p, hp, hs⟩ := List.mem_flatten.mp hs
  exact h p hp s hs

/-- One step of a plan agrees with `dropped`, as a check. -/
def Step.taggedBy (dropped : Call → Bool) : Step → Bool
  | .call c => !dropped c
  | .ignore c => dropped c
  | _ => true

theorem of_all {p : List Step} (h : p.all (Step.taggedBy dropped) = true) :
    TaggedBy dropped p := by
  intro s hs
  have hs := List.all_eq_true.mp h s hs
  cases s <;> simp_all [Step.taggedBy]

end TaggedBy

theorem passPlan_taggedBy (keys : UpgradeKeys) (cs : ClusterUpgradeState)
    (policy : DriverUpgradePolicySpec) : TaggedBy droppedCall (passPlan keys cs policy) := by
  apply TaggedBy.flatten
  simp only [List.mem_map]
  rintro p ⟨s, -, rfl⟩
  cases s <;> simp only [processorPlan]
  · exact TaggedBy.flatMap fun ns _ => by
      unfold doneOrUnknownSteps; split <;> (try split_ifs) <;> exact .of_all rfl
  · exact TaggedBy.flatMap fun ns _ => by
      unfold doneOrUnknownSteps; split <;> (try split_ifs) <;> exact .of_all rfl
  · intro s hs
    obtain ⟨ns, -, rfl⟩ := List.mem_map.mp hs
    rfl
  · exact TaggedBy.flatMap fun ns _ => .of_all rfl
  · refine TaggedBy.append (TaggedBy.flatMap fun ns _ => ?_) ?_
    · unfold waitForJobsRequiredSteps; split_ifs <;> exact .of_all rfl
    · split <;> (try split_ifs) <;> exact .of_all rfl
  · unfold podDeletionRequiredPlan; split_ifs <;> exact .of_all rfl
  · unfold drainPlan
    have h : TaggedBy droppedCall ((cs.nodeStates .drainRequired).flatMap drainRequiredSteps) :=
      TaggedBy.flatMap fun ns _ => .of_all rfl
    split <;> (try split_ifs) <;> first | exact h | exact .of_all rfl
  · refine TaggedBy.append (TaggedBy.flatMap fun ns _ => ?_) (.of_all rfl)
    unfold podRestartSteps inSyncSteps syncedNodeSteps
    split <;> (try split_ifs) <;> (try split) <;> (try split_ifs) <;> exact .of_all rfl
  · refine TaggedBy.flatMap fun ns _ => ?_
    unfold inSyncSteps syncedNodeSteps
    split <;> (try split_ifs) <;> exact .of_all rfl
  · exact TaggedBy.flatMap fun ns _ => .of_all rfl

theorem applyStatePlan_taggedBy (keys : UpgradeKeys) (currentState : Option ClusterUpgradeState)
    (upgradePolicy : Option DriverUpgradePolicySpec) :
    TaggedBy droppedCall (applyStatePlan keys currentState upgradePolicy) := by
  rcases currentState with _ | cs
  · exact .of_all rfl
  rcases upgradePolicy with _ | policy
  · exact TaggedBy.nil
  simp only [applyStatePlan]
  split_ifs
  exacts [TaggedBy.nil, passPlan_taggedBy keys cs policy]

/-- A pass issues the calls of the fault-free pass on the same snapshot and policy, up to and
including the first failing call whose error is not dropped, and returns that call's error; when
there is none it returns what the fault-free pass returns. -/
theorem applyState_faulty_pass (keys : UpgradeKeys) (currentState : Option ClusterUpgradeState)
    (upgradePolicy : Option DriverUpgradePolicySpec) (φ : Faults) (drainSpec : Option DrainSpec) :
    let faultFree := applyState keys currentState upgradePolicy noFaults ⟨[], drainSpec⟩
    let pass := applyState keys currentState upgradePolicy φ ⟨[], drainSpec⟩
    match firstAbort droppedCall φ (faultFree.2.log.map Prod.fst) 0 with
    | none => pass.1 = faultFree.1 ∧ pass.2.log.map Prod.fst = faultFree.2.log.map Prod.fst
    | some (i, err) => pass.1 = .error err ∧
        pass.2.log.map Prod.fst = (faultFree.2.log.map Prod.fst).take (i + 1) := by
  have hr := applyState_realizes keys currentState upgradePolicy
  have ht := applyStatePlan_taggedBy keys currentState upgradePolicy
  obtain ⟨h1, h2⟩ :=
    execute_noFaults (applyStatePlan keys currentState upgradePolicy) ⟨[], drainSpec⟩
  simp only [hr φ, hr noFaults, liftOutcome_snd, liftOutcome_fst, h1, h2, List.nil_append,
    List.map_map]
  have hcalls : List.map (Prod.fst ∘ fun x => (x, (none : Option Error)))
      (planCalls (applyStatePlan keys currentState upgradePolicy)) =
      planCalls (applyStatePlan keys currentState upgradePolicy) := by simp [Function.comp_def]
  rw [hcalls]
  split
  · next h =>
    obtain ⟨r1, r2⟩ := execute_of_firstAbort_none ht (e := ⟨[], drainSpec⟩) h
    simp only [List.map_nil, List.nil_append] at r2
    exact ⟨by rw [r1], r2⟩
  · next i err h =>
    obtain ⟨r1, r2⟩ := execute_of_firstAbort_some ht (e := ⟨[], drainSpec⟩) h
    simp only [List.map_nil, List.nil_append, List.length_nil, Nat.sub_zero] at r2
    exact ⟨by rw [r1], r2⟩

end DriverUpgrade
