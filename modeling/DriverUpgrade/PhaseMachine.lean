import Mathlib.Logic.Relation
import DriverUpgrade.Slots

/-! The phase machine the manager implements, node by node. A pass moves a node along at most
one edge of the phase table, the pod and drain managers move it among the phases they own, no
other event changes its phase, no node leaves, and a node joins the cluster in `Unknown` under a
new name. Every event of every run of the cluster is so a step of this machine under the table of
the policy the run starts with: the drain spec a pass writes into the policy keeps its `Enable`
flag, so the table does not change along a run. -/
namespace DriverUpgrade

/-- Steps other than a write of the policy's drain spec. -/
def Step.keepsDrainSpec : Step → Bool
  | .setDrainSpec _ => false
  | _ => true

/-- The drain spec a plan leaves is the one it started with or one it wrote. -/
theorem execute_drainSpec {P : Option DrainSpec → Prop} {p : List Step}
    (hp : ∀ d, Step.setDrainSpec d ∈ p → P (some d)) (φ : Faults) {e : Effects}
    (he : P e.drainSpec) : P (execute φ p e).2.drainSpec := by
  induction p generalizing e with
  | nil => exact he
  | cons s p ih =>
    have hp' : ∀ d, Step.setDrainSpec d ∈ p → P (some d) :=
      fun d hd => hp d (List.mem_cons_of_mem _ hd)
    cases s with
    | call c =>
      simp only [execute]
      split
      exacts [ih hp' he, he]
    | ignore c => exact ih hp' he
    | fail err => exact he
    | setDrainSpec d => exact ih hp' (hp d (List.mem_cons_self _ _))

theorem processorPlan_keepsDrainSpec (keys : UpgradeKeys) (cs : ClusterUpgradeState)
    (policy : DriverUpgradePolicySpec) {s : UpgradeState} (hs : s ≠ .drainRequired) :
    (processorPlan keys cs policy s).all Step.keepsDrainSpec = true := by
  cases s
  case drainRequired => exact absurd rfl hs
  case upgradeRequired =>
    refine List.all_eq_true.mpr fun x hx => ?_
    obtain ⟨_, -, rfl⟩ := List.mem_map.mp hx
    rfl
  case waitForJobsRequired =>
    simp only [processorPlan, waitForJobsRequiredPlan, List.all_append, List.all_flatMap,
      Bool.and_eq_true]
    refine ⟨List.all_eq_true.mpr fun ns _ => ?_, ?_⟩
    · unfold waitForJobsRequiredSteps; split_ifs <;> rfl
    · split <;> (try split_ifs) <;> rfl
  case podDeletionRequired =>
    simp only [processorPlan, podDeletionRequiredPlan]
    split_ifs <;> rfl
  case podRestartRequired =>
    simp only [processorPlan, podRestartPlan, List.all_append, List.all_flatMap, Bool.and_eq_true]
    refine ⟨List.all_eq_true.mpr fun ns _ => ?_, rfl⟩
    unfold podRestartSteps inSyncSteps syncedNodeSteps
    repeat' (first | split | split_ifs)
    all_goals rfl
  /- the processors that take one block of steps per node -/
  all_goals simp only [processorPlan, upgradeFailedPlan, List.all_flatMap]
  all_goals refine List.all_eq_true.mpr fun ns _ => ?_
  all_goals try unfold doneOrUnknownSteps
  all_goals try unfold inSyncSteps syncedNodeSteps
  all_goals repeat' (first | split | split_ifs)
  all_goals rfl

/-- Only `ProcessDrainNodes` writes the policy's drain spec, with drain enabled, and what it
writes is the policy's spec with the skip-drain clause added. -/
theorem passPlan_setDrainSpec (keys : UpgradeKeys) (cs : ClusterUpgradeState)
    (policy : DriverUpgradePolicySpec) {d : DrainSpec}
    (h : Step.setDrainSpec d ∈ passPlan keys cs policy) :
    ∃ spec, policy.drainSpec = some spec ∧ spec.enable = true ∧
      d = skipDrainSpec keys spec := by
  obtain ⟨p, hp, hd⟩ := List.mem_flatten.mp h
  obtain ⟨s, -, rfl⟩ := List.mem_map.mp hp
  by_cases hs : s = .drainRequired
  · subst hs
    simp only [processorPlan, drainPlan] at hd
    split at hd
    · next spec hspec =>
      split_ifs at hd with he
      · exact ⟨spec, hspec, he, by simpa using hd⟩
      · simp [drainRequiredSteps] at hd
    · simp [drainRequiredSteps] at hd
  · exact absurd (List.all_eq_true.mp (processorPlan_keepsDrainSpec keys cs policy hs) _ hd)
      Bool.false_ne_true

/-- The drain spec a pass leaves in the policy: the policy's own, or, with drain enabled, the
policy's spec with the skip-drain clause added. -/
theorem Cluster.passEffects_drainSpec (keys : UpgradeKeys) (φ : Faults) (c : Cluster) :
    (c.passEffects keys φ).drainSpec = c.policy.drainSpec ∨
      ∃ spec, c.policy.drainSpec = some spec ∧ spec.enable = true ∧
        (c.passEffects keys φ).drainSpec = some (skipDrainSpec keys spec) := by
  rw [Cluster.passEffects, applyState_realizes, liftOutcome_snd]
  refine execute_drainSpec (P := fun d => d = c.policy.drainSpec ∨ ∃ spec,
    c.policy.drainSpec = some spec ∧ spec.enable = true ∧ d = some (skipDrainSpec keys spec))
    (fun d hd => ?_) φ (.inl rfl)
  simp only [applyStatePlan] at hd
  split_ifs at hd
  · exact absurd hd (List.not_mem_nil _)
  · obtain ⟨spec, hspec, he, rfl⟩ := passPlan_setDrainSpec keys _ _ hd
    exact .inr ⟨spec, hspec, he, rfl⟩

theorem drainEnabled_passEffects (keys : UpgradeKeys) (φ : Faults) (c : Cluster) :
    drainEnabled (c.passEffects keys φ).drainSpec = drainEnabled c.policy.drainSpec := by
  rcases c.passEffects_drainSpec keys φ with h | ⟨spec, hspec, -, h⟩ <;> rw [h]
  rw [hspec]
  rfl

end DriverUpgrade
