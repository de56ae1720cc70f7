import DriverUpgrade.PassByNode

/-! The nodes of a cluster upgrade apart. When the slots do not bind (`MaxParallelUpgrades` is 0,
or at least the number of nodes) and every driver pod carries a template generation, a run of
fault-free passes and out-of-band events is, node by node, the run each node would have alone:
the cluster runs as the product of its one-node clusters, and the policy evolves in each as in
the whole. What is proved of one node on its own, such as its upgrade's completion, so holds of
every node of such a cluster. Faults break this: a failed call ends the pass for every node after
it. -/
namespace DriverUpgrade

theorem planResult_flatten {ps : List (List Step)} (h : ∀ p ∈ ps, planResult p = none) :
    planResult ps.flatten = none := by
  induction ps with
  | nil => rfl
  | cons p ps ih =>
    rw [List.flatten_cons, planResult_append (h p (List.mem_cons_self _ _))]
    exact ih fun q hq => h q (List.mem_cons_of_mem _ hq)

/-- A plan that ends without an error, with every call succeeding, leaves the drain spec it
writes, when that is the only one it writes. -/
theorem execute_noFaults_drainSpec {p : List Step} {d : DrainSpec} (hr : planResult p = none)
    (hmem : Step.setDrainSpec d ∈ p) (honly : ∀ d', Step.setDrainSpec d' ∈ p → d' = d)
    (e : Effects) : (execute noFaults p e).2.drainSpec = some d := by
  induction p generalizing e with
  | nil => cases hmem
  | cons s p ih =>
    have hmem' := (List.mem_cons.mp hmem).resolve_left
    have honly' : ∀ d', Step.setDrainSpec d' ∈ p → d' = d :=
      fun d' h => honly d' (List.mem_cons_of_mem _ h)
    cases s with
    | call c => exact ih hr (hmem' nofun) honly' _
    | ignore c => exact ih hr (hmem' nofun) honly' _
    | fail err => cases hr
    | setDrainSpec d' =>
      rw [honly d' (List.mem_cons_self _ _)]
      exact execute_drainSpec (P := (· = some d)) (p := p) (fun d'' h => by rw [honly' d'' h])
        noFaults (e := { e with drainSpec := some d }) rfl

/-- The drain spec a fault-free pass over driver pods that all carry a template generation leaves
in the policy: with drain enabled, the policy's spec with the skip-drain clause added. It depends
on the policy alone. -/
theorem Cluster.passEffects_noFaults_drainSpec (keys : UpgradeKeys) (c : Cluster)
    (hauto : c.policy.autoUpgrade = true)
    (hgen : ∀ r ∈ c.records, ∃ g, r.driverPod.templateGeneration = .ok g) :
    (c.passEffects keys noFaults).drainSpec =
      c.policy.drainSpec.map fun spec => if spec.enable then skipDrainSpec keys spec else spec := by
  rcases hd : c.policy.drainSpec with _ | spec
  · rcases c.passEffects_drainSpec keys noFaults with h | ⟨spec, hspec, -⟩
    exacts [h.trans hd, absurd (hspec.symm.trans hd) nofun]
  cases he : spec.enable
  · rcases c.passEffects_drainSpec keys noFaults with h | ⟨spec', hspec, he', -⟩
    · simp [h, hd, he]
    · rw [hd, Option.some_inj] at hspec
      rw [← hspec, he] at he'
      cases he'
  rw [Cluster.passEffects, applyState_eq_execute keys hauto, Option.map_some', if_pos he]
  refine execute_noFaults_drainSpec (planResult_flatten fun p hp => ?_) ?_ (fun d' hd' => ?_) _
  · obtain ⟨s, -, rfl⟩ := List.mem_map.mp hp
    exact processorPlan_result keys c.policy (Cluster.generationsKnown hgen) s
  · refine List.mem_flatten.mpr ⟨_, List.mem_map_of_mem _ (mem_processingOrder .drainRequired), ?_⟩
    simp [processorPlan, drainPlan, hd, he]
  · obtain ⟨spec', hspec, -, rfl⟩ := passPlan_setDrainSpec keys _ _ hd'
    rw [hd, Option.some_inj] at hspec
    rw [hspec]

theorem Cluster.pass_policy (keys : UpgradeKeys) (φ : Faults) (c : Cluster) :
    (c.pass keys φ).policy = { c.policy with drainSpec := (c.passEffects keys φ).drainSpec } :=
  rfl

@[simp] theorem NodeRecord.foldl_applyCall_driverPod (r : NodeRecord) (P : List Call) :
    (P.foldl NodeRecord.applyCall r).driverPod = r.driverPod := by
  induction P generalizing r with
  | nil => rfl
  | cons c P ih => rw [List.foldl_cons, ih]; cases c <;> rfl

/-- Nodes in progress and nodes under `UpgradeRequired` are apart, so together they are no more
than the cluster's nodes. -/
theorem Cluster.upgradesInProgress_add_le (c : Cluster) :
    c.upgradesInProgress + (c.snapshot.nodeStates .upgradeRequired).length ≤ c.records.length := by
  have hur : (c.snapshot.nodeStates .upgradeRequired).length ≤
      c.records.countP fun r => ¬r.phase.inProgress := by
    rw [Cluster.snapshot, List.length_map, ← List.countP_eq_length_filter]
    exact List.countP_mono_left fun r _ h => by simp_all [UpgradeState.inProgress]
  rw [List.length_eq_countP_add_countP (·.phase.inProgress) c.records]
  exact Nat.add_le_add_left hur _

/-- When the slots do not bind, a pass admits every node under `UpgradeRequired` that has no skip
label. -/
theorem Cluster.admitted_of_slots (keys : UpgradeKeys) {c : Cluster}
    (hslots : c.policy.maxParallelUpgrades = 0 ∨
      (c.records.length : Int) ≤ c.policy.maxParallelUpgrades)
    {r : NodeRecord} (hr : r ∈ c.records) (hp : r.phase = .upgradeRequired) :
    c.admitted keys r = !skipNodeUpgrade keys r.node := by
  have hlen : ((c.snapshot.nodeStates .upgradeRequired).filter
      fun ns => !skipNodeUpgrade keys ns.node).length ≤
        (upgradesAvailable c.snapshot c.policy).toNat := by
    have hf := List.length_filter_le (fun ns => !skipNodeUpgrade keys ns.node)
      (c.snapshot.nodeStates .upgradeRequired)
    have hsum := c.upgradesInProgress_add_le
    unfold upgradesAvailable
    split_ifs with h0
    · omega
    · rw [upgradesInProgress_snapshot]
      omega
  have hmem := hp ▸ Cluster.mem_snapshot hr
  rw [Cluster.admitted, List.take_of_length_le hlen]
  cases hs : skipNodeUpgrade keys r.node
  · exact decide_eq_true (List.mem_filter.mpr ⟨hmem, by simp [NodeRecord.toNodeUpgradeState, hs]⟩)
  · exact decide_eq_false fun h => by
      simpa [NodeRecord.toNodeUpgradeState, hs] using (List.mem_filter.mp h).2

/-- What keeps the nodes of a cluster apart: auto upgrade on, slots for every node, and driver
pods that all carry a template generation, so that no fault-free pass stops early. -/
structure Cluster.Apart (c : Cluster) : Prop where
  auto : c.policy.autoUpgrade = true
  slots : c.policy.maxParallelUpgrades = 0 ∨
    (c.records.length : Int) ≤ c.policy.maxParallelUpgrades
  generations : ∀ r ∈ c.records, ∃ g, r.driverPod.templateGeneration = .ok g

/-- The events under which the nodes of a cluster run apart: fault-free passes, the managers'
moves, cordons and uncordons from outside, and new driver pods that carry a template generation;
no node joins. -/
def Event.Separable : Event → Prop
  | .pass φ => φ = noFaults
  | .addNode _ _ _ => False
  | .updateDriver _ pod _ => ∃ g, pod.templateGeneration = .ok g
  | .move _ _ | .setUnschedulable _ _ => True

/-- The cluster of the node `r` alone. -/
def Cluster.single (r : NodeRecord) (policy : DriverUpgradePolicySpec) : Cluster :=
  ⟨[r], policy, List.nodup_singleton _⟩

section Apart

variable (keys : UpgradeKeys) {c : Cluster} {r : NodeRecord}

theorem Cluster.Apart.single (h : c.Apart) (hr : r ∈ c.records) :
    (Cluster.single r c.policy).Apart where
  auto := h.auto
  slots := by
    have hlen := List.length_pos_of_mem hr
    rcases h.slots with h0 | hle
    exacts [.inl h0, .inr (by simp only [Cluster.single, List.length_singleton]; omega)]
  generations _ hx := List.mem_singleton.mp hx ▸ h.generations r hr

/-- Alone or in the cluster, a node gets the same calls from a fault-free pass. -/
theorem Cluster.Apart.nodeCalls_single (h : c.Apart) (hr : r ∈ c.records) :
    (Cluster.single r c.policy).nodeCalls keys r = c.nodeCalls keys r := by
  by_cases hp : r.phase = .upgradeRequired
  · rw [Cluster.nodeCalls, Cluster.nodeCalls, Cluster.admitted_of_slots keys h.slots hr hp,
      Cluster.admitted_of_slots keys (h.single hr).slots (List.mem_singleton_self r) hp]
    rfl
  · simp only [Cluster.nodeCalls, hp, false_and, if_false]
    rfl

theorem Cluster.Apart.mapRecords (h : c.Apart) (f : NodeRecord → NodeRecord)
    (hf : ∀ r, (f r).node.name = r.node.name)
    (hgen : ∀ r ∈ c.records, ∃ g, (f r).driverPod.templateGeneration = .ok g) :
    (c.mapRecords f hf).Apart where
  auto := h.auto
  slots := by simpa [Cluster.mapRecords] using h.slots
  generations _ hx := by
    obtain ⟨r, hr, rfl⟩ := List.mem_map.mp hx
    exact hgen r hr

/-- One event acts on each node of the cluster as on the node alone, and keeps the nodes apart. -/
theorem Cluster.Apart.step (h : c.Apart) {ev : Event} (hev : ev.Separable) :
    (c.step keys ev).Apart ∧ ∃ f : NodeRecord → NodeRecord,
      (c.step keys ev).records = c.records.map f ∧ ∀ r ∈ c.records,
        (Cluster.single r c.policy).step keys ev =
          Cluster.single (f r) (c.step keys ev).policy := by
  cases ev with
  | pass φ =>
    subst hev
    have hdrain := c.passEffects_noFaults_drainSpec keys h.auto h.generations
    refine ⟨⟨h.auto, by simpa [Cluster.step, Cluster.pass, Cluster.mapRecords] using h.slots,
      fun x hx => ?_⟩,
      _, c.pass_noFaults_records keys h.auto h.generations, fun r hr => ?_⟩
    · obtain ⟨r, hr, rfl⟩ := List.mem_map.mp
        (c.pass_noFaults_records keys h.auto h.generations ▸ hx)
      simpa using h.generations r hr
    · have hs := h.single hr
      refine Cluster.eq_of_records ?_ ?_
      · rw [Cluster.step, Cluster.pass_noFaults_records _ _ hs.auto hs.generations]
        simp only [Cluster.single, List.map_singleton]
        rw [← Cluster.single, h.nodeCalls_single keys hr]
      · change ((Cluster.single r c.policy).pass keys noFaults).policy =
          (c.pass keys noFaults).policy
        rw [Cluster.pass_policy, Cluster.pass_policy,
          Cluster.passEffects_noFaults_drainSpec keys _ hs.auto hs.generations, hdrain]
        rfl
  | addNode => cases hev
  | move name q =>
    dsimp only [Cluster.step]
    exact ⟨h.mapRecords _ _ fun r hr => by split <;> exact h.generations r hr, _, rfl,
      fun _ _ => rfl⟩
  | setUnschedulable name u =>
    dsimp only [Cluster.step]
    exact ⟨h.mapRecords _ _ fun r hr => by split <;> exact h.generations r hr, _, rfl,
      fun _ _ => rfl⟩
  | updateDriver name pod ds =>
    dsimp only [Cluster.step]
    exact ⟨h.mapRecords _ _ fun r hr => by split; exacts [hev, h.generations r hr], _, rfl,
      fun _ _ => rfl⟩

end Apart

/-- The nodes of a cluster upgrade apart when nothing couples them. Take a cluster with auto
upgrade on, `MaxParallelUpgrades` 0 or at least its number of nodes, and driver pods that all
carry a template generation, and a run of fault-free passes, the managers' moves, cordons and
uncordons from outside, and new driver pods that carry a template generation. The run's nodes
are, in order, those of the runs of each node alone under the cluster's policy, and each of those
ends on the policy the cluster ends on. -/
theorem Cluster.run_by_node (keys : UpgradeKeys) (c : Cluster) (h : c.Apart)
    (events : List Event) (hev : ∀ ev ∈ events, ev.Separable) :
    (c.run keys events).records =
      c.records.flatMap (fun r => ((Cluster.single r c.policy).run keys events).records) ∧
    ∀ r ∈ c.records, ((Cluster.single r c.policy).run keys events).policy =
      (c.run keys events).policy := by
  induction events generalizing c with
  | nil => exact ⟨(List.flatMap_singleton' _).symm, fun _ _ => rfl⟩
  | cons ev events ih =>
    obtain ⟨h', f, hrec, hsingle⟩ := h.step keys (hev ev (List.mem_cons_self _ _))
    obtain ⟨ihr, ihp⟩ := ih (c.step keys ev) h' fun ev' hm => hev ev' (List.mem_cons_of_mem _ hm)
    have hmem : ∀ r ∈ c.records, f r ∈ (c.step keys ev).records :=
      fun r hr => hrec ▸ List.mem_map_of_mem f hr
    refine ⟨?_, fun r hr => ?_⟩
    · change ((c.step keys ev).run keys events).records = _
      rw [ihr, hrec, List.flatMap_map]
      exact List.flatMap_congr fun r hr => by
        change _ = (((Cluster.single r c.policy).step keys ev).run keys events).records
        rw [hsingle r hr]
    · change (((Cluster.single r c.policy).step keys ev).run keys events).policy = _
      rw [hsingle r hr]
      exact ihp (f r) (hmem r hr)

theorem run_by_node_two_nodes :
    let keys : UpgradeKeys := ⟨"skip", "initial-state", "skip-drain"⟩
    let pod : Pod := ⟨.ok 1, none, "Running", [⟨true⟩]⟩
    let c : Cluster := ⟨[⟨⟨"a", false, [], []⟩, .upgradeRequired, pod, ⟨2⟩, false⟩,
      ⟨⟨"b", true, [], []⟩, .done, pod, ⟨2⟩, false⟩], ⟨true, 0, none, none, some ⟨true, ""⟩⟩,
      by decide⟩
    let events : List Event := [.pass noFaults, .pass noFaults, .move "a" .drainRequired,
      .pass noFaults]
    (c.run keys events).records =
      c.records.flatMap (fun r => ((Cluster.single r c.policy).run keys events).records) ∧
    ∀ r ∈ c.records, ((Cluster.single r c.policy).run keys events).policy =
      (c.run keys events).policy := by
  intro keys pod c events
  exact Cluster.run_by_node keys c ⟨rfl, .inl rfl, by simp [c, pod]⟩ events
    (by simp [events, Event.Separable])

end DriverUpgrade
