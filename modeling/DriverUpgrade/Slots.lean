import DriverUpgrade.Cluster

/-! The cap on upgrades in progress. Only a write of `CordonRequired` for a node under
`UpgradeRequired` brings a node into the phases `upgradesInProgress` counts, and a pass makes at
most `upgradesAvailable` of them, computed once from its snapshot. Every other write keeps a node
inside those phases or takes it out, and the out-of-band moves stay inside them. -/
namespace DriverUpgrade

def Cluster.upgradesInProgress (c : Cluster) : Nat :=
  c.records.countP (·.phase.inProgress)

theorem UpgradeState.inProgress_of_outOfBand {s : UpgradeState} (h : s.outOfBand = true) :
    s.inProgress = true := by
  cases s <;> simp_all [UpgradeState.outOfBand, UpgradeState.inProgress]

/-- The count the manager computes from a snapshot is the number of nodes in progress. -/
theorem upgradesInProgress_snapshot (c : Cluster) :
    upgradesInProgress c.snapshot = c.upgradesInProgress := by
  have hlen : ∀ s, (c.snapshot.nodeStates s).length = c.records.countP (·.phase = s) :=
    fun s => by
    simp [Cluster.snapshot, List.countP_eq_length_filter]
  simp only [upgradesInProgress, hlen, Cluster.upgradesInProgress]
  induction c.records with
  | nil => rfl
  | cons r l ih =>
    simp only [List.countP_cons]
    rw [← ih]
    cases r.phase <;> simp only [UpgradeState.inProgress, reduceCtorEq, decide_False, decide_True,
      Bool.false_eq_true, ↓reduceIte, Nat.add_zero] <;> omega

/-- The writes that take a slot. -/
def Call.writesCordonRequired : Call → Bool
  | .changeNodeUpgradeState _ .cordonRequired => true
  | _ => false

theorem phaseTable_enters_inProgress {policy : DriverUpgradePolicySpec} {p q : UpgradeState}
    (h : phaseTable policy p q = true) (hq : q.inProgress = true) (hp : p.inProgress = false) :
    p = .upgradeRequired ∧ q = .cordonRequired := by
  cases p <;> cases q <;> simp_all [phaseTable, UpgradeState.inProgress]

theorem foldl_applyCall_phase (r : NodeRecord) (P : List Call) :
    (P.foldl NodeRecord.applyCall r).phase = r.phase ∨
      ∃ n q, Call.changeNodeUpgradeState n q ∈ P ∧
        (P.foldl NodeRecord.applyCall r).phase = q := by
  induction P generalizing r with
  | nil => exact .inl rfl
  | cons c P ih =>
    rcases ih (r.applyCall c) with h | ⟨n, q, hm, hq⟩
    · cases c with
      | changeNodeUpgradeState n q => exact .inr ⟨n, q, List.mem_cons_self _ _, h⟩
      | _ => exact .inl h
    · exact .inr ⟨n, q, List.mem_cons_of_mem _ hm, hq⟩

/-- A pass brings a node into the counted phases only by a write of `CordonRequired` in its log,
for a node it found under `UpgradeRequired`. -/
theorem Cluster.pass_enters_inProgress (keys : UpgradeKeys) (φ : Faults) (c : Cluster)
    {r : NodeRecord} (hr : r ∈ c.records)
    (henter : ((c.passEffects keys φ).log.foldl NodeRecord.applyEntry r).phase.inProgress = true)
    (hout : r.phase.inProgress = false) :
    r.phase = .upgradeRequired ∧
      Call.changeNodeUpgradeState r.node .cordonRequired ∈
        (c.passEffects keys φ).log.map Prod.fst := by
  obtain ⟨P, hpre, hsub, heq⟩ := c.pass_record keys φ hr
  rw [heq] at henter
  rcases foldl_applyCall_phase r P with h | ⟨n, q, hm, hq⟩
  · simp [h, hout] at henter
  have hallowed := List.all_eq_true.mp (nodeSteps_fits keys c.policy r.phase _).allowed _
    (hpre.subset hm)
  obtain ⟨hp, rfl⟩ := phaseTable_enters_inProgress hallowed (hq ▸ henter) hout
  rw [hp] at hpre
  obtain rfl : n = r.node := by
    simpa [nodeSteps, planCalls, NodeRecord.toNodeUpgradeState] using hpre.subset hm
  exact ⟨hp, hsub.subset hm⟩

/-- The log of a pass with auto upgrade on is a prefix of its fault-free calls. -/
theorem Cluster.passCalls_prefix (keys : UpgradeKeys) (φ : Faults) (c : Cluster)
    (hauto : c.policy.autoUpgrade = true) :
    (c.passEffects keys φ).log.map Prod.fst <+: planCalls (passPlan keys c.snapshot c.policy) := by
  obtain ⟨l, hl, heq⟩ := execute_calls_prefix φ (passPlan keys c.snapshot c.policy)
    ⟨[], c.policy.drainSpec⟩
  rw [Cluster.passEffects, applyState_eq_execute keys hauto, heq]
  simpa using hl

/-- A fault-free pass writes `CordonRequired` at most `upgradesAvailable` times: only
`ProcessUpgradeRequiredNodes` writes it. -/
theorem passPlan_slots_le (keys : UpgradeKeys) {cs : ClusterUpgradeState}
    (policy : DriverUpgradePolicySpec) (hnd : (listedNames cs).Nodup) :
    ((planCalls (passPlan keys cs policy)).filter Call.writesCordonRequired).length ≤
      (upgradesAvailable cs policy).toNat := by
  have hother : ∀ s, s ≠ .upgradeRequired →
      (planCalls (processorPlan keys cs policy s)).filter Call.writesCordonRequired = [] := by
    intro s hs
    refine List.filter_eq_nil_iff.mpr fun c hc hw => hs ?_
    obtain ⟨n, rfl⟩ : ∃ n, c = .changeNodeUpgradeState n .cordonRequired := by
      rcases c with ⟨n, _ | _ | _ | _ | _ | _ | _ | _ | _ | _⟩ <;>
        simp_all [Call.writesCordonRequired]
    have hmem : Call.changeNodeUpgradeState n .cordonRequired ∈
        callsFor n.name (planCalls (processorPlan keys cs policy s)) :=
      List.mem_filter.mpr ⟨hc, by simp [Call.nodeName]⟩
    obtain ⟨ns, -, hc'⟩ := List.mem_flatMap.mp
      ((processorPlan_callsFor keys cs policy s (nodup_names_of_listed hnd s) n.name).subset hmem)
    have := List.all_eq_true.mp (nodeSteps_fits keys policy s ns).allowed _ hc'
    cases s <;> simp_all [allowedCall, phaseTable]
  calc ((planCalls (passPlan keys cs policy)).filter Call.writesCordonRequired).length
      ≤ (((processingOrder.map (processorPlan keys cs policy)).map planCalls).flatten.filter
          Call.writesCordonRequired).length :=
        ((prefix_planCalls_flatten _).filter _).length_le
    _ = ((planCalls (processorPlan keys cs policy .upgradeRequired)).filter
          Call.writesCordonRequired).length := by
        rw [List.filter_flatten, List.map_map, List.map_map]
        exact congrArg List.length
          (flatten_map_eq_of_ne processingOrder_nodup (mem_processingOrder _) hother)
    _ ≤ (upgradesAvailable cs policy).toNat := by
        refine (List.length_filter_le _ _).trans ?_
        rw [processorPlan, upgradeRequiredPlan, planCalls_map_call, List.length_map]
        exact List.length_take_le _ _

theorem countP_le_add {l : List α} {p q r : α → Bool}
    (h : ∀ x ∈ l, p x = true → q x = true ∨ r x = true) :
    l.countP p ≤ l.countP q + l.countP r := by
  induction l with
  | nil => simp
  | cons x l ih =>
    have ih := ih fun y hy => h y (List.mem_cons_of_mem _ hy)
    have hx := h x (List.mem_cons_self _ _)
    simp only [List.countP_cons]
    split_ifs <;> first | omega | simp_all

/-- No pass raises the number of nodes in progress above the larger of `MaxParallelUpgrades`
and the number in its snapshot, whatever the faults. -/
theorem Cluster.pass_upgradesInProgress_le (keys : UpgradeKeys) (φ : Faults) (c : Cluster)
    (hN : c.policy.maxParallelUpgrades ≠ 0) :
    ((c.pass keys φ).upgradesInProgress : Int) ≤
      max c.policy.maxParallelUpgrades c.upgradesInProgress := by
  let logCalls := (c.passEffects keys φ).log.map Prod.fst
  let slot (r : NodeRecord) : Call := .changeNodeUpgradeState r.node .cordonRequired
  let entering (r : NodeRecord) : Bool := r.phase = .upgradeRequired ∧ slot r ∈ logCalls
  have hcount : (c.pass keys φ).upgradesInProgress ≤
      c.upgradesInProgress + c.records.countP entering := by
    simp only [Cluster.upgradesInProgress, Cluster.pass, Cluster.mapRecords, List.countP_map]
    refine countP_le_add fun r hr h => ?_
    cases hin : r.phase.inProgress
    · obtain ⟨hp, hc⟩ := c.pass_enters_inProgress keys φ hr h hin
      exact .inr (by simp [entering, hp, slot, logCalls, hc])
    · exact .inl rfl
  have hslots :
      c.records.countP entering ≤ (logCalls.filter Call.writesCordonRequired).length := by
    have hnd : ((c.records.filter entering).map slot).Nodup :=
      ((List.Nodup.of_map _ c.nodup).filter _).map_on fun x hx y hy hxy =>
        List.inj_on_of_nodup_map c.nodup (List.mem_filter.mp hx).1 (List.mem_filter.mp hy).1
          (by simp only [slot, Call.changeNodeUpgradeState.injEq] at hxy; rw [hxy.1])
    have hsub :
        (c.records.filter entering).map slot ⊆ logCalls.filter Call.writesCordonRequired :=
      fun x hx => by
        obtain ⟨r, hr, rfl⟩ := List.mem_map.mp hx
        exact List.mem_filter.mpr
          ⟨(of_decide_eq_true (List.mem_filter.mp hr).2).2,
            by simp [slot, Call.writesCordonRequired]⟩
    simpa [List.countP_eq_length_filter] using (List.subperm_of_subset hnd hsub).length_le
  have havail : (logCalls.filter Call.writesCordonRequired).length ≤
      (c.policy.maxParallelUpgrades - c.upgradesInProgress).toNat := by
    have havail : upgradesAvailable c.snapshot c.policy =
        c.policy.maxParallelUpgrades - c.upgradesInProgress := by
      simp [upgradesAvailable, hN, upgradesInProgress_snapshot]
    rw [← havail]
    cases hauto : c.policy.autoUpgrade
    · simp [logCalls, Cluster.passEffects, applyState, hauto]
    · exact ((c.passCalls_prefix keys φ hauto).filter _).length_le.trans
        (passPlan_slots_le keys c.policy c.listedNames_snapshot_nodup)
  omega

theorem Cluster.step_maxParallelUpgrades (keys : UpgradeKeys) (c : Cluster) (ev : Event) :
    (c.step keys ev).policy.maxParallelUpgrades = c.policy.maxParallelUpgrades := by
  cases ev <;> simp only [Cluster.step, Cluster.pass, Cluster.mapRecords, Cluster.addNode]
  split_ifs <;> rfl

/-- Every step but a pass leaves the number of nodes in progress as it is. -/
theorem Cluster.step_upgradesInProgress (keys : UpgradeKeys) (c : Cluster) (ev : Event)
    (hev : ∀ φ, ev ≠ .pass φ) :
    (c.step keys ev).upgradesInProgress = c.upgradesInProgress := by
  cases ev with
  | pass φ => exact absurd rfl (hev φ)
  | addNode node pod ds =>
    simp only [Cluster.step, Cluster.addNode]
    split_ifs
    · rfl
    · simp [Cluster.upgradesInProgress, UpgradeState.inProgress]
  | _ =>
    simp only [Cluster.step, Cluster.upgradesInProgress, Cluster.mapRecords, List.countP_map]
    refine List.countP_congr fun r _ => ?_
    simp only [Function.comp_apply]
    split_ifs with h <;> simp [UpgradeState.inProgress_of_outOfBand, h]

/-- With `MaxParallelUpgrades = N > 0`, no pass raises the number of nodes in progress above the
larger of `N` and the number in its snapshot, under any faults; so from a cluster with at most
`N` nodes in progress, every run of passes, out-of-band moves, added nodes, outside (un)cordons
and driver updates keeps at most `N` in progress. -/
theorem upgradesInProgress_capped (keys : UpgradeKeys) (c : Cluster)
    (hN : 0 < c.policy.maxParallelUpgrades) :
    (∀ φ, ((c.pass keys φ).upgradesInProgress : Int) ≤
      max c.policy.maxParallelUpgrades c.upgradesInProgress) ∧
    ∀ events, (c.upgradesInProgress : Int) ≤ c.policy.maxParallelUpgrades →
      ((c.run keys events).upgradesInProgress : Int) ≤ c.policy.maxParallelUpgrades := by
  refine ⟨fun φ => c.pass_upgradesInProgress_le keys φ hN.ne', fun events h0 => ?_⟩
  refine (Cluster.run_invariant keys (fun c' =>
      c'.policy.maxParallelUpgrades = c.policy.maxParallelUpgrades ∧
        (c'.upgradesInProgress : Int) ≤ c.policy.maxParallelUpgrades)
    ?_ c events ⟨rfl, h0⟩).2
  rintro c' ev ⟨hp, hle⟩
  refine ⟨(c'.step_maxParallelUpgrades keys ev).trans hp, ?_⟩
  by_cases hev : ∃ φ, ev = .pass φ
  · obtain ⟨φ, rfl⟩ := hev
    have hpass := c'.pass_upgradesInProgress_le keys φ (hp ▸ hN.ne')
    rw [hp] at hpass
    exact hpass.trans (max_le le_rfl hle)
  · push_neg at hev
    rw [c'.step_upgradesInProgress keys ev hev]
    exact hle

theorem upgradesInProgress_capped_two_nodes :
    let keys : UpgradeKeys := ⟨"skip", "initial-state", "skip-drain"⟩
    let pod : Pod := ⟨.ok 1, none, "Running", [⟨true⟩]⟩
    let c : Cluster := ⟨[⟨⟨"a", false, [], []⟩, .upgradeRequired, pod, ⟨2⟩, false⟩,
      ⟨⟨"b", false, [], []⟩, .cordonRequired, pod, ⟨2⟩, false⟩], ⟨true, 1, none, none, none⟩,
      by decide⟩
    0 < c.policy.maxParallelUpgrades ∧ (c.upgradesInProgress : Int) ≤ c.policy.maxParallelUpgrades ∧
    ∀ events, ((c.run keys events).upgradesInProgress : Int) ≤ c.policy.maxParallelUpgrades :=
  ⟨by decide, by decide, fun events => (upgradesInProgress_capped _ _ (by decide)).2 events
    (by decide)⟩

end DriverUpgrade
