import DriverUpgrade.Lifecycle

/-! A failed pass and its retry. `ApplyState` returns at the first call that fails and leaves
committed what went before; the next pass, on a snapshot rebuilt from the cluster the failed
pass leaves, finds the outstanding work. Over a cluster whose nodes run apart, the retry
completes the failed pass node by node. A node whose phase the failed pass did not write gets its
whole block again: the calls that went before the write are an annotation, a cordon or an
uncordon, and the block over them has the effect of the block alone. A node whose block went
through goes one block further, as under two fault-free passes. The one block that makes a call
after its phase write is the exception: it writes `Done` and then removes the initial-state
marker, and when the removal fails, the retry finds the node in `Done` and leaves the marker. -/
namespace DriverUpgrade

/-- The block of a node in `Done` or `Unknown` reads only its schedulability and its driver pods:
over two nodes that agree on them, the blocks have the same effect. -/
theorem doneOrUnknownSteps_congr (keys : UpgradeKeys) (s : UpgradeState)
    {ns ns' : NodeUpgradeState} (hpod : ns'.driverPod = ns.driverPod)
    (hds : ns'.driverDaemonSet = ns.driverDaemonSet)
    (hu : ns'.node.unschedulable = ns.node.unschedulable) (x : NodeRecord) :
    (planCalls (doneOrUnknownSteps keys s ns')).foldl NodeRecord.applyCall x =
      (planCalls (doneOrUnknownSteps keys s ns)).foldl NodeRecord.applyCall x := by
  simp only [doneOrUnknownSteps, isNodeUnschedulable, hpod, hds, hu]
  split
  · rfl
  · split_ifs <;> rfl

/-- A node's block replayed over the calls of it that went through before its phase write has
the effect of the block alone: those calls are the marker on a cordoned node, a cordon or an
uncordon, and the block the node's state then gives is the same block. -/
theorem nodeSteps_replay (keys : UpgradeKeys) (policy : DriverUpgradePolicySpec) (s : UpgradeState)
    (r : NodeRecord) {P : List Call}
    (hP : P <+: planCalls (nodeSteps keys policy s r.toNodeUpgradeState))
    (hw : ∀ x ∈ P, x.isPhaseWrite = false) :
    (planCalls (nodeSteps keys policy s (P.foldl NodeRecord.applyCall r).toNodeUpgradeState)).foldl
        NodeRecord.applyCall (P.foldl NodeRecord.applyCall r) =
      (planCalls (nodeSteps keys policy s r.toNodeUpgradeState)).foldl NodeRecord.applyCall r := by
  rcases P with _ | ⟨a, P⟩
  · rfl
  /- the calls that went through start with the block's first, which is no phase write -/
  have hhead : ∀ c l, planCalls (nodeSteps keys policy s r.toNodeUpgradeState) = c :: l →
      a = c ∧ P <+: l := fun c l h => List.cons_prefix_cons.mp (h ▸ hP)
  have hwrite : ∀ n q l, planCalls (nodeSteps keys policy s r.toNodeUpgradeState) ≠
      .changeNodeUpgradeState n q :: l := fun n q l h =>
    Bool.noConfusion ((hhead _ _ h).1 ▸ hw a (List.mem_cons_self _ _))
  have hnil : planCalls (nodeSteps keys policy s r.toNodeUpgradeState) ≠ [] := fun h =>
    List.cons_ne_nil a P (List.prefix_nil.mp (h ▸ hP))
  have hinSync : planCalls (nodeSteps keys policy s r.toNodeUpgradeState) ≠
      planCalls (inSyncSteps keys r.toNodeUpgradeState) := fun h => by
    rcases inSyncSteps_cases keys r.toNodeUpgradeState with h' | ⟨-, h'⟩ | ⟨-, h'⟩
    exacts [hnil (h.trans h'), hwrite _ _ _ (h.trans h'), hwrite _ _ _ (h.trans h')]
  /- so the block over them is the block over the node, which may be replayed -/
  rw [← nodeSteps_replayable keys policy s _ _ _ hP (List.prefix_refl _) r]
  cases s
  case unknown | done =>
    rcases doneOrUnknownSteps_cases keys _ r.toNodeUpgradeState with h | h | ⟨-, h⟩ | ⟨-, h⟩
    · exact absurd h hnil
    · exact absurd h (hwrite _ _ _)
    · exact absurd h (hwrite _ _ _)
    · /- the marker on a cordoned node went through, and the write did not -/
      obtain ⟨rfl, hP'⟩ := hhead _ _ h
      obtain rfl : P = [] := by
        rcases List.prefix_cons_iff.mp hP' with h | ⟨t, rfl, -⟩
        exacts [h, Bool.noConfusion (hw _ (List.mem_cons_of_mem _ (List.mem_cons_self _ _)))]
      simp only [nodeSteps]
      refine doneOrUnknownSteps_congr keys _ ?_ ?_ ?_ _ <;> rfl
  case cordonRequired | uncordonRequired => rfl
  case upgradeRequired => exact absurd rfl (hwrite _ _ _)
  case podDeletionRequired => exact absurd rfl hnil
  case waitForJobsRequired | drainRequired =>
    simp only [nodeSteps, waitForJobsRequiredSteps, drainRequiredSteps] at hnil hwrite
    split_ifs at hnil hwrite <;> first | exact absurd rfl hnil | exact absurd rfl (hwrite _ _ _)
  case podRestartRequired => exact absurd ((podRestartSteps_cases keys _).resolve_left hnil) hinSync
  case failed => exact absurd rfl hinSync

/-- The in-sync check makes a call only for a driver pod at its daemon set's generation. -/
theorem generation_of_inSyncSteps (keys : UpgradeKeys) {ns : NodeUpgradeState}
    (h : planCalls (inSyncSteps keys ns) ≠ []) :
    ns.driverPod.templateGeneration = .ok ns.driverDaemonSet.generation := by
  unfold inSyncSteps at h
  split at h
  · exact absurd rfl h
  · split_ifs at h with hb
    · exact generation_of_driverPodInSync (hb ▸ ‹_›)
    · exact absurd rfl h

/-- The one block with a call after its phase write: a node with the initial-state marker, on a
driver pod in sync, goes to `Done` and then loses the marker. A part of a block that went through
and holds its write, short of the whole block, is that write alone. -/
theorem nodeSteps_cut_after_write (keys : UpgradeKeys) (policy : DriverUpgradePolicySpec)
    (s : UpgradeState) (ns : NodeUpgradeState) {P : List Call}
    (hP : P <+: planCalls (nodeSteps keys policy s ns)) (hw : ∃ x ∈ P, x.isPhaseWrite = true)
    (hne : P ≠ planCalls (nodeSteps keys policy s ns)) :
    P = [.changeNodeUpgradeState ns.node .done] ∧
    planCalls (nodeSteps keys policy s ns) = [.changeNodeUpgradeState ns.node .done,
      Call.changeNodeUpgradeAnnotation ns.node keys.initialStateAnnotationKey "null"] ∧
    hasAnnotationKey ns.node keys.initialStateAnnotationKey = true ∧
    ns.driverPod.templateGeneration = .ok ns.driverDaemonSet.generation := by
  obtain ⟨x, hx, hxw⟩ := hw
  /- the part is neither empty nor the whole block: the block has two calls and the part is the
  first, which writes the phase -/
  have hnil : planCalls (nodeSteps keys policy s ns) ≠ [] := fun h =>
    List.not_mem_nil x (List.prefix_nil.mp (h ▸ hP) ▸ hx)
  have hsingle : ∀ a, planCalls (nodeSteps keys policy s ns) ≠ [a] := fun a h => by
    rw [h] at hP hne
    rcases List.prefix_cons_iff.mp hP with rfl | ⟨t, rfl, ht⟩
    exacts [List.not_mem_nil x hx, hne (by rw [List.prefix_nil.mp ht])]
  have hpair : ∀ a b, planCalls (nodeSteps keys policy s ns) = [a, b] →
      P = [a] ∧ a.isPhaseWrite = true := fun a b h => by
    rw [h] at hP hne
    rcases prefix_pair hP with rfl | rfl | rfl
    exacts [absurd hx (List.not_mem_nil x), ⟨rfl, List.mem_singleton.mp hx ▸ hxw⟩, absurd rfl hne]
  /- the marker's removal after `Done` is the one such block -/
  have hsynced : planCalls (nodeSteps keys policy s ns) = planCalls (inSyncSteps keys ns) →
      P = [.changeNodeUpgradeState ns.node .done] ∧
      planCalls (nodeSteps keys policy s ns) = [.changeNodeUpgradeState ns.node .done,
        Call.changeNodeUpgradeAnnotation ns.node keys.initialStateAnnotationKey "null"] ∧
      hasAnnotationKey ns.node keys.initialStateAnnotationKey = true ∧
      ns.driverPod.templateGeneration = .ok ns.driverDaemonSet.generation := fun h => by
    rcases inSyncSteps_cases keys ns with h' | ⟨hm, h'⟩ | ⟨-, h'⟩
    · exact absurd (h.trans h') hnil
    · exact ⟨(hpair _ _ (h.trans h')).1, h.trans h', hm,
        generation_of_inSyncSteps keys (h' ▸ List.cons_ne_nil _ _)⟩
    · exact absurd (h.trans h') (hsingle _)
  cases s
  case unknown | done =>
    rcases doneOrUnknownSteps_cases keys _ ns with h | h | ⟨-, h⟩ | ⟨-, h⟩
    exacts [absurd h hnil, absurd h (hsingle _), absurd h (hsingle _),
      Bool.noConfusion (hpair _ _ h).2]
  case upgradeRequired => exact absurd rfl (hsingle _)
  case cordonRequired | uncordonRequired => exact Bool.noConfusion (hpair _ _ rfl).2
  case podDeletionRequired => exact absurd rfl hnil
  case waitForJobsRequired | drainRequired =>
    simp only [nodeSteps, waitForJobsRequiredSteps, drainRequiredSteps] at hnil hsingle
    split_ifs at hnil hsingle <;> first | exact absurd rfl hnil | exact absurd rfl (hsingle _)
  case podRestartRequired => exact hsynced ((podRestartSteps_cases keys ns).resolve_left hnil)
  case failed => exact hsynced rfl

/-- Calls that leave a node's phase as it was, out of its block, hold no phase write: the table
writes no phase back to itself. -/
theorem nodeSteps_prefix_no_write (keys : UpgradeKeys) (policy : DriverUpgradePolicySpec)
    (r : NodeRecord) {P : List Call}
    (hP : P <+: planCalls (nodeSteps keys policy r.phase r.toNodeUpgradeState))
    (hph : (P.foldl NodeRecord.applyCall r).phase = r.phase) :
    ∀ x ∈ P, x.isPhaseWrite = false := fun
  | .changeNodeUpgradeState _ _, hx => by
    have hfit := nodeSteps_fits keys policy r.phase r.toNodeUpgradeState
    rw [foldl_applyCall_phase_of_write hx (hfit.sublist hP.sublist).oneWrite] at hph
    exact absurd hph (phaseTable_ne (List.all_eq_true.mp hfit.allowed _ (hP.subset hx)))
  | Call.changeNodeUpgradeAnnotation _ _ _, _ | .cordon _, _ | .uncordon _, _
  | .scheduleCheckOnPodCompletion _, _ | .schedulePodEviction _, _
  | .scheduleNodesDrain _, _ | .schedulePodsRestart _, _ => rfl

@[simp] theorem skipNodeUpgrade_foldl_applyCall (keys : UpgradeKeys) (r : NodeRecord)
    (P : List Call) :
    skipNodeUpgrade keys (P.foldl NodeRecord.applyCall r).node = skipNodeUpgrade keys r.node := by
  induction P generalizing r with
  | nil => rfl
  | cons c P ih => rw [List.foldl_cons, ih]; cases c <;> rfl

/-- A pass changes the policy only in the drain spec's selector. -/
theorem Cluster.pass_sameDecisions (keys : UpgradeKeys) (φ : Faults) (c : Cluster) :
    c.policy.SameDecisions (c.pass keys φ).policy :=
  ⟨rfl, rfl, rfl, drainEnabled_passEffects keys φ c⟩

/-- The record a cluster's records map a node to, found by the node's name. -/
theorem Cluster.eq_of_mem_map (c : Cluster) {f : NodeRecord → NodeRecord}
    (hf : ∀ r, (f r).node.name = r.node.name) {r r' : NodeRecord} (hr : r ∈ c.records)
    (hr' : r' ∈ c.records.map f) (hname : r'.node.name = r.node.name) : r' = f r := by
  obtain ⟨y, hy, rfl⟩ := List.mem_map.mp hr'
  rw [hf] at hname
  rw [List.inj_on_of_nodup_map c.nodup hy hr hname]

section Apart

variable (keys : UpgradeKeys) {c : Cluster}

/-- A pass under any faults keeps the nodes apart: it changes no driver pod. -/
theorem Cluster.Apart.pass (h : c.Apart) (φ : Faults) : (c.pass keys φ).Apart where
  auto := h.auto
  slots := by simpa only [Cluster.pass_records, List.length_map] using h.slots
  generations r₁ hr₁ := by
    obtain ⟨r, hr, rfl⟩ := List.mem_map.mp hr₁
    obtain ⟨P, -, -, heq⟩ := c.pass_record keys φ hr
    rw [heq, NodeRecord.foldl_applyCall_driverPod]
    exact h.generations r hr

/-- The calls a fault-free pass makes about a node of a cluster whose nodes run apart: its block,
under any policy that decides alike, but none under `UpgradeRequired` with the skip label. -/
theorem Cluster.Apart.nodeCalls_eq (h : c.Apart) {policy : DriverUpgradePolicySpec}
    (hp : policy.SameDecisions c.policy) {x : NodeRecord} (hx : x ∈ c.records) :
    c.nodeCalls keys x = if x.phase = .upgradeRequired ∧ skipNodeUpgrade keys x.node = true then []
      else planCalls (nodeSteps keys policy x.phase x.toNodeUpgradeState) := by
  rw [Cluster.nodeCalls, nodeSteps_of_sameDecisions hp]
  by_cases hph : x.phase = .upgradeRequired
  · rw [Cluster.admitted_of_slots keys h.slots hx hph]
    cases skipNodeUpgrade keys x.node <;> simp [hph]
  · simp [hph]

end Apart

/-- A failed pass is completed by the next one, as the spec's error handling relies on: the next
pass's snapshot reflects the outstanding work. Take a cluster whose nodes run apart (auto upgrade
on, slots for every node, driver pods that carry a template generation), a pass under any faults,
and a fault-free pass on the cluster it leaves. A node whose phase the failed pass left ends as
one fault-free pass leaves it. A node the failed pass left as one fault-free pass does ends as
two fault-free passes leave it. A node whose phase the failed pass wrote, short of its whole
block, is a node that went to `Done` and kept the initial-state marker when its removal failed:
the retry leaves it so, where a fault-free pass would have removed the marker. -/
theorem Cluster.retry_after_failed_pass (keys : UpgradeKeys) (φ : Faults) (c : Cluster)
    (h : c.Apart) :
    let failed := c.run keys [.pass φ]
    let retried := c.run keys [.pass φ, .pass noFaults]
    let once := c.run keys [.pass noFaults]
    let twice := c.run keys [.pass noFaults, .pass noFaults]
    ∀ r ∈ c.records, ∀ r₁ ∈ failed.records, ∀ r₂ ∈ retried.records,
      r₁.node.name = r.node.name → r₂.node.name = r.node.name →
      (r₁.phase = r.phase → r₂ ∈ once.records) ∧
      (r₁ ∈ once.records → r₂ ∈ twice.records) ∧
      (r₁.phase ≠ r.phase → r₁ ∉ once.records →
        r₂ = r₁ ∧ r₁.phase = .done ∧
        hasAnnotationKey r₁.node keys.initialStateAnnotationKey = true ∧
        { r₁ with node := { r₁.node with
            annotations := updateAnnotations r₁.node.annotations
              keys.initialStateAnnotationKey "null" } } ∈ once.records) := by
  intro failed retried once twice r hr r₁ hr₁ r₂ hr₂ hn₁ hn₂
  have h₁ : failed.Apart := h.pass keys φ
  have hself : c.policy.SameDecisions c.policy := ⟨rfl, rfl, rfl, rfl⟩
  have hp₁ : c.policy.SameDecisions failed.policy := c.pass_sameDecisions keys φ
  have honce : once.records = c.records.map fun x => (c.nodeCalls keys x).foldl
      NodeRecord.applyCall x := c.pass_noFaults_records keys h.auto h.generations
  /- the retry applies to the node the calls the failed pass's cluster makes about it -/
  have hr₂ : r₂ = (failed.nodeCalls keys r₁).foldl NodeRecord.applyCall r₁ :=
    failed.eq_of_mem_map (fun _ => NodeRecord.foldl_applyCall_name _ _) hr₁
      (failed.pass_noFaults_records keys h₁.auto h₁.generations ▸ hr₂) (hn₂.trans hn₁.symm)
  /- the failed pass got through a part of the calls a fault-free pass makes about the node -/
  obtain ⟨P, hP, hsub, heq⟩ := c.pass_record keys φ hr
  have hr₁' : r₁ = P.foldl NodeRecord.applyCall r :=
    (c.eq_of_mem_map (fun _ => NodeRecord.foldl_applyEntry_name _ _) hr hr₁ hn₁).trans heq
  have hPQ : P <+: c.nodeCalls keys r := by
    have hQ := passPlan_callsFor c.listedNames_snapshot_nodup keys c.policy (Cluster.mem_snapshot hr)
    rw [← c.callsFor_passPlan keys h.generations hr]
    refine List.prefix_of_prefix_length_le hP hQ (List.Sublist.length_le ?_)
    have hown : P.filter (·.nodeName == some r.node.name) = P := List.filter_eq_self.mpr
      fun x hx => List.all_eq_true.mp (nodeSteps_fits keys c.policy r.phase _).names x
        (hP.subset hx)
    rw [← hown]
    exact (hsub.trans (c.passCalls_prefix keys φ h.auto).sublist).filter _
  have hcalls := h.nodeCalls_eq keys hself hr
  refine ⟨fun hph => ?_, fun hin => ?_, fun hph hout => ?_⟩
  · /- the failed pass stopped before the node's write: the retry replays its block -/
    have hw := nodeSteps_prefix_no_write keys c.policy r hP (hr₁' ▸ hph)
    rw [honce]
    refine List.mem_map.mpr ⟨r, hr, ?_⟩
    rw [hr₂, h₁.nodeCalls_eq keys hp₁ hr₁, hph, hr₁', skipNodeUpgrade_foldl_applyCall]
    rw [hcalls] at hPQ ⊢
    split_ifs at hPQ ⊢
    · rw [List.prefix_nil.mp hPQ]
      rfl
    · exact (nodeSteps_replay keys c.policy r.phase r hP hw).symm
  · /- the failed pass did the node's fault-free work: the retry is the second pass -/
    have honce' : once.Apart := h.pass keys noFaults
    have hp : c.policy.SameDecisions once.policy := c.pass_sameDecisions keys noFaults
    have htwice : twice.records = once.records.map fun x =>
        (once.nodeCalls keys x).foldl NodeRecord.applyCall x :=
      once.pass_noFaults_records keys honce'.auto honce'.generations
    rw [hr₂, h₁.nodeCalls_eq keys hp₁ hr₁, ← honce'.nodeCalls_eq keys hp hin, htwice]
    exact List.mem_map_of_mem _ hin
  · /- the failed pass wrote the node's phase and failed after: the marker's removal -/
    have hw : ∃ x ∈ P, x.isPhaseWrite = true := by
      by_contra hno
      push_neg at hno
      exact hph (hr₁' ▸ foldl_applyCall_phase_of_no_write fun x hx => by simpa using hno x hx)
    have hne : P ≠ planCalls (nodeSteps keys c.policy r.phase r.toNodeUpgradeState) := by
      rintro rfl
      refine hout (honce ▸ List.mem_map.mpr ⟨r, hr, ?_⟩)
      rw [hr₁', hcalls, if_neg]
      rintro hskip
      obtain ⟨x, hx, -⟩ := hw
      rw [hcalls, if_pos hskip] at hPQ
      exact List.not_mem_nil x (List.prefix_nil.mp hPQ ▸ hx)
    obtain ⟨rfl, hblock, hmarker, hsync⟩ := nodeSteps_cut_after_write keys c.policy r.phase _ hP hw hne
    subst hr₁'
    refine ⟨?_, rfl, hmarker, honce ▸ List.mem_map.mpr ⟨r, hr, ?_⟩⟩
    · /- in `Done` on a driver pod in sync, the node waits on nothing -/
      have hsync' : r.driverPod.templateGeneration = .ok r.driverDaemonSet.generation := hsync
      rw [hr₂, h₁.nodeCalls_eq keys hp₁ hr₁]
      simp [NodeRecord.applyCall, nodeSteps, doneOrUnknownSteps, NodeRecord.toNodeUpgradeState,
        hsync', planCalls]
    · rw [hcalls, if_neg fun h' => by simp [h'.1, nodeSteps, planCalls] at hblock, hblock]
      rfl

/-- The exception at work: a node the administrator had cordoned reaches a driver pod in sync;
the pass writes `Done` and fails to remove the marker, and the retry leaves the node in `Done`,
cordoned, with the marker. -/
theorem retry_after_failed_pass_keeps_marker :
    let keys : UpgradeKeys := ⟨"skip", "initial-state", "skip-drain"⟩
    let pod : Pod := ⟨.ok 2, none, "Running", [⟨true⟩]⟩
    let node : Node := ⟨"a", true, [], [("initial-state", "true")]⟩
    let c : Cluster :=
      ⟨[⟨node, .podRestartRequired, pod, ⟨2⟩, true⟩], ⟨true, 1, none, none, none⟩, by decide⟩
    let removalFails : Faults := fun i => if i = 1 then some "conflict" else none
    let failed := c.run keys [.pass removalFails]
    let retried := c.run keys [.pass removalFails, .pass noFaults]
    let once := c.run keys [.pass noFaults]
    let twice := c.run keys [.pass noFaults, .pass noFaults]
    c.Apart ∧ retried.records = [⟨node, .done, pod, ⟨2⟩, false⟩] ∧
    ∀ r ∈ c.records, ∀ r₁ ∈ failed.records, ∀ r₂ ∈ retried.records,
      r₁.node.name = r.node.name → r₂.node.name = r.node.name →
      (r₁.phase = r.phase → r₂ ∈ once.records) ∧
      (r₁ ∈ once.records → r₂ ∈ twice.records) ∧
      (r₁.phase ≠ r.phase → r₁ ∉ once.records →
        r₂ = r₁ ∧ r₁.phase = .done ∧
        hasAnnotationKey r₁.node keys.initialStateAnnotationKey = true ∧
        { r₁ with node := { r₁.node with
            annotations := updateAnnotations r₁.node.annotations
              keys.initialStateAnnotationKey "null" } } ∈ once.records) := by
  intro keys pod node c removalFails
  have h : c.Apart := ⟨rfl, .inr (by decide), fun r hr => ⟨2, by simp_all [c, pod]⟩⟩
  exact ⟨h, by decide, Cluster.retry_after_failed_pass keys removalFails c h⟩

end DriverUpgrade
