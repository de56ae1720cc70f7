import DriverUpgrade.Cluster

/-! The initial-state marker. When a node enters the upgrade already unschedulable, the manager
writes the marker before the phase; near the end of the upgrade the marker sends the node to
`Done` in place of `UncordonRequired`, and is removed after that write. Along any run, a node the
manager wrote `UpgradeRequired` while unschedulable keeps the marker until it is written `Done`,
so it is never uncordoned by the upgrade. The converse fails: a marker left behind by an aborted
pass survives an outside uncordon and skips the uncordon of a later upgrade. -/
namespace DriverUpgrade

theorem lookup_filter_ne (l : List (String × String)) (key : String) :
    (l.filter (·.1 ≠ key)).lookup key = none := by
  induction l with
  | nil => rfl
  | cons x l ih =>
    rcases x with ⟨k, v⟩
    by_cases h : k = key
    · rwa [List.filter_cons_of_neg (by simpa using h)]
    · rw [List.filter_cons_of_pos (by simpa using h), List.lookup_cons,
        beq_false_of_ne (Ne.symm h)]
      exact ih

@[simp] theorem lookup_updateAnnotations (annotations : List (String × String))
    (key value : String) :
    (updateAnnotations annotations key value).lookup key =
      if value = "null" then none else some value := by
  unfold updateAnnotations
  split_ifs
  · exact lookup_filter_ne _ _
  · simp

/-- The marker invariant: a node written `UpgradeRequired` while unschedulable, and not written
`Done` since, carries the initial-state marker and is neither in `UncordonRequired` nor `Done`. -/
def NodeRecord.MarkerKept (keys : UpgradeKeys) (r : NodeRecord) : Prop :=
  r.wasUnschedulable = true →
    hasAnnotationKey r.node keys.initialStateAnnotationKey = true ∧
      r.phase ≠ .uncordonRequired ∧ r.phase ≠ .done

instance (keys : UpgradeKeys) : DecidablePred (NodeRecord.MarkerKept keys) :=
  fun _ => inferInstanceAs (Decidable (_ → _))

/-- The calls that keep the marker invariant of any node: writes of a phase counted in progress
other than `UncordonRequired`, writes of the marker, and calls that touch neither the phase nor
the annotations. -/
def Call.keepsMarker (keys : UpgradeKeys) : Call → Bool
  | .changeNodeUpgradeState _ q => q.inProgress && q != .uncordonRequired
  | Call.changeNodeUpgradeAnnotation _ key value =>
    key == keys.initialStateAnnotationKey && value != "null"
  | _ => true

theorem NodeRecord.MarkerKept.applyCall {keys : UpgradeKeys} {r : NodeRecord}
    (hr : r.MarkerKept keys) {c : Call} (hc : c.keepsMarker keys = true) :
    (r.applyCall c).MarkerKept keys := by
  cases c with
  | changeNodeUpgradeState n q =>
    have hq : q ≠ .upgradeRequired ∧ q ≠ .done ∧ q ≠ .uncordonRequired := by
      cases q <;> simp_all [Call.keepsMarker, UpgradeState.inProgress]
    intro hw
    simp only [NodeRecord.applyCall, if_neg hq.1, if_neg hq.2.1] at hw ⊢
    exact ⟨(hr hw).1, hq.2.2, hq.2.1⟩
  | changeNodeUpgradeAnnotation n key value =>
    simp only [Call.keepsMarker, Bool.and_eq_true, beq_iff_eq, bne_iff_ne] at hc
    intro hw
    simp only [NodeRecord.applyCall, hasAnnotationKey, hc.1, lookup_updateAnnotations,
      if_neg hc.2] at hw ⊢
    exact ⟨rfl, (hr hw).2⟩
  | _ => exact hr

theorem NodeRecord.MarkerKept.foldl {keys : UpgradeKeys} {r : NodeRecord} (hr : r.MarkerKept keys)
    {P : List Call} (hP : ∀ c ∈ P, c.keepsMarker keys = true) :
    (P.foldl NodeRecord.applyCall r).MarkerKept keys := by
  induction P generalizing r with
  | nil => exact hr
  | cons c P ih =>
    exact ih (hr.applyCall (hP c (List.mem_cons_self _ _)))
      fun c' hc' => hP c' (List.mem_cons_of_mem _ hc')

/-- The calls of the block of a node found under `Unknown` or `Done`. -/
theorem doneOrUnknownSteps_cases (keys : UpgradeKeys) (s : UpgradeState) (ns : NodeUpgradeState) :
    planCalls (doneOrUnknownSteps keys s ns) = [] ∨
    planCalls (doneOrUnknownSteps keys s ns) = [.changeNodeUpgradeState ns.node .done] ∨
    ns.node.unschedulable = false ∧
      planCalls (doneOrUnknownSteps keys s ns) =
        [.changeNodeUpgradeState ns.node .upgradeRequired] ∨
    ns.node.unschedulable = true ∧ planCalls (doneOrUnknownSteps keys s ns) =
      [ Call.changeNodeUpgradeAnnotation ns.node keys.initialStateAnnotationKey "true",
        .changeNodeUpgradeState ns.node .upgradeRequired] := by
  unfold doneOrUnknownSteps
  split
  · simp [planCalls]
  · split_ifs <;> simp_all [planCalls, isNodeUnschedulable]

/-- The calls of the block of a node whose driver pod `isDriverPodInSync` examines. -/
theorem inSyncSteps_cases (keys : UpgradeKeys) (ns : NodeUpgradeState) :
    planCalls (inSyncSteps keys ns) = [] ∨
    hasAnnotationKey ns.node keys.initialStateAnnotationKey = true ∧
      planCalls (inSyncSteps keys ns) = [.changeNodeUpgradeState ns.node .done,
        Call.changeNodeUpgradeAnnotation ns.node keys.initialStateAnnotationKey "null"] ∨
    hasAnnotationKey ns.node keys.initialStateAnnotationKey = false ∧
      planCalls (inSyncSteps keys ns) = [.changeNodeUpgradeState ns.node .uncordonRequired] := by
  unfold inSyncSteps syncedNodeSteps
  split
  · simp [planCalls]
  · split_ifs <;> simp_all [planCalls]

theorem podRestartSteps_cases (keys : UpgradeKeys) (ns : NodeUpgradeState) :
    planCalls (podRestartSteps keys ns) = [] ∨
      planCalls (podRestartSteps keys ns) = planCalls (inSyncSteps keys ns) := by
  unfold podRestartSteps
  split
  · simp [planCalls]
  · split_ifs <;> simp [planCalls]

theorem NodeRecord.MarkerKept.of_wasUnschedulable_false {keys : UpgradeKeys} {r : NodeRecord}
    (h : r.wasUnschedulable = false) : r.MarkerKept keys :=
  fun hw => absurd (h ▸ hw) Bool.false_ne_true

theorem foldl_take_singleton {P : NodeRecord → Prop} {r : NodeRecord} {a : Call} (h0 : P r)
    (h1 : P (r.applyCall a)) (k : Nat) : P (([a].take k).foldl NodeRecord.applyCall r) := by
  rcases k with _ | k
  exacts [h0, by rwa [List.take_succ_cons, List.take_nil]]

theorem foldl_take_pair {P : NodeRecord → Prop} {r : NodeRecord} {a b : Call} (h0 : P r)
    (h1 : P (r.applyCall a)) (h2 : P ((r.applyCall a).applyCall b)) (k : Nat) :
    P (([a, b].take k).foldl NodeRecord.applyCall r) := by
  rcases k with _ | _ | k
  exacts [h0, h1, by rwa [List.take_succ_cons, List.take_succ_cons, List.take_nil]]

/-- The blocks that start an upgrade keep the marker invariant, whatever prefix a pass applies. -/
theorem markerKept_doneOrUnknownSteps (keys : UpgradeKeys) (s : UpgradeState) {r : NodeRecord}
    (hr : r.MarkerKept keys) (k : Nat) :
    (((planCalls (doneOrUnknownSteps keys s r.toNodeUpgradeState)).take k).foldl
      NodeRecord.applyCall r).MarkerKept keys := by
  rcases doneOrUnknownSteps_cases keys s r.toNodeUpgradeState with
    h | h | ⟨hu, h⟩ | ⟨hu, h⟩ <;> rw [h]
  · simpa using hr
  · refine foldl_take_singleton hr (.of_wasUnschedulable_false ?_) k
    rfl
  · refine foldl_take_singleton hr (.of_wasUnschedulable_false ?_) k
    exact hu
  · /- the marker is written first, so the phase write finds it -/
    refine foldl_take_pair hr (hr.applyCall ?_) (fun _ => ⟨?_, ?_, ?_⟩) k
    all_goals simp [NodeRecord.applyCall, Call.keepsMarker, hasAnnotationKey]

/-- The blocks that end an upgrade keep the marker invariant, whatever prefix a pass applies. -/
theorem markerKept_inSyncSteps (keys : UpgradeKeys) {r : NodeRecord} (hr : r.MarkerKept keys)
    (k : Nat) :
    (((planCalls (inSyncSteps keys r.toNodeUpgradeState)).take k).foldl
      NodeRecord.applyCall r).MarkerKept keys := by
  rcases inSyncSteps_cases keys r.toNodeUpgradeState with h | ⟨hm, h⟩ | ⟨hm, h⟩ <;> rw [h]
  · simpa using hr
  · refine foldl_take_pair hr (.of_wasUnschedulable_false ?_) (.of_wasUnschedulable_false ?_) k <;>
      rfl
  · /- without the marker the node was never written `UpgradeRequired` while unschedulable -/
    have hw : r.wasUnschedulable = false := by
      cases hw : r.wasUnschedulable
      exacts [rfl, nomatch (hr hw).1.symm.trans hm]
    refine foldl_take_singleton hr (.of_wasUnschedulable_false ?_) k
    exact hw

/-- Whatever prefix of a node's block a pass applies, the marker invariant is kept. -/
theorem markerKept_block (keys : UpgradeKeys) (policy : DriverUpgradePolicySpec) (r : NodeRecord)
    (hr : r.MarkerKept keys) (k : Nat) :
    (((planCalls (nodeSteps keys policy r.phase r.toNodeUpgradeState)).take k).foldl
      NodeRecord.applyCall r).MarkerKept keys := by
  rcases hp : r.phase
  case unknown | done => exact markerKept_doneOrUnknownSteps keys _ hr k
  case failed => exact markerKept_inSyncSteps keys hr k
  case podRestartRequired =>
    rcases podRestartSteps_cases keys r.toNodeUpgradeState with h | h <;> simp only [nodeSteps, h]
    · simpa using hr
    · exact markerKept_inSyncSteps keys hr k
  case uncordonRequired =>
    have hw : r.wasUnschedulable = false := by simpa [NodeRecord.MarkerKept, hp] using hr
    simp only [nodeSteps, uncordonRequiredSteps, planCalls]
    refine foldl_take_pair hr (.of_wasUnschedulable_false ?_) (.of_wasUnschedulable_false ?_) k
    exacts [hw, rfl]
  /- the other blocks write phases counted in progress and cordon -/
  all_goals refine hr.foldl fun c hc => List.all_eq_true.mp ?_ c (List.take_subset _ _ hc)
  all_goals simp only [nodeSteps, cordonRequiredSteps, waitForJobsRequiredSteps,
    drainRequiredSteps]
  all_goals (try split_ifs) <;> rfl

theorem Cluster.pass_markerKept (keys : UpgradeKeys) (φ : Faults) (c : Cluster)
    (h : ∀ r ∈ c.records, r.MarkerKept keys) :
    ∀ r ∈ (c.pass keys φ).records, r.MarkerKept keys := by
  simp only [Cluster.pass_records, List.mem_map]
  rintro _ ⟨r, hr, rfl⟩
  obtain ⟨P, hpre, -, heq⟩ := c.pass_record keys φ hr
  rw [heq, List.prefix_iff_eq_take.mp hpre]
  exact markerKept_block keys c.policy r (h r hr) _

theorem Cluster.step_markerKept (keys : UpgradeKeys) (c : Cluster) (ev : Event)
    (h : ∀ r ∈ c.records, r.MarkerKept keys) :
    ∀ r ∈ (c.step keys ev).records, r.MarkerKept keys := by
  cases ev with
  | pass φ => exact c.pass_markerKept keys φ h
  | addNode node pod ds =>
    simp only [Cluster.step, Cluster.addNode]
    split_ifs
    · exact h
    · intro r hr
      rcases List.mem_append.mp hr with hr | hr
      · exact h r hr
      · simp [List.mem_singleton.mp hr, NodeRecord.MarkerKept]
  | move name newState =>
    simp only [Cluster.step, Cluster.mapRecords, List.mem_map]
    rintro _ ⟨r, hr, rfl⟩
    split_ifs with hm
    · intro hw
      refine ⟨(h r hr hw).1, ?_⟩
      cases newState <;> simp_all [UpgradeState.outOfBand]
    · exact h r hr
  | setUnschedulable name unschedulable =>
    simp only [Cluster.step, Cluster.mapRecords, List.mem_map]
    rintro _ ⟨r, hr, rfl⟩
    split_ifs
    exacts [h r hr, h r hr]
  | updateDriver name pod ds =>
    simp only [Cluster.step, Cluster.mapRecords, List.mem_map]
    rintro _ ⟨r, hr, rfl⟩
    split_ifs
    exacts [h r hr, h r hr]

/-- Under the marker invariant, a pass uncordons no node written `UpgradeRequired` while
unschedulable: it uncordons only nodes under `UncordonRequired`. -/
theorem Cluster.pass_uncordon_wasSchedulable (keys : UpgradeKeys) (φ : Faults) (c : Cluster)
    (h : ∀ r ∈ c.records, r.MarkerKept keys) {n : Node}
    (hn : Call.uncordon n ∈ (c.passEffects keys φ).log.map Prod.fst) {r : NodeRecord}
    (hr : r ∈ c.records) (hname : r.node.name = n.name) : r.wasUnschedulable = false := by
  cases hauto : c.policy.autoUpgrade
  · simp [Cluster.passEffects, applyState, hauto] at hn
  obtain ⟨ns, hns, rfl⟩ :=
    applyState_uncordon_listed c.listedNames_snapshot_nodup keys c.policy hauto φ _ hn
  obtain ⟨r', hr', rfl⟩ := List.mem_map.mp hns
  obtain rfl : r = r' := List.inj_on_of_nodup_map c.nodup hr (List.mem_filter.mp hr').1 hname
  have hphase : r.phase = .uncordonRequired := of_decide_eq_true (List.mem_filter.mp hr').2
  cases hw : r.wasUnschedulable
  · rfl
  · exact absurd hphase (h r hr hw).2.1

/-- Along any run from a cluster where the marker invariant holds (for instance one where no
node was written `UpgradeRequired` yet), a node the manager wrote `UpgradeRequired` while it was
unschedulable, and has not written `Done` since, carries the initial-state marker, is not in
`UncordonRequired`, and is not uncordoned by the next pass. -/
theorem cordoned_node_never_uncordoned (keys : UpgradeKeys) (c : Cluster)
    (h0 : ∀ r ∈ c.records, r.MarkerKept keys) (events : List Event) :
    let c' := c.run keys events
    (∀ r ∈ c'.records, r.wasUnschedulable = true →
      hasAnnotationKey r.node keys.initialStateAnnotationKey = true ∧
        r.phase ≠ .uncordonRequired ∧ r.phase ≠ .done) ∧
    ∀ φ n, Call.uncordon n ∈ (c'.passEffects keys φ).log.map Prod.fst →
      ∀ r ∈ c'.records, r.node.name = n.name → r.wasUnschedulable = false := by
  intro c'
  have hinv : ∀ r ∈ c'.records, r.MarkerKept keys :=
    Cluster.run_invariant keys _ (fun c ev h => c.step_markerKept keys ev h) c events h0
  exact ⟨hinv, fun φ n hn r hr hname =>
    c'.pass_uncordon_wasSchedulable keys φ hinv hn hr hname⟩

theorem cordoned_node_never_uncordoned_fresh :
    let keys : UpgradeKeys := ⟨"skip", "initial-state", "skip-drain"⟩
    let c : Cluster := ⟨[⟨⟨"a", true, [], []⟩, .done, ⟨.ok 1, none, "Running", [⟨true⟩]⟩, ⟨2⟩,
      false⟩], ⟨true, 1, none, none, none⟩, by decide⟩
    (∀ r ∈ c.records, r.MarkerKept keys) ∧
    ∀ events, let c' := c.run keys events
      (∀ r ∈ c'.records, r.wasUnschedulable = true →
        hasAnnotationKey r.node keys.initialStateAnnotationKey = true ∧
          r.phase ≠ .uncordonRequired ∧ r.phase ≠ .done) ∧
      ∀ φ n, Call.uncordon n ∈ (c'.passEffects keys φ).log.map Prod.fst →
        ∀ r ∈ c'.records, r.node.name = n.name → r.wasUnschedulable = false :=
  ⟨by decide, fun events => cordoned_node_never_uncordoned _ _ (by decide) events⟩

/-- A node that was schedulable when its phase was written `UpgradeRequired` can carry the
marker: the first pass writes the marker for the cordoned `Done` node and fails on the phase
write; the node is uncordoned from outside; the second pass writes `UpgradeRequired` with the
stale marker in place. The upgrade then cordons the node and, from `PodRestartRequired`, goes to
`Done` and removes the marker without uncordoning it. -/
theorem stale_marker_skips_uncordon :
    let keys : UpgradeKeys := ⟨"skip", "initial-state", "skip-drain"⟩
    let pod₁ : Pod := ⟨.ok 1, none, "Running", [⟨true⟩]⟩
    let pod₂ : Pod := ⟨.ok 2, none, "Running", [⟨true⟩]⟩
    let c : Cluster := ⟨[⟨⟨"a", true, [], []⟩, .done, pod₁, ⟨2⟩, false⟩],
      ⟨true, 1, none, none, none⟩, by decide⟩
    let phaseWriteFails : Faults := fun i => if i = 1 then some "conflict" else none
    let c₁ := c.run keys [.pass phaseWriteFails, .setUnschedulable "a" false, .pass noFaults]
    let c₂ := c₁.run keys [.pass noFaults, .pass noFaults, .pass noFaults,
      .move "a" .drainRequired, .pass noFaults, .updateDriver "a" pod₂ ⟨2⟩, .pass noFaults]
    c₁.records = [⟨⟨"a", false, [], [("initial-state", "true")]⟩, .upgradeRequired, pod₁, ⟨2⟩,
      false⟩] ∧
    c₂.records = [⟨⟨"a", true, [], []⟩, .done, pod₂, ⟨2⟩, false⟩] := by
  decide

end DriverUpgrade
