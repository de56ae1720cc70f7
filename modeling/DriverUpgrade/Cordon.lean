import DriverUpgrade.Marker
import DriverUpgrade.Slots

/-! Cordoning, and the nodes the pod and drain managers are handed. The only phase write into
the phases those managers own comes right after the cordon, under `CordonRequired`, and the
blocks of those phases never uncordon. So along any run every node in them is unschedulable, and
each pass hands the managers only unschedulable nodes, to wait for their jobs, evict their pods,
drain them or restart their driver pods. A node labelled to skip upgrades and not yet upgrading
never gets a slot, so it is never cordoned, uncordoned or handed to the managers. -/
namespace DriverUpgrade

/-- The cordon invariant: a node in a phase the pod and drain managers own is unschedulable. -/
def NodeRecord.Cordoned (r : NodeRecord) : Prop :=
  r.phase.outOfBand = true → r.node.unschedulable = true

instance : DecidablePred NodeRecord.Cordoned := fun _ => inferInstanceAs (Decidable (_ → _))

theorem phaseTable_enters_outOfBand {policy : DriverUpgradePolicySpec} {p q : UpgradeState}
    (h : phaseTable policy p q = true) (hq : q.outOfBand = true) (hp : p.outOfBand = false) :
    p = .cordonRequired := by
  cases p <;> first
    | rfl
    | exact absurd hp (by decide)
    | cases q <;> first | exact absurd hq (by decide) | cases h

theorem foldl_applyCall_unschedulable {r : NodeRecord} (h : r.node.unschedulable = true)
    {P : List Call} (hP : ∀ n, Call.uncordon n ∉ P) :
    (P.foldl NodeRecord.applyCall r).node.unschedulable = true := by
  induction P generalizing r with
  | nil => exact h
  | cons c P ih =>
    refine ih ?_ fun n hn => hP n (List.mem_cons_of_mem _ hn)
    cases c with
    | uncordon n => exact absurd (List.mem_cons_self _ _) (hP n)
    | cordon n => rfl
    | _ => exact h

/-- Whatever prefix of a node's block a pass applies, the cordon invariant is kept. -/
theorem cordoned_block (keys : UpgradeKeys) (policy : DriverUpgradePolicySpec) (r : NodeRecord)
    (hr : r.Cordoned) (k : Nat) :
    (((planCalls (nodeSteps keys policy r.phase r.toNodeUpgradeState)).take k).foldl
      NodeRecord.applyCall r).Cordoned := by
  have hallowed : ∀ c ∈ (planCalls (nodeSteps keys policy r.phase r.toNodeUpgradeState)).take k,
      allowedCall policy r.phase c = true := fun c hc =>
    List.all_eq_true.mp (nodeSteps_fits keys policy r.phase _).allowed c (List.take_subset _ _ hc)
  cases hb : r.phase.outOfBand
  · by_cases hc : r.phase = .cordonRequired
    · /- the write of `WaitForJobsRequired` follows the cordon -/
      simp only [hc, nodeSteps, cordonRequiredSteps, planCalls]
      exact foldl_take_pair hr (fun _ => by rfl) (fun _ => by rfl) k
    · /- from the other phases outside them the table writes none of the owned phases -/
      intro hout
      rcases foldl_applyCall_phase r _ with h | ⟨n, q, hm, hq⟩
      · exact absurd (h ▸ hout) (by simp [hb])
      · exact absurd (phaseTable_enters_outOfBand (hallowed _ hm) (hq ▸ hout) hb) hc
  · /- the blocks of the owned phases never uncordon -/
    refine fun _ => foldl_applyCall_unschedulable (hr hb) fun n hn => ?_
    have h : r.phase = .uncordonRequired := beq_iff_eq.mp (hallowed _ hn)
    rw [h] at hb
    cases hb

theorem Cluster.run_cordoned (keys : UpgradeKeys) (c : Cluster) (h : ∀ r ∈ c.records, r.Cordoned)
    (events : List Event) : ∀ r ∈ (c.run keys events).records, r.Cordoned :=
  Cluster.run_invariant keys (fun c => ∀ r ∈ c.records, r.Cordoned)
    (Cluster.step_forall keys
      (fun φ c h => c.pass_forall_of_block keys φ fun r hr => cordoned_block keys _ r (h r hr))
      (fun _ _ hr hb _ _ => hr hb) (fun _ _ _ => nofun)
      (fun _ _ _ hp hb => by rcases hp with hp | hp <;> simp [hp, UpgradeState.outOfBand] at hb)
      (fun _ _ _ hr => hr))
    c events h

/-! ### What the pod and drain managers are handed -/

/-- The nodes a call hands to the pod or drain manager: those whose jobs it waits for, whose pods
it evicts, or which it drains. -/
def Call.handedNodes : Call → List Node
  | .scheduleCheckOnPodCompletion config | .schedulePodEviction config => config.nodes
  | .scheduleNodesDrain config => config.nodes
  | _ => []

/-- The driver pods a call hands to the pod manager to restart. -/
def Call.restartedPods : Call → List Pod
  | .schedulePodsRestart pods => pods
  | _ => []

/-- What a call hands to the pod and drain managers comes from the snapshot's lists of the phases
they own: the nodes from any of them, the driver pods from `PodRestartRequired`. -/
def HandsListed (cs : ClusterUpgradeState) (c : Call) : Prop :=
  (∀ n ∈ c.handedNodes, ∃ s, s.outOfBand = true ∧ ∃ ns ∈ cs.nodeStates s, ns.node = n) ∧
    ∀ p ∈ c.restartedPods, ∃ ns ∈ cs.nodeStates .podRestartRequired, ns.driverPod = p

theorem handsListed_of_nodeName {cs : ClusterUpgradeState} {c : Call} {name : String}
    (h : c.nodeName = some name) : HandsListed cs c := by
  cases c <;> simp_all [Call.nodeName, HandsListed, Call.handedNodes, Call.restartedPods]

theorem handsListed_of_nodes {cs : ClusterUpgradeState} {s : UpgradeState}
    (hs : s.outOfBand = true) {c : Call} (hn : c.handedNodes = (cs.nodeStates s).map (·.node))
    (hp : c.restartedPods = []) : HandsListed cs c := by
  refine ⟨fun n hmem => ⟨s, hs, List.mem_map.mp (hn ▸ hmem)⟩, fun p hmem => ?_⟩
  simp [hp] at hmem

theorem handsListed_flatMap {cs : ClusterUpgradeState} {f : NodeUpgradeState → List Step}
    (hf : NamesOwn f) (l : List NodeUpgradeState) :
    ∀ c ∈ planCalls (l.flatMap f), HandsListed cs c := by
  induction l with
  | nil => simp [planCalls]
  | cons ns l ih =>
    intro c hc
    rw [List.flatMap_cons] at hc
    rcases List.mem_append.mp ((prefix_planCalls_append _ _).subset hc) with h | h
    · exact handsListed_of_nodeName (eq_of_beq (List.all_eq_true.mp (hf ns) c h))
    · exact ih c h

theorem mem_passPlan {keys : UpgradeKeys} {cs : ClusterUpgradeState}
    {policy : DriverUpgradePolicySpec} {c : Call} (hc : c ∈ planCalls (passPlan keys cs policy)) :
    ∃ s, c ∈ planCalls (processorPlan keys cs policy s) := by
  have hc' :=
    (prefix_planCalls_flatten (processingOrder.map (processorPlan keys cs policy))).subset hc
  rw [List.map_map] at hc'
  obtain ⟨_, hp, hcp⟩ := List.mem_flatten.mp hc'
  obtain ⟨s, -, rfl⟩ := List.mem_map.mp hp
  exact ⟨s, hcp⟩

/-- Every call of a pass hands the pod and drain managers only what the snapshot lists under the
phases they own. -/
theorem passPlan_handsListed (keys : UpgradeKeys) (cs : ClusterUpgradeState)
    (policy : DriverUpgradePolicySpec) {c : Call} (hc : c ∈ planCalls (passPlan keys cs policy)) :
    HandsListed cs c := by
  obtain ⟨s, hcp⟩ := mem_passPlan hc
  have own := nodeSteps_namesOwn keys policy
  have hdrain : NamesOwn drainRequiredSteps := fun ns => by
    simp [drainRequiredSteps, planCalls, Call.nodeName]
  have tail : ∀ (p q : List Step), c ∈ planCalls (p ++ q) → c ∈ planCalls p ∨ c ∈ planCalls q :=
    fun p q h => List.mem_append.mp ((prefix_planCalls_append p q).subset h)
  cases s
  case upgradeRequired =>
    rw [processorPlan, upgradeRequiredPlan, planCalls_map_call] at hcp
    obtain ⟨ns, -, rfl⟩ := List.mem_map.mp hcp
    exact handsListed_of_nodeName rfl
  case waitForJobsRequired =>
    rcases tail _ _ hcp with h | h
    · exact handsListed_flatMap (f := waitForJobsRequiredSteps _) (own .waitForJobsRequired) _ c h
    · split at h
      · exact absurd h (List.not_mem_nil _)
      split_ifs at h
      · exact absurd h (List.not_mem_nil _)
      · exact absurd h (List.not_mem_nil _)
      · obtain rfl := List.mem_singleton.mp h
        exact handsListed_of_nodes (s := .waitForJobsRequired) rfl rfl rfl
  case podDeletionRequired =>
    simp only [processorPlan, podDeletionRequiredPlan] at hcp
    split_ifs at hcp
    · exact absurd hcp (List.not_mem_nil _)
    · obtain rfl := List.mem_singleton.mp hcp
      exact handsListed_of_nodes (s := .podDeletionRequired) rfl rfl rfl
  case drainRequired =>
    simp only [processorPlan, drainPlan] at hcp
    split at hcp
    · split_ifs at hcp
      · obtain rfl := List.mem_singleton.mp hcp
        exact handsListed_of_nodes (s := .drainRequired) rfl rfl rfl
      · exact handsListed_flatMap hdrain _ c hcp
    · exact handsListed_flatMap hdrain _ c hcp
  case podRestartRequired =>
    rcases tail _ _ hcp with h | h
    · exact handsListed_flatMap (f := podRestartSteps keys) (own .podRestartRequired) _ c h
    · simp only [planCalls, List.mem_singleton] at h
      subst h
      refine ⟨fun n hn => by simp [Call.handedNodes] at hn, fun p hmem => ?_⟩
      obtain ⟨ns, hns, rfl⟩ := List.mem_map.mp hmem
      exact ⟨ns, (List.mem_filter.mp hns).1, rfl⟩
  case unknown =>
    exact handsListed_flatMap (f := doneOrUnknownSteps keys .unknown) (own .unknown) _ c hcp
  case done => exact handsListed_flatMap (f := doneOrUnknownSteps keys .done) (own .done) _ c hcp
  case cordonRequired =>
    exact handsListed_flatMap (f := cordonRequiredSteps) (own .cordonRequired) _ c hcp
  case failed => exact handsListed_flatMap (f := inSyncSteps keys) (own .failed) _ c hcp
  case uncordonRequired =>
    exact handsListed_flatMap (f := uncordonRequiredSteps) (own .uncordonRequired) _ c hcp

/-- What a pass hands the pod and drain managers, under any faults, belongs to nodes in the
phases they own: the nodes themselves, and the driver pods of nodes in `PodRestartRequired`. -/
theorem Cluster.pass_handed (keys : UpgradeKeys) (φ : Faults) (c : Cluster) {call : Call}
    (hcall : call ∈ (c.passEffects keys φ).log.map Prod.fst) :
    (∀ n ∈ call.handedNodes, ∃ r ∈ c.records, r.phase.outOfBand = true ∧ r.node = n) ∧
    ∀ p ∈ call.restartedPods, ∃ r ∈ c.records, r.phase = .podRestartRequired ∧ r.driverPod = p := by
  cases hauto : c.policy.autoUpgrade
  · simp [Cluster.passEffects, applyState, hauto] at hcall
  obtain ⟨hn, hp⟩ :=
    passPlan_handsListed keys c.snapshot c.policy ((c.passCalls_prefix keys φ hauto).subset hcall)
  refine ⟨fun n hmem => ?_, fun p hmem => ?_⟩
  · obtain ⟨s, hs, ns, hns, rfl⟩ := hn n hmem
    obtain ⟨r, hr, rfl⟩ := List.mem_map.mp hns
    obtain ⟨hr, hphase⟩ := List.mem_filter.mp hr
    exact ⟨r, hr, of_decide_eq_true hphase ▸ hs, rfl⟩
  · obtain ⟨ns, hns, rfl⟩ := hp p hmem
    obtain ⟨r, hr, rfl⟩ := List.mem_map.mp hns
    obtain ⟨hr, hphase⟩ := List.mem_filter.mp hr
    exact ⟨r, hr, of_decide_eq_true hphase, rfl⟩

/-- From a cluster where every node in the phases the pod and drain managers own is
unschedulable, along any run of passes under any faults and of out-of-band events, every node in
those phases stays unschedulable, and every pass hands the managers only unschedulable nodes: the
nodes whose jobs it waits for, whose pods it evicts and which it drains, and the nodes, in
`PodRestartRequired`, whose driver pods it restarts. -/
theorem Cluster.cordon_safety (keys : UpgradeKeys) (c : Cluster)
    (h : ∀ r ∈ c.records, r.Cordoned) (events : List Event) (φ : Faults) :
    let c' := c.run keys events
    (∀ r ∈ c'.records, r.phase.outOfBand = true → r.node.unschedulable = true) ∧
    ∀ call ∈ (c'.passEffects keys φ).log.map Prod.fst,
      (∀ n ∈ call.handedNodes, n.unschedulable = true) ∧
      ∀ p ∈ call.restartedPods, ∃ r ∈ c'.records,
        r.phase = .podRestartRequired ∧ r.driverPod = p ∧ r.node.unschedulable = true := by
  intro c'
  have hinv := c.run_cordoned keys h events
  refine ⟨hinv, fun call hcall => ⟨fun n hn => ?_, fun p hp => ?_⟩⟩
  · obtain ⟨r, hr, hb, rfl⟩ := (c'.pass_handed keys φ hcall).1 n hn
    exact hinv r hr hb
  · obtain ⟨r, hr, hphase, rfl⟩ := (c'.pass_handed keys φ hcall).2 p hp
    exact ⟨r, hr, hphase, rfl, hinv r hr (by rw [hphase]; rfl)⟩

theorem cordon_safety_drain_enabled :
    let keys : UpgradeKeys := ⟨"skip", "initial-state", "skip-drain"⟩
    let pod : Pod := ⟨.ok 1, none, "Running", [⟨true⟩]⟩
    let c : Cluster := ⟨[⟨⟨"a", true, [], []⟩, .drainRequired, pod, ⟨2⟩, false⟩,
      ⟨⟨"b", false, [], []⟩, .done, pod, ⟨2⟩, false⟩], ⟨true, 0, none, none, some ⟨true, ""⟩⟩,
      by decide⟩
    (∀ r ∈ c.records, r.Cordoned) ∧ ∀ events φ,
      let c' := c.run keys events
      (∀ r ∈ c'.records, r.phase.outOfBand = true → r.node.unschedulable = true) ∧
      ∀ call ∈ (c'.passEffects keys φ).log.map Prod.fst,
        (∀ n ∈ call.handedNodes, n.unschedulable = true) ∧
        ∀ p ∈ call.restartedPods, ∃ r ∈ c'.records,
          r.phase = .podRestartRequired ∧ r.driverPod = p ∧ r.node.unschedulable = true :=
  ⟨by decide, fun events φ => Cluster.cordon_safety _ _ (by decide) events φ⟩

/-! ### Nodes labelled to skip upgrades -/

/-- A node labelled to skip upgrades is not upgrading: it is `Unknown`, `Done` or
`UpgradeRequired`. -/
def NodeRecord.SkipHeld (keys : UpgradeKeys) (r : NodeRecord) : Prop :=
  skipNodeUpgrade keys r.node = true → r.phase.inProgress = false

instance (keys : UpgradeKeys) : DecidablePred (NodeRecord.SkipHeld keys) :=
  fun _ => inferInstanceAs (Decidable (_ → _))

theorem NodeRecord.foldl_applyEntry_labels (r : NodeRecord) (log : List (Call × Option Error)) :
    (log.foldl NodeRecord.applyEntry r).node.labels = r.node.labels := by
  induction log generalizing r with
  | nil => rfl
  | cons x log ih =>
    rw [List.foldl_cons, ih, NodeRecord.applyEntry]
    split_ifs
    · cases x.1 <;> rfl
    · rfl

/-- A pass writes `CordonRequired` only for the nodes the slots reach: among the first
`upgradesAvailable` it lists under `UpgradeRequired` without the skip label. -/
theorem passPlan_writes_cordonRequired (keys : UpgradeKeys) {cs : ClusterUpgradeState}
    (policy : DriverUpgradePolicySpec) (hnd : (listedNames cs).Nodup) {n : Node}
    (hc : Call.changeNodeUpgradeState n .cordonRequired ∈ planCalls (passPlan keys cs policy)) :
    ∃ ns ∈ ((cs.nodeStates .upgradeRequired).filter fun ns => !skipNodeUpgrade keys ns.node).take
      (upgradesAvailable cs policy).toNat, ns.node = n := by
  obtain ⟨s, hs⟩ := mem_passPlan hc
  by_cases hur : s = .upgradeRequired
  · subst hur
    rw [processorPlan, upgradeRequiredPlan, planCalls_map_call] at hs
    obtain ⟨ns, hns, heq⟩ := List.mem_map.mp hs
    exact ⟨ns, hns, (Call.changeNodeUpgradeState.inj heq).1⟩
  · /- the other processors write `CordonRequired` for no node -/
    have hmem : Call.changeNodeUpgradeState n .cordonRequired ∈
        callsFor n.name (planCalls (processorPlan keys cs policy s)) :=
      List.mem_filter.mpr ⟨hs, by simp [Call.nodeName]⟩
    obtain ⟨ns, -, hc'⟩ := List.mem_flatMap.mp
      ((processorPlan_callsFor keys cs policy s (nodup_names_of_listed hnd s) n.name).subset hmem)
    have := List.all_eq_true.mp (nodeSteps_fits keys policy s ns).allowed _ hc'
    cases s <;> simp_all [allowedCall, phaseTable]

/-- A pass keeps every node labelled to skip upgrades out of the phases counted in progress: the
only write into them is `CordonRequired`, which a pass makes only for nodes without the label. -/
theorem Cluster.pass_skipHeld (keys : UpgradeKeys) (φ : Faults) (c : Cluster)
    (h : ∀ r ∈ c.records, r.SkipHeld keys) : ∀ r ∈ (c.pass keys φ).records, r.SkipHeld keys := by
  simp only [Cluster.pass_records, List.mem_map]
  rintro _ ⟨r, hr, rfl⟩ hskip
  replace hskip : skipNodeUpgrade keys r.node = true := by
    simpa only [skipNodeUpgrade, NodeRecord.foldl_applyEntry_labels] using hskip
  cases hin : ((c.passEffects keys φ).log.foldl NodeRecord.applyEntry r).phase.inProgress
  · rfl
  obtain ⟨-, hw⟩ := c.pass_enters_inProgress keys φ hr hin (h r hr hskip)
  cases hauto : c.policy.autoUpgrade
  · simp [Cluster.passEffects, applyState, hauto] at hw
  obtain ⟨ns, hns, hnode⟩ := passPlan_writes_cordonRequired keys c.policy
    c.listedNames_snapshot_nodup ((c.passCalls_prefix keys φ hauto).subset hw)
  have hfree := (List.mem_filter.mp (List.take_subset _ _ hns)).2
  simp [hnode, hskip] at hfree

theorem Cluster.run_skipHeld (keys : UpgradeKeys) (c : Cluster)
    (h : ∀ r ∈ c.records, r.SkipHeld keys) (events : List Event) :
    ∀ r ∈ (c.run keys events).records, r.SkipHeld keys :=
  Cluster.run_invariant keys (fun c => ∀ r ∈ c.records, r.SkipHeld keys)
    (Cluster.step_forall keys (fun φ c h => c.pass_skipHeld keys φ h)
      (fun r _ hr hb _ hskip =>
        absurd (hr hskip) (by simp [UpgradeState.inProgress_of_outOfBand hb]))
      (fun _ _ _ _ => rfl) (fun _ _ hr _ => hr) (fun _ _ _ hr => hr))
    c events h

/-- The nodes a pass cordons or uncordons, the nodes it hands the pod and drain managers, and the
nodes whose driver pods it restarts are all nodes in a phase counted in progress. -/
theorem Cluster.pass_touches_inProgress (keys : UpgradeKeys) (φ : Faults) (c : Cluster)
    {call : Call} (hcall : call ∈ (c.passEffects keys φ).log.map Prod.fst) :
    (∀ n, call = .cordon n ∨ call = .uncordon n ∨ n ∈ call.handedNodes →
      ∃ r ∈ c.records, r.phase.inProgress = true ∧ r.node = n) ∧
    ∀ p ∈ call.restartedPods, ∃ r ∈ c.records, r.phase.inProgress = true ∧ r.driverPod = p := by
  have listed : ∀ {s n}, (∃ ns ∈ c.snapshot.nodeStates s, ns.node = n) → s.inProgress = true →
      ∃ r ∈ c.records, r.phase.inProgress = true ∧ r.node = n := by
    rintro s n ⟨ns, hns, rfl⟩ hs
    obtain ⟨r, hr, rfl⟩ := List.mem_map.mp hns
    obtain ⟨hr, hphase⟩ := List.mem_filter.mp hr
    exact ⟨r, hr, of_decide_eq_true hphase ▸ hs, rfl⟩
  refine ⟨fun n hn => ?_, fun p hp => ?_⟩
  · cases hauto : c.policy.autoUpgrade
    · simp [Cluster.passEffects, applyState, hauto] at hcall
    rcases hn with rfl | rfl | hn
    · exact listed (applyState_cordon_listed c.listedNames_snapshot_nodup keys c.policy hauto φ _
        hcall) rfl
    · exact listed (applyState_uncordon_listed c.listedNames_snapshot_nodup keys c.policy hauto φ _
        hcall) rfl
    · obtain ⟨r, hr, hb, rfl⟩ := (c.pass_handed keys φ hcall).1 n hn
      exact ⟨r, hr, UpgradeState.inProgress_of_outOfBand hb, rfl⟩
  · obtain ⟨r, hr, hphase, rfl⟩ := (c.pass_handed keys φ hcall).2 p hp
    exact ⟨r, hr, by rw [hphase]; rfl, rfl⟩

/-- From a cluster where no node labelled to skip upgrades is upgrading, along any run of passes
under any faults and of out-of-band events, such a node never enters a phase counted in progress,
and no pass cordons or uncordons it, hands it to the pod or drain managers, or restarts its driver
pod. -/
theorem Cluster.skip_label_safety (keys : UpgradeKeys) (c : Cluster)
    (h : ∀ r ∈ c.records, r.SkipHeld keys) (events : List Event) (φ : Faults) :
    let c' := c.run keys events
    (∀ r ∈ c'.records, skipNodeUpgrade keys r.node = true → r.phase.inProgress = false) ∧
    ∀ call ∈ (c'.passEffects keys φ).log.map Prod.fst,
      (∀ n, call = .cordon n ∨ call = .uncordon n ∨ n ∈ call.handedNodes →
        skipNodeUpgrade keys n = false) ∧
      ∀ p ∈ call.restartedPods, ∃ r ∈ c'.records,
        r.driverPod = p ∧ skipNodeUpgrade keys r.node = false := by
  intro c'
  have hinv := c.run_skipHeld keys h events
  have free : ∀ r ∈ c'.records, r.phase.inProgress = true → skipNodeUpgrade keys r.node = false :=
    fun r hr hin => Bool.eq_false_iff.mpr fun hskip => by simp [hinv r hr hskip] at hin
  refine ⟨hinv, fun call hcall => ⟨fun n hn => ?_, fun p hp => ?_⟩⟩
  · obtain ⟨r, hr, hin, rfl⟩ := (c'.pass_touches_inProgress keys φ hcall).1 n hn
    exact free r hr hin
  · obtain ⟨r, hr, hin, rfl⟩ := (c'.pass_touches_inProgress keys φ hcall).2 p hp
    exact ⟨r, hr, rfl, free r hr hin⟩

theorem skip_label_safety_labelled_done :
    let keys : UpgradeKeys := ⟨"skip", "initial-state", "skip-drain"⟩
    let c : Cluster := ⟨[⟨⟨"a", false, [("skip", "true")], []⟩, .done,
      ⟨.ok 1, none, "Running", [⟨true⟩]⟩, ⟨2⟩, false⟩], ⟨true, 0, none, none, none⟩, by decide⟩
    (∀ r ∈ c.records, r.SkipHeld keys) ∧ ∀ events φ,
      let c' := c.run keys events
      (∀ r ∈ c'.records, skipNodeUpgrade keys r.node = true → r.phase.inProgress = false) ∧
      ∀ call ∈ (c'.passEffects keys φ).log.map Prod.fst,
        (∀ n, call = .cordon n ∨ call = .uncordon n ∨ n ∈ call.handedNodes →
          skipNodeUpgrade keys n = false) ∧
        ∀ p ∈ call.restartedPods, ∃ r ∈ c'.records,
          r.driverPod = p ∧ skipNodeUpgrade keys r.node = false :=
  ⟨by decide, fun events φ => Cluster.skip_label_safety _ _ (by decide) events φ⟩

end DriverUpgrade
