import DriverUpgrade.PassByNode

/-! A rollout of a new driver to every node at once. When the slots reach every node
(`MaxParallelUpgrades` is 0, or at least the number of nodes), fault-free passes upgrade all of
them side by side: three passes take every node to `PodDeletionRequired`, cordoned; after the pod
manager moves each to `DrainRequired`, two passes take them to `PodRestartRequired` and leave them
there while their pods restart; once the driver pods are replaced by ones in sync with the daemon
set, two passes uncordon every node and write `Done`. -/
namespace DriverUpgrade

theorem Cluster.run_append (keys : UpgradeKeys) (c : Cluster) (e₁ e₂ : List Event) :
    c.run keys (e₁ ++ e₂) = (c.run keys e₁).run keys e₂ :=
  List.foldl_append _ _ _ _

/-- Out-of-band moves of the named nodes to an owned phase move each named node in an owned
phase. -/
theorem Cluster.run_moves (keys : UpgradeKeys) (c : Cluster) (names : List String)
    {q : UpgradeState} (hq : q.outOfBand = true) :
    (c.run keys (names.map fun n => .move n q)).policy = c.policy ∧
    (c.run keys (names.map fun n => .move n q)).records = c.records.map fun r =>
      if r.node.name ∈ names ∧ r.phase.outOfBand = true then { r with phase := q } else r := by
  induction names generalizing c with
  | nil => simp [Cluster.run]
  | cons n names ih =>
    obtain ⟨hp, hr⟩ := ih (c.step keys (.move n q))
    refine ⟨hp, hr.trans ?_⟩
    simp only [Cluster.step, Cluster.mapRecords, List.map_map]
    refine List.map_congr_left fun r _ => ?_
    by_cases hb : r.phase.outOfBand = true
    · by_cases hn : r.node.name = n <;> simp [hn, hb, hq]
    · simp [hb]

/-- Driver updates of the named nodes to their new pods under one daemon set. -/
theorem Cluster.run_updateDrivers (keys : UpgradeKeys) (c : Cluster) (names : List String)
    (pods : String → Pod) (ds : DaemonSet) :
    (c.run keys (names.map fun n => .updateDriver n (pods n) ds)).policy = c.policy ∧
    (c.run keys (names.map fun n => .updateDriver n (pods n) ds)).records = c.records.map fun r =>
      if r.node.name ∈ names then { r with driverPod := pods r.node.name, driverDaemonSet := ds }
      else r := by
  induction names generalizing c with
  | nil => simp [Cluster.run]
  | cons n names ih =>
    obtain ⟨hp, hr⟩ := ih (c.step keys (.updateDriver n (pods n) ds))
    refine ⟨hp, hr.trans ?_⟩
    simp only [Cluster.step, Cluster.mapRecords, List.map_map]
    refine List.map_congr_left fun r _ => ?_
    by_cases hn : r.node.name = n <;> simp [hn]

/-- A rollout to every node at once completes. Take a cluster whose nodes are all under
`UpgradeRequired`, schedulable, without the initial-state marker or the skip label, with driver
pods behind the one driver daemon set; the policy has auto upgrade on, no wait-for-completion
selector, drain off, and slots for every node. A fault-free pass takes every node to
`CordonRequired`, the next cordons them and takes them to `WaitForJobsRequired`, the third to
`PodDeletionRequired`; the pod manager moves each to `DrainRequired`; a pass takes them to
`PodRestartRequired` and the next leaves them there; their driver pods are replaced by ones in
sync with the daemon set; a pass takes them to `UncordonRequired` and the last leaves every node
in `Done`, schedulable, on its new pod. The statement gives the cluster after each of these
stages. -/
theorem upgrade_completes_in_parallel (keys : UpgradeKeys) (c : Cluster) (ds : DaemonSet)
    (newPods : String → Pod) (hauto : c.policy.autoUpgrade = true)
    (hN : c.policy.maxParallelUpgrades = 0 ∨
      (c.records.length : Int) ≤ c.policy.maxParallelUpgrades)
    (hwait : noPodSelector c.policy.waitForCompletion = true)
    (hdrain : drainEnabled c.policy.drainSpec = false)
    (hnodes : ∀ r ∈ c.records, r.phase = .upgradeRequired ∧ r.node.unschedulable = false ∧
      hasAnnotationKey r.node keys.initialStateAnnotationKey = false ∧
      skipNodeUpgrade keys r.node = false ∧ r.driverDaemonSet = ds ∧
      ∃ g, r.driverPod.templateGeneration = .ok g ∧ g ≠ ds.generation)
    (hnew : ∀ r ∈ c.records, (newPods r.node.name).templateGeneration = .ok ds.generation ∧
      (newPods r.node.name).phase = "Running" ∧ (newPods r.node.name).containerStatuses ≠ [] ∧
      ∀ s ∈ (newPods r.node.name).containerStatuses, s.ready = true) :
    let names := c.records.map (·.node.name)
    let p : Event := .pass noFaults
    let moves : List Event := names.map fun n => .move n .drainRequired
    let updates : List Event := names.map fun n => .updateDriver n (newPods n) ds
    let old (q : UpgradeState) (r : NodeRecord) : NodeRecord :=
      { r with node := { r.node with unschedulable := true }, phase := q }
    let new (q : UpgradeState) (r : NodeRecord) : NodeRecord :=
      { old q r with driverPod := newPods r.node.name }
    (c.run keys [p]).records = c.records.map (fun r => { r with phase := .cordonRequired }) ∧
    (c.run keys [p, p]).records = c.records.map (old .waitForJobsRequired) ∧
    (c.run keys [p, p, p]).records = c.records.map (old .podDeletionRequired) ∧
    (c.run keys ([p, p, p] ++ moves)).records = c.records.map (old .drainRequired) ∧
    (c.run keys ([p, p, p] ++ moves ++ [p])).records = c.records.map (old .podRestartRequired) ∧
    (c.run keys ([p, p, p] ++ moves ++ [p, p])).records =
      c.records.map (old .podRestartRequired) ∧
    (c.run keys ([p, p, p] ++ moves ++ [p, p] ++ updates)).records =
      c.records.map (new .podRestartRequired) ∧
    (c.run keys ([p, p, p] ++ moves ++ [p, p] ++ updates ++ [p])).records =
      c.records.map (new .uncordonRequired) ∧
    (c.run keys ([p, p, p] ++ moves ++ [p, p] ++ updates ++ [p, p])).records =
      c.records.map fun r =>
        { r with phase := .done, driverPod := newPods r.node.name, wasUnschedulable := false } := by
  intro names p moves updates old new
  have hname : ∀ r ∈ c.records, r.node.name ∈ names := fun r hr => List.mem_map_of_mem _ hr
  /- the cluster after each stage: the policy, and each node's record as a function of its own -/
  let Shape (c' : Cluster) (f : NodeRecord → NodeRecord) : Prop :=
    c'.policy = c.policy ∧ c'.records = c.records.map f
  /- a pass on records past `UpgradeRequired` applies each node's block -/
  have hstep : ∀ (c' : Cluster) (f g : NodeRecord → NodeRecord), Shape c' f →
      (∀ r ∈ c.records, (f r).phase ≠ .upgradeRequired ∧
        ∃ gen, (f r).driverPod.templateGeneration = .ok gen) →
      (∀ r ∈ c.records, (planCalls (nodeSteps keys c.policy (f r).phase
        (f r).toNodeUpgradeState)).foldl NodeRecord.applyCall (f r) = g r) →
      Shape (c'.step keys (.pass noFaults)) g := by
    intro c' f g ⟨hp, hr⟩ hf hg
    have hgen : ∀ r' ∈ c'.records, ∃ gen, r'.driverPod.templateGeneration = .ok gen := by
      intro r' hr'
      obtain ⟨r, hr, rfl⟩ := List.mem_map.mp (hr ▸ hr')
      exact (hf r hr).2
    refine ⟨(Cluster.pass_policy_of_drain_disabled keys noFaults c' (hp ▸ hdrain)).trans hp, ?_⟩
    rw [Cluster.step, c'.pass_noFaults_records keys (hp ▸ hauto) hgen, hr, List.map_map]
    refine List.map_congr_left fun r hr' => ?_
    simp only [Function.comp_apply, Cluster.nodeCalls, hp, (hf r hr').1, false_and, if_false]
    exact hg r hr'
  have hold : ∀ r ∈ c.records, ∃ g, r.driverPod.templateGeneration = .ok g := fun r hr =>
    let ⟨g, hg, _⟩ := (hnodes r hr).2.2.2.2.2; ⟨g, hg⟩
  /- the first pass: the slots reach every node -/
  have hur :
      c.snapshot.nodeStates .upgradeRequired = c.records.map NodeRecord.toNodeUpgradeState := by
    simp only [Cluster.snapshot]
    rw [List.filter_eq_self.mpr fun r hr => by simp [(hnodes r hr).1]]
  have hfree : (c.snapshot.nodeStates .upgradeRequired).filter
      (fun ns => !skipNodeUpgrade keys ns.node) = c.snapshot.nodeStates .upgradeRequired := by
    refine List.filter_eq_self.mpr fun ns hns => ?_
    obtain ⟨r, hr, rfl⟩ := List.mem_map.mp (hur ▸ hns)
    simpa using (hnodes r hr).2.2.2.1
  have hidle : c.upgradesInProgress = 0 := List.countP_eq_zero.mpr fun r hr => by
    simp [(hnodes r hr).1, UpgradeState.inProgress]
  have hslots : (c.records.length : Int) ≤ upgradesAvailable c.snapshot c.policy := by
    rcases hN with h0 | hle
    · simp [upgradesAvailable, h0, hur]
    · by_cases h0 : c.policy.maxParallelUpgrades = 0
      · simp [upgradesAvailable, h0, hur]
      · simpa [upgradesAvailable, h0, upgradesInProgress_snapshot, hidle] using hle
  have h₁ : Shape (c.step keys (.pass noFaults)) fun r => { r with phase := .cordonRequired } := by
    refine ⟨Cluster.pass_policy_of_drain_disabled keys noFaults c hdrain, ?_⟩
    rw [Cluster.step, c.pass_noFaults_records keys hauto hold]
    refine List.map_congr_left fun r hr => ?_
    have hadm : c.admitted keys r = true := by
      rw [Cluster.admitted, hfree, List.take_of_length_le (by rw [hur, List.length_map]; omega),
        hur]
      simpa using List.mem_map_of_mem NodeRecord.toNodeUpgradeState hr
    simp [Cluster.nodeCalls, hadm, (hnodes r hr).1, nodeSteps, planCalls, NodeRecord.applyCall]
  have h₂ : Shape ((c.step keys (.pass noFaults)).step keys (.pass noFaults))
      (old .waitForJobsRequired) :=
    hstep _ _ _ h₁ (fun r hr => ⟨nofun, hold r hr⟩) fun _ _ => rfl
  have h₃ : Shape (c.run keys [.pass noFaults, .pass noFaults, .pass noFaults])
      (old .podDeletionRequired) :=
    hstep _ _ _ h₂ (fun r hr => ⟨nofun, hold r hr⟩) fun _ _ => by
      simp only [old, nodeSteps, waitForJobsRequiredSteps, hwait, if_true]
      rfl
  /- the pod manager moves every node to `DrainRequired` -/
  have h₄ : Shape ((c.run keys [.pass noFaults, .pass noFaults, .pass noFaults]).run keys moves)
      (old .drainRequired) := by
    obtain ⟨hp, hr⟩ := (c.run keys [.pass noFaults, .pass noFaults, .pass noFaults]).run_moves
      keys names (q := .drainRequired) rfl
    refine ⟨hp.trans h₃.1, hr.trans ?_⟩
    rw [h₃.2, List.map_map]
    exact List.map_congr_left fun r hr => by simp [old, hname r hr, UpgradeState.outOfBand]
  have h₅ : Shape (((c.run keys [.pass noFaults, .pass noFaults, .pass noFaults]).run keys
      moves).step keys (.pass noFaults)) (old .podRestartRequired) :=
    hstep _ _ _ h₄ (fun r hr => ⟨nofun, hold r hr⟩) fun _ _ => by
      simp only [old, nodeSteps, hdrain, Bool.false_eq_true, if_false]
      rfl
  /- a driver pod behind its daemon set is left to restart -/
  have h₆ : Shape ((((c.run keys [.pass noFaults, .pass noFaults, .pass noFaults]).run keys
      moves).step keys (.pass noFaults)).step keys (.pass noFaults)) (old .podRestartRequired) :=
    hstep _ _ _ h₅ (fun r hr => ⟨nofun, hold r hr⟩) fun r hr => by
      obtain ⟨-, -, -, -, hds, g, hg, hne⟩ := hnodes r hr
      simp only [old, nodeSteps, podRestartSteps, NodeRecord.toNodeUpgradeState, hg, hds, ne_eq,
        hne, not_false_eq_true, if_true]
      rfl
  /- every driver pod is replaced by one in sync with the daemon set -/
  have h₇ : Shape (((((c.run keys [.pass noFaults, .pass noFaults, .pass noFaults]).run keys
      moves).step keys (.pass noFaults)).step keys (.pass noFaults)).run keys updates)
      (new .podRestartRequired) := by
    obtain ⟨hp, hr⟩ := ((((c.run keys [.pass noFaults, .pass noFaults, .pass noFaults]).run keys
      moves).step keys (.pass noFaults)).step keys (.pass noFaults)).run_updateDrivers keys names
      newPods ds
    refine ⟨hp.trans h₆.1, hr.trans ?_⟩
    rw [h₆.2, List.map_map]
    refine List.map_congr_left fun r hr => ?_
    obtain ⟨-, -, -, -, hds, -⟩ := hnodes r hr
    simp only [Function.comp_apply, old, new, hname r hr, if_true, ← hds]
  /- the in-sync pods end the upgrades: uncordon, then `Done` -/
  have h₈ : Shape ((((((c.run keys [.pass noFaults, .pass noFaults, .pass noFaults]).run keys
      moves).step keys (.pass noFaults)).step keys (.pass noFaults)).run keys updates).step keys
      (.pass noFaults)) (new .uncordonRequired) :=
    hstep _ _ _ h₇ (fun r hr => ⟨nofun, _, (hnew r hr).1⟩) fun r hr => by
      obtain ⟨-, -, hmarker, -, hds, -⟩ := hnodes r hr
      obtain ⟨hgen, hrunning, hne, hready⟩ := hnew r hr
      simp only [hasAnnotationKey] at hmarker
      simp [old, new, nodeSteps, podRestartSteps, inSyncSteps, syncedNodeSteps,
        NodeRecord.toNodeUpgradeState, hgen, hds, isDriverPodInSync, hrunning, hne,
        (containersReady_iff _).mpr hready, hasAnnotationKey, hmarker, planCalls,
        NodeRecord.applyCall]
  have h₉ : Shape (((((((c.run keys [.pass noFaults, .pass noFaults, .pass noFaults]).run keys
      moves).step keys (.pass noFaults)).step keys (.pass noFaults)).run keys updates).step keys
      (.pass noFaults)).step keys (.pass noFaults)) fun r =>
        { r with phase := .done, driverPod := newPods r.node.name, wasUnschedulable := false } :=
    hstep _ _ _ h₈ (fun r hr => ⟨nofun, _, (hnew r hr).1⟩) fun r hr => by
      have hnode : { r.node with unschedulable := false } = r.node := by
        rw [← (hnodes r hr).2.1]
      simp [old, new, nodeSteps, uncordonRequiredSteps, planCalls, NodeRecord.applyCall, hnode]
  refine ⟨h₁.2, h₂.2, h₃.2, ?_, ?_, ?_, ?_, ?_, ?_⟩ <;> simp only [Cluster.run_append]
  exacts [h₄.2, h₅.2, h₆.2, h₇.2, h₈.2, h₉.2]

theorem upgrade_completes_in_parallel_two_nodes :
    let keys : UpgradeKeys := ⟨"skip", "initial-state", "skip-drain"⟩
    let pod : Pod := ⟨.ok 1, none, "Running", [⟨true⟩]⟩
    let newPods : String → Pod := fun _ => ⟨.ok 2, none, "Running", [⟨true⟩]⟩
    let c : Cluster := ⟨[⟨⟨"a", false, [], []⟩, .upgradeRequired, pod, ⟨2⟩, false⟩,
      ⟨⟨"b", false, [], []⟩, .upgradeRequired, pod, ⟨2⟩, false⟩], ⟨true, 0, none, none, none⟩,
      by decide⟩
    let names := c.records.map (·.node.name)
    let p : Event := .pass noFaults
    let moves : List Event := names.map fun n => .move n .drainRequired
    let updates : List Event := names.map fun n => .updateDriver n (newPods n) ⟨2⟩
    let old (q : UpgradeState) (r : NodeRecord) : NodeRecord :=
      { r with node := { r.node with unschedulable := true }, phase := q }
    let new (q : UpgradeState) (r : NodeRecord) : NodeRecord :=
      { old q r with driverPod := newPods r.node.name }
    (c.run keys [p]).records = c.records.map (fun r => { r with phase := .cordonRequired }) ∧
    (c.run keys [p, p]).records = c.records.map (old .waitForJobsRequired) ∧
    (c.run keys [p, p, p]).records = c.records.map (old .podDeletionRequired) ∧
    (c.run keys ([p, p, p] ++ moves)).records = c.records.map (old .drainRequired) ∧
    (c.run keys ([p, p, p] ++ moves ++ [p])).records = c.records.map (old .podRestartRequired) ∧
    (c.run keys ([p, p, p] ++ moves ++ [p, p])).records =
      c.records.map (old .podRestartRequired) ∧
    (c.run keys ([p, p, p] ++ moves ++ [p, p] ++ updates)).records =
      c.records.map (new .podRestartRequired) ∧
    (c.run keys ([p, p, p] ++ moves ++ [p, p] ++ updates ++ [p])).records =
      c.records.map (new .uncordonRequired) ∧
    (c.run keys ([p, p, p] ++ moves ++ [p, p] ++ updates ++ [p, p])).records =
      c.records.map fun r =>
        { r with phase := .done, driverPod := newPods r.node.name, wasUnschedulable := false } := by
  intro keys pod newPods c
  exact upgrade_completes_in_parallel keys c ⟨2⟩ newPods rfl (.inl rfl) rfl rfl
    (fun r hr => by
      rcases List.mem_pair.mp hr with rfl | rfl <;>
        exact ⟨rfl, rfl, rfl, by decide, rfl, 1, rfl, by decide⟩)
    (by decide)

end DriverUpgrade
