import DriverUpgrade.Plans

/-! What each processor does for its nodes when every call succeeds, stated over the whole node
list: the `CordonRequired` writes of `ProcessUpgradeRequiredNodes` under the slot limit, the
writes and markers of `ProcessDoneOrUnknownNodes`, and the in-sync checks and restarts of
`ProcessPodRestartNodes` and `ProcessUpgradeFailedNodes`. -/
namespace DriverUpgrade

/-- With `a` the slots `ApplyState` computes (`N − k` for `MaxParallelUpgrades = N ≠ 0`, all
`UpgradeRequired` nodes for `N = 0`), `ProcessUpgradeRequiredNodes` writes `CordonRequired` for
exactly the first `max 0 (min a m)` of the `m` nodes without the skip label, in list order; a run
with failing calls writes a prefix of them. -/
theorem processUpgradeRequiredNodes_writes (keys : UpgradeKeys) (cs : ClusterUpgradeState)
    (policy : DriverUpgradePolicySpec) :
    let k := (cs.nodeStates .cordonRequired).length + (cs.nodeStates .waitForJobsRequired).length +
      (cs.nodeStates .podDeletionRequired).length + (cs.nodeStates .drainRequired).length +
      (cs.nodeStates .podRestartRequired).length + (cs.nodeStates .failed).length +
      (cs.nodeStates .uncordonRequired).length
    let a : Int := if policy.maxParallelUpgrades = 0 then (cs.nodeStates .upgradeRequired).length
      else policy.maxParallelUpgrades - k
    let eligible := (cs.nodeStates .upgradeRequired).filter fun ns => !skipNodeUpgrade keys ns.node
    let writes := (eligible.take (max 0 (min a eligible.length)).toNat).map
      fun ns => Call.changeNodeUpgradeState ns.node .cordonRequired
    (∀ e, (processUpgradeRequiredNodes keys cs (upgradesAvailable cs policy) noFaults e).2.log =
      e.log ++ writes.map (·, none)) ∧
    ∀ φ e, ∃ l, l <+: writes ∧
      (processUpgradeRequiredNodes keys cs (upgradesAvailable cs policy) φ e).2.log.map Prod.fst =
        e.log.map Prod.fst ++ l := by
  intro k a eligible writes
  have ha : upgradesAvailable cs policy = a := by
    simp only [upgradesAvailable, upgradesInProgress, a, k]
    split_ifs <;> omega
  have hw : planCalls (upgradeRequiredPlan keys (cs.nodeStates .upgradeRequired) a) = writes := by
    simp only [upgradeRequiredPlan, planCalls_map_call, writes, List.take_eq_take.mpr
      (show min a.toNat eligible.length = min (max 0 (min a eligible.length)).toNat eligible.length
        by omega)]
  have hr := processUpgradeRequiredNodes_realizes keys cs a
  rw [ha]
  refine ⟨fun e => ?_, fun φ e => ?_⟩
  · rw [hr.noFaults_log e, hw]
  · simpa only [hw] using hr.calls_prefix φ e

theorem doneOrUnknownSteps_calls (keys : UpgradeKeys) (nodeStateName : UpgradeState)
    (ns : NodeUpgradeState) (g : Int) (hg : ns.driverPod.templateGeneration = .ok g) :
    planResult (doneOrUnknownSteps keys nodeStateName ns) = none ∧
    planCalls (doneOrUnknownSteps keys nodeStateName ns) =
      if ns.driverPod.templateGeneration ≠ .ok ns.driverDaemonSet.generation then
        (if ns.node.unschedulable then
          [ Call.changeNodeUpgradeAnnotation ns.node keys.initialStateAnnotationKey "true"]
        else []) ++ [.changeNodeUpgradeState ns.node .upgradeRequired]
      else if nodeStateName = .unknown then [.changeNodeUpgradeState ns.node .done] else [] := by
  simp only [doneOrUnknownSteps, hg, ne_eq, Except.ok.injEq, isNodeUnschedulable]
  split_ifs <;> simp [planCalls, planResult]

/-- A fault-free `ProcessDoneOrUnknownNodes` over nodes whose driver pods carry a template
generation issues, node by node in list order: for a node behind its daemon set, the marker
`"true"` when the node is unschedulable and then the write of `UpgradeRequired`; for a node at
the generation, the write of `Done` when it processes `Unknown`, and nothing otherwise. -/
theorem processDoneOrUnknownNodes_fault_free (keys : UpgradeKeys) (cs : ClusterUpgradeState)
    (nodeStateName : UpgradeState)
    (hgen : ∀ ns ∈ cs.nodeStates nodeStateName, ∃ g, ns.driverPod.templateGeneration = .ok g)
    (e : Effects) :
    (processDoneOrUnknownNodes keys cs nodeStateName noFaults e).1 = .ok () ∧
    (processDoneOrUnknownNodes keys cs nodeStateName noFaults e).2.log = e.log ++
      ((cs.nodeStates nodeStateName).flatMap fun ns =>
        if ns.driverPod.templateGeneration ≠ .ok ns.driverDaemonSet.generation then
          (if ns.node.unschedulable then
            [ Call.changeNodeUpgradeAnnotation ns.node keys.initialStateAnnotationKey "true"]
          else []) ++ [.changeNodeUpgradeState ns.node .upgradeRequired]
        else if nodeStateName = .unknown then [.changeNodeUpgradeState ns.node .done]
        else []).map (·, none) := by
  have hr := processDoneOrUnknownNodes_realizes keys cs nodeStateName
  have hsteps : ∀ ns ∈ cs.nodeStates nodeStateName, _ := fun ns hns =>
    doneOrUnknownSteps_calls keys nodeStateName ns _ (hgen ns hns).choose_spec
  obtain ⟨hcalls, hres⟩ := planCalls_flatMap fun ns hns => (hsteps ns hns).1
  refine ⟨hr.noFaults_result hres e, ?_⟩
  rw [hr.noFaults_log e, hcalls]
  congr 2
  exact List.flatMap_congr fun ns hns => (hsteps ns hns).2

theorem processDoneOrUnknownNodes_fault_free_unschedulable :
    let keys : UpgradeKeys := ⟨"skip", "initial-state", "skip-drain"⟩
    let ns : NodeUpgradeState := ⟨⟨"a", true, [], []⟩, ⟨.ok 1, none, "Running", [⟨true⟩]⟩, ⟨2⟩⟩
    let cs : ClusterUpgradeState := ⟨fun s => if s = .done then [ns] else []⟩
    (∀ x ∈ cs.nodeStates .done, ∃ g, x.driverPod.templateGeneration = .ok g) ∧
    (processDoneOrUnknownNodes keys cs .done noFaults ⟨[], none⟩).1 = .ok () ∧
    (processDoneOrUnknownNodes keys cs .done noFaults ⟨[], none⟩).2.log =
      [( Call.changeNodeUpgradeAnnotation ns.node "initial-state" "true", none),
        (.changeNodeUpgradeState ns.node .upgradeRequired, none)] := by
  intro keys ns cs
  have h : ∀ x ∈ cs.nodeStates .done, ∃ g, x.driverPod.templateGeneration = .ok g := by
    simp [cs, ns]
  have := processDoneOrUnknownNodes_fault_free keys cs .done h ⟨[], none⟩
  exact ⟨h, this.1, by simpa [cs, ns, keys] using this.2⟩

theorem containersReady_iff (l : List ContainerStatus) :
    containersReady l = true ↔ ∀ c ∈ l, c.ready = true := by
  induction l with
  | nil => simp [containersReady]
  | cons c l ih => cases h : c.ready <;> simp [containersReady, h, ih]

/-- `isDriverPodInSync` holds exactly when the generation matches, the pod is `Running`, and it
reports at least one container status, all of them ready. -/
theorem isDriverPodInSync_of_generation (ns : NodeUpgradeState) (g : Int)
    (hg : ns.driverPod.templateGeneration = .ok g) :
    isDriverPodInSync ns = .ok (decide (ns.driverPod.templateGeneration =
      .ok ns.driverDaemonSet.generation ∧ ns.driverPod.phase = "Running" ∧
      ns.driverPod.containerStatuses ≠ [] ∧
        ∀ c ∈ ns.driverPod.containerStatuses, c.ready)) := by
  simp only [isDriverPodInSync, hg, Except.ok.injEq, ne_eq, List.length_eq_zero]
  split_ifs with h
  · simp only [h, true_and, not_false_eq_true, Except.ok.injEq]
    rw [Bool.eq_iff_iff, containersReady_iff, decide_eq_true_iff]
  · rw [Except.ok.injEq, eq_comm, decide_eq_false_iff_not]
    tauto

section Synced

variable (keys : UpgradeKeys)

/-- The calls the design prescribes for a node whose driver pod may be in sync. -/
def syncedCalls (ns : NodeUpgradeState) : List Call :=
  if ns.driverPod.templateGeneration = .ok ns.driverDaemonSet.generation ∧
      ns.driverPod.phase = "Running" ∧ ns.driverPod.containerStatuses ≠ [] ∧
      ∀ c ∈ ns.driverPod.containerStatuses, c.ready then
    if hasAnnotationKey ns.node keys.initialStateAnnotationKey then
      [.changeNodeUpgradeState ns.node .done,
        Call.changeNodeUpgradeAnnotation ns.node keys.initialStateAnnotationKey "null"]
    else [.changeNodeUpgradeState ns.node .uncordonRequired]
  else []

theorem inSyncSteps_calls (ns : NodeUpgradeState) (g : Int)
    (hg : ns.driverPod.templateGeneration = .ok g) :
    planResult (inSyncSteps keys ns) = none ∧
      planCalls (inSyncSteps keys ns) = syncedCalls keys ns := by
  rw [inSyncSteps, isDriverPodInSync_of_generation ns g hg, syncedCalls]
  simp only [decide_eq_true_eq]
  split_ifs <;> simp [syncedNodeSteps, planCalls, planResult, *]

theorem podRestartSteps_calls (ns : NodeUpgradeState) (g : Int)
    (hg : ns.driverPod.templateGeneration = .ok g) :
    planResult (podRestartSteps keys ns) = none ∧ planCalls (podRestartSteps keys ns) =
      if ns.driverPod.templateGeneration = Except.ok ns.driverDaemonSet.generation then
        syncedCalls keys ns
      else [] := by
  have h := inSyncSteps_calls keys ns g hg
  rw [podRestartSteps, hg]
  by_cases hd : g = ns.driverDaemonSet.generation <;> simp [hd, h, planCalls, planResult]

/-- The calls of a fault-free `ProcessPodRestartNodes` over pods that carry a template
generation: those of each node in list order, then the restart of the queued pods. -/
theorem processPodRestartNodes_fault_free_log (cs : ClusterUpgradeState)
    (hgen : ∀ ns ∈ cs.nodeStates .podRestartRequired,
      ∃ g, ns.driverPod.templateGeneration = .ok g)
    (e : Effects) :
    (processPodRestartNodes keys cs noFaults e).2.log = e.log ++
      ((cs.nodeStates .podRestartRequired).flatMap
          (fun ns => planCalls (podRestartSteps keys ns)) ++
        [Call.schedulePodsRestart (podsToRestart (cs.nodeStates .podRestartRequired))]).map
          (·, none) := by
  obtain ⟨hcalls, hres⟩ := planCalls_flatMap fun ns hns =>
    (podRestartSteps_calls keys ns _ (hgen ns hns).choose_spec).1
  rw [(processPodRestartNodes_realizes keys cs).noFaults_log e, podRestartPlan,
    planCalls_append hres, hcalls]
  rfl

/-- Over nodes whose driver pods carry a template generation, a fault-free
`ProcessUpgradeFailedNodes` issues the calls of `syncedCalls` for each `Failed` node in list
order, and `ProcessPodRestartNodes` issues them for each of its nodes at the daemon set's
generation, before it schedules the restarts. -/
theorem synced_nodes_fault_free (cs : ClusterUpgradeState)
    (hgen : ∀ ns ∈ cs.nodeStates .podRestartRequired ++ cs.nodeStates .failed,
      ∃ g, ns.driverPod.templateGeneration = .ok g) (e : Effects) :
    (processUpgradeFailedNodes keys cs noFaults e).2.log =
      e.log ++ ((cs.nodeStates .failed).flatMap (syncedCalls keys)).map (·, none) ∧
    ∃ pods, (processPodRestartNodes keys cs noFaults e).2.log = e.log ++
      ((cs.nodeStates .podRestartRequired).flatMap (fun ns =>
        if ns.driverPod.templateGeneration = Except.ok ns.driverDaemonSet.generation then
          syncedCalls keys ns
        else []) ++ [Call.schedulePodsRestart pods]).map (·, none) := by
  have hf : ∀ ns ∈ cs.nodeStates .failed, _ := fun ns hns =>
    inSyncSteps_calls keys ns _ (hgen ns (List.mem_append_right _ hns)).choose_spec
  obtain ⟨hcalls, -⟩ := planCalls_flatMap fun ns hns => (hf ns hns).1
  refine ⟨?_, podsToRestart (cs.nodeStates .podRestartRequired),
    (processPodRestartNodes_fault_free_log keys cs
      (fun ns hns => hgen ns (List.mem_append_left _ hns)) e).trans ?_⟩
  · rw [(processUpgradeFailedNodes_realizes keys cs).noFaults_log e, upgradeFailedPlan, hcalls,
      List.flatMap_congr fun ns hns => (hf ns hns).2]
  · rw [List.flatMap_congr fun ns hns =>
      (podRestartSteps_calls keys ns _ (hgen ns (List.mem_append_left _ hns)).choose_spec).2]

theorem synced_nodes_fault_free_marked :
    let keys : UpgradeKeys := ⟨"skip", "initial-state", "skip-drain"⟩
    let marked : NodeUpgradeState :=
      ⟨⟨"a", true, [], [("initial-state", "true")]⟩, ⟨.ok 2, none, "Running", [⟨true⟩]⟩, ⟨2⟩⟩
    let plain : NodeUpgradeState :=
      ⟨⟨"b", false, [], []⟩, ⟨.ok 2, none, "Running", [⟨true⟩, ⟨true⟩]⟩, ⟨2⟩⟩
    let cs : ClusterUpgradeState := ⟨fun s =>
      if s = .podRestartRequired then [marked] else if s = .failed then [plain] else []⟩
    (∀ ns ∈ cs.nodeStates .podRestartRequired ++ cs.nodeStates .failed,
      ∃ g, ns.driverPod.templateGeneration = .ok g) ∧
    (processUpgradeFailedNodes keys cs noFaults ⟨[], none⟩).2.log =
      [(.changeNodeUpgradeState plain.node .uncordonRequired, none)] ∧
    ∃ pods, (processPodRestartNodes keys cs noFaults ⟨[], none⟩).2.log =
      [(.changeNodeUpgradeState marked.node .done, none),
        ( Call.changeNodeUpgradeAnnotation marked.node "initial-state" "null", none),
        (.schedulePodsRestart pods, none)] := by
  intro keys marked plain cs
  have h : ∀ ns ∈ cs.nodeStates .podRestartRequired ++ cs.nodeStates .failed,
      ∃ g, ns.driverPod.templateGeneration = .ok g := by
    simp [cs, marked, plain]
  have := synced_nodes_fault_free keys cs h ⟨[], none⟩
  refine ⟨h, by simpa [cs, plain, syncedCalls, hasAnnotationKey] using this.1, ?_⟩
  simpa [cs, marked, syncedCalls, hasAnnotationKey, keys] using this.2

/-- A `Failed` node whose driver pod is in sync gets no new state when a node before it has a
driver pod without a template generation: the processor returns that pod's error first. -/
theorem upgradeFailed_stops_before_synced_node :
    let keys : UpgradeKeys := ⟨"skip", "initial-state", "skip-drain"⟩
    let synced : NodeUpgradeState :=
      ⟨⟨"b", false, [], []⟩, ⟨.ok 2, none, "Running", [⟨true⟩]⟩, ⟨2⟩⟩
    let unlabelled : NodeUpgradeState :=
      ⟨⟨"a", false, [], []⟩, ⟨.error "label missing", none, "Running", [⟨true⟩]⟩, ⟨2⟩⟩
    let cs : ClusterUpgradeState := ⟨fun s => if s = .failed then [unlabelled, synced] else []⟩
    synced ∈ cs.nodeStates .failed ∧ isDriverPodInSync synced = .ok true ∧
      (processUpgradeFailedNodes keys cs noFaults ⟨[], none⟩).2.log = [] := by
  decide

/-- Over pods that carry a template generation, a fault-free `ProcessPodRestartNodes` makes no
call for a node whose driver pod is behind its daemon set, the calls of `syncedCalls` for each
other node in list order, and then hands `SchedulePodsRestart` exactly the driver pods, in list
order, that are behind their daemon set and not terminating. -/
theorem processPodRestartNodes_restarts (cs : ClusterUpgradeState)
    (hgen : ∀ ns ∈ cs.nodeStates .podRestartRequired, ∃ g, ns.driverPod.templateGeneration = .ok g)
    (e : Effects) :
    (processPodRestartNodes keys cs noFaults e).2.log = e.log ++
      ((cs.nodeStates .podRestartRequired).flatMap (fun ns =>
          if ns.driverPod.templateGeneration = Except.ok ns.driverDaemonSet.generation then
            syncedCalls keys ns
          else []) ++
        [Call.schedulePodsRestart (((cs.nodeStates .podRestartRequired).filter fun ns =>
          ns.driverPod.templateGeneration ≠ Except.ok ns.driverDaemonSet.generation ∧
            deletionTimestampIsZero ns.driverPod).map (·.driverPod))]).map (·, none) := by
  have hq : (cs.nodeStates .podRestartRequired).filter queuedForRestart =
      (cs.nodeStates .podRestartRequired).filter fun ns =>
        ns.driverPod.templateGeneration ≠ Except.ok ns.driverDaemonSet.generation ∧
          deletionTimestampIsZero ns.driverPod := List.filter_congr fun ns hns => by
    obtain ⟨g, hg⟩ := hgen ns hns
    simp [queuedForRestart, hg]
  rw [processPodRestartNodes_fault_free_log keys cs hgen e, podsToRestart, hq,
    List.flatMap_congr fun ns hns => (podRestartSteps_calls keys ns _ (hgen ns hns).choose_spec).2]

theorem processPodRestartNodes_restarts_mixed :
    let keys : UpgradeKeys := ⟨"skip", "initial-state", "skip-drain"⟩
    let behind : NodeUpgradeState := ⟨⟨"a", true, [], []⟩, ⟨.ok 1, none, "Running", []⟩, ⟨2⟩⟩
    let terminating : NodeUpgradeState :=
      ⟨⟨"b", true, [], []⟩, ⟨.ok 1, some 5, "Running", []⟩, ⟨2⟩⟩
    let cs : ClusterUpgradeState :=
      ⟨fun s => if s = .podRestartRequired then [behind, terminating] else []⟩
    (∀ ns ∈ cs.nodeStates .podRestartRequired, ∃ g, ns.driverPod.templateGeneration = .ok g) ∧
    (processPodRestartNodes keys cs noFaults ⟨[], none⟩).2.log =
      [(.schedulePodsRestart [behind.driverPod], none)] := by
  intro keys behind terminating cs
  have h : ∀ ns ∈ cs.nodeStates .podRestartRequired,
      ∃ g, ns.driverPod.templateGeneration = .ok g := by
    simp [cs, behind, terminating]
  refine ⟨h, ?_⟩
  rw [processPodRestartNodes_restarts keys cs h ⟨[], none⟩]
  simp [cs, behind, terminating, deletionTimestampIsZero]

/-- A node whose driver pod has no template generation stops `ProcessPodRestartNodes` before
`SchedulePodsRestart` is called, so no pod is queued even when every call succeeds. -/
theorem podRestart_stops_without_generation :
    let keys : UpgradeKeys := ⟨"skip", "initial-state", "skip-drain"⟩
    let unlabelled : NodeUpgradeState :=
      ⟨⟨"a", false, [], []⟩, ⟨.error "label missing", none, "Running", []⟩, ⟨2⟩⟩
    let behind : NodeUpgradeState := ⟨⟨"b", false, [], []⟩, ⟨.ok 1, none, "Running", []⟩, ⟨2⟩⟩
    let cs : ClusterUpgradeState :=
      ⟨fun s => if s = .podRestartRequired then [unlabelled, behind] else []⟩
    (processPodRestartNodes keys cs noFaults ⟨[], none⟩).1 = .error "label missing" ∧
      (processPodRestartNodes keys cs noFaults ⟨[], none⟩).2.log = [] := by
  decide

end Synced


end DriverUpgrade
