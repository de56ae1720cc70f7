import DriverUpgrade.Rollout

/-! A rollout under a slot cap. With `MaxParallelUpgrades = k + 1`, `ProcessUpgradeRequiredNodes`
admits the first `k + 1` nodes waiting under `UpgradeRequired`, and while they are in progress
their slots admit no other node. The operator's script of one wave for each next `k + 1` nodes
therefore takes the nodes through the upgrade in the cluster's order: after `j` waves the first
`j * (k + 1)` nodes are rolled out and the others still wait, and the whole script rolls out
every node. -/
namespace DriverUpgrade

/-- A node at the end of its upgrade: `Done`, on its new driver pod. -/
def rolledOut (newPods : String → Pod) (r : NodeRecord) : NodeRecord :=
  { r with phase := .done, driverPod := newPods r.node.name, wasUnschedulable := false }

/-- A node ready for a rollout to the daemon set `ds`: under `UpgradeRequired`, schedulable,
without the initial-state marker or the skip label, on a driver pod behind `ds`. -/
structure NodeRecord.ReadyFor (keys : UpgradeKeys) (ds : DaemonSet) (r : NodeRecord) : Prop where
  phase : r.phase = .upgradeRequired
  schedulable : r.node.unschedulable = false
  unmarked : hasAnnotationKey r.node keys.initialStateAnnotationKey = false
  unskipped : skipNodeUpgrade keys r.node = false
  daemonSet : r.driverDaemonSet = ds
  behind : ∃ g, r.driverPod.templateGeneration = .ok g ∧ g ≠ ds.generation

/-- A driver pod in sync with the daemon set `ds`: at its generation and `Running`, with
containers, all ready. -/
structure Pod.InSync (ds : DaemonSet) (p : Pod) : Prop where
  generation : p.templateGeneration = .ok ds.generation
  running : p.phase = "Running"
  containers : p.containerStatuses ≠ []
  ready : ∀ s ∈ p.containerStatuses, s.ready = true

/-- What a rollout of the driver pods `newPods` under `ds` assumes: auto upgrade on, no
wait-for-completion selector, drain off, every node ready and every new driver pod in sync. -/
structure RolloutReady (keys : UpgradeKeys) (c : Cluster) (ds : DaemonSet)
    (newPods : String → Pod) : Prop where
  auto : c.policy.autoUpgrade = true
  wait : noPodSelector c.policy.waitForCompletion = true
  drain : drainEnabled c.policy.drainSpec = false
  nodes : ∀ r ∈ c.records, r.ReadyFor keys ds
  inSync : ∀ r ∈ c.records, (newPods r.node.name).InSync ds

/-- The operator's script for one wave: three passes, the pod manager's move of the wave's nodes
to `DrainRequired`, two passes, their new driver pods, two passes. -/
def waveEvents (newPods : String → Pod) (ds : DaemonSet) (names : List String) : List Event :=
  [.pass noFaults, .pass noFaults, .pass noFaults] ++ names.map (fun n => .move n .drainRequired) ++
    [.pass noFaults, .pass noFaults] ++ names.map (fun n => .updateDriver n (newPods n) ds) ++
    [.pass noFaults, .pass noFaults]

/-- The script of a rollout with `k + 1` slots: a wave for each next `k + 1` nodes. -/
def rolloutEvents (newPods : String → Pod) (ds : DaemonSet) (k : Nat) :
    List String → List Event
  | [] => []
  | n :: names => waveEvents newPods ds ((n :: names).take (k + 1)) ++
      rolloutEvents newPods ds k ((n :: names).drop (k + 1))
termination_by names => names.length
decreasing_by simp only [List.length_drop, List.length_cons]; omega

/-- Where a wave stands in the cluster's order: the nodes `D` before it, its nodes `W`, the nodes
`R` after it. The wave fills the `k + 1` slots unless no node follows it. -/
structure WaveSplit (c : Cluster) (k : Nat) (D W R : List NodeRecord) : Prop where
  split : c.records = D ++ W ++ R
  full : R ≠ [] → W.length = k + 1
  size : W.length ≤ k + 1

/-- The cluster during a wave: the policy as at the start, the nodes before the wave rolled out,
each node of the wave in the state `f` gives it, the nodes after it as they were. -/
def WaveShape (newPods : String → Pod) (c c' : Cluster) (D W R : List NodeRecord)
    (f : NodeRecord → NodeRecord) : Prop :=
  c'.policy = c.policy ∧ c'.records = D.map (rolledOut newPods) ++ W.map f ++ R

theorem Cluster.admitted_of_no_slot (keys : UpgradeKeys) {c : Cluster}
    (h : upgradesAvailable c.snapshot c.policy ≤ 0) (r : NodeRecord) : c.admitted keys r = false := by
  have h0 : (upgradesAvailable c.snapshot c.policy).toNat = 0 := by omega
  simp [Cluster.admitted, h0]

section Waves

variable {keys : UpgradeKeys} {c : Cluster} {ds : DaemonSet} {newPods : String → Pod} {k : Nat}
  {D W R : List NodeRecord}

theorem WaveSplit.mem_before (hs : WaveSplit c k D W R) {r : NodeRecord} (hr : r ∈ D) :
    r ∈ c.records := hs.split ▸ List.mem_append_left _ (List.mem_append_left _ hr)

theorem WaveSplit.mem_wave (hs : WaveSplit c k D W R) {r : NodeRecord} (hr : r ∈ W) :
    r ∈ c.records := hs.split ▸ List.mem_append_left _ (List.mem_append_right _ hr)

theorem WaveSplit.mem_after (hs : WaveSplit c k D W R) {r : NodeRecord} (hr : r ∈ R) :
    r ∈ c.records := hs.split ▸ List.mem_append_right _ hr

/-- The nodes of a wave are named apart from those before and after it. -/
theorem WaveSplit.names_apart (hs : WaveSplit c k D W R) :
    (∀ d ∈ D, d.node.name ∉ W.map (·.node.name)) ∧
      ∀ r ∈ R, r.node.name ∉ W.map (·.node.name) := by
  have h := c.nodup
  rw [hs.split, List.map_append, List.map_append, List.nodup_append, List.nodup_append] at h
  exact ⟨fun d hd hm => h.1.2.2 (List.mem_map_of_mem _ hd) hm,
    fun r hr hm => h.2.2 (List.mem_append_right _ hm) (List.mem_map_of_mem _ hr)⟩

/-- Every driver pod during a wave carries a template generation. -/
theorem WaveShape.generations (h : RolloutReady keys c ds newPods) (hs : WaveSplit c k D W R)
    {c' : Cluster} {f : NodeRecord → NodeRecord} (hc' : WaveShape newPods c c' D W R f)
    (hf : ∀ w ∈ W, ∃ g, (f w).driverPod.templateGeneration = .ok g) :
    ∀ r ∈ c'.records, ∃ g, r.driverPod.templateGeneration = .ok g := by
  intro r hr
  rw [hc'.2, List.mem_append, List.mem_append, List.mem_map, List.mem_map] at hr
  rcases hr with (⟨d, hd, rfl⟩ | ⟨w, hw, rfl⟩) | hr
  · exact ⟨_, (h.inSync d (hs.mem_before hd)).generation⟩
  · exact hf w hw
  · obtain ⟨g, hg, -⟩ := (h.nodes r (hs.mem_after hr)).behind
    exact ⟨g, hg⟩

/-- The nodes in progress during a wave are the wave's nodes in progress. -/
theorem WaveShape.upgradesInProgress (h : RolloutReady keys c ds newPods)
    (hs : WaveSplit c k D W R) {c' : Cluster} {f : NodeRecord → NodeRecord}
    (hc' : WaveShape newPods c c' D W R f) :
    c'.upgradesInProgress = (W.map f).countP (·.phase.inProgress) := by
  have hD : (D.map (rolledOut newPods)).countP (·.phase.inProgress) = 0 :=
    List.countP_eq_zero.mpr fun r hr => by
      obtain ⟨d, -, rfl⟩ := List.mem_map.mp hr
      simp [rolledOut, UpgradeState.inProgress]
  have hR : R.countP (·.phase.inProgress) = 0 := List.countP_eq_zero.mpr fun r hr => by
    simp [(h.nodes r (hs.mem_after hr)).phase, UpgradeState.inProgress]
  rw [Cluster.upgradesInProgress, hc'.2, List.countP_append, List.countP_append, hD, hR,
    Nat.zero_add, Nat.add_zero]

/-- A rolled-out node waits on nothing: a pass makes no call about it. -/
theorem Cluster.nodeCalls_rolledOut (h : RolloutReady keys c ds newPods) {d : NodeRecord}
    (hd : d ∈ c.records) (c' : Cluster) : c'.nodeCalls keys (rolledOut newPods d) = [] := by
  have hgen := (h.inSync d hd).generation
  refine (c'.nodeCalls_eq_nil_iff keys ⟨_, hgen⟩).mpr ?_
  simp [Cluster.waiting, rolledOut, hgen, (h.nodes d hd).daemonSet]

/-- A fault-free pass during a wave leaves the nodes before the wave rolled out, and applies to
every other node its own calls. -/
theorem Cluster.pass_during_wave (h : RolloutReady keys c ds newPods) (hs : WaveSplit c k D W R)
    {c' : Cluster} {f : NodeRecord → NodeRecord} (hc' : WaveShape newPods c c' D W R f)
    (hf : ∀ w ∈ W, ∃ g, (f w).driverPod.templateGeneration = .ok g) :
    (c'.step keys (.pass noFaults)).policy = c.policy ∧
    (c'.step keys (.pass noFaults)).records = D.map (rolledOut newPods) ++
      W.map (fun w => (c'.nodeCalls keys (f w)).foldl NodeRecord.applyCall (f w)) ++
      R.map (fun r => (c'.nodeCalls keys r).foldl NodeRecord.applyCall r) := by
  have hgen := hc'.generations h hs hf
  obtain ⟨hp, hr⟩ := hc'
  refine ⟨(Cluster.pass_policy_of_drain_disabled keys noFaults c' (hp ▸ h.drain)).trans hp, ?_⟩
  rw [Cluster.step, c'.pass_noFaults_records keys (hp ▸ h.auto) hgen, hr, List.map_append,
    List.map_append, List.map_map, List.map_map]
  refine congrArg₂ (· ++ ·) (congrArg₂ (· ++ ·) (List.map_congr_left fun d hd => ?_) rfl) rfl
  simp only [Function.comp_apply, Cluster.nodeCalls_rolledOut h (hs.mem_before hd) c',
    List.foldl_nil]

/-- The first pass of a wave: with no node in progress, the slots admit the wave's nodes, the
first `k + 1` waiting, and no node after them. -/
theorem Cluster.pass_wave_admits (h : RolloutReady keys c ds newPods)
    (hmax : c.policy.maxParallelUpgrades = k + 1) (hs : WaveSplit c k D W R) {c' : Cluster}
    (hc' : WaveShape newPods c c' D W R id) :
    WaveShape newPods c (c'.step keys (.pass noFaults)) D W R
      fun r => { r with phase := .cordonRequired } := by
  obtain ⟨hp, hr⟩ := Cluster.pass_during_wave h hs hc' fun w hw =>
    let ⟨g, hg, _⟩ := (h.nodes w (hs.mem_wave hw)).behind; ⟨g, hg⟩
  /- the snapshot lists the wave's nodes and those after it under `UpgradeRequired`, unskipped -/
  have hur : (c'.snapshot.nodeStates .upgradeRequired).filter
      (fun ns => !skipNodeUpgrade keys ns.node) = (W ++ R).map NodeRecord.toNodeUpgradeState := by
    have hD : (D.map (rolledOut newPods)).filter (·.phase = .upgradeRequired) = [] :=
      List.filter_eq_nil_iff.mpr fun r hr => by
        obtain ⟨d, -, rfl⟩ := List.mem_map.mp hr
        simp [rolledOut]
    have hW : W.filter (·.phase = .upgradeRequired) = W := List.filter_eq_self.mpr fun w hw => by
      simp [(h.nodes w (hs.mem_wave hw)).phase]
    have hR : R.filter (·.phase = .upgradeRequired) = R := List.filter_eq_self.mpr fun r hr => by
      simp [(h.nodes r (hs.mem_after hr)).phase]
    simp only [Cluster.snapshot, hc'.2, List.map_id, List.filter_append, hD, hW, hR,
      List.nil_append]
    refine List.filter_eq_self.mpr fun ns hns => ?_
    obtain ⟨r, hr, rfl⟩ := List.mem_map.mp hns
    rcases List.mem_append.mp hr with hr | hr
    · simp [NodeRecord.toNodeUpgradeState, (h.nodes r (hs.mem_wave hr)).unskipped]
    · simp [NodeRecord.toNodeUpgradeState, (h.nodes r (hs.mem_after hr)).unskipped]
  have hidle : c'.upgradesInProgress = 0 := by
    rw [hc'.upgradesInProgress h hs]
    exact List.countP_eq_zero.mpr fun r hr => by
      obtain ⟨w, hw, rfl⟩ := List.mem_map.mp hr
      simp [(h.nodes w (hs.mem_wave hw)).phase, UpgradeState.inProgress]
  have hslots : (upgradesAvailable c'.snapshot c'.policy).toNat = k + 1 := by
    simp only [upgradesAvailable, hc'.1, hmax, upgradesInProgress_snapshot, hidle]
    split_ifs <;> omega
  /- the slots reach exactly the wave's nodes -/
  have htake : ((W ++ R).map NodeRecord.toNodeUpgradeState).take (k + 1) =
      W.map NodeRecord.toNodeUpgradeState := by
    rw [List.map_append]
    by_cases hR : R = []
    · rw [hR, List.map_nil, List.append_nil]
      exact List.take_of_length_le (by simpa using hs.size)
    · exact List.take_left' (by simpa using hs.full hR)
  have hadm : ∀ r, c'.admitted keys r =
      decide (r.toNodeUpgradeState ∈ W.map NodeRecord.toNodeUpgradeState) := fun r => by
    rw [Cluster.admitted, hur, hslots, htake]
  refine ⟨hp, hr.trans (congrArg₂ (· ++ ·) (congrArg₂ (· ++ ·) rfl
    (List.map_congr_left fun w hw => ?_)) (map_eq_self_iff.mpr fun r hr' => ?_))⟩
  · have hin : c'.admitted keys w = true := by
      rw [hadm]
      simpa using List.mem_map_of_mem NodeRecord.toNodeUpgradeState hw
    simp [Cluster.nodeCalls, hin, (h.nodes w (hs.mem_wave hw)).phase, nodeSteps, planCalls,
      NodeRecord.applyCall]
  · have hout : c'.admitted keys r = false := by
      rw [hadm, decide_eq_false_iff_not]
      intro hm
      obtain ⟨w, hw, hwr⟩ := List.mem_map.mp hm
      exact hs.names_apart.2 r hr' (List.mem_map.mpr ⟨w, hw, congrArg (·.node.name) hwr⟩)
    simp [Cluster.nodeCalls, hout, (h.nodes r (hs.mem_after hr')).phase]

/-- A pass once the wave holds the slots: each node of the wave takes its block, and no node
after the wave is admitted. -/
theorem Cluster.pass_wave (h : RolloutReady keys c ds newPods)
    (hmax : c.policy.maxParallelUpgrades = k + 1) (hs : WaveSplit c k D W R) {c' : Cluster}
    {f g : NodeRecord → NodeRecord} (hc' : WaveShape newPods c c' D W R f)
    (hf : ∀ w ∈ W, (f w).phase.inProgress = true ∧
      ∃ gen, (f w).driverPod.templateGeneration = .ok gen)
    (hg : ∀ w ∈ W, (planCalls (nodeSteps keys c.policy (f w).phase
      (f w).toNodeUpgradeState)).foldl NodeRecord.applyCall (f w) = g w) :
    WaveShape newPods c (c'.step keys (.pass noFaults)) D W R g := by
  obtain ⟨hp, hr⟩ := Cluster.pass_during_wave h hs hc' fun w hw => (hf w hw).2
  refine ⟨hp, hr.trans (congrArg₂ (· ++ ·) (congrArg₂ (· ++ ·) rfl
    (List.map_congr_left fun w hw => ?_)) (map_eq_self_iff.mpr fun r hr' => ?_))⟩
  · have hne : (f w).phase ≠ .upgradeRequired := fun he => by
      simpa [he, UpgradeState.inProgress] using (hf w hw).1
    rw [Cluster.nodeCalls, if_neg fun h' => hne h'.1, hc'.1]
    exact hg w hw
  · /- the wave's nodes hold every slot -/
    have hcount : c'.upgradesInProgress = k + 1 := by
      rw [hc'.upgradesInProgress h hs, List.countP_eq_length.mpr, List.length_map,
        hs.full (List.ne_nil_of_mem hr')]
      intro x hx
      obtain ⟨w, hw, rfl⟩ := List.mem_map.mp hx
      exact (hf w hw).1
    have hslot : upgradesAvailable c'.snapshot c'.policy ≤ 0 := by
      simp only [upgradesAvailable, hc'.1, hmax, upgradesInProgress_snapshot, hcount]
      split_ifs <;> omega
    have hout := Cluster.admitted_of_no_slot keys hslot r
    simp [Cluster.nodeCalls, hout, (h.nodes r (hs.mem_after hr')).phase]

/-- The pod manager's moves of the wave's nodes, from a phase it owns, leave the others. -/
theorem WaveShape.run_moves (hs : WaveSplit c k D W R) (h : RolloutReady keys c ds newPods)
    {c' : Cluster} {f : NodeRecord → NodeRecord} (hc' : WaveShape newPods c c' D W R f)
    {q : UpgradeState} (hq : q.outOfBand = true)
    (hf : ∀ w ∈ W, (f w).node.name = w.node.name ∧ (f w).phase.outOfBand = true) :
    WaveShape newPods c (c'.run keys ((W.map (·.node.name)).map fun n => .move n q)) D W R
      fun w => { f w with phase := q } := by
  obtain ⟨hp, hr⟩ := c'.run_moves keys (W.map (·.node.name)) hq
  refine ⟨hp.trans hc'.1, hr.trans ?_⟩
  rw [hc'.2, List.map_append, List.map_append, List.map_map, List.map_map]
  refine congrArg₂ (· ++ ·) (congrArg₂ (· ++ ·) (List.map_congr_left fun d _ => ?_)
    (List.map_congr_left fun w hw => ?_)) (map_eq_self_iff.mpr fun r hr => ?_)
  · simp [rolledOut, UpgradeState.outOfBand]
  · have hm : (f w).node.name ∈ W.map (·.node.name) := (hf w hw).1 ▸ List.mem_map_of_mem _ hw
    rw [Function.comp_apply, if_pos ⟨hm, (hf w hw).2⟩]
  · simp [(h.nodes r (hs.mem_after hr)).phase, UpgradeState.outOfBand]

/-- New driver pods for the wave's nodes leave the others. -/
theorem WaveShape.run_updateDrivers (keys : UpgradeKeys) (ds : DaemonSet)
    (hs : WaveSplit c k D W R) {c' : Cluster}
    {f : NodeRecord → NodeRecord} (hc' : WaveShape newPods c c' D W R f)
    (hf : ∀ w ∈ W, (f w).node.name = w.node.name) :
    WaveShape newPods c
      (c'.run keys ((W.map (·.node.name)).map fun n => .updateDriver n (newPods n) ds)) D W R
      fun w => { f w with driverPod := newPods w.node.name, driverDaemonSet := ds } := by
  obtain ⟨hp, hr⟩ := c'.run_updateDrivers keys (W.map (·.node.name)) newPods ds
  refine ⟨hp.trans hc'.1, hr.trans ?_⟩
  rw [hc'.2, List.map_append, List.map_append, List.map_map, List.map_map]
  refine congrArg₂ (· ++ ·) (congrArg₂ (· ++ ·) (List.map_congr_left fun d hd => ?_)
    (List.map_congr_left fun w hw => ?_)) (map_eq_self_iff.mpr fun r hr => ?_)
  · exact if_neg (hs.names_apart.1 d hd)
  · have hm : (f w).node.name ∈ W.map (·.node.name) := (hf w hw) ▸ List.mem_map_of_mem _ hw
    rw [Function.comp_apply, if_pos hm, hf w hw]
  · exact if_neg (hs.names_apart.2 r hr)

/-- One wave, stage by stage: from the nodes before it rolled out and the others waiting, each
stage of the wave's script moves its nodes one phase on and leaves every other node as it was. -/
theorem Cluster.wave_stages (h : RolloutReady keys c ds newPods)
    (hmax : c.policy.maxParallelUpgrades = k + 1) (hs : WaveSplit c k D W R) {c' : Cluster}
    (hc' : WaveShape newPods c c' D W R id) :
    let p : Event := .pass noFaults
    let names := W.map (·.node.name)
    let moves : List Event := names.map fun n => .move n .drainRequired
    let updates : List Event := names.map fun n => .updateDriver n (newPods n) ds
    let old (q : UpgradeState) (r : NodeRecord) : NodeRecord :=
      { r with node := { r.node with unschedulable := true }, phase := q }
    let new (q : UpgradeState) (r : NodeRecord) : NodeRecord :=
      { old q r with driverPod := newPods r.node.name, driverDaemonSet := ds }
    let during (evs : List Event) (f : NodeRecord → NodeRecord) : Prop :=
      WaveShape newPods c (c'.run keys evs) D W R f
    during [p] (fun r => { r with phase := .cordonRequired }) ∧
    during [p, p] (old .waitForJobsRequired) ∧
    during [p, p, p] (old .podDeletionRequired) ∧
    during ([p, p, p] ++ moves) (old .drainRequired) ∧
    during ([p, p, p] ++ moves ++ [p]) (old .podRestartRequired) ∧
    during ([p, p, p] ++ moves ++ [p, p]) (old .podRestartRequired) ∧
    during ([p, p, p] ++ moves ++ [p, p] ++ updates) (new .podRestartRequired) ∧
    during ([p, p, p] ++ moves ++ [p, p] ++ updates ++ [p]) (new .uncordonRequired) ∧
    during ([p, p, p] ++ moves ++ [p, p] ++ updates ++ [p, p]) (rolledOut newPods) := by
  intro p names moves updates old new during
  have hold : ∀ w ∈ W, ∃ g, w.driverPod.templateGeneration = .ok g := fun w hw =>
    let ⟨g, hg, _⟩ := (h.nodes w (hs.mem_wave hw)).behind; ⟨g, hg⟩
  have h₁ := Cluster.pass_wave_admits h hmax hs hc'
  have h₂ := Cluster.pass_wave (g := old .waitForJobsRequired) h hmax hs h₁
    (fun w hw => ⟨rfl, hold w hw⟩) fun _ _ => rfl
  have h₃ := Cluster.pass_wave (g := old .podDeletionRequired) h hmax hs h₂
    (fun w hw => ⟨rfl, hold w hw⟩) fun _ _ => by
      simp only [old, nodeSteps, waitForJobsRequiredSteps, h.wait, if_true]
      rfl
  /- the pod manager moves the wave's nodes to `DrainRequired` -/
  have h₄ := h₃.run_moves hs h (q := .drainRequired) rfl fun _ _ => ⟨rfl, rfl⟩
  have h₅ := Cluster.pass_wave (g := old .podRestartRequired) h hmax hs h₄
    (fun w hw => ⟨rfl, hold w hw⟩) fun _ _ => by
      simp only [old, nodeSteps, h.drain, Bool.false_eq_true, if_false]
      rfl
  /- a driver pod behind its daemon set is left to restart -/
  have h₆ := Cluster.pass_wave (g := old .podRestartRequired) h hmax hs h₅
    (fun w hw => ⟨rfl, hold w hw⟩) fun w hw => by
      obtain ⟨-, -, -, -, hds, g, hg, hne⟩ := h.nodes w (hs.mem_wave hw)
      simp only [old, nodeSteps, podRestartSteps, NodeRecord.toNodeUpgradeState, hg, hds, ne_eq,
        hne, not_false_eq_true, if_true]
      rfl
  /- the wave's driver pods are replaced by ones in sync with the daemon set -/
  have h₇ := h₆.run_updateDrivers keys ds hs fun _ _ => rfl
  /- the in-sync pods end the upgrades: uncordon, then `Done` -/
  have h₈ := Cluster.pass_wave (g := new .uncordonRequired) h hmax hs h₇
    (fun w hw => ⟨rfl, _, (h.inSync w (hs.mem_wave hw)).generation⟩) fun w hw => by
      have hmarker := (h.nodes w (hs.mem_wave hw)).unmarked
      obtain ⟨hgen, hrunning, hne, hready⟩ := h.inSync w (hs.mem_wave hw)
      simp only [hasAnnotationKey] at hmarker
      simp [new, old, nodeSteps, podRestartSteps, inSyncSteps, syncedNodeSteps,
        NodeRecord.toNodeUpgradeState, hgen, isDriverPodInSync, hrunning, hne,
        (containersReady_iff _).mpr hready, hasAnnotationKey, hmarker, planCalls,
        NodeRecord.applyCall]
  have h₉ := Cluster.pass_wave (g := rolledOut newPods) h hmax hs h₈
    (fun w hw => ⟨rfl, _, (h.inSync w (hs.mem_wave hw)).generation⟩) fun w hw => by
      obtain ⟨-, hsched, -, -, hds, -⟩ := h.nodes w (hs.mem_wave hw)
      have hnode : { w.node with unschedulable := false } = w.node := by rw [← hsched]
      simp [new, old, rolledOut, nodeSteps, uncordonRequiredSteps, planCalls,
        NodeRecord.applyCall, hnode, hds]
  refine ⟨h₁, h₂, h₃, ?_, ?_, ?_, ?_, ?_, ?_⟩ <;> simp only [during, Cluster.run_append]
  exacts [h₄, h₅, h₆, h₇, h₈, h₉]

/-- One wave: from the nodes before it rolled out and the others waiting, the wave's script rolls
out its nodes and leaves every other node as it was. -/
theorem Cluster.run_wave (h : RolloutReady keys c ds newPods)
    (hmax : c.policy.maxParallelUpgrades = k + 1) (hs : WaveSplit c k D W R) {c' : Cluster}
    (hc' : WaveShape newPods c c' D W R id) :
    WaveShape newPods c (c'.run keys (waveEvents newPods ds (W.map (·.node.name)))) D W R
      (rolledOut newPods) :=
  (Cluster.wave_stages h hmax hs hc').2.2.2.2.2.2.2.2

/-- The waves of the nodes `P` after the rolled-out ones, when the slots divide their number or
no node follows them: the script rolls out `P`, leaves the nodes after it waiting and keeps the
policy. -/
theorem Cluster.run_waves (h : RolloutReady keys c ds newPods)
    (hmax : c.policy.maxParallelUpgrades = k + 1) (names : List String) :
    ∀ (D P R : List NodeRecord) (c' : Cluster), P.map (·.node.name) = names →
      c.records = D ++ P ++ R → (R ≠ [] → (k + 1) ∣ P.length) → c'.policy = c.policy →
      c'.records = D.map (rolledOut newPods) ++ P ++ R →
      (c'.run keys (rolloutEvents newPods ds k names)).policy = c.policy ∧
      (c'.run keys (rolloutEvents newPods ds k names)).records =
        (D ++ P).map (rolledOut newPods) ++ R := by
  induction names using rolloutEvents.induct newPods ds k with
  | case1 =>
    intro D P R c' hnames _ _ hp hr
    obtain rfl := List.map_eq_nil_iff.mp hnames
    rw [rolloutEvents.eq_1]
    exact ⟨hp, by simpa using hr⟩
  | case2 n names ih =>
    intro D P R c' hnames hsplit hdvd hp hr
    have hP : P = P.take (k + 1) ++ P.drop (k + 1) := (List.take_append_drop _ _).symm
    /- the wave fills the slots unless it is the last -/
    have hfull : P.drop (k + 1) ++ R ≠ [] → (P.take (k + 1)).length = k + 1 := fun hne => by
      have hlen : k + 1 ≤ P.length := by
        by_cases hd : P.drop (k + 1) = []
        · have hpos : 0 < P.length := List.length_pos.mpr (by rintro rfl; simp at hnames)
          exact Nat.le_of_dvd hpos (hdvd (by simpa [hd] using hne))
        · have := List.length_pos.mpr hd
          rw [List.length_drop] at this
          omega
      rw [List.length_take, Nat.min_eq_left hlen]
    have hs : WaveSplit c k D (P.take (k + 1)) (P.drop (k + 1) ++ R) :=
      ⟨by rw [hsplit, List.append_assoc D (P.take _), ← List.append_assoc (P.take _),
        List.take_append_drop, List.append_assoc], hfull,
        by simp [List.length_take]⟩
    have hwave := Cluster.run_wave h hmax hs
      ⟨hp, by rw [hr, List.map_id]; conv_lhs => rw [hP]
              simp only [List.append_assoc]⟩
    have htake : (n :: names).take (k + 1) = (P.take (k + 1)).map (·.node.name) := by
      rw [List.map_take, hnames]
    have hrest := ih (D ++ P.take (k + 1)) (P.drop (k + 1)) R _ (by rw [List.map_drop, hnames])
      (by rw [hsplit, List.append_assoc D (P.take _), List.take_append_drop])
      (fun hR => by rw [List.length_drop]; exact Nat.dvd_sub' (hdvd hR) (Nat.dvd_refl _))
      hwave.1 (by rw [hwave.2, List.map_append, List.append_assoc _ _ R])
    rw [List.append_assoc D, List.take_append_drop] at hrest
    rwa [rolloutEvents.eq_2, htake, Cluster.run_append]

end Waves

/-- A rollout with `k + 1` slots completes, in waves. Take a cluster whose nodes are all under
`UpgradeRequired`, schedulable, without the initial-state marker or the skip label, on driver
pods behind the one driver daemon set, under a policy with auto upgrade on, no
wait-for-completion selector, drain off and `MaxParallelUpgrades = k + 1`. The script that runs
one wave for each next `k + 1` nodes, in the cluster's order, leaves after `j` waves the first
`j * (k + 1)` nodes in `Done` on their new pods and the others as they were, and leaves at its end
every node in `Done` on its new pod. Within the wave that follows the first `j`, its script's
stages take its nodes, the next `k + 1`, one phase on each, while the nodes before them stay
rolled out and those after them wait: a pass to `CordonRequired`, one to `WaitForJobsRequired`
cordoned, one to `PodDeletionRequired`, the pod manager's moves to `DrainRequired`, a pass to
`PodRestartRequired` and one that leaves them there, their new driver pods, a pass to
`UncordonRequired` and one to `Done`. -/
theorem upgrade_completes_in_waves (keys : UpgradeKeys) (c : Cluster) (ds : DaemonSet)
    (newPods : String → Pod) (k : Nat) (h : RolloutReady keys c ds newPods)
    (hmax : c.policy.maxParallelUpgrades = k + 1) :
    let p : Event := .pass noFaults
    let old (q : UpgradeState) (r : NodeRecord) : NodeRecord :=
      { r with node := { r.node with unschedulable := true }, phase := q }
    let new (q : UpgradeState) (r : NodeRecord) : NodeRecord :=
      { old q r with driverPod := newPods r.node.name, driverDaemonSet := ds }
    (∀ j, (c.run keys (rolloutEvents newPods ds k
      ((c.records.take (j * (k + 1))).map (·.node.name)))).records =
        (c.records.take (j * (k + 1))).map (rolledOut newPods) ++
          c.records.drop (j * (k + 1))) ∧
    (∀ j, let D := c.records.take (j * (k + 1))
      let W := (c.records.drop (j * (k + 1))).take (k + 1)
      let R := (c.records.drop (j * (k + 1))).drop (k + 1)
      let names := W.map (·.node.name)
      let moves : List Event := names.map fun n => .move n .drainRequired
      let updates : List Event := names.map fun n => .updateDriver n (newPods n) ds
      let during (evs : List Event) (f : NodeRecord → NodeRecord) : Prop :=
        (c.run keys (rolloutEvents newPods ds k (D.map (·.node.name)) ++ evs)).records =
          D.map (rolledOut newPods) ++ W.map f ++ R
      during [p] (fun r => { r with phase := .cordonRequired }) ∧
      during [p, p] (old .waitForJobsRequired) ∧
      during [p, p, p] (old .podDeletionRequired) ∧
      during ([p, p, p] ++ moves) (old .drainRequired) ∧
      during ([p, p, p] ++ moves ++ [p]) (old .podRestartRequired) ∧
      during ([p, p, p] ++ moves ++ [p, p]) (old .podRestartRequired) ∧
      during ([p, p, p] ++ moves ++ [p, p] ++ updates) (new .podRestartRequired) ∧
      during ([p, p, p] ++ moves ++ [p, p] ++ updates ++ [p]) (new .uncordonRequired) ∧
      during ([p, p, p] ++ moves ++ [p, p] ++ updates ++ [p, p]) (rolledOut newPods)) ∧
    (c.run keys (rolloutEvents newPods ds k (c.records.map (·.node.name)))).records =
      c.records.map (rolledOut newPods) := by
  intro p old new
  /- the first `j` waves fill their slots unless no node follows them -/
  have hwaves : ∀ j, let D := c.records.take (j * (k + 1))
      let c' := c.run keys (rolloutEvents newPods ds k (D.map (·.node.name)))
      c'.policy = c.policy ∧ c'.records = D.map (rolledOut newPods) ++ c.records.drop (j * (k + 1)) :=
    fun j => by
      have hdvd : c.records.drop (j * (k + 1)) ≠ [] →
          (k + 1) ∣ (c.records.take (j * (k + 1))).length := fun hne => by
        have := List.length_pos.mpr hne
        rw [List.length_drop] at this
        rw [List.length_take, Nat.min_eq_left (by omega)]
        exact Nat.dvd_mul_left _ _
      simpa using Cluster.run_waves h hmax _ [] _ _ c rfl (by simp) hdvd rfl (by simp)
  refine ⟨fun j => (hwaves j).2, fun j => ?_, ?_⟩
  · intro D W R names moves updates during
    have hs : WaveSplit c k D W R :=
      ⟨by simp only [D, W, R, List.append_assoc, List.take_append_drop],
        fun hR => by
          have := List.length_pos.mpr hR
          simp only [R, List.length_drop] at this
          simp only [W, List.length_take, List.length_drop]
          omega,
        List.length_take_le _ _⟩
    have hc' : WaveShape newPods c (c.run keys (rolloutEvents newPods ds k (D.map (·.node.name))))
        D W R id :=
      ⟨(hwaves j).1, by
        rw [(hwaves j).2, List.map_id, List.append_assoc, List.take_append_drop]⟩
    obtain ⟨s₁, s₂, s₃, s₄, s₅, s₆, s₇, s₈, s₉⟩ := Cluster.wave_stages h hmax hs hc'
    refine ⟨?_, ?_, ?_, ?_, ?_, ?_, ?_, ?_, ?_⟩ <;> simp only [during] <;> rw [Cluster.run_append]
    exacts [s₁.2, s₂.2, s₃.2, s₄.2, s₅.2, s₆.2, s₇.2, s₈.2, s₉.2]
  · simpa using (Cluster.run_waves h hmax _ [] c.records [] c rfl (by simp) (absurd rfl) rfl
      (by simp)).2

theorem upgrade_completes_in_waves_three_nodes :
    let keys : UpgradeKeys := ⟨"skip", "initial-state", "skip-drain"⟩
    let pod : Pod := ⟨.ok 1, none, "Running", [⟨true⟩]⟩
    let newPods : String → Pod := fun _ => ⟨.ok 2, none, "Running", [⟨true⟩]⟩
    let c : Cluster := ⟨[⟨⟨"a", false, [], []⟩, .upgradeRequired, pod, ⟨2⟩, false⟩,
      ⟨⟨"b", false, [], []⟩, .upgradeRequired, pod, ⟨2⟩, false⟩,
      ⟨⟨"c", false, [], []⟩, .upgradeRequired, pod, ⟨2⟩, false⟩], ⟨true, 2, none, none, none⟩,
      by decide⟩
    let p : Event := .pass noFaults
    let old (q : UpgradeState) (r : NodeRecord) : NodeRecord :=
      { r with node := { r.node with unschedulable := true }, phase := q }
    let new (q : UpgradeState) (r : NodeRecord) : NodeRecord :=
      { old q r with driverPod := newPods r.node.name, driverDaemonSet := ⟨2⟩ }
    RolloutReady keys c ⟨2⟩ newPods ∧ c.policy.maxParallelUpgrades = (1 : Nat) + 1 ∧
    (∀ j, (c.run keys (rolloutEvents newPods ⟨2⟩ 1
      ((c.records.take (j * (1 + 1))).map (·.node.name)))).records =
        (c.records.take (j * (1 + 1))).map (rolledOut newPods) ++
          c.records.drop (j * (1 + 1))) ∧
    (∀ j, let D := c.records.take (j * (1 + 1))
      let W := (c.records.drop (j * (1 + 1))).take (1 + 1)
      let R := (c.records.drop (j * (1 + 1))).drop (1 + 1)
      let names := W.map (·.node.name)
      let moves : List Event := names.map fun n => .move n .drainRequired
      let updates : List Event := names.map fun n => .updateDriver n (newPods n) ⟨2⟩
      let during (evs : List Event) (f : NodeRecord → NodeRecord) : Prop :=
        (c.run keys (rolloutEvents newPods ⟨2⟩ 1 (D.map (·.node.name)) ++ evs)).records =
          D.map (rolledOut newPods) ++ W.map f ++ R
      during [p] (fun r => { r with phase := .cordonRequired }) ∧
      during [p, p] (old .waitForJobsRequired) ∧
      during [p, p, p] (old .podDeletionRequired) ∧
      during ([p, p, p] ++ moves) (old .drainRequired) ∧
      during ([p, p, p] ++ moves ++ [p]) (old .podRestartRequired) ∧
      during ([p, p, p] ++ moves ++ [p, p]) (old .podRestartRequired) ∧
      during ([p, p, p] ++ moves ++ [p, p] ++ updates) (new .podRestartRequired) ∧
      during ([p, p, p] ++ moves ++ [p, p] ++ updates ++ [p]) (new .uncordonRequired) ∧
      during ([p, p, p] ++ moves ++ [p, p] ++ updates ++ [p, p]) (rolledOut newPods)) ∧
    (c.run keys (rolloutEvents newPods ⟨2⟩ 1 (c.records.map (·.node.name)))).records =
      c.records.map (rolledOut newPods) := by
  intro keys pod newPods c
  have h : RolloutReady keys c ⟨2⟩ newPods :=
    ⟨rfl, rfl, rfl, fun r hr => by
      simp only [c, List.mem_cons, List.mem_singleton, List.not_mem_nil, or_false] at hr
      rcases hr with rfl | rfl | rfl <;> exact ⟨rfl, rfl, rfl, rfl, rfl, 1, rfl, by decide⟩,
      fun _ _ => ⟨rfl, rfl, nofun, by simp [newPods]⟩⟩
  exact ⟨h, rfl, upgrade_completes_in_waves keys c ⟨2⟩ newPods 1 h rfl⟩

end DriverUpgrade
