import DriverUpgrade.Basic

/-! `ClusterUpgradeStateManager`: `ApplyState` and the processors it runs, one per upgrade
state. Each Go `for` loop over a state's nodes is a `loop` by recursion on the list; logging is
left out. -/
namespace DriverUpgrade

/-- `skipNodeUpgrade` -/
def skipNodeUpgrade (keys : UpgradeKeys) (node : Node) : Bool :=
  (node.labels.lookup keys.skipNodeLabelKey).getD "" == "true"

def isNodeUnschedulable (node : Node) : Bool := node.unschedulable

/-- `_, ok := node.Annotations[key]` -/
def hasAnnotationKey (node : Node) (key : String) : Bool := (node.annotations.lookup key).isSome

def deletionTimestampIsZero (pod : Pod) : Bool :=
  match pod.deletionTimestamp with
  | none => true
  | some t => t == 0

/-- The loop of `isDriverPodInSync` over container statuses, false at the first not ready. -/
def containersReady : List ContainerStatus → Bool
  | [] => true
  | c :: rest => if !c.ready then false else containersReady rest

def isDriverPodInSync (ns : NodeUpgradeState) : Except Error Bool :=
  match ns.driverPod.templateGeneration with
  | .error err => .error err
  | .ok podTemplateGeneration =>
    if podTemplateGeneration = ns.driverDaemonSet.generation ∧ ns.driverPod.phase = "Running" ∧
        ns.driverPod.containerStatuses.length ≠ 0 then
      .ok (containersReady ns.driverPod.containerStatuses)
    else .ok false

section Processors

variable (keys : UpgradeKeys) (cs : ClusterUpgradeState)

def processDoneOrUnknownNodes (nodeStateName : UpgradeState) : Pass Unit :=
  loop (cs.nodeStates nodeStateName)
where
  loop : List NodeUpgradeState → Pass Unit
    | [] => pure ()
    | ns :: rest =>
      match ns.driverPod.templateGeneration with
      | .error err => Pass.fail err
      | .ok podTemplateGeneration =>
        if podTemplateGeneration ≠ ns.driverDaemonSet.generation then do
          if isNodeUnschedulable ns.node then
            invoke ( Call.changeNodeUpgradeAnnotation ns.node keys.initialStateAnnotationKey "true")
          invoke (.changeNodeUpgradeState ns.node .upgradeRequired)
          loop rest
        else if nodeStateName = .unknown then do
          invoke (.changeNodeUpgradeState ns.node .done)
          loop rest
        else loop rest

def processUpgradeRequiredNodes (limit : Int) : Pass Unit :=
  loop (cs.nodeStates .upgradeRequired) limit
where
  loop : List NodeUpgradeState → Int → Pass Unit
    | [], _ => pure ()
    | ns :: rest, limit =>
      if limit ≤ 0 then pure ()
      else if skipNodeUpgrade keys ns.node then loop rest limit
      else do
        match ← attempt (.changeNodeUpgradeState ns.node .cordonRequired) with
        | none => loop rest (limit - 1)
        | some err => Pass.fail err

def processCordonRequiredNodes : Pass Unit :=
  loop (cs.nodeStates .cordonRequired)
where
  loop : List NodeUpgradeState → Pass Unit
    | [] => pure ()
    | ns :: rest => do
      invoke (.cordon ns.node)
      invoke (.changeNodeUpgradeState ns.node .waitForJobsRequired)
      loop rest

/-- `waitForCompletionSpec == nil || waitForCompletionSpec.PodSelector == ""` -/
def noPodSelector : Option WaitForCompletionSpec → Bool
  | none => true
  | some spec => spec.podSelector == ""

def processWaitForJobsRequiredNodes (waitForCompletionSpec : Option WaitForCompletionSpec) :
    Pass Unit := do
  let nodes ← loop (cs.nodeStates .waitForJobsRequired) []
  match waitForCompletionSpec with
  | none => pure ()
  | some spec =>
    if spec.podSelector = "" then pure ()
    else if nodes.length = 0 then pure ()
    else invoke (.scheduleCheckOnPodCompletion ⟨spec.podSelector, none, nodes⟩)
where
  loop : List NodeUpgradeState → List Node → Pass (List Node)
    | [], nodes => pure nodes
    | ns :: rest, nodes => do
      if noPodSelector waitForCompletionSpec then
        discard (.changeNodeUpgradeState ns.node .podDeletionRequired)
      loop rest (nodes ++ [ns.node])

def processPodDeletionRequiredNodes (podDeletionSpec : Option PodDeletionSpec) : Pass Unit :=
  let nodes := (cs.nodeStates .podDeletionRequired).map (·.node)
  if nodes.length = 0 then pure ()
  else invoke (.schedulePodEviction ⟨"", podDeletionSpec, nodes⟩)

/-- `drainSpec` is the pointer `upgradePolicy.DrainSpec`: the augmented selector is stored
through it before the drain is scheduled. -/
def processDrainNodes (drainSpec : Option DrainSpec) : Pass Unit :=
  match drainSpec with
  | some spec =>
    if spec.enable then do
      let skipDrainPodSelector := keys.skipDrainPodLabelKey ++ "!=true"
      let spec := { spec with podSelector :=
        if spec.podSelector = "" then skipDrainPodSelector
        else spec.podSelector ++ "," ++ skipDrainPodSelector }
      writeDrainSpec spec
      invoke (.scheduleNodesDrain ⟨spec, (cs.nodeStates .drainRequired).map (·.node)⟩)
    else loop (cs.nodeStates .drainRequired)
  | none => loop (cs.nodeStates .drainRequired)
where
  loop : List NodeUpgradeState → Pass Unit
    | [] => pure ()
    | ns :: rest => do
      invoke (.changeNodeUpgradeState ns.node .podRestartRequired)
      loop rest

/-- The block `ProcessPodRestartNodes` and `ProcessUpgradeFailedNodes` share for a node whose
driver pod is in sync: `UncordonRequired`, or `Done` and the marker removed when the node
carries the initial-state annotation. -/
def changeStateOfSyncedNode (ns : NodeUpgradeState) : Pass Unit := do
  let newUpgradeState :=
    if hasAnnotationKey ns.node keys.initialStateAnnotationKey then UpgradeState.done
    else .uncordonRequired
  invoke (.changeNodeUpgradeState ns.node newUpgradeState)
  if newUpgradeState = .done then
    invoke ( Call.changeNodeUpgradeAnnotation ns.node keys.initialStateAnnotationKey "null")

def processPodRestartNodes : Pass Unit := do
  let pods ← loop (cs.nodeStates .podRestartRequired) []
  invoke (.schedulePodsRestart pods)
where
  loop : List NodeUpgradeState → List Pod → Pass (List Pod)
    | [], pods => pure pods
    | ns :: rest, pods =>
      match ns.driverPod.templateGeneration with
      | .error err => Pass.fail err
      | .ok podTemplateGeneration =>
        if podTemplateGeneration ≠ ns.driverDaemonSet.generation then
          loop rest (if deletionTimestampIsZero ns.driverPod then pods ++ [ns.driverPod] else pods)
        else
          match isDriverPodInSync ns with
          | .error err => Pass.fail err
          | .ok driverPodInSync => do
            if driverPodInSync then changeStateOfSyncedNode keys ns
            loop rest pods

def processUpgradeFailedNodes : Pass Unit :=
  loop (cs.nodeStates .failed)
where
  loop : List NodeUpgradeState → Pass Unit
    | [] => pure ()
    | ns :: rest =>
      match isDriverPodInSync ns with
      | .error err => Pass.fail err
      | .ok driverPodInSync => do
        if driverPodInSync then changeStateOfSyncedNode keys ns
        loop rest

def processUncordonRequiredNodes : Pass Unit :=
  loop (cs.nodeStates .uncordonRequired)
where
  loop : List NodeUpgradeState → Pass Unit
    | [] => pure ()
    | ns :: rest => do
      invoke (.uncordon ns.node)
      invoke (.changeNodeUpgradeState ns.node .done)
      loop rest

def upgradesInProgress : Nat :=
  (cs.nodeStates .cordonRequired).length + (cs.nodeStates .drainRequired).length +
    (cs.nodeStates .podRestartRequired).length + (cs.nodeStates .waitForJobsRequired).length +
    (cs.nodeStates .podDeletionRequired).length + (cs.nodeStates .failed).length +
    (cs.nodeStates .uncordonRequired).length

def upgradesAvailable (upgradePolicy : DriverUpgradePolicySpec) : Int :=
  if upgradePolicy.maxParallelUpgrades = 0 then (cs.nodeStates .upgradeRequired).length
  else upgradePolicy.maxParallelUpgrades - upgradesInProgress cs

end Processors

def applyState (keys : UpgradeKeys) (currentState : Option ClusterUpgradeState)
    (upgradePolicy : Option DriverUpgradePolicySpec) : Pass Unit :=
  match currentState, upgradePolicy with
  | none, _ => Pass.fail "currentState should not be empty"
  | some _, none => pure ()
  | some cs, some policy =>
    if !policy.autoUpgrade then pure ()
    else do
      processDoneOrUnknownNodes keys cs .unknown
      processDoneOrUnknownNodes keys cs .done
      processUpgradeRequiredNodes keys cs (upgradesAvailable cs policy)
      processCordonRequiredNodes cs
      processWaitForJobsRequiredNodes cs policy.waitForCompletion
      processPodDeletionRequiredNodes cs policy.podDeletion
      processDrainNodes keys cs policy.drainSpec
      processPodRestartNodes keys cs
      processUpgradeFailedNodes keys cs
      processUncordonRequiredNodes cs

end DriverUpgrade
