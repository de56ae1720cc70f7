import DriverUpgrade.Manager
import DriverUpgrade.Plan

/-! The plan of each processor, in closed form over its state's node list, and the theorem that
the processor realizes it; `applyState_realizes` assembles them into the plan of a pass. -/
namespace DriverUpgrade

/-- The order in which `ApplyState` runs the processors. -/
def processingOrder : List UpgradeState :=
  [.unknown, .done, .upgradeRequired, .cordonRequired, .waitForJobsRequired, .podDeletionRequired,
    .drainRequired, .podRestartRequired, .failed, .uncordonRequired]

section Plans

variable (keys : UpgradeKeys) (cs : ClusterUpgradeState)

def doneOrUnknownSteps (nodeStateName : UpgradeState) (ns : NodeUpgradeState) : List Step :=
  match ns.driverPod.templateGeneration with
  | .error err => [.fail err]
  | .ok podTemplateGeneration =>
    if podTemplateGeneration ≠ ns.driverDaemonSet.generation then
      (if isNodeUnschedulable ns.node then
        [.call ( Call.changeNodeUpgradeAnnotation ns.node keys.initialStateAnnotationKey "true")]
      else []) ++ [.call (.changeNodeUpgradeState ns.node .upgradeRequired)]
    else if nodeStateName = .unknown then [.call (.changeNodeUpgradeState ns.node .done)]
    else []

theorem processDoneOrUnknownNodes_loop_realizes (nodeStateName : UpgradeState)
    (l : List NodeUpgradeState) :
    Realizes (processDoneOrUnknownNodes.loop keys nodeStateName l)
      (l.flatMap (doneOrUnknownSteps keys nodeStateName)) () := by
  induction l with
  | nil => exact Realizes.pure ()
  | cons ns rest ih =>
    rw [processDoneOrUnknownNodes.loop, List.flatMap_cons, doneOrUnknownSteps]
    cases ns.driverPod.templateGeneration with
    | error err => exact Realizes.fail _ _
    | ok g =>
      simp only
      split_ifs
      · exact Realizes.invoke_bind _ (Realizes.invoke_bind _ ih)
      · exact Realizes.pure_bind (Realizes.invoke_bind _ ih)
      · exact Realizes.invoke_bind _ ih
      · exact ih

def upgradeRequiredPlan (l : List NodeUpgradeState) (limit : Int) : List Step :=
  ((l.filter fun ns => !skipNodeUpgrade keys ns.node).take limit.toNat).map
    fun ns => .call (.changeNodeUpgradeState ns.node .cordonRequired)

theorem processUpgradeRequiredNodes_loop_realizes (l : List NodeUpgradeState) (limit : Int) :
    Realizes (processUpgradeRequiredNodes.loop keys l limit)
      (upgradeRequiredPlan keys l limit) () := by
  induction l generalizing limit with
  | nil => simpa [processUpgradeRequiredNodes.loop, upgradeRequiredPlan] using Realizes.pure ()
  | cons ns rest ih =>
    rw [processUpgradeRequiredNodes.loop]
    by_cases hl : limit ≤ 0
    · have h0 : limit.toNat = 0 := by omega
      simpa [hl, upgradeRequiredPlan, h0] using Realizes.pure ()
    · by_cases hs : skipNodeUpgrade keys ns.node
      · simpa only [hl, hs, if_false, if_true, upgradeRequiredPlan, List.filter_cons,
          Bool.not_true] using ih limit
      · have ht : limit.toNat = (limit - 1).toNat + 1 := by omega
        simp only [hl, hs, if_false, upgradeRequiredPlan, List.filter_cons, Bool.not_false, if_true,
          ht, List.take_succ_cons, List.map_cons]
        exact Realizes.attempt_match _ (ih (limit - 1))

def cordonRequiredSteps (ns : NodeUpgradeState) : List Step :=
  [.call (.cordon ns.node), .call (.changeNodeUpgradeState ns.node .waitForJobsRequired)]

theorem processCordonRequiredNodes_loop_realizes (l : List NodeUpgradeState) :
    Realizes (processCordonRequiredNodes.loop l) (l.flatMap cordonRequiredSteps) () := by
  induction l with
  | nil => exact Realizes.pure ()
  | cons ns rest ih => exact Realizes.invoke_bind _ (Realizes.invoke_bind _ ih)

def waitForJobsRequiredSteps (waitForCompletionSpec : Option WaitForCompletionSpec)
    (ns : NodeUpgradeState) : List Step :=
  if noPodSelector waitForCompletionSpec then
    [.ignore (.changeNodeUpgradeState ns.node .podDeletionRequired)]
  else []

def waitForJobsRequiredPlan (l : List NodeUpgradeState)
    (waitForCompletionSpec : Option WaitForCompletionSpec) : List Step :=
  l.flatMap (waitForJobsRequiredSteps waitForCompletionSpec) ++
  match waitForCompletionSpec with
  | none => []
  | some spec =>
    if spec.podSelector = "" then []
    else if (l.map (·.node)).length = 0 then []
    else [.call (.scheduleCheckOnPodCompletion ⟨spec.podSelector, none, l.map (·.node)⟩)]

theorem processWaitForJobsRequiredNodes_loop_realizes
    (waitForCompletionSpec : Option WaitForCompletionSpec) (l : List NodeUpgradeState)
    (nodes : List Node) :
    Realizes (processWaitForJobsRequiredNodes.loop waitForCompletionSpec l nodes)
      (l.flatMap (waitForJobsRequiredSteps waitForCompletionSpec)) (nodes ++ l.map (·.node)) := by
  induction l generalizing nodes with
  | nil => simpa using Realizes.pure nodes
  | cons ns rest ih =>
    have h := ih (nodes ++ [ns.node])
    rw [List.append_assoc, List.singleton_append] at h
    rw [processWaitForJobsRequiredNodes.loop, List.flatMap_cons, List.map_cons,
      waitForJobsRequiredSteps]
    split_ifs
    · exact Realizes.discard_bind _ h
    · exact Realizes.pure_bind h

def podDeletionRequiredPlan (l : List NodeUpgradeState) (podDeletionSpec : Option PodDeletionSpec) :
    List Step :=
  if (l.map (·.node)).length = 0 then []
  else [.call (.schedulePodEviction ⟨"", podDeletionSpec, l.map (·.node)⟩)]

/-- The drain spec with the clause excluding pods labelled to skip drain appended. -/
def skipDrainSpec (spec : DrainSpec) : DrainSpec :=
  { spec with podSelector :=
    if spec.podSelector = "" then keys.skipDrainPodLabelKey ++ "!=true"
    else spec.podSelector ++ "," ++ (keys.skipDrainPodLabelKey ++ "!=true") }

def drainRequiredSteps (ns : NodeUpgradeState) : List Step :=
  [.call (.changeNodeUpgradeState ns.node .podRestartRequired)]

def drainPlan (l : List NodeUpgradeState) (drainSpec : Option DrainSpec) : List Step :=
  match drainSpec with
  | some spec =>
    if spec.enable then
      [.setDrainSpec (skipDrainSpec keys spec),
        .call (.scheduleNodesDrain ⟨skipDrainSpec keys spec, l.map (·.node)⟩)]
    else l.flatMap drainRequiredSteps
  | none => l.flatMap drainRequiredSteps

theorem processDrainNodes_loop_realizes (l : List NodeUpgradeState) :
    Realizes (processDrainNodes.loop l) (l.flatMap drainRequiredSteps) () := by
  induction l with
  | nil => exact Realizes.pure ()
  | cons ns rest ih => exact Realizes.invoke_bind _ ih

def syncedNodeSteps (ns : NodeUpgradeState) : List Step :=
  if hasAnnotationKey ns.node keys.initialStateAnnotationKey then
    [.call (.changeNodeUpgradeState ns.node .done),
      .call ( Call.changeNodeUpgradeAnnotation ns.node keys.initialStateAnnotationKey "null")]
  else [.call (.changeNodeUpgradeState ns.node .uncordonRequired)]

theorem changeStateOfSyncedNode_realizes (ns : NodeUpgradeState) :
    Realizes (changeStateOfSyncedNode keys ns) (syncedNodeSteps keys ns) () := by
  unfold changeStateOfSyncedNode syncedNodeSteps
  by_cases h : hasAnnotationKey ns.node keys.initialStateAnnotationKey
  · simp only [h, if_true]
    exact Realizes.invoke_bind _ (Realizes.invoke _)
  · simp only [h, Bool.false_eq_true, if_false, reduceCtorEq]
    exact Realizes.invoke_bind _ (Realizes.pure ())

/-- The steps for a node whose driver pod `isDriverPodInSync` examines. -/
def inSyncSteps (ns : NodeUpgradeState) : List Step :=
  match isDriverPodInSync ns with
  | .error err => [.fail err]
  | .ok driverPodInSync => if driverPodInSync then syncedNodeSteps keys ns else []

def podRestartSteps (ns : NodeUpgradeState) : List Step :=
  match ns.driverPod.templateGeneration with
  | .error err => [.fail err]
  | .ok podTemplateGeneration =>
    if podTemplateGeneration ≠ ns.driverDaemonSet.generation then [] else inSyncSteps keys ns

/-- `ProcessPodRestartNodes` queues the pod: it is behind its daemon set and not terminating. -/
def queuedForRestart (ns : NodeUpgradeState) : Bool :=
  match ns.driverPod.templateGeneration with
  | .error _ => false
  | .ok podTemplateGeneration =>
    podTemplateGeneration ≠ ns.driverDaemonSet.generation && deletionTimestampIsZero ns.driverPod

def podsToRestart (l : List NodeUpgradeState) : List Pod :=
  (l.filter queuedForRestart).map (·.driverPod)

def podRestartPlan (l : List NodeUpgradeState) : List Step :=
  l.flatMap (podRestartSteps keys) ++ [.call (.schedulePodsRestart (podsToRestart l))]

theorem inSync_then_realizes {k : Pass β} {q : List Step} {w : β} (ns : NodeUpgradeState)
    (hk : Realizes k q w) :
    Realizes (match isDriverPodInSync ns with
      | .error err => Pass.fail err
      | .ok driverPodInSync => do
        if driverPodInSync then changeStateOfSyncedNode keys ns
        k) (inSyncSteps keys ns ++ q) w := by
  rw [inSyncSteps]
  cases isDriverPodInSync ns with
  | error err => exact Realizes.fail _ _
  | ok b =>
    cases b
    · exact Realizes.pure_bind hk
    · exact (changeStateOfSyncedNode_realizes keys ns).bind hk

theorem processPodRestartNodes_loop_realizes (l : List NodeUpgradeState) (pods : List Pod) :
    Realizes (processPodRestartNodes.loop keys l pods) (l.flatMap (podRestartSteps keys))
      (pods ++ podsToRestart l) := by
  induction l generalizing pods with
  | nil => simpa [podsToRestart] using Realizes.pure pods
  | cons ns rest ih =>
    rw [processPodRestartNodes.loop, List.flatMap_cons, podRestartSteps, podsToRestart,
      List.filter_cons, queuedForRestart]
    cases ns.driverPod.templateGeneration with
    | error err => exact Realizes.fail _ _
    | ok g =>
      by_cases hg : g = ns.driverDaemonSet.generation
      · simpa [hg, podsToRestart] using inSync_then_realizes keys ns (ih pods)
      · by_cases hz : deletionTimestampIsZero ns.driverPod
        · simpa [hg, hz, podsToRestart] using ih (pods ++ [ns.driverPod])
        · simpa [hg, hz, podsToRestart] using ih pods

def upgradeFailedPlan (l : List NodeUpgradeState) : List Step := l.flatMap (inSyncSteps keys)

theorem processUpgradeFailedNodes_loop_realizes (l : List NodeUpgradeState) :
    Realizes (processUpgradeFailedNodes.loop keys l) (upgradeFailedPlan keys l) () := by
  induction l with
  | nil => exact Realizes.pure ()
  | cons ns rest ih => exact inSync_then_realizes keys ns ih

def uncordonRequiredSteps (ns : NodeUpgradeState) : List Step :=
  [.call (.uncordon ns.node), .call (.changeNodeUpgradeState ns.node .done)]

theorem processUncordonRequiredNodes_loop_realizes (l : List NodeUpgradeState) :
    Realizes (processUncordonRequiredNodes.loop l) (l.flatMap uncordonRequiredSteps) () := by
  induction l with
  | nil => exact Realizes.pure ()
  | cons ns rest ih => exact Realizes.invoke_bind _ (Realizes.invoke_bind _ ih)

theorem processDoneOrUnknownNodes_realizes (nodeStateName : UpgradeState) :
    Realizes (processDoneOrUnknownNodes keys cs nodeStateName)
      ((cs.nodeStates nodeStateName).flatMap (doneOrUnknownSteps keys nodeStateName)) () :=
  processDoneOrUnknownNodes_loop_realizes keys nodeStateName _

theorem processUpgradeRequiredNodes_realizes (limit : Int) :
    Realizes (processUpgradeRequiredNodes keys cs limit)
      (upgradeRequiredPlan keys (cs.nodeStates .upgradeRequired) limit) () :=
  processUpgradeRequiredNodes_loop_realizes keys _ limit

theorem processCordonRequiredNodes_realizes :
    Realizes (processCordonRequiredNodes cs)
      ((cs.nodeStates .cordonRequired).flatMap cordonRequiredSteps) () :=
  processCordonRequiredNodes_loop_realizes _

theorem processWaitForJobsRequiredNodes_realizes
    (waitForCompletionSpec : Option WaitForCompletionSpec) :
    Realizes (processWaitForJobsRequiredNodes cs waitForCompletionSpec)
      (waitForJobsRequiredPlan (cs.nodeStates .waitForJobsRequired) waitForCompletionSpec) () := by
  refine (processWaitForJobsRequiredNodes_loop_realizes _ _ []).bind ?_
  rcases waitForCompletionSpec with _ | spec
  · exact Realizes.pure ()
  · simp only [List.nil_append]
    split_ifs
    · exact Realizes.pure ()
    · exact Realizes.pure ()
    · exact Realizes.invoke _

theorem processPodDeletionRequiredNodes_realizes (podDeletionSpec : Option PodDeletionSpec) :
    Realizes (processPodDeletionRequiredNodes cs podDeletionSpec)
      (podDeletionRequiredPlan (cs.nodeStates .podDeletionRequired) podDeletionSpec) () := by
  unfold processPodDeletionRequiredNodes podDeletionRequiredPlan
  dsimp only
  split_ifs
  · exact Realizes.pure ()
  · exact Realizes.invoke _

theorem processDrainNodes_realizes (drainSpec : Option DrainSpec) :
    Realizes (processDrainNodes keys cs drainSpec)
      (drainPlan keys (cs.nodeStates .drainRequired) drainSpec) () := by
  rcases drainSpec with _ | spec
  · exact processDrainNodes_loop_realizes _
  · by_cases he : spec.enable
    · simp only [processDrainNodes, drainPlan, skipDrainSpec, he, if_true]
      refine Realizes.writeDrainSpec_bind _ ?_
      exact Realizes.invoke _
    · simpa only [processDrainNodes, drainPlan, he] using processDrainNodes_loop_realizes _

theorem processPodRestartNodes_realizes :
    Realizes (processPodRestartNodes keys cs)
      (podRestartPlan keys (cs.nodeStates .podRestartRequired)) () := by
  have h := processPodRestartNodes_loop_realizes keys (cs.nodeStates .podRestartRequired) []
  rw [List.nil_append] at h
  exact h.bind (Realizes.invoke _)

theorem processUpgradeFailedNodes_realizes :
    Realizes (processUpgradeFailedNodes keys cs)
      (upgradeFailedPlan keys (cs.nodeStates .failed)) () :=
  processUpgradeFailedNodes_loop_realizes keys _

theorem processUncordonRequiredNodes_realizes :
    Realizes (processUncordonRequiredNodes cs)
      ((cs.nodeStates .uncordonRequired).flatMap uncordonRequiredSteps) () :=
  processUncordonRequiredNodes_loop_realizes _

/-- The plan of the processor `ApplyState` runs for the nodes listed under a state. -/
def processorPlan (policy : DriverUpgradePolicySpec) : UpgradeState → List Step
  | .unknown => (cs.nodeStates .unknown).flatMap (doneOrUnknownSteps keys .unknown)
  | .done => (cs.nodeStates .done).flatMap (doneOrUnknownSteps keys .done)
  | .upgradeRequired =>
    upgradeRequiredPlan keys (cs.nodeStates .upgradeRequired) (upgradesAvailable cs policy)
  | .cordonRequired => (cs.nodeStates .cordonRequired).flatMap cordonRequiredSteps
  | .waitForJobsRequired =>
    waitForJobsRequiredPlan (cs.nodeStates .waitForJobsRequired) policy.waitForCompletion
  | .podDeletionRequired =>
    podDeletionRequiredPlan (cs.nodeStates .podDeletionRequired) policy.podDeletion
  | .drainRequired => drainPlan keys (cs.nodeStates .drainRequired) policy.drainSpec
  | .podRestartRequired => podRestartPlan keys (cs.nodeStates .podRestartRequired)
  | .failed => upgradeFailedPlan keys (cs.nodeStates .failed)
  | .uncordonRequired => (cs.nodeStates .uncordonRequired).flatMap uncordonRequiredSteps

/-- The plan of a pass with auto upgrade on: the processors' plans in the order `ApplyState`
runs them. -/
def passPlan (policy : DriverUpgradePolicySpec) : List Step :=
  (processingOrder.map (processorPlan keys cs policy)).flatten

end Plans

def applyStatePlan (keys : UpgradeKeys) : Option ClusterUpgradeState →
    Option DriverUpgradePolicySpec → List Step
  | none, _ => [.fail "currentState should not be empty"]
  | some _, none => []
  | some cs, some policy => if !policy.autoUpgrade then [] else passPlan keys cs policy

theorem applyState_realizes (keys : UpgradeKeys) (currentState : Option ClusterUpgradeState)
    (upgradePolicy : Option DriverUpgradePolicySpec) :
    Realizes (applyState keys currentState upgradePolicy)
      (applyStatePlan keys currentState upgradePolicy) () := by
  rcases currentState with _ | cs
  · exact Realizes.fail _ []
  rcases upgradePolicy with _ | policy
  · exact Realizes.pure ()
  simp only [applyState, applyStatePlan]
  split_ifs
  · exact Realizes.pure ()
  simp only [passPlan, processingOrder, processorPlan, List.map_cons, List.map_nil,
    List.flatten_cons, List.flatten_nil, List.append_nil]
  exact (processDoneOrUnknownNodes_realizes keys cs _).bind <|
    (processDoneOrUnknownNodes_realizes keys cs _).bind <|
    (processUpgradeRequiredNodes_realizes keys cs _).bind <|
    (processCordonRequiredNodes_realizes cs).bind <|
    (processWaitForJobsRequiredNodes_realizes cs _).bind <|
    (processPodDeletionRequiredNodes_realizes cs _).bind <|
    (processDrainNodes_realizes keys cs _).bind <|
    (processPodRestartNodes_realizes keys cs).bind <|
    (processUpgradeFailedNodes_realizes keys cs).bind <|
    processUncordonRequiredNodes_realizes cs

end DriverUpgrade
