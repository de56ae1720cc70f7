import Mathlib.Data.List.Basic

/-! Data model of the driver upgrade state manager (`pkg/upgrade/upgrade_state.go`): the ten
upgrade states, the node, pod and daemon set fields the manager reads, the snapshot and the
policy, the calls it makes to its collaborators, and the `Pass` monad in which it makes them. -/
namespace DriverUpgrade

instance decEqExcept [DecidableEq ε] [DecidableEq α] : DecidableEq (Except ε α)
  | .error a, .error b => decidable_of_iff (a = b) (by simp)
  | .ok a, .ok b => decidable_of_iff (a = b) (by simp)
  | .error _, .ok _ => isFalse Except.noConfusion
  | .ok _, .error _ => isFalse Except.noConfusion

abbrev Error := String

inductive UpgradeState where
  | unknown
  | done
  | upgradeRequired
  | cordonRequired
  | waitForJobsRequired
  | podDeletionRequired
  | drainRequired
  | podRestartRequired
  | failed
  | uncordonRequired
  deriving DecidableEq, Repr

/-- The fields of a `v1.Node` the manager reads. Labels and annotations are read as Go maps are:
the entry for a key, or `""` and absence when there is none. -/
structure Node where
  name : String
  unschedulable : Bool
  labels : List (String × String)
  annotations : List (String × String)
  deriving DecidableEq, Repr

/-- The values of `GetUpgradeSkipNodeLabelKey`, `GetUpgradeInitialStateAnnotationKey` and
`GetUpgradeSkipDrainPodLabelKey`, which the package builds from the driver name at run time. -/
structure UpgradeKeys where
  skipNodeLabelKey : String
  initialStateAnnotationKey : String
  skipDrainPodLabelKey : String
  deriving DecidableEq, Repr

structure ContainerStatus where
  ready : Bool
  deriving DecidableEq, Repr

/-- `templateGeneration` is what `utils.GetPodTemplateGeneration` returns for the pod; a
`deletionTimestamp` of `none` or `some 0` is one whose `IsZero` holds. -/
structure Pod where
  templateGeneration : Except Error Int
  deletionTimestamp : Option Nat
  phase : String
  containerStatuses : List ContainerStatus
  deriving DecidableEq, Repr

structure DaemonSet where
  generation : Int
  deriving DecidableEq, Repr

structure NodeUpgradeState where
  node : Node
  driverPod : Pod
  driverDaemonSet : DaemonSet
  deriving DecidableEq, Repr

structure ClusterUpgradeState where
  nodeStates : UpgradeState → List NodeUpgradeState

structure WaitForCompletionSpec where
  podSelector : String
  deriving DecidableEq, Repr

/-- Passed through to the pod manager; the state manager reads none of its fields. -/
structure PodDeletionSpec where
  deriving DecidableEq, Repr

structure DrainSpec where
  enable : Bool
  podSelector : String
  deriving DecidableEq, Repr

structure DriverUpgradePolicySpec where
  autoUpgrade : Bool
  maxParallelUpgrades : Int
  waitForCompletion : Option WaitForCompletionSpec
  podDeletion : Option PodDeletionSpec
  drainSpec : Option DrainSpec
  deriving DecidableEq, Repr

structure PodManagerConfig where
  selector : String
  deletionSpec : Option PodDeletionSpec
  nodes : List Node
  deriving DecidableEq, Repr

structure DrainConfiguration where
  spec : DrainSpec
  nodes : List Node
  deriving DecidableEq, Repr

/-- A call to the node upgrade state provider, the cordon manager, the pod manager or the
drain manager. -/
inductive Call where
  | changeNodeUpgradeState (node : Node) (newState : UpgradeState)
  | changeNodeUpgradeAnnotation (node : Node) (key value : String)
  | cordon (node : Node)
  | uncordon (node : Node)
  | scheduleCheckOnPodCompletion (config : PodManagerConfig)
  | schedulePodEviction (config : PodManagerConfig)
  | scheduleNodesDrain (config : DrainConfiguration)
  | schedulePodsRestart (pods : List Pod)
  deriving DecidableEq, Repr

/-- The error the collaborators return to the `i`-th call of a pass, `none` for success. -/
abbrev Faults := Nat → Option Error

def noFaults : Faults := fun _ => none

/-- What a pass has done: the calls it issued with the answers they got, and the object that
`upgradePolicy.DrainSpec` points to, which `ProcessDrainNodes` writes through. -/
structure Effects where
  log : List (Call × Option Error)
  drainSpec : Option DrainSpec

def Effects.record (e : Effects) (c : Call) (r : Option Error) : Effects :=
  { e with log := e.log ++ [(c, r)] }

@[simp] theorem Effects.record_log (e : Effects) (c : Call) (r : Option Error) :
    (e.record c r).log = e.log ++ [(c, r)] := rfl

@[simp] theorem Effects.record_drainSpec (e : Effects) (c : Call) (r : Option Error) :
    (e.record c r).drainSpec = e.drainSpec := rfl

def Pass (α : Type) : Type := Faults → Effects → Except Error α × Effects

namespace Pass

def pure (a : α) : Pass α := fun _ e => (.ok a, e)

def bind (x : Pass α) (f : α → Pass β) : Pass β := fun φ e =>
  match x φ e with
  | (.ok a, e') => f a φ e'
  | (.error err, e') => (.error err, e')

instance : Monad Pass where
  pure := pure
  bind := bind

/-- `return err` out of the pass. -/
def fail (err : Error) : Pass α := fun _ e => (.error err, e)

@[simp] theorem pure_apply (a : α) (φ : Faults) (e : Effects) :
    (Pure.pure a : Pass α) φ e = (.ok a, e) := rfl

@[simp] theorem fail_apply (err : Error) (φ : Faults) (e : Effects) :
    (fail err : Pass α) φ e = (.error err, e) := rfl

theorem bind_apply (x : Pass α) (f : α → Pass β) (φ : Faults) (e : Effects) :
    (x >>= f) φ e = match x φ e with
      | (.ok a, e') => f a φ e'
      | (.error err, e') => (.error err, e') := rfl

end Pass

/-- Issue a call and return the error it answers, as the Go calls returning `error` do. -/
def attempt (c : Call) : Pass (Option Error) := fun φ e =>
  (.ok (φ e.log.length), e.record c (φ e.log.length))

/-- `if err != nil { return err }` -/
def check : Option Error → Pass Unit
  | none => pure ()
  | some err => Pass.fail err

/-- A call whose error ends the pass. -/
def invoke (c : Call) : Pass Unit := attempt c >>= check

/-- `_ = call()`: a call whose error is dropped. -/
def discard (c : Call) : Pass Unit := attempt c >>= fun _ => pure ()

def writeDrainSpec (d : DrainSpec) : Pass Unit := fun _ e =>
  (.ok (), { e with drainSpec := some d })

@[simp] theorem attempt_apply (c : Call) (φ : Faults) (e : Effects) :
    attempt c φ e = (.ok (φ e.log.length), e.record c (φ e.log.length)) := rfl

@[simp] theorem writeDrainSpec_apply (d : DrainSpec) (φ : Faults) (e : Effects) :
    writeDrainSpec d φ e = (.ok (), { e with drainSpec := some d }) := rfl

end DriverUpgrade
