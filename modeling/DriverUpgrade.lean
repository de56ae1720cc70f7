import DriverUpgrade.Basic
import DriverUpgrade.Manager
import DriverUpgrade.Plan
import DriverUpgrade.Plans
import DriverUpgrade.Faults
import DriverUpgrade.Processors
import DriverUpgrade.NodeBlocks
import DriverUpgrade.Cluster
import DriverUpgrade.Slots
import DriverUpgrade.Marker
import DriverUpgrade.PhaseMachine
import DriverUpgrade.Progress
import DriverUpgrade.Cordon
import DriverUpgrade.PassByNode
import DriverUpgrade.Rollout
import DriverUpgrade.Waves
import DriverUpgrade.Independence
import DriverUpgrade.Lifecycle
import DriverUpgrade.Retry
