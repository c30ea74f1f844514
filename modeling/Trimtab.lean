import Trimtab.Dict
import Trimtab.SerialTable
import Trimtab.Runs
import Trimtab.PyValues
import Trimtab.Manifest
import Trimtab.Store
import Trimtab.Effects
import Trimtab.Canary
import Trimtab.CanaryBaseline
import Trimtab.CanaryInterleaving
import Trimtab.ControlPlane
import Trimtab.DrainGate
import Trimtab.HotEngine
import Trimtab.LaunchCommand
import Trimtab.MemoLoop
import Trimtab.Reconciler
import Trimtab.ReconcilerTruth
import Trimtab.Supervisor
import Trimtab.SupervisorRefusal
import Trimtab.SupervisorTruth
import Trimtab.CanaryDecision
import Trimtab.CanaryHandover
import Trimtab.CanaryNewer
import Trimtab.CanaryTargets
import Trimtab.GroupFrame
import Trimtab.Operator
import Trimtab.OperatorCalls
import Trimtab.OperatorOnce
import Trimtab.OperatorTruth
import Trimtab.RemoteStore
import Trimtab.SglangAdapter
import Trimtab.Metrics
import Trimtab.PrometheusMetrics
import Trimtab.ReconcilerPending
import Trimtab.SupervisorCalls
import Trimtab.SupervisorLoops
import Trimtab.SupervisorRecord
import Trimtab.SupervisorReject
import Trimtab.CanaryGates
import Trimtab.KeyedLoop
import Trimtab.KnobHandlers
import Trimtab.PyNumbers
import Trimtab.SglangReinit
import Trimtab.VllmReinit
import Trimtab.Exposition
import Trimtab.ExpositionBounds
import Trimtab.InstalledTree
import Trimtab.ManifestBoundary
import Trimtab.ManifestFormat
import Trimtab.ManifestRoundTrip
import Trimtab.MetricsParse
import Trimtab.MockApply
import Trimtab.MockFaithful
import Trimtab.PatchScripts
import Trimtab.QuantileOrder
import Trimtab.Checks
import Trimtab.MergePatch
import Trimtab.OperatorFleet
import Trimtab.OperatorRest
import Trimtab.ServerAnswers
import Trimtab.ServerOutcomes
import Trimtab.ServerRequests
import Trimtab.SglangGenerations
import Trimtab.ReplicaFleet
import Trimtab.ServerHistory
import Trimtab.ServerTables
import Trimtab.SglangMemory
import Trimtab.SupervisedDaemon
import Trimtab.SupervisorProcesses
