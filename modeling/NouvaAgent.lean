import NouvaAgent.Addresses.Network
import NouvaAgent.Addresses.Syntax
import NouvaAgent.Agent
import NouvaAgent.Paths.Posix
import NouvaAgent.AppBuild
import NouvaAgent.AgentHistory
import NouvaAgent.AgentUpdate
import NouvaAgent.AgentUpdater
import NouvaAgent.AlloyDrain
import NouvaAgent.AlloyRuntime
import NouvaAgent.AlloyStaticConfig
import NouvaAgent.AlloyReconcile
import NouvaAgent.AlloyRuns
import NouvaAgent.AppRollout
import NouvaAgent.AppRolloutAtomic
import NouvaAgent.AppRolloutPreserved
import NouvaAgent.AppVolumeWriter
import NouvaAgent.BuildLogRedaction
import NouvaAgent.DatabaseProvision
import NouvaAgent.Docker
import NouvaAgent.HeartbeatLoop
import NouvaAgent.Interaction.Method
import NouvaAgent.Interaction.Program
import NouvaAgent.ManagedRuntime
import NouvaAgent.ManagedFiles
import NouvaAgent.Interaction.Play
import NouvaAgent.ReleaseJobCalls
import NouvaAgent.ReleaseJobEvidence
import NouvaAgent.ReleaseJobProtocol
import NouvaAgent.ReleaseJobRecord
import NouvaAgent.ReleaseJobs
import NouvaAgent.ReleasePhases
import NouvaAgent.TaskContainers
import NouvaAgent.Text
import NouvaAgent.TraefikRuntime
import NouvaAgent.TraefikCalls
import NouvaAgent.TraefikCutover
import NouvaAgent.TraefikStaticConfig
import NouvaAgent.TrustedPeers
import NouvaAgent.VolumeWipe
import NouvaAgent.VolumeWipeProtocol
import NouvaAgent.WorkReporting
import NouvaAgent.WorkReportingOrder
import NouvaAgent.WorkResult
import NouvaAgent.JsonStrings
import NouvaAgent.WorkResultConflicts
import NouvaAgent.WorkResultLeaks
import NouvaAgent.WorkScheduler
import NouvaAgent.WorkerJobProtocol
import NouvaAgent.WorkerReadiness
import NouvaAgent.WorkerRollout
import NouvaAgent.WorkerRolloutCalls
import NouvaAgent.WorkRollback
import NouvaAgent.Encoding
import NouvaAgent.Reading.Reader
import NouvaAgent.ExternalBackupSample
import NouvaAgent.ExternalBackupAgreement
import NouvaAgent.ExternalBackupImportOutcome
import NouvaAgent.ExternalBackupReceipt
import NouvaAgent.ExternalBackupRoundTrip
import NouvaAgent.WorkerReadinessEvidence
import NouvaAgent.WorkerRestoreEvidence
import NouvaAgent.WorkerRestoreAttempts
import NouvaAgent.WorkerShutdownEvidence
import NouvaAgent.WorkerShutdownWire
import NouvaAgent.WorkerRolloutConverged
import NouvaAgent.WorkerOverlapEvidence
import NouvaAgent.WorkerOverlap
import NouvaAgent.BuildLogPublisher
import NouvaAgent.DatabaseHealth
import NouvaAgent.DatabaseHealthRuns
import NouvaAgent.DatabaseReadiness
import NouvaAgent.DatabaseRestart
import NouvaAgent.DockerLogs
import NouvaAgent.LeaseRenewal
import NouvaAgent.LineSplitter
import NouvaAgent.Reading.Windows
import NouvaAgent.SerializedTask
import NouvaAgent.PgBackrestCredentials
import NouvaAgent.PgBackrestBackups
import NouvaAgent.AssignedNames
import NouvaAgent.ServerCapacity
import NouvaAgent.TarArchive
import NouvaAgent.TraefikRoutes
import NouvaAgent.VerificationEvidence
import NouvaAgent.VerificationRollback
import NouvaAgent.ProjectNetwork
import NouvaAgent.RemovalScope
import NouvaAgent.WorkerRestart
import NouvaAgent.Interaction.Interpretation
import NouvaAgent.Interaction.Ledger
import NouvaAgent.TaskJobs
import NouvaAgent.VolumeBackupRuns
import NouvaAgent.WorkItem
import NouvaAgent.WorkItemOrder
import NouvaAgent.AppReleaseGate
import NouvaAgent.WorkerJobCleanup
import NouvaAgent.WorkerReleaseGate
