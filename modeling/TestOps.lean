import TestOps.Contracts.Models
import TestOps.Invariants.Capacity
import TestOps.Invariants.RunCases
import TestOps.Invariants.Deliveries
import TestOps.Invariants.Gates
import TestOps.Invariants.EventLog
import TestOps.Invariants.Reruns
import TestOps.Invariants.Placement
import TestOps.Invariants.Quotas
import TestOps.Invariants.Administrators
import TestOps.Invariants.ProjectAdmins
import TestOps.Invariants.Revocations
import TestOps.Invariants.SchedulePackages
import TestOps.Invariants.QualityAlerts
import TestOps.Invariants.AiContext
import TestOps.Invariants.PackageDigests
import TestOps.Invariants.StoredResults
import TestOps.Invariants.EmailOptOut
import TestOps.Invariants.WorkbookRows
import TestOps.Invariants.RunnerOutcomes
import TestOps.Invariants.CronGrammar
import TestOps.Invariants.CronSearch
import TestOps.Invariants.CronCalendar
import TestOps.Invariants.ScheduleFrames
import TestOps.Invariants.EventStreams
import TestOps.Invariants.LiveViewTickets
import TestOps.Invariants.Releases
import TestOps.Invariants.CaseStatuses
import TestOps.Invariants.EventForwarding
import TestOps.Invariants.PodOutcomes
import TestOps.Invariants.WorkerFailures
import TestOps.Invariants.OutboxBatches
import TestOps.Runners.AdapterResults
import TestOps.Invariants.AndroidRetries
import TestOps.Invariants.ProgressEvents
import TestOps.Invariants.ContainerRecovery
import TestOps.Invariants.IsolationChecks
import TestOps.Invariants.EvidenceRoundTrips
import TestOps.Invariants.ArchiveImports
import TestOps.Invariants.PublishedArtifacts
import TestOps.Invariants.RedactedSecrets
import TestOps.Invariants.QualityWindows
import TestOps.Invariants.FlakyCases
import TestOps.Invariants.KeyReadiness
import TestOps.Invariants.WebCases
import TestOps.Invariants.SanitizedOutputs
import TestOps.Invariants.EvidenceOmissions
import TestOps.Invariants.LegacyImports
import TestOps.Invariants.EnvelopeTexts
import TestOps.Invariants.ModelProviders
import TestOps.Invariants.ReleaseApplies
import TestOps.Invariants.ChangeItems
import TestOps.Invariants.RequestItems
import TestOps.Invariants.PodIsolation
import TestOps.Invariants.ReleasePreviews
