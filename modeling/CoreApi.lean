import CoreApi.Authorization.RoleGrants
import CoreApi.Authorization.GrantOwnership
import CoreApi.Auth.TokenLifecycle
import CoreApi.Automation.StepOrder
import CoreApi.Automation.CallProcess
import CoreApi.Automation.TerminalProcess
import CoreApi.Automation.CompletionOnce
import CoreApi.Automation.CompletionGate
import CoreApi.Automation.ParentResumption
import CoreApi.Automation.ReportedCompletion
import CoreApi.Automation.CallWrites
import CoreApi.Automation.ChildUniqueness
import CoreApi.Automation.ContextLinks
import CoreApi.Automation.ParentFailure
import CoreApi.Automation.ContextMerges
import CoreApi.Automation.CompletedEvidence
import CoreApi.Automation.HostMirror
import CoreApi.Automation.ScheduledHost
import CoreApi.Automation.SatisfiedTriggers
import CoreApi.Automation.TimerJobs
import CoreApi.Automation.EventIsolation
import CoreApi.Automation.EventDelivery
import CoreApi.Automation.GateIndependence
import CoreApi.Automation.TemplateCopy
import CoreApi.Automation.EntryPoints
import CoreApi.Automation.FailedAdvances
import CoreApi.Automation.ProjectCreation
import CoreApi.Automation.ProvisionedObjects
import CoreApi.Automation.SubjectAgreement
import CoreApi.Automation.SubmissionApprovals
import CoreApi.Automation.ValidatorCache
import CoreApi.Automation.CallTree
import CoreApi.Automation.StepHistory
import CoreApi.Notifications.ExactlyOnce
import CoreApi.Scheduler.DoubleBooking
import CoreApi.Scheduler.DependencyGates
import CoreApi.Scheduler.GatedStarts
import CoreApi.Scheduler.ScheduleListing
import CoreApi.Scheduler.RowLifecycle
import CoreApi.Scheduler.StartJobs
import CoreApi.Scheduler.CompletedWork
import CoreApi.Foundation.WorkingTime
import CoreApi.Scheduler.RescheduledWindows
import CoreApi.Scheduler.SerialShifts
import CoreApi.Scheduler.AbandonedShifts
import CoreApi.ConfigObjects.TenantRules
import CoreApi.ConfigObjects.TaskTransitions
import CoreApi.ConfigObjects.LifecycleIntegrity
import CoreApi.ConfigObjects.ActiveViews
import CoreApi.ConfigObjects.ViewScopes
import CoreApi.ConfigObjects.RejectedViews
import CoreApi.ConfigObjects.WellFormedObjects
import CoreApi.ConfigObjects.InstanceIsolation
import CoreApi.ConfigObjects.OwnConfiguration
import CoreApi.ConfigObjects.RelationCatalog
import CoreApi.ConfigObjects.RelationManifests
import CoreApi.ConfigObjects.ManifestCoherence
import CoreApi.ConfigObjects.CacheFreshness
import CoreApi.ConfigObjects.InterchangeableSpellings
import CoreApi.ConfigObjects.SatisfiableSubmissions
import CoreApi.ConfigObjects.InverseResolutions
import CoreApi.ConfigObjects.PersistedSubmissions
import CoreApi.ConfigObjects.FormCoverage
import CoreApi.ConfigObjects.ActiveViewListing
import CoreApi.ConfigObjects.MergedFieldOrder
import CoreApi.ConfigObjects.DerivedFields
import CoreApi.ConfigObjects.RelatedRegistries
import CoreApi.Listings.SearchListings
import CoreApi.ConfigObjects.StatusChanges
import CoreApi.ConfigObjects.MetaPatches
import CoreApi.Notifications.SentOnce
import CoreApi.Storage.StoredKeys
import CoreApi.Auth.UserProfile
import CoreApi.ConfigObjects.FieldDefaults
import CoreApi.ConfigObjects.KeyedMaps
import CoreApi.Notifications.BlockedSends
import CoreApi.Categories.DescriptionSync
import CoreApi.Notifications.TemplateRenderer
import CoreApi.ConfigObjects.ViewPanels
