import Tropek.Adapter.JobAccounts
import Tropek.Maintenance.PinReaders
import Tropek.Timeline.GroupTree
import Tropek.Timeline.Window
import Tropek.Engine.Aggregation
import Tropek.Ui.LabelPacking
import Tropek.Ui.TimeRange
import Tropek.Ui.Tooltips
import Tropek.Worker.Batches
import Tropek.Worker.Schedules
import Tropek.Worker.Deduplication
import Tropek.Finalization.Completeness
import Tropek.Finalization.Mirroring
import Tropek.Pinning.Uniqueness
import Tropek.ReEvaluation.Wire
import Tropek.Maintenance.Overrides
import Tropek.Maintenance.MeasuredValues
import Tropek.Worker.Retries
import Tropek.ChangePoints.Idempotence
import Tropek.Manifest.Isolation
import Tropek.Manifest.Repointing
import Tropek.Manifest.Versions
import Tropek.Catalog.Resolution
import Tropek.Catalog.Comparability
import Tropek.Catalog.Correspondence
import Tropek.Catalog.Hierarchy
import Tropek.Catalog.Overlap
import Tropek.Catalog.Ownership
import Tropek.Catalog.ReadModifyWrite
import Tropek.Catalog.Settings
import Tropek.Presentation.GroupedColumns
import Tropek.Presentation.RequestTransaction
import Tropek.SloTest.Agreement
import Tropek.SloTest.Validation
import Tropek.Presentation.Targets
import Tropek.Worker.Retriggering
import Tropek.Presentation.MarkerAgreement
import Tropek.Presentation.RecordedViews
import Tropek.Engine.CriteriaLanguage
import Tropek.ReEvaluation.ComparisonMode
import Tropek.Presentation.Stacking
import Tropek.ChangePoints.Justification
import Tropek.Adapter.Coverage
import Tropek.Presentation.Pagination
import Tropek.Maintenance.BulkEqualsSingle
import Tropek.Timeline.OrderIndependence
import Tropek.Assets.Types
import Tropek.Http.SloNames
import Tropek.Settings.AcceptedValues
import Tropek.Notes.Permanence
import Tropek.Worker.Isolation
import Tropek.Maintenance.Identity
