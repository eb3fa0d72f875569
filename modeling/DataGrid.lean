import DataGrid.Store.Memory
import DataGrid.Store.Sql.Documents
import DataGrid.Service.Http
import DataGrid.Service.Settings
import DataGrid.Proofs.FailClosed
import DataGrid.Proofs.FreeText
import DataGrid.Proofs.Partition
import DataGrid.Proofs.Sql.Agreement
import DataGrid.Proofs.Startup
import DataGrid.Proofs.RemoteFields
import DataGrid.Proofs.SemiJoin
import DataGrid.Proofs.Pages
import DataGrid.Proofs.Phases
import DataGrid.Proofs.StoredKeys
import DataGrid.Proofs.Independence
import DataGrid.Proofs.Sql.Questions
import DataGrid.Proofs.Overlapping
import DataGrid.Proofs.Configuration
import DataGrid.Proofs.HiddenColumns
import DataGrid.Proofs.Reordering
import DataGrid.Proofs.RemoteOrder
import DataGrid.Proofs.Dispatch
import DataGrid.Proofs.Sql.Histories
import DataGrid.Proofs.Meaning
import DataGrid.Proofs.JoinKeys
import DataGrid.Proofs.Batching
import DataGrid.Proofs.Integers
import DataGrid.Proofs.Bodies
import DataGrid.Proofs.TextSearch
import DataGrid.Proofs.Ranges
import DataGrid.Proofs.Finding
import DataGrid.Proofs.SortOrder
import DataGrid.Proofs.MergedRows
import DataGrid.Proofs.ReusedRecords
import DataGrid.Proofs.FailedMerges
import DataGrid.Proofs.Sql.Ordering
import DataGrid.Proofs.Exclusion
import DataGrid.Proofs.Sql.Escaping
import DataGrid.Proofs.Descriptors
import DataGrid.Proofs.RoundTrip
import DataGrid.Proofs.OneToOne
