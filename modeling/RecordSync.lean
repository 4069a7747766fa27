import RecordSync.Accounts
import RecordSync.Engine
import RecordSync.Lifecycle
import RecordSync.Main
import RecordSync.Proofs.Calls
import RecordSync.Proofs.Catalog
import RecordSync.Proofs.Collecting
import RecordSync.Proofs.Columns
import RecordSync.Proofs.Commands
import RecordSync.Proofs.Config.StoreTable
import RecordSync.Proofs.Config.Variables
import RecordSync.Proofs.Contexts.Ends
import RecordSync.Proofs.DeclaredColumns
import RecordSync.Proofs.Decoding
import RecordSync.Proofs.Handles
import RecordSync.Proofs.Independence
import RecordSync.Proofs.Json.Positions
import RecordSync.Proofs.Reads
import RecordSync.Proofs.Sql.Reading
import RecordSync.Proofs.Storage.Following
import RecordSync.Proofs.Storage.TypedRows
import RecordSync.Proofs.Time.Language
import RecordSync.Proofs.Time.Order
import RecordSync.Proofs.Fields
import RecordSync.Proofs.Listing
import RecordSync.Proofs.Opening
import RecordSync.Proofs.Sql.Identifiers
import RecordSync.Proofs.TableNames
import RecordSync.Proofs.WholeNumbers
