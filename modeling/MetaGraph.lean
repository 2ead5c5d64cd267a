import MetaGraph.Text.Word
import MetaGraph.Text.Blank
import MetaGraph.Text.Case
import MetaGraph.Text.Quoted
import MetaGraph.Text.Pieces
import MetaGraph.Decimal.Shortest
import MetaGraph.Decimal.Reader
import MetaGraph.Json.Printer
import MetaGraph.Json.Parser
import MetaGraph.Decode.Shape
import MetaGraph.Graph.Cursor
import MetaGraph.Graph.Claims
import MetaGraph.Model.Registry
import MetaGraph.Template
import MetaGraph.Bulk.Neo4j
import MetaGraph.Bulk.Neptune
import MetaGraph.Csv.Writer
import MetaGraph.Toml.Document
import MetaGraph.Config.JobSpec
import MetaGraph.Pipeline.Error
import MetaGraph.JsonPath.Union
import MetaGraph.Url.Basic
import MetaGraph.Rest.Retry
import MetaGraph.Rest.Transport
import MetaGraph.Rest.Paging
import MetaGraph.Rest.Rows
import MetaGraph.Rest.Config
import MetaGraph.Time.Reader
import MetaGraph.Pipeline.Job
import MetaGraph.Main
import MetaGraph.Proofs.Bulk.Written
import MetaGraph.Proofs.Bulk.Formats
import MetaGraph.Proofs.Bulk.EdgeIds
import MetaGraph.Proofs.Csv.Numeric
import MetaGraph.Proofs.Csv.RoundTrip
import MetaGraph.Proofs.Cypher.Published
import MetaGraph.Proofs.Join.Configured
import MetaGraph.Proofs.Join.EmptyResult
import MetaGraph.Proofs.Run.Endpoints
import MetaGraph.Proofs.Run.Once
import MetaGraph.Proofs.Pipeline.ConfigFault
import MetaGraph.Proofs.Pipeline.CutShort
import MetaGraph.Proofs.Cypher.Confined
import MetaGraph.Proofs.Cypher.PropertyGraph
import MetaGraph.Proofs.Cypher.Replay
import MetaGraph.Proofs.Decimal.Integer
import MetaGraph.Proofs.Decode.Alike
import MetaGraph.Proofs.Decode.CsvForm
import MetaGraph.Proofs.Join.Moves
import MetaGraph.Proofs.Join.Recovery
import MetaGraph.Proofs.Join.PageCount
import MetaGraph.Proofs.Join.PagedList
import MetaGraph.Proofs.Join.Termination
import MetaGraph.Proofs.Bulk.Filed
import MetaGraph.Proofs.Join.Columns
import MetaGraph.Proofs.Run.Fit
import MetaGraph.Proofs.Run.Identity
import MetaGraph.Proofs.Graph.TableLinks
import MetaGraph.Proofs.Join.PagedArrays
import MetaGraph.Proofs.Decode.Numbers
import MetaGraph.Proofs.Bulk.Prepared
import MetaGraph.Proofs.JsonPath.Enclosed
import MetaGraph.Proofs.Template
import MetaGraph.Proofs.Cypher.AllOrNothing
import MetaGraph.Proofs.Join.ListedStatus
import MetaGraph.Proofs.Join.Overrides
import MetaGraph.Proofs.Graph.DashboardKeys
import MetaGraph.Proofs.Graph.TableKeys
import MetaGraph.Proofs.Time.OffsetTime
import MetaGraph.Proofs.Pipeline.Chained
import MetaGraph.Proofs.Csv.DataRows
import MetaGraph.Proofs.Bulk.ValueKinds
import MetaGraph.Proofs.Config.Layers
import MetaGraph.Proofs.Graph.CursorCalls
import MetaGraph.Proofs.Join.RowDivision
import MetaGraph.Proofs.Join.Overflow
