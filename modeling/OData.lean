import OData.Fault
import OData.Text.Blank
import OData.Text.Digit
import OData.Text.Quoted
import OData.Decimal.Shortest
import OData.Value.Number
import OData.Encoding.Detect
import OData.Encoding.Base64
import OData.Json.Decoder
import OData.Json.Printer
import OData.Response
import OData.Filter.Call
import OData.Query.Call
import OData.Payload
import OData.Paging
import OData.Connection
import OData.Environment.File
import OData.Launch
import OData.Gateway.Host
import OData.Main
import OData.Proofs.Filter.Forest
import OData.Proofs.Value.Word
import OData.Proofs.Value.Showable
import OData.Proofs.Json.Showable
import OData.Proofs.Filter.Scanner
import OData.Proofs.Filter.Writes
import OData.Proofs.Filter.Containment
import OData.Proofs.Filter.Balance
import OData.Proofs.Filter.Quoted
import OData.Proofs.Filter.Refusal
import OData.Proofs.Paging.Request
import OData.Proofs.Paging.Step
import OData.Proofs.Paging.Chain
import OData.Proofs.Paging.Budget
import OData.Proofs.Paging.Propagation
import OData.Proofs.Paging.Completion
import OData.Proofs.Paging.Distinct
import OData.Proofs.Query.ReadBack
import OData.Proofs.Client.Exchange
import OData.Proofs.Client.Run
import OData.Proofs.Client.FreshToken
import OData.Proofs.Client.Secrets
import OData.Proofs.Gateway.Secrets
import OData.Proofs.Gateway.FirstRequest
import OData.Proofs.Gateway.FormQuery
import OData.Proofs.Gateway.Document
import OData.Proofs.Gateway.Balance
import OData.Proofs.Text.Occurrence
import OData.Proofs.Gateway.Redirection
import OData.Proofs.Query.PageSize
import OData.Proofs.Query.Refusal
import OData.Proofs.Gateway.PageSize
import OData.Proofs.Gateway.Outcome
import OData.Proofs.Gateway.EntityType
import OData.Proofs.Gateway.Apps
import OData.Proofs.Client.Ledger
import OData.Proofs.Connection.Sessions
import OData.Proofs.Gateway.Sessions
import OData.Proofs.Paging.Termination
import OData.Proofs.Gateway.Compile
import OData.Proofs.Filter.Tally
import OData.Proofs.Filter.Nesting
import OData.Proofs.Filter.Escaping
import OData.Proofs.Filter.Grouping
import OData.Proofs.Client.Outcome
import OData.Proofs.Filter.Stepwise
import OData.Proofs.Query.Stepwise
import OData.Proofs.Connection.EmptyVariable
import OData.Proofs.Gateway.Validation
import OData.Proofs.Query.LastWrite
import OData.Proofs.Connection.Slashes
import OData.Proofs.Client.ErrorReport
import OData.Proofs.Client.Explanation
