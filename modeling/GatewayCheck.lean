import GatewayCheck.Main
import GatewayCheck.Proofs.Schema.Evaluation
import GatewayCheck.Proofs.Schema.Reading
import GatewayCheck.Proofs.Schema.Linking
import GatewayCheck.Proofs.Schema.Targets
import GatewayCheck.Proofs.Json.Place
import GatewayCheck.Proofs.Schema.Reference
import GatewayCheck.Proofs.Schema.ProperForm
import GatewayCheck.Proofs.Schema.Closing
import GatewayCheck.Proofs.Packaged.Form
import GatewayCheck.Proofs.Packaged.Linking
import GatewayCheck.Proofs.Except
import GatewayCheck.Proofs.Registry
import GatewayCheck.Proofs.Checker
import GatewayCheck.Proofs.Packaged.Registry
import GatewayCheck.Proofs.Rule.Upstream
import GatewayCheck.Proofs.Rule.HashKey
import GatewayCheck.Proofs.Upstream
import GatewayCheck.Proofs.Packaged.Upstream
import GatewayCheck.Proofs.Rule.Preparation
import GatewayCheck.Proofs.Packaged.Closing
import GatewayCheck.Proofs.Packaged.Protection
import GatewayCheck.Proofs.Packaged.Sinks
import GatewayCheck.Proofs.Json.References
import GatewayCheck.Proofs.Schema.Isolation
import GatewayCheck.Proofs.Isolation
import GatewayCheck.Proofs.Transparency
import GatewayCheck.Proofs.Schema.Fields
import GatewayCheck.Proofs.Packaged.Inline
import GatewayCheck.Proofs.Json.Ways
import GatewayCheck.Proofs.Packaged.Dispatch
import GatewayCheck.Proofs.Packaged.Compatibility
import GatewayCheck.Proofs.Schema.Reach
import GatewayCheck.Proofs.Schema.ClosedRoot
import GatewayCheck.Proofs.Closing
import GatewayCheck.Proofs.Library
import GatewayCheck.Proofs.Rule.Setting
import GatewayCheck.Proofs.Construction
import GatewayCheck.Proofs.Dispatch
import GatewayCheck.Proofs.Entry
import GatewayCheck.Proofs.Files
import GatewayCheck.Proofs.Directory
import GatewayCheck.Proofs.ExitCode
import GatewayCheck.Proofs.Loading
import GatewayCheck.Proofs.Text.Utf8
import GatewayCheck.Proofs.Json.Stable
import GatewayCheck.Proofs.SchemaCommand
import GatewayCheck.Proofs.StatusLines
import GatewayCheck.Proofs.Number.Shortest
import GatewayCheck.Proofs.ReleaseNumber
import GatewayCheck.Proofs.Expression
import GatewayCheck.Proofs.Packaged.HashKeys
import GatewayCheck.Proofs.Packaged.Addresses
import GatewayCheck.Proofs.LimitOption
import GatewayCheck.Proofs.Upstream.Fields
import GatewayCheck.Proofs.Rule.Relevance
import GatewayCheck.Proofs.Upstream.RoundTrip
import GatewayCheck.Proofs.Upstream.Readable
import GatewayCheck.Proofs.FileBytes
import GatewayCheck.Proofs.Text.Pieces
import GatewayCheck.Proofs.DottedPath
import GatewayCheck.Proofs.Label
import GatewayCheck.Proofs.Packaged.Labels
import GatewayCheck.Proofs.Rule.Grounds
import GatewayCheck.Proofs.Rule.Truthfulness
