import DocBinder.Access.Client
import DocBinder.Access.Credentials
import DocBinder.Access.Diagnosis
import DocBinder.Access.Offline
import DocBinder.Access.Redact
import DocBinder.Access.Retry
import DocBinder.CommandLine.Arguments
import DocBinder.CommandLine.Program
import DocBinder.Compile
import DocBinder.Decimal.Binary
import DocBinder.Decimal.Numeral
import DocBinder.Decimal.Shortest
import DocBinder.Digest.Sha256
import DocBinder.Docs.Buffer
import DocBinder.Docs.FlatText
import DocBinder.Docs.Remote
import DocBinder.Docs.Request
import DocBinder.Docs.Service
import DocBinder.Docs.Snapshot
import DocBinder.Docs.Style
import DocBinder.Exchange.Failure
import DocBinder.Exchange.Fields
import DocBinder.Exchange.Markdown
import DocBinder.Exchange.Project
import DocBinder.Exchange.Sync
import DocBinder.Exchange.Tagged
import DocBinder.Failure
import DocBinder.Files.Path
import DocBinder.Files.Store
import DocBinder.Files.Tree
import DocBinder.Json.Reader
import DocBinder.Json.Writer
import DocBinder.Log
import DocBinder.Main
import DocBinder.Markdown.Block
import DocBinder.Markdown.Classify
import DocBinder.Markdown.Fence
import DocBinder.Markdown.Span
import DocBinder.Placeholder.Build
import DocBinder.Placeholder.Cache
import DocBinder.Placeholder.Scan
import DocBinder.Project.Config
import DocBinder.Project.Frontmatter
import DocBinder.Project.Glob
import DocBinder.Project.Initialize
import DocBinder.Project.Order
import DocBinder.Project.Report
import DocBinder.Project.Scan
import DocBinder.Project.Select
import DocBinder.Project.SourceFile
import DocBinder.Project.StateFile
import DocBinder.Project.Synchronize
import DocBinder.Project.Title
import DocBinder.Proofs.Buffer.Edit
import DocBinder.Resolve.Cells
import DocBinder.Resolve.Formatting
import DocBinder.Resolve.Replacements
import DocBinder.Resolve.Unresolved
import DocBinder.Sync.Coordinator
import DocBinder.Sync.Outcome
import DocBinder.Sync.State
import DocBinder.Terminal.Grid
import DocBinder.Terminal.Markup
import DocBinder.Terminal.Width
import DocBinder.Terminal.Wrap
import DocBinder.Text.Basic
import DocBinder.Text.Case
import DocBinder.Text.Digit
import DocBinder.Text.Printable
import DocBinder.Text.Ranges
import DocBinder.Text.Similar
import DocBinder.Text.Utf8
import DocBinder.Text.Word
import DocBinder.Total
import DocBinder.Value.Basic
import DocBinder.Value.Literal
import DocBinder.Value.Written
import DocBinder.Yaml.Cursor
import DocBinder.Yaml.Fault
import DocBinder.Yaml.Moment
import DocBinder.Yaml.Node
import DocBinder.Yaml.Page
import DocBinder.Yaml.Property
import DocBinder.Yaml.Reader
import DocBinder.Yaml.Scalar
import DocBinder.Yaml.Token
import DocBinder.Yaml.Typed
import DocBinder.Yaml.Writer
import DocBinder.Proofs.Buffer.Marks
import DocBinder.Proofs.Content.Append
import DocBinder.Proofs.Content.Compile
import DocBinder.Proofs.Content.Directives
import DocBinder.Proofs.Content.Populate
import DocBinder.Proofs.Formatting.Hits
import DocBinder.Proofs.Formatting.Lookups
import DocBinder.Proofs.Formatting.Place
import DocBinder.Proofs.Formatting.Removal
import DocBinder.Proofs.Formatting.Resolve
import DocBinder.Proofs.Formatting.Scope
import DocBinder.Proofs.Markdown.Priority
import DocBinder.Proofs.Markdown.Sources
import DocBinder.Proofs.Project.History
import DocBinder.Proofs.Project.Order
import DocBinder.Proofs.Project.Selection
import DocBinder.Proofs.Project.Store
import DocBinder.Proofs.Replacement.Cut
import DocBinder.Proofs.Replacement.Issue
import DocBinder.Proofs.Replacement.Plan
import DocBinder.Proofs.Replacement.Unique
import DocBinder.Proofs.Sync.Contract
import DocBinder.Proofs.Sync.Documents
import DocBinder.Proofs.Sync.Earlier
import DocBinder.Proofs.Sync.Formatting
import DocBinder.Proofs.Sync.Fresh
import DocBinder.Proofs.Sync.Isolation
import DocBinder.Proofs.Sync.Remember
import DocBinder.Proofs.Sync.Renewal
import DocBinder.Proofs.Sync.Substitution
import DocBinder.Proofs.Sync.Watch
import DocBinder.Proofs.Replacement.Once
import DocBinder.Proofs.Replacement.Untouched
import DocBinder.Proofs.Markdown.Placed
import DocBinder.Proofs.Replacement.Fences
import DocBinder.Proofs.Content.Spread
import DocBinder.Proofs.Content.Survive
import DocBinder.Proofs.Markdown.Headings
import DocBinder.Proofs.Replacement.Diagrams
import DocBinder.Proofs.Replacement.Headings
import DocBinder.Proofs.Access.Failures
import DocBinder.Proofs.Sync.Accounted
import DocBinder.Proofs.Sync.Interruption
import DocBinder.Proofs.Replacement.Reuse
import DocBinder.Proofs.Files.Listing
import DocBinder.Proofs.Files.Path
import DocBinder.Proofs.Project.Frontmatter
import DocBinder.Proofs.Project.Listing
import DocBinder.Proofs.Project.Persistence
import DocBinder.Proofs.Project.Subtree
import DocBinder.Proofs.Project.Title
import DocBinder.Proofs.Access.Redacted
import DocBinder.Proofs.Files.Stored
import DocBinder.Proofs.Formatting.Offsets
