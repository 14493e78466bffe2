import Taskflow.Text.CodeSet
import Taskflow.Text.Property
import Taskflow.Text.Case
import Taskflow.Text.Basic
import Taskflow.Text.Pattern.Basic
import Taskflow.Text.Pattern.Search
import Taskflow.Text.Fence
import Taskflow.Decimal.Shortest
import Taskflow.Decimal.Layout
import Taskflow.Json.Value
import Taskflow.Json.Read
import Taskflow.Json.Write
import Taskflow.Json.Show
import Taskflow.Fault
import Taskflow.Task.Complexity
import Taskflow.Steps.Sentence
import Taskflow.Steps.Normalise
import Taskflow.Steps.Login
import Taskflow.Steps.Strategy
import Taskflow.Steps.Fallback
import Taskflow.Steps.Extract
import Taskflow.Steps.Marked
import Taskflow.Task.Chunk
import Taskflow.Task.Group
import Taskflow.Time.Civil
import Taskflow.Time.Iso
import Taskflow.Time.Layout
import Taskflow.Json.Access
import Taskflow.Json.Sort
import Taskflow.Text.Numeral
import Taskflow.Workspace.Basic
import Taskflow.Queue.Tasks
import Taskflow.Workspace.Note
import Taskflow.Workspace.Sync
import Taskflow.Queue.Store
import Taskflow.Queue.Preview
import Taskflow.Queue.Gate
import Taskflow.Workspace.Interruptions
import Taskflow.Workspace.Cursor
import Taskflow.Task.Execute
import Taskflow.Command.Args
import Taskflow.Queue.Command
import Taskflow.Digest.Sha1
import Taskflow.Digest.HalfMd4
import Taskflow.Repo.Tree
import Taskflow.Review.Bag
import Taskflow.Review.Finding
import Taskflow.Review.Detect
import Taskflow.Review.Phase
import Taskflow.Plan.Phase
import Taskflow.Plan.Next
import Taskflow.Plan.Outline
import Taskflow.Plan.Audit
import Taskflow.Setup.MemoryServer
import Taskflow.Html.Entity
import Taskflow.Html.Event
import Taskflow.Html.Node
import Taskflow.Web.Address
import Taskflow.Web.Url
import Taskflow.Harvest.Card
import Taskflow.Harvest.Page
import Taskflow.Lint.Rule
import Taskflow.Proofs.Json.RoundTrip
import Taskflow.Proofs.Text.Pieces
import Taskflow.Proofs.Workspace.Triple
import Taskflow.Proofs.Queue.View
import Taskflow.Proofs.Queue.Load
import Taskflow.Proofs.Json.Plain
import Taskflow.Proofs.Queue.Operations
import Taskflow.Proofs.Json.SortPerm
import Taskflow.Proofs.Json.SortStable
import Taskflow.Proofs.Task.Rerun
import Taskflow.Proofs.Queue.Edits
import Taskflow.Proofs.Queue.Ids
import Taskflow.Proofs.Queue.Session
import Taskflow.Proofs.Time.Iso
import Taskflow.Proofs.Queue.Retention
import Taskflow.Proofs.Command.Args
import Taskflow.Proofs.Queue.Gate
import Taskflow.Proofs.Steps.Lanes
import Taskflow.Proofs.Queue.Writes
import Taskflow.Proofs.Text.FenceMatch
import Taskflow.Proofs.Text.Fence
import Taskflow.Proofs.Plan.ConcernMatch
import Taskflow.Proofs.Plan.ConcernSearch
import Taskflow.Proofs.Plan.Findings
import Taskflow.Proofs.Queue.Completion
import Taskflow.Proofs.Workspace.Resume
import Taskflow.Proofs.Queue.HardDelete
import Taskflow.Proofs.Queue.Placeholders
import Taskflow.Proofs.Task.Chunking
import Taskflow.Proofs.Text.Numeral
import Taskflow.Proofs.Queue.SubStep
import Taskflow.Proofs.Queue.Modes
import Taskflow.Proofs.Steps.LoginOrder
import Taskflow.Proofs.Steps.Chains
import Taskflow.Proofs.Steps.Sentences
import Taskflow.Proofs.Steps.InlineLists
import Taskflow.Proofs.Review.Merge
import Taskflow.Proofs.Text.Replace
import Taskflow.Proofs.Steps.Marks
import Taskflow.Proofs.Steps.ListLines
import Taskflow.Proofs.Steps.Repeats
import Taskflow.Proofs.Task.LaneScore
import Taskflow.Proofs.Workspace.Duplicates
import Taskflow.Proofs.Workspace.Recency
import Taskflow.Proofs.Review.ShellBlocks
import Taskflow.Proofs.Plan.Lint
import Taskflow.Proofs.Plan.Views
import Taskflow.Proofs.Task.Tidy
import Taskflow.Proofs.Steps.Branches
import Taskflow.Proofs.Steps.Cuts
import Taskflow.Proofs.Task.Grouping
import Taskflow.Proofs.Queue.WriteBack
