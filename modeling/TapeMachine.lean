import TapeMachine.Batch
import TapeMachine.Configuration
import TapeMachine.Console.Board
import TapeMachine.Console.CellWidth
import TapeMachine.Console.Color
import TapeMachine.Console.Desk
import TapeMachine.Console.Emoji
import TapeMachine.Console.EmojiTable
import TapeMachine.Console.Literal
import TapeMachine.Console.Markup
import TapeMachine.Console.Options
import TapeMachine.Console.Painting
import TapeMachine.Console.Prompt
import TapeMachine.Console.Style
import TapeMachine.Console.Wrapping
import TapeMachine.Decimal.Binary
import TapeMachine.Decimal.Number
import TapeMachine.Decimal.Rounding
import TapeMachine.Decimal.Shortest
import TapeMachine.Decimal.Text
import TapeMachine.Dictionary
import TapeMachine.Distinct
import TapeMachine.Entry
import TapeMachine.Fault
import TapeMachine.Files.Path
import TapeMachine.Files.Pattern
import TapeMachine.Files.Task
import TapeMachine.Files.Tree
import TapeMachine.Grid
import TapeMachine.Help.Counter
import TapeMachine.Help.Merging
import TapeMachine.Help.Ordering
import TapeMachine.Help.Placing
import TapeMachine.Help.Ranking
import TapeMachine.Help.Topics
import TapeMachine.Inspection
import TapeMachine.Journal
import TapeMachine.Json.Basic
import TapeMachine.Json.Display
import TapeMachine.Json.Reader
import TapeMachine.Json.Writer
import TapeMachine.Machine
import TapeMachine.Main
import TapeMachine.Pacer
import TapeMachine.Pool
import TapeMachine.PoolBuilder
import TapeMachine.Proofs.Batch.Agreement
import TapeMachine.Proofs.Batch.BrokenPrograms
import TapeMachine.Proofs.Batch.Checkpoints
import TapeMachine.Proofs.Batch.Finished
import TapeMachine.Proofs.Batch.Outlets
import TapeMachine.Proofs.Batch.Programs
import TapeMachine.Proofs.Batch.ResultLines
import TapeMachine.Proofs.Batch.Resuming
import TapeMachine.Proofs.Batch.Runs
import TapeMachine.Proofs.Batch.Summaries
import TapeMachine.Proofs.Configuration.Advance
import TapeMachine.Proofs.Configuration.Extent
import TapeMachine.Proofs.Configuration.Pictures
import TapeMachine.Proofs.Configuration.TotalTape
import TapeMachine.Proofs.Configuration.Trace
import TapeMachine.Proofs.Configuration.View
import TapeMachine.Proofs.Console.Alike
import TapeMachine.Proofs.Console.Coloring
import TapeMachine.Proofs.Console.Showing
import TapeMachine.Proofs.Files.Edits
import TapeMachine.Proofs.Files.Folders
import TapeMachine.Proofs.Files.Homes
import TapeMachine.Proofs.Files.Names
import TapeMachine.Proofs.Files.Paths
import TapeMachine.Proofs.Files.Tasks
import TapeMachine.Proofs.Files.Walks
import TapeMachine.Proofs.Grouping
import TapeMachine.Proofs.Help.Answers
import TapeMachine.Proofs.Help.Rankings
import TapeMachine.Proofs.Journal.Days
import TapeMachine.Proofs.Json.Numbers
import TapeMachine.Proofs.Json.Printed
import TapeMachine.Proofs.Json.RoundTrip
import TapeMachine.Proofs.Json.Strings
import TapeMachine.Proofs.Machine.Budget
import TapeMachine.Proofs.Machine.Calls
import TapeMachine.Proofs.Machine.Finality
import TapeMachine.Proofs.Machine.Halting
import TapeMachine.Proofs.Machine.Log
import TapeMachine.Proofs.Machine.Misses
import TapeMachine.Proofs.Machine.SameRuns
import TapeMachine.Proofs.Machine.Tries
import TapeMachine.Proofs.Pacer.Callbacks
import TapeMachine.Proofs.Pacer.Notes
import TapeMachine.Proofs.Pacer.PlainRun
import TapeMachine.Proofs.Pool.Outcomes
import TapeMachine.Proofs.Records
import TapeMachine.Proofs.Session.Animation
import TapeMachine.Proofs.Session.ByHand
import TapeMachine.Proofs.Session.Drafts
import TapeMachine.Proofs.Session.Editing
import TapeMachine.Proofs.Settings.Keeping
import TapeMachine.Proofs.Source.Blocks
import TapeMachine.Proofs.Source.ClauseLists
import TapeMachine.Proofs.Source.Collections
import TapeMachine.Proofs.Source.Described
import TapeMachine.Proofs.Source.DirectiveOrder
import TapeMachine.Proofs.Source.Directives
import TapeMachine.Proofs.Source.Drafts
import TapeMachine.Proofs.Source.Duplicates
import TapeMachine.Proofs.Source.Extraction
import TapeMachine.Proofs.Source.Faults
import TapeMachine.Proofs.Source.LastClause
import TapeMachine.Proofs.Source.LostWrites
import TapeMachine.Proofs.Source.Necessity
import TapeMachine.Proofs.Source.Options
import TapeMachine.Proofs.Source.Overlaps
import TapeMachine.Proofs.Source.Overrides
import TapeMachine.Proofs.Source.QuotedValues
import TapeMachine.Proofs.Source.Quotes
import TapeMachine.Proofs.Source.Readings
import TapeMachine.Proofs.Source.Renumbering
import TapeMachine.Proofs.Source.Reports
import TapeMachine.Proofs.Source.Rereading
import TapeMachine.Proofs.Source.RoundTrip
import TapeMachine.Proofs.Source.RuleLines
import TapeMachine.Proofs.Source.SameLookups
import TapeMachine.Proofs.Source.Shorthand
import TapeMachine.Proofs.Source.StateNames
import TapeMachine.Proofs.Source.Strict
import TapeMachine.Proofs.Source.Survival
import TapeMachine.Proofs.Source.SymbolLists
import TapeMachine.Proofs.Source.Symbols
import TapeMachine.Proofs.Source.Targets
import TapeMachine.Proofs.Source.WellFormed
import TapeMachine.Proofs.Source.Written
import TapeMachine.Proofs.StateGraph.Edges
import TapeMachine.Proofs.StateGraph.Layout
import TapeMachine.Proofs.StateGraph.Runs
import TapeMachine.Proofs.Table.Grid
import TapeMachine.Proofs.Table.Keys
import TapeMachine.Proofs.Table.Precedence
import TapeMachine.Proofs.Table.Rearrangement
import TapeMachine.Proofs.Text.Blank
import TapeMachine.Proofs.Text.Lines
import TapeMachine.Proofs.Text.Numerals
import TapeMachine.Record
import TapeMachine.Rule
import TapeMachine.Session.Automation
import TapeMachine.Session.Basic
import TapeMachine.Session.Menu
import TapeMachine.Settings.Basic
import TapeMachine.Settings.File
import TapeMachine.Source.Clause
import TapeMachine.Source.Line
import TapeMachine.Source.Program
import TapeMachine.Source.Quotes
import TapeMachine.Source.Writer
import TapeMachine.StateGraph.Geometry
import TapeMachine.StateGraph.Layout
import TapeMachine.StateGraph.Place
import TapeMachine.Table
import TapeMachine.Text.Blank
import TapeMachine.Text.Cased
import TapeMachine.Text.CharacterName
import TapeMachine.Text.Lines
import TapeMachine.Text.Lower
import TapeMachine.Text.NameTable
import TapeMachine.Text.Numeral
import TapeMachine.Text.Printable
import TapeMachine.Text.Quoted
import TapeMachine.Text.Surrogates
import TapeMachine.Text.Utf8
import TapeMachine.Text.Word
import TapeMachine.Text.Wording
import TapeMachine.Tools
import TapeMachine.Window
