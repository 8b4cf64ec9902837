import ImportScan.Text.CodePoints
import ImportScan.Text.Alphabetic
import ImportScan.Text.Numeric
import ImportScan.Text.Blank
import ImportScan.Text.CaseFold
import ImportScan.Text.Word
import ImportScan.Text.Letter
import ImportScan.Text.Category
import ImportScan.Text.Script
import ImportScan.Text.Printable
import ImportScan.Text.Location
import ImportScan.Text.Lines
import ImportScan.Text.Escape
import ImportScan.Text.Padding
import ImportScan.Text.CellWidth
import ImportScan.Text.DisplayWidth
import ImportScan.Text.Property
import ImportScan.Text.Utf8
import ImportScan.Token
import ImportScan.Language
import ImportScan.Lexer.Extent
import ImportScan.Lexer.Scan
import ImportScan.Lexer
import ImportScan.Bracket
import ImportScan.Context
import ImportScan.Statement
import ImportScan.Record
import ImportScan.Classification
import ImportScan.Extraction
import ImportScan.Partition
import ImportScan.Path
import ImportScan.Worklist
import ImportScan.Pattern.CharSet
import ImportScan.Pattern
import ImportScan.Pattern.Glob
import ImportScan.Pattern.Escape
import ImportScan.Pattern.Enclosed
import ImportScan.Pattern.Sign
import ImportScan.Pattern.Room
import ImportScan.Pattern.Regex
import ImportScan.Json.Token
import ImportScan.Json.Value
import ImportScan.Failure
import ImportScan.Config
import ImportScan.Config.Json
import ImportScan.Issue
import ImportScan.Module
import ImportScan.Source
import ImportScan.FileTree
import ImportScan.Config.Search
import ImportScan.Run
import ImportScan.Report.Format
import ImportScan.Report.Style
import ImportScan.Report.Duration
import ImportScan.Report.Issues
import ImportScan.Report.Modules
import ImportScan.Report.Json
import ImportScan.Report
import ImportScan.Trace
import ImportScan.Arguments
import ImportScan.Command
import ImportScan.Terminal
import ImportScan.Main
import ImportScan.Proofs.Slice
import ImportScan.Proofs.Tiling
import ImportScan.Proofs.Place
import ImportScan.Proofs.Scan
import ImportScan.Proofs.TokenEnd
import ImportScan.Proofs.TokenStream
import ImportScan.Proofs.TokenPlace
import ImportScan.Proofs.StatementStream
import ImportScan.Proofs.Decomposition
import ImportScan.Proofs.FlatStack
import ImportScan.Proofs.PassRun
import ImportScan.Proofs.ModeStack
import ImportScan.Proofs.Lockstep
import ImportScan.Proofs.Acceptance
import ImportScan.Proofs.PassPlace
import ImportScan.Proofs.Accounting
import ImportScan.Proofs.RecordPlace
import ImportScan.Proofs.Partition
import ImportScan.Proofs.RunInvariant
import ImportScan.Proofs.RoundTrip
import ImportScan.Proofs.Scheduling
import ImportScan.Proofs.FileStep
import ImportScan.Proofs.IssuePlace
import ImportScan.Proofs.RunStages
import ImportScan.Proofs.Settlement
import ImportScan.Proofs.BreadthFirst
import ImportScan.Proofs.Reachability
import ImportScan.Proofs.PathName
import ImportScan.Proofs.StatementApart
import ImportScan.Proofs.RunIssues
import ImportScan.Proofs.IssueAccount
import ImportScan.Proofs.IssueOrder
import ImportScan.Proofs.EntryOrder
import ImportScan.Proofs.ImportGrammar
import ImportScan.Proofs.Spelling
import ImportScan.Proofs.PrintedImport
import ImportScan.Proofs.PrintedList
import ImportScan.Proofs.Listing
import ImportScan.Proofs.OpenTemplate
import ImportScan.Proofs.Respelling
import ImportScan.Proofs.Likeness
import ImportScan.Proofs.ParallelRun
import ImportScan.Proofs.Branch
import ImportScan.Proofs.LookAhead
import ImportScan.Proofs.Seam
import ImportScan.Proofs.Concatenation
import ImportScan.Proofs.Findings
import ImportScan.Proofs.CommentTransparency
import ImportScan.Proofs.LineFeed
import ImportScan.Proofs.LineFeedScan
import ImportScan.Proofs.LineFeedRun
import ImportScan.Proofs.LineEndIndependence
import ImportScan.Proofs.Detour
import ImportScan.Proofs.WorklistHistory
import ImportScan.Proofs.JsonText
import ImportScan.Proofs.JsonReader
import ImportScan.Proofs.ReportData
import ImportScan.Proofs.ColourIndependence
import ImportScan.Proofs.FreshFile
import ImportScan.Proofs.DefaultPattern
import ImportScan.Proofs.AlikeSources
import ImportScan.Proofs.ConfigText
import ImportScan.Proofs.MeasuredTimes
import ImportScan.Proofs.NeutralConfig
import ImportScan.Proofs.Coverage
import ImportScan.Proofs.StackCalls
import ImportScan.Proofs.ExpectedCloser
import ImportScan.Proofs.OneLine
import ImportScan.Proofs.OpenList
import ImportScan.Proofs.NamedImport
import ImportScan.Proofs.OrderFree
import ImportScan.Proofs.ExportClause
import ImportScan.Proofs.StatementSplit
import ImportScan.Proofs.SpacedTokens
import ImportScan.Proofs.PrintedEntries
import ImportScan.Proofs.ReadBack
import ImportScan.Proofs.PrintedInk
import ImportScan.Proofs.TokenShape
import ImportScan.Proofs.OnlyReading
import ImportScan.Proofs.ReadsBackIff
import ImportScan.Proofs.NormalPath
import ImportScan.Proofs.NearestConfig
import ImportScan.Proofs.WordEnd
import ImportScan.Proofs.WholeWord
import ImportScan.Proofs.StringGrammar
import ImportScan.Proofs.RegexGrammar
import ImportScan.Proofs.LiteralScan
import ImportScan.Proofs.TextBytes
import ImportScan.Proofs.TemplateBytes
