import RoutineAtlas.CommandLine.Arguments
import RoutineAtlas.CommandLine.Display
import RoutineAtlas.CommandLine.Guide
import RoutineAtlas.CommandLine.Option
import RoutineAtlas.CommandLine.Page
import RoutineAtlas.CommandLine.Run
import RoutineAtlas.Configuration.Basic
import RoutineAtlas.Configuration.Override
import RoutineAtlas.Configuration.Reading
import RoutineAtlas.Document.Basic
import RoutineAtlas.Document.Encoding
import RoutineAtlas.Environment
import RoutineAtlas.Fault
import RoutineAtlas.Files.AccessFault
import RoutineAtlas.Files.Editing
import RoutineAtlas.Files.Entry
import RoutineAtlas.Files.Path
import RoutineAtlas.Files.PathText
import RoutineAtlas.Files.Scan
import RoutineAtlas.Files.SourceHead
import RoutineAtlas.Files.Tree
import RoutineAtlas.Host.Basic
import RoutineAtlas.Host.Script.Arithmetic
import RoutineAtlas.Host.Script.Builtin
import RoutineAtlas.Host.Script.CharacterSet
import RoutineAtlas.Host.Script.Command
import RoutineAtlas.Host.Script.Escape
import RoutineAtlas.Host.Script.Expansion
import RoutineAtlas.Host.Script.Pattern
import RoutineAtlas.Host.Script.Program
import RoutineAtlas.Host.Script.Question
import RoutineAtlas.Host.Script.Quotation
import RoutineAtlas.Host.Script.Run
import RoutineAtlas.Host.Script.Signal
import RoutineAtlas.Host.Script.Sink
import RoutineAtlas.Host.Script.State
import RoutineAtlas.Host.Script.Text
import RoutineAtlas.Host.Script.Token
import RoutineAtlas.Host.Script.Word
import RoutineAtlas.Lookup.Answer
import RoutineAtlas.Lookup.Atlas
import RoutineAtlas.Lookup.Root
import RoutineAtlas.Lookup.SourceFile
import RoutineAtlas.Lookup.VersionControl
import RoutineAtlas.Main
import RoutineAtlas.Origin.Basic
import RoutineAtlas.Origin.Classifier
import RoutineAtlas.Origin.DecisionCache
import RoutineAtlas.Origin.Gate
import RoutineAtlas.Origin.KnownLead
import RoutineAtlas.Origin.Rule
import RoutineAtlas.Origin.TextVerdict
import RoutineAtlas.Outline.Basic
import RoutineAtlas.Outline.Declaration
import RoutineAtlas.Outline.Flowchart
import RoutineAtlas.Outline.FunctionNames
import RoutineAtlas.Outline.Instant
import RoutineAtlas.Outline.Report
import RoutineAtlas.Outline.TableNames
import RoutineAtlas.Proofs.Configuration.MissingRoot
import RoutineAtlas.Proofs.Configuration.RowCap
import RoutineAtlas.Proofs.Document.Encoding
import RoutineAtlas.Proofs.Document.Reading
import RoutineAtlas.Proofs.Files.Following
import RoutineAtlas.Proofs.Files.Listing
import RoutineAtlas.Proofs.Files.Naming
import RoutineAtlas.Proofs.Files.Parts
import RoutineAtlas.Proofs.Files.Places
import RoutineAtlas.Proofs.Files.Reporting
import RoutineAtlas.Proofs.Files.RequestedExtension
import RoutineAtlas.Proofs.Files.SourceHead
import RoutineAtlas.Proofs.Files.SourcePath
import RoutineAtlas.Proofs.Files.Walk
import RoutineAtlas.Proofs.Lookup.Absolute
import RoutineAtlas.Proofs.Lookup.Confinement
import RoutineAtlas.Proofs.Lookup.History
import RoutineAtlas.Proofs.Lookup.Probe
import RoutineAtlas.Proofs.Lookup.Refusal
import RoutineAtlas.Proofs.Lookup.Request
import RoutineAtlas.Proofs.Lookup.SourceFile
import RoutineAtlas.Proofs.Lookup.SpellingCount
import RoutineAtlas.Proofs.Lookup.Time
import RoutineAtlas.Proofs.Lookup.Variant
import RoutineAtlas.Proofs.Lookup.Verdict
import RoutineAtlas.Proofs.Origin.Decision
import RoutineAtlas.Proofs.Origin.EagerRules
import RoutineAtlas.Proofs.Origin.FirstLines
import RoutineAtlas.Proofs.Origin.Judgement
import RoutineAtlas.Proofs.Origin.Lead
import RoutineAtlas.Proofs.Origin.LearnedLeads
import RoutineAtlas.Proofs.Origin.Lesson
import RoutineAtlas.Proofs.Origin.Memory
import RoutineAtlas.Proofs.Origin.Restart
import RoutineAtlas.Proofs.Origin.RuleLoop
import RoutineAtlas.Proofs.Origin.Run
import RoutineAtlas.Proofs.Origin.TextVerdict
import RoutineAtlas.Proofs.Origin.UserFunctionVerdict
import RoutineAtlas.Proofs.Outline.Account
import RoutineAtlas.Proofs.Outline.DeclarationParts
import RoutineAtlas.Proofs.Outline.Flowchart
import RoutineAtlas.Proofs.Outline.FunctionNames
import RoutineAtlas.Proofs.Outline.UserFunctions
import RoutineAtlas.Proofs.Routine.Name
import RoutineAtlas.Proofs.Routine.Opening
import RoutineAtlas.Proofs.Routine.Rereading
import RoutineAtlas.Proofs.Routine.Spelling
import RoutineAtlas.Proofs.Routine.Stages
import RoutineAtlas.Proofs.Service.Envelope
import RoutineAtlas.Proofs.Service.FrontEnds
import RoutineAtlas.Proofs.Service.Parameters
import RoutineAtlas.Proofs.Table.Account
import RoutineAtlas.Proofs.Table.Books
import RoutineAtlas.Proofs.Table.Composition
import RoutineAtlas.Proofs.Table.DeleteReach
import RoutineAtlas.Proofs.Table.Locating
import RoutineAtlas.Proofs.Table.Reach
import RoutineAtlas.Proofs.Table.Reference
import RoutineAtlas.Proofs.Table.Search
import RoutineAtlas.Proofs.Text.AsciiBytes
import RoutineAtlas.Proofs.Text.CharacterBytes
import RoutineAtlas.Proofs.Text.Decoding
import RoutineAtlas.Proofs.Text.Lines
import RoutineAtlas.Proofs.Text.LowerCase
import RoutineAtlas.Proofs.Text.NameSet
import RoutineAtlas.Proofs.Text.Occurrence
import RoutineAtlas.Proofs.Text.Placement
import RoutineAtlas.Proofs.Text.Recognizer
import RoutineAtlas.Proofs.Text.Seam
import RoutineAtlas.Proofs.Text.UpperCase
import RoutineAtlas.Proofs.Text.UpperCaseWord
import RoutineAtlas.Proofs.Text.WellFormed
import RoutineAtlas.Proofs.Text.Words
import RoutineAtlas.Routine.Aspect
import RoutineAtlas.Routine.Name
import RoutineAtlas.Service.Exchange
import RoutineAtlas.Service.Parameters
import RoutineAtlas.Service.Tools
import RoutineAtlas.Setting
import RoutineAtlas.Table.Category
import RoutineAtlas.Table.Evidence
import RoutineAtlas.Table.Name
import RoutineAtlas.Table.Search
import RoutineAtlas.Text.AsciiCase
import RoutineAtlas.Text.BlankCharacter
import RoutineAtlas.Text.CaseRuns
import RoutineAtlas.Text.CodeRanges
import RoutineAtlas.Text.Extension
import RoutineAtlas.Text.LegacyEncoding
import RoutineAtlas.Text.Lines
import RoutineAtlas.Text.LowerCase
import RoutineAtlas.Text.NameSet
import RoutineAtlas.Text.Recognizer
import RoutineAtlas.Text.UpperCase
import RoutineAtlas.Text.WordCharacter
import RoutineAtlas.Yaml.Cursor
import RoutineAtlas.Yaml.Node
import RoutineAtlas.Yaml.Scalar
import RoutineAtlas.Yaml.Token
