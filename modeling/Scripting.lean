import Scripting.CommandLine.Dialogue
import Scripting.CommandLine.Invocation
import Scripting.CommandLine.Options
import Scripting.CommandLine.Report
import Scripting.CommandLine.Supply
import Scripting.Data.Arithmetic
import Scripting.Data.Attributes
import Scripting.Data.Bindings
import Scripting.Data.Comparison
import Scripting.Data.Conversion
import Scripting.Data.Display
import Scripting.Data.Fault
import Scripting.Data.Heap
import Scripting.Data.Indexing
import Scripting.Data.Parameters
import Scripting.Data.Prelude
import Scripting.Data.Suggestion
import Scripting.Data.Value
import Scripting.Evaluation.Basic
import Scripting.Evaluation.Branches
import Scripting.Evaluation.Builtins
import Scripting.Evaluation.Calls
import Scripting.Evaluation.Classes
import Scripting.Evaluation.Console
import Scripting.Evaluation.Frame
import Scripting.Evaluation.Functions
import Scripting.Evaluation.Loops
import Scripting.Evaluation.Machine
import Scripting.Evaluation.Modules
import Scripting.Evaluation.Perform
import Scripting.Evaluation.Transfers
import Scripting.Files.Lines
import Scripting.Files.Path
import Scripting.Files.Tree
import Scripting.Grammar.Atom
import Scripting.Grammar.Bodies
import Scripting.Grammar.Expression
import Scripting.Grammar.Fault
import Scripting.Grammar.Reader
import Scripting.Grammar.Reading
import Scripting.Grammar.Statement
import Scripting.Lexical.Directive
import Scripting.Lexical.Fault
import Scripting.Lexical.Keyword
import Scripting.Lexical.NumberLiteral
import Scripting.Lexical.Quotation
import Scripting.Lexical.Scan
import Scripting.Lexical.Switches
import Scripting.Lexical.Symbol
import Scripting.Lexical.Token
import Scripting.Lexical.Trivia
import Scripting.Main
import Scripting.Number.Binary64
import Scripting.Number.Bounded
import Scripting.Number.Division
import Scripting.Number.Reading
import Scripting.Number.Remainder
import Scripting.Number.Shortest
import Scripting.Number.Written
import Scripting.Program.Node
import Scripting.Program.Operator
import Scripting.Program.Printer
import Scripting.Session.Basic
import Scripting.Session.Outcome
import Scripting.Source.Excerpt
import Scripting.Source.Position
import Scripting.Source.Report
import Scripting.Text.Blank
import Scripting.Text.CharacterName
import Scripting.Text.ClusterClass
import Scripting.Text.Clusters
import Scripting.Text.Collapse
import Scripting.Text.Combining
import Scripting.Text.Counting
import Scripting.Text.EditDistance
import Scripting.Text.Erasure
import Scripting.Text.Letters
import Scripting.Text.Lines
import Scripting.Text.Names.AfricanAndAmerican
import Scripting.Text.Names.Alias
import Scripting.Text.Names.Ancient
import Scripting.Text.Names.Arabic
import Scripting.Text.Names.Block
import Scripting.Text.Names.Computing
import Scripting.Text.Names.EastAsian
import Scripting.Text.Names.European
import Scripting.Text.Names.Family
import Scripting.Text.Names.Latin
import Scripting.Text.Names.Marks
import Scripting.Text.Names.Mathematics
import Scripting.Text.Names.MiddleEastern
import Scripting.Text.Names.MusicAndSigning
import Scripting.Text.Names.Pictographs
import Scripting.Text.Names.Punctuation
import Scripting.Text.Names.SouthAsian
import Scripting.Text.Names.SoutheastAsian
import Scripting.Text.Names.Symbols
import Scripting.Text.Printable
import Scripting.Text.Quoted
import Scripting.Text.Ranges
import Scripting.Text.Suggestion
import Scripting.Proofs.Elementary
import Scripting.Proofs.Composition
import Scripting.Proofs.LexicalScope
import Scripting.Proofs.Histories
import Scripting.Proofs.ScopeTables
import Scripting.Proofs.CallDepth
import Scripting.Proofs.Containment
import Scripting.Proofs.Lexemes
import Scripting.Proofs.Segmentation
import Scripting.Proofs.Derivations
import Scripting.Proofs.ParserSoundness
import Scripting.Proofs.TokenPassing
import Scripting.Proofs.Writing
import Scripting.Proofs.ReaderSteps
import Scripting.Proofs.ExpressionLevels
import Scripting.Proofs.Precedence
import Scripting.Proofs.StaticScope
import Scripting.Proofs.OrdinaryFaults
import Scripting.Proofs.HeededSignals
import Scripting.Proofs.SignalPaths
import Scripting.Proofs.FollowedForms
import Scripting.Proofs.Moments
import Scripting.Proofs.ControlScope
import Scripting.Proofs.IntegerArithmetic
import Scripting.Proofs.ReaderProgress
import Scripting.Proofs.StrandedOperands
import Scripting.Proofs.SignedOperands
import Scripting.Proofs.OmittedOperands
import Scripting.Proofs.Placement
import Scripting.Proofs.ComparedLists
import Scripting.Proofs.PlacedOperations
import Scripting.Proofs.PlacedActions
import Scripting.Proofs.PlacedForms
import Scripting.Proofs.ModuleIsolation
import Scripting.Proofs.BoundedLoops
import Scripting.Proofs.FoundedHeaps
import Scripting.Proofs.HaltingActions
import Scripting.Proofs.HaltingForms
import Scripting.Proofs.Termination
import Scripting.Proofs.OrderlyReaders
import Scripting.Proofs.BalancedReaders
import Scripting.Proofs.ParserProgress
import Scripting.Proofs.ScanOutcomes
import Scripting.Proofs.LiteralGaps
import Scripting.Proofs.LineSeams
import Scripting.Proofs.JoinedTexts
import Scripting.Proofs.LiteralMerging
import Scripting.Proofs.PlainData
import Scripting.Proofs.DataTokens
import Scripting.Proofs.ReadBack
import Scripting.Proofs.Spellings
import Scripting.Proofs.Tracebacks
import Scripting.Proofs.SpanLayout
import Scripting.Proofs.SpannedReaders
import Scripting.Proofs.SpanDiscipline
import Scripting.Proofs.AvoidedNames
import Scripting.Proofs.ValueSources
import Scripting.Proofs.TameHeaps
import Scripting.Proofs.LastingActions
import Scripting.Proofs.Dialogues
import Scripting.Proofs.GentleForms
import Scripting.Proofs.NewLists
import Scripting.Proofs.LastingLists
import Scripting.Proofs.PowersOfTen
import Scripting.Proofs.IntegerRounding
import Scripting.Proofs.SortedLists
import Scripting.Proofs.EnoughFuel
import Scripting.Proofs.FixedCourses
import Scripting.Proofs.CutTokens
import Scripting.Proofs.MisreadBrackets
import Scripting.Proofs.CutReaders
import Scripting.Proofs.BlockReports
import Scripting.Proofs.CutBodies
import Scripting.Proofs.CutExpressions
import Scripting.Proofs.UnclosedBlocks
import Scripting.Proofs.TableHistories
import Scripting.Proofs.Inheritance
import Scripting.Proofs.ListPositions
import Scripting.Proofs.LineFiles
import Scripting.Proofs.IntegerLiterals
import Scripting.Proofs.EscapedTexts
import Scripting.Proofs.LeastEdits
import Scripting.Proofs.BracketChecks
import Scripting.Proofs.ClosestNames
import Scripting.Proofs.RepeatedLines
import Scripting.Proofs.UnderlinedSpans
import Scripting.Proofs.StructuralEquality
import Scripting.Proofs.NestedComments
import Scripting.Proofs.ArgumentSlots
import Scripting.Proofs.DialogueSwitches
