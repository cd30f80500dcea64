import StreamMask.Binary64.Basic
import StreamMask.Binary64.Layout
import StreamMask.Binary64.Reading
import StreamMask.Binary64.Shortest
import StreamMask.Command
import StreamMask.Command.Arguments
import StreamMask.Command.Remark
import StreamMask.Config
import StreamMask.Config.File
import StreamMask.Config.Json
import StreamMask.Config.Toml
import StreamMask.Event
import StreamMask.ExitCode
import StreamMask.Failure
import StreamMask.Folder
import StreamMask.IoFault
import StreamMask.Json.Datum
import StreamMask.Json.Fault
import StreamMask.Json.Mask
import StreamMask.Json.Node
import StreamMask.Json.Number
import StreamMask.Json.Quoted
import StreamMask.Json.Reading
import StreamMask.Json.Replay
import StreamMask.Json.Shape
import StreamMask.Json.Slices
import StreamMask.Json.Writer
import StreamMask.Lines
import StreamMask.Log.Fields
import StreamMask.Log.Filter
import StreamMask.Log.Journal
import StreamMask.Log.Line
import StreamMask.Log.Notice
import StreamMask.Log.Settings
import StreamMask.Main
import StreamMask.Masker.Field
import StreamMask.Masker.Rules
import StreamMask.Masker.Set
import StreamMask.Masker.Value
import StreamMask.Masking
import StreamMask.Output
import StreamMask.Path.Escape
import StreamMask.Path.Pattern
import StreamMask.Position
import StreamMask.Power
import StreamMask.Regex
import StreamMask.Regex.CharClass
import StreamMask.Regex.ClassNotation
import StreamMask.Regex.Expr
import StreamMask.Regex.Notation
import StreamMask.Regex.Pattern
import StreamMask.Regex.Program
import StreamMask.Regex.Search
import StreamMask.Regex.Size
import StreamMask.Regex.Template
import StreamMask.Scalar
import StreamMask.Sink
import StreamMask.Text.Base64
import StreamMask.Text.Blank
import StreamMask.Text.Digits
import StreamMask.Text.Quoted
import StreamMask.Text.Utf8
import StreamMask.Toml.Document
import StreamMask.Toml.Lexical
import StreamMask.Toml.Table
import StreamMask.Unicode.Age
import StreamMask.Unicode.Boundary
import StreamMask.Unicode.CaseFold
import StreamMask.Unicode.Category
import StreamMask.Unicode.CodeSet
import StreamMask.Unicode.Property
import StreamMask.Unicode.Recent
import StreamMask.Unicode.Script
import StreamMask.Proofs.SinkFacts
import StreamMask.Proofs.PositionFacts
import StreamMask.Proofs.InStep
import StreamMask.Proofs.MaskingFacts
import StreamMask.Proofs.TreeMasking
import StreamMask.Proofs.Nesting
import StreamMask.Proofs.Noninterference
import StreamMask.Proofs.UnfailingMaskers
import StreamMask.Proofs.AskedMaskers
import StreamMask.Proofs.EmittedPosition
import StreamMask.Proofs.DepthFacts
import StreamMask.Proofs.FailedEvents
import StreamMask.Proofs.EventGrammar
import StreamMask.Proofs.FieldPlans
import StreamMask.Proofs.NamePrecedence
import StreamMask.Proofs.StackedStreams
import StreamMask.Proofs.SelectedFields
import StreamMask.Proofs.WithheldScalars
import StreamMask.Proofs.DigitFacts
import StreamMask.Proofs.RoundingFacts
import StreamMask.Proofs.ShortestFacts
import StreamMask.Proofs.LayoutFacts
import StreamMask.Proofs.GrammarFacts
import StreamMask.Proofs.ScriptFacts
import StreamMask.Proofs.PrintingFacts
import StreamMask.Proofs.AcceptingFacts
import StreamMask.Proofs.MaskedText
import StreamMask.Proofs.ShownTrees
import StreamMask.Proofs.RepeatedMasking
import StreamMask.Proofs.SuccessiveDocuments
import StreamMask.Proofs.Utf8Facts
import StreamMask.Proofs.OctetFacts
import StreamMask.Proofs.ByteSources
import StreamMask.Proofs.Producers
import StreamMask.Proofs.LineSplitting
import StreamMask.Proofs.MaskedLines
import StreamMask.Proofs.PlaceOfEvents
import StreamMask.Proofs.LogLines
import StreamMask.Proofs.JournalLines
import StreamMask.Proofs.ShapeFacts
import StreamMask.Proofs.FolderFacts
import StreamMask.Proofs.SavedConfigs
import StreamMask.Proofs.TokenFacts
import StreamMask.Proofs.PathNotation
import StreamMask.Proofs.ReachedPositions
import StreamMask.Proofs.PathSelection
import StreamMask.Proofs.PointerPaths
import StreamMask.Proofs.MaskArguments
import StreamMask.Proofs.CommandRules
import StreamMask.Proofs.MaskReports
import StreamMask.Proofs.EscapedNames
import StreamMask.Proofs.ShownScalars
import StreamMask.Proofs.WrittenNumbers
import StreamMask.Proofs.InspectedNumbers
import StreamMask.Proofs.SlicedTexts
import StreamMask.Proofs.ReplayedTexts
import StreamMask.Json.Visit
import StreamMask.Proofs.LimitedOutputs
import StreamMask.Proofs.ListedFields
import StreamMask.Proofs.RefusedEvents
import StreamMask.Proofs.WrittenDocuments
import StreamMask.Proofs.JoinedNames
import StreamMask.Proofs.Repetitions
import StreamMask.Proofs.GatheredNames
import StreamMask.Proofs.BuiltSets
import StreamMask.Proofs.SpanFields
