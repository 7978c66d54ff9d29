import TypedVocabulary.Classes.BaseClass
import TypedVocabulary.Classes.Compile
import TypedVocabulary.Classes.Definition
import TypedVocabulary.Classes.Example
import TypedVocabulary.Classes.Resolution
import TypedVocabulary.Classes.SourceText
import TypedVocabulary.Classes.TypeExpr
import TypedVocabulary.Command.Flag
import TypedVocabulary.Command.Options
import TypedVocabulary.Command.Run
import TypedVocabulary.Command.Session
import TypedVocabulary.Command.Usage
import TypedVocabulary.Console.ColorNames
import TypedVocabulary.Console.Emoji
import TypedVocabulary.Console.EmojiCodes
import TypedVocabulary.Console.Handler
import TypedVocabulary.Console.Line
import TypedVocabulary.Console.Markup
import TypedVocabulary.Console.Style
import TypedVocabulary.Console.Table
import TypedVocabulary.Console.Wrap
import TypedVocabulary.Failure
import TypedVocabulary.Generation.Backend
import TypedVocabulary.Generation.DotNet
import TypedVocabulary.Generation.Languages
import TypedVocabulary.Generation.Registry
import TypedVocabulary.Generation.Run
import TypedVocabulary.Json.Basic
import TypedVocabulary.Json.Literal
import TypedVocabulary.Json.Membership
import TypedVocabulary.Json.Reader
import TypedVocabulary.Json.Table
import TypedVocabulary.Json.Writer
import TypedVocabulary.KeyedList
import TypedVocabulary.Log
import TypedVocabulary.Main
import TypedVocabulary.Naming.Case
import TypedVocabulary.Naming.Sanitizer
import TypedVocabulary.Number.Binary64
import TypedVocabulary.Number.Shortest
import TypedVocabulary.Proofs.Classes.AgreeingTables
import TypedVocabulary.Proofs.Classes.ClassText
import TypedVocabulary.Proofs.Classes.CompilationFaults
import TypedVocabulary.Proofs.Classes.CompiledClass
import TypedVocabulary.Proofs.Classes.ConverterRule
import TypedVocabulary.Proofs.Classes.Documentation
import TypedVocabulary.Proofs.Classes.EnumMembers
import TypedVocabulary.Proofs.Classes.ExtendedTables
import TypedVocabulary.Proofs.Classes.ListReference
import TypedVocabulary.Proofs.Classes.MarkedFields
import TypedVocabulary.Proofs.Classes.Notices
import TypedVocabulary.Proofs.Classes.NumberedProperties
import TypedVocabulary.Proofs.Classes.PlainProperties
import TypedVocabulary.Proofs.Classes.PropertyNames
import TypedVocabulary.Proofs.Classes.ResolvedReference
import TypedVocabulary.Proofs.Classes.SampleBlock
import TypedVocabulary.Proofs.Classes.SampleText
import TypedVocabulary.Proofs.Classes.Spelling
import TypedVocabulary.Proofs.Classes.TellableFaults
import TypedVocabulary.Proofs.Classes.TypeShape
import TypedVocabulary.Proofs.Classes.WireNames
import TypedVocabulary.Proofs.Classes.WordedType
import TypedVocabulary.Proofs.Command.AllOrNothing
import TypedVocabulary.Proofs.Command.Steps
import TypedVocabulary.Proofs.Command.StoredFiles
import TypedVocabulary.Proofs.Command.WrittenFiles
import TypedVocabulary.Proofs.Generation.DeclarationOrder
import TypedVocabulary.Proofs.Generation.DocumentationSettings
import TypedVocabulary.Proofs.Generation.EntryPoints
import TypedVocabulary.Proofs.Generation.FileCount
import TypedVocabulary.Proofs.Generation.Files
import TypedVocabulary.Proofs.Generation.IsolatedModels
import TypedVocabulary.Proofs.Generation.LocalReferences
import TypedVocabulary.Proofs.Generation.OutputPaths
import TypedVocabulary.Proofs.Generation.Results
import TypedVocabulary.Proofs.Generation.RunBoundary
import TypedVocabulary.Proofs.Generation.Validation
import TypedVocabulary.Proofs.Generation.Warnings
import TypedVocabulary.Proofs.Json.Equality
import TypedVocabulary.Proofs.Json.Limits
import TypedVocabulary.Proofs.Json.Members
import TypedVocabulary.Proofs.Json.WrittenLines
import TypedVocabulary.Proofs.Json.WrittenNumber
import TypedVocabulary.Proofs.Json.WrittenValue
import TypedVocabulary.Proofs.KeyedList
import TypedVocabulary.Proofs.Naming.Candidates
import TypedVocabulary.Proofs.Naming.ConvertedName
import TypedVocabulary.Proofs.Naming.FirstFreeNumber
import TypedVocabulary.Proofs.Naming.History
import TypedVocabulary.Proofs.Naming.KeywordTokens
import TypedVocabulary.Proofs.Naming.NumberedName
import TypedVocabulary.Proofs.Naming.PossibleAnswers
import TypedVocabulary.Proofs.Naming.ReservedWords
import TypedVocabulary.Proofs.Naming.Sanitizer
import TypedVocabulary.Proofs.Naming.Words
import TypedVocabulary.Proofs.Number.Rounding
import TypedVocabulary.Proofs.Number.ShortestDigits
import TypedVocabulary.Proofs.Outcomes
import TypedVocabulary.Proofs.Registry.Commutation
import TypedVocabulary.Proofs.Registry.Consistency
import TypedVocabulary.Proofs.Registry.Edits
import TypedVocabulary.Proofs.Registry.Lookup
import TypedVocabulary.Proofs.Requirements
import TypedVocabulary.Proofs.Schema.DeclarationOrder
import TypedVocabulary.Proofs.Schema.ExtendedSchema
import TypedVocabulary.Proofs.Schema.ExternalEnums
import TypedVocabulary.Proofs.Schema.ListForm
import TypedVocabulary.Proofs.Schema.Lookup
import TypedVocabulary.Proofs.Schema.ReportedFaults
import TypedVocabulary.Proofs.Settings.Layers
import TypedVocabulary.Proofs.Settings.Reload
import TypedVocabulary.Proofs.Settings.Typed
import TypedVocabulary.Proofs.Text.LastCut
import TypedVocabulary.Proofs.Text.Lines
import TypedVocabulary.Proofs.Text.Markup
import TypedVocabulary.Proofs.Text.NormalForm
import TypedVocabulary.Proofs.Text.Order
import TypedVocabulary.Proofs.Text.QuotedText
import TypedVocabulary.Proofs.Text.StringLiteral
import TypedVocabulary.Proofs.Vocabulary.CanonicalKey
import TypedVocabulary.Proofs.Vocabulary.CompactKey
import TypedVocabulary.Proofs.Vocabulary.Expansion
import TypedVocabulary.Proofs.Vocabulary.LastSegment
import TypedVocabulary.Proofs.Vocabulary.Misuse
import TypedVocabulary.Proofs.Vocabulary.ShortName
import TypedVocabulary.Proofs.Vocabulary.WrittenReference
import TypedVocabulary.Schema.Basic
import TypedVocabulary.Schema.Document
import TypedVocabulary.Schema.Lookup
import TypedVocabulary.Settings.Basic
import TypedVocabulary.Settings.Sources
import TypedVocabulary.Settings.Warnings
import TypedVocabulary.Source.FileTree
import TypedVocabulary.Source.Load
import TypedVocabulary.Source.Url
import TypedVocabulary.Template
import TypedVocabulary.Text.Digit
import TypedVocabulary.Text.Encoding
import TypedVocabulary.Text.Identifier
import TypedVocabulary.Text.Layout
import TypedVocabulary.Text.Lowercase
import TypedVocabulary.Text.Order
import TypedVocabulary.Text.Printable
import TypedVocabulary.Text.Range
import TypedVocabulary.Text.Slice
import TypedVocabulary.Text.Width
import TypedVocabulary.Text.Word
import TypedVocabulary.Vocabulary.Namespaces
import TypedVocabulary.Vocabulary.Reference
