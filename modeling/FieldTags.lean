import FieldTags.Button.Permission
import FieldTags.Button.Visibility
import FieldTags.Check.Finding
import FieldTags.Check.Lint
import FieldTags.Check.Validation
import FieldTags.Command.Arguments
import FieldTags.Command.Error
import FieldTags.Command.Line
import FieldTags.Command.Report
import FieldTags.Command.Run
import FieldTags.Command.Sources
import FieldTags.Config.Assembly
import FieldTags.Config.Attribute
import FieldTags.Config.Button
import FieldTags.Config.Field
import FieldTags.Config.Model
import FieldTags.Config.View
import FieldTags.Display.Calendar
import FieldTags.Display.Cell
import FieldTags.Display.DateText
import FieldTags.Display.Format
import FieldTags.Display.Settings
import FieldTags.Display.Table
import FieldTags.Display.Value
import FieldTags.Expression.Error
import FieldTags.Expression.Evaluation
import FieldTags.Expression.Lexer
import FieldTags.Expression.Parser
import FieldTags.Expression.Template
import FieldTags.Expression.Token
import FieldTags.Expression.Tree
import FieldTags.Expression.Value
import FieldTags.Host
import FieldTags.Json.Basic
import FieldTags.Json.Coercion
import FieldTags.Json.Document
import FieldTags.Json.Printer
import FieldTags.Json.Reader
import FieldTags.Json.Record
import FieldTags.Json.Token
import FieldTags.Main
import FieldTags.Note
import FieldTags.Number.Binary64
import FieldTags.Number.Decimal
import FieldTags.Number.Layout
import FieldTags.Number.Literal
import FieldTags.Number.Power
import FieldTags.OrderedMap
import FieldTags.Project.Config
import FieldTags.Project.Glob
import FieldTags.Project.Location
import FieldTags.Project.Path
import FieldTags.Project.Pattern
import FieldTags.Project.TagFile
import FieldTags.Project.Workspace
import FieldTags.Proofs.Button.Visibility
import FieldTags.Proofs.Check.Conditions
import FieldTags.Proofs.Check.Lint
import FieldTags.Proofs.Check.Problems
import FieldTags.Proofs.Check.RepeatedLabels
import FieldTags.Proofs.Check.Templates
import FieldTags.Proofs.Check.UndeclaredButtons
import FieldTags.Proofs.Config.Assembly
import FieldTags.Proofs.Config.FieldOrder
import FieldTags.Proofs.Config.JsonForm
import FieldTags.Proofs.Config.Keys
import FieldTags.Proofs.Config.Numbers
import FieldTags.Proofs.Config.PassedValues
import FieldTags.Proofs.Config.TextAttributes
import FieldTags.Proofs.Config.UsableNumbers
import FieldTags.Proofs.Display.BlankCells
import FieldTags.Proofs.Display.Calendar
import FieldTags.Proofs.Display.CalendarDays
import FieldTags.Proofs.Display.DatePatterns
import FieldTags.Proofs.Display.EpochUnits
import FieldTags.Proofs.Display.Formatting
import FieldTags.Proofs.Display.Numerals
import FieldTags.Proofs.Display.RelatedItems
import FieldTags.Proofs.Display.RenderedTimes
import FieldTags.Proofs.Display.Tables
import FieldTags.Proofs.Display.Thousands
import FieldTags.Proofs.Expression.ArrayNumbers
import FieldTags.Proofs.Expression.Balance
import FieldTags.Proofs.Expression.Completeness
import FieldTags.Proofs.Expression.Condition
import FieldTags.Proofs.Expression.Contract
import FieldTags.Proofs.Expression.Delimiters
import FieldTags.Proofs.Expression.Depth
import FieldTags.Proofs.Expression.Equality
import FieldTags.Proofs.Expression.Grammar
import FieldTags.Proofs.Expression.Indexing
import FieldTags.Proofs.Expression.Kinds
import FieldTags.Proofs.Expression.LargerScope
import FieldTags.Proofs.Expression.Levels
import FieldTags.Proofs.Expression.MemberChains
import FieldTags.Proofs.Expression.Operands
import FieldTags.Proofs.Expression.Paths
import FieldTags.Proofs.Expression.Recognition
import FieldTags.Proofs.Expression.Rendering
import FieldTags.Proofs.Expression.Sandbox
import FieldTags.Proofs.Expression.Soundness
import FieldTags.Proofs.Expression.Spacing
import FieldTags.Proofs.Expression.Traces
import FieldTags.Proofs.Expression.Truth
import FieldTags.Proofs.Json.Canonical
import FieldTags.Proofs.Json.DisplayText
import FieldTags.Proofs.Json.DistinctKeys
import FieldTags.Proofs.Json.Lexing
import FieldTags.Proofs.Json.NumberText
import FieldTags.Proofs.Json.Reading
import FieldTags.Proofs.Json.RecordFields
import FieldTags.Proofs.Json.Records
import FieldTags.Proofs.Json.Sorting
import FieldTags.Proofs.Number.DecimalLiteral
import FieldTags.Proofs.Number.Integers
import FieldTags.Proofs.Number.LiteralCharacters
import FieldTags.Proofs.Number.LiteralGrammar
import FieldTags.Proofs.Number.Nearest
import FieldTags.Proofs.Number.Order
import FieldTags.Proofs.Number.PlainText
import FieldTags.Proofs.Number.Rounding
import FieldTags.Proofs.Number.ShortestDecimal
import FieldTags.Proofs.Number.WholeNumberText
import FieldTags.Proofs.OrderedMap
import FieldTags.Proofs.Project.TagFile
import FieldTags.Proofs.Service.ConfigCache
import FieldTags.Proofs.Service.EnvelopeOutcomes
import FieldTags.Proofs.Service.PermissionCache
import FieldTags.Proofs.Service.Sequence
import FieldTags.Proofs.Tag.Joining
import FieldTags.Proofs.Tag.PackedMap
import FieldTags.Proofs.Tag.Rereading
import FieldTags.Proofs.Tag.RoundTrip
import FieldTags.Proofs.Tag.Splitting
import FieldTags.Proofs.Text.Lowercase
import FieldTags.Proofs.Text.Splitting
import FieldTags.Proofs.Text.Trimming
import FieldTags.Service.Envelope
import FieldTags.Service.Exchange
import FieldTags.Service.Message
import FieldTags.Service.Request
import FieldTags.Service.Store
import FieldTags.Tag.Item
import FieldTags.Tag.Packed
import FieldTags.Tag.Value
import FieldTags.Text.Blank
import FieldTags.Text.Digits
import FieldTags.Text.Letter
import FieldTags.Text.Lowercase
import FieldTags.Text.Quoted
import FieldTags.Text.Split
import FieldTags.Vocabulary
import FieldTags.Yaml.Block
import FieldTags.Yaml.Cursor
import FieldTags.Yaml.Flow
import FieldTags.Yaml.Node
import FieldTags.Yaml.Parser
import FieldTags.Yaml.Property
import FieldTags.Yaml.Scanner
import FieldTags.Yaml.Token
import FieldTags.Yaml.Value
