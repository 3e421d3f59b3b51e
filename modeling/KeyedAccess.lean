import KeyedAccess.Access.Compiled
import KeyedAccess.Access.Key
import KeyedAccess.Access.Store
import KeyedAccess.Clause
import KeyedAccess.Console.Argument
import KeyedAccess.Console.Command
import KeyedAccess.Console.Listing
import KeyedAccess.Console.OptionSpec
import KeyedAccess.Console.Session
import KeyedAccess.Console.Usage
import KeyedAccess.Decimal.Shortest
import KeyedAccess.Declaration
import KeyedAccess.Descriptor
import KeyedAccess.Files.Path
import KeyedAccess.Files.Tree
import KeyedAccess.Generation
import KeyedAccess.Main
import KeyedAccess.Proofs.Access.Acceptance
import KeyedAccess.Proofs.Access.Companion
import KeyedAccess.Proofs.Access.Compiling
import KeyedAccess.Proofs.Access.Declared
import KeyedAccess.Proofs.Access.Isolation
import KeyedAccess.Proofs.Access.Keys
import KeyedAccess.Proofs.Access.Order
import KeyedAccess.Proofs.Access.Refinement
import KeyedAccess.Proofs.Clashes
import KeyedAccess.Proofs.Computation
import KeyedAccess.Proofs.Console.Decoding
import KeyedAccess.Proofs.Console.Describing
import KeyedAccess.Proofs.Console.Generating
import KeyedAccess.Proofs.Duplicates
import KeyedAccess.Proofs.Files.Tree
import KeyedAccess.Proofs.Generation
import KeyedAccess.Proofs.Joining
import KeyedAccess.Proofs.Pool
import KeyedAccess.Proofs.Schema.Admission
import KeyedAccess.Proofs.Schema.Composition
import KeyedAccess.Proofs.Schema.Concatenation
import KeyedAccess.Proofs.Schema.Derivation
import KeyedAccess.Proofs.Schema.Faults
import KeyedAccess.Proofs.Schema.GluedWords
import KeyedAccess.Proofs.Schema.Grammar
import KeyedAccess.Proofs.Schema.History
import KeyedAccess.Proofs.Schema.Layout
import KeyedAccess.Proofs.Schema.Meaning
import KeyedAccess.Proofs.Schema.Modifiers
import KeyedAccess.Proofs.Schema.Moves
import KeyedAccess.Proofs.Schema.Names
import KeyedAccess.Proofs.Schema.Outcome
import KeyedAccess.Proofs.Schema.Outline
import KeyedAccess.Proofs.Schema.Parsing
import KeyedAccess.Proofs.Schema.Parts
import KeyedAccess.Proofs.Schema.Reading
import KeyedAccess.Proofs.Schema.Refusals
import KeyedAccess.Proofs.Schema.Rewriting
import KeyedAccess.Proofs.Schema.Scanning
import KeyedAccess.Proofs.Schema.Soundness
import KeyedAccess.Proofs.Schema.SyntaxTree
import KeyedAccess.Proofs.Schema.Tight
import KeyedAccess.Proofs.Schema.TypePlaces
import KeyedAccess.Proofs.Schema.TypeText
import KeyedAccess.Proofs.Schema.Viability
import KeyedAccess.Proofs.Schema.Written
import KeyedAccess.Proofs.Script.Bindings
import KeyedAccess.Proofs.Script.Contributions
import KeyedAccess.Proofs.Script.Forward
import KeyedAccess.Proofs.Script.Literal
import KeyedAccess.Proofs.Script.Members
import KeyedAccess.Proofs.Script.Names
import KeyedAccess.Proofs.Script.Places
import KeyedAccess.Proofs.Script.PublicKeys
import KeyedAccess.Proofs.Script.Reading
import KeyedAccess.Proofs.Script.Refusing
import KeyedAccess.Proofs.Script.Registry
import KeyedAccess.Proofs.Script.Slots
import KeyedAccess.Proofs.Script.SourceOrder
import KeyedAccess.Proofs.Script.Written
import KeyedAccess.Proofs.Target.Clause
import KeyedAccess.Proofs.Target.CompanionRows
import KeyedAccess.Proofs.Target.CompanionTree
import KeyedAccess.Proofs.Target.MixinReserved
import KeyedAccess.Proofs.Target.MixinRows
import KeyedAccess.Proofs.Target.MixinText
import KeyedAccess.Proofs.Target.MixinTree
import KeyedAccess.Proofs.Target.Rows
import KeyedAccess.Proofs.Text.FileName
import KeyedAccess.Proofs.Text.Identifier
import KeyedAccess.Proofs.Text.Indentation
import KeyedAccess.Proofs.Text.Line
import KeyedAccess.Proofs.Text.Lowercase
import KeyedAccess.Proofs.Text.Normal
import KeyedAccess.Proofs.Text.SnakeCase
import KeyedAccess.Proofs.Text.Tables
import KeyedAccess.Schema.Lexeme
import KeyedAccess.Schema.Meaning
import KeyedAccess.Schema.Parse
import KeyedAccess.Schema.Reader
import KeyedAccess.Schema.Token
import KeyedAccess.Schema.Tree
import KeyedAccess.Script.Expression
import KeyedAccess.Script.Format
import KeyedAccess.Script.Lexeme
import KeyedAccess.Script.Literal
import KeyedAccess.Script.Meaning
import KeyedAccess.Script.Number
import KeyedAccess.Script.Parse
import KeyedAccess.Script.Pattern
import KeyedAccess.Script.Printer
import KeyedAccess.Script.Quotes
import KeyedAccess.Script.Reader
import KeyedAccess.Script.Statement
import KeyedAccess.Script.Token
import KeyedAccess.Script.Tree
import KeyedAccess.Target.Companion
import KeyedAccess.Target.Language
import KeyedAccess.Target.Mixin
import KeyedAccess.Target.Support
import KeyedAccess.Text.CaseTable
import KeyedAccess.Text.CharName
import KeyedAccess.Text.CharSet
import KeyedAccess.Text.CompatibilityTable
import KeyedAccess.Text.Digit
import KeyedAccess.Text.Identifier
import KeyedAccess.Text.IdentifierTable
import KeyedAccess.Text.Line
import KeyedAccess.Text.Lowercase
import KeyedAccess.Text.NameTable.Aliases
import KeyedAccess.Text.NameTable.Alphabets
import KeyedAccess.Text.NameTable.Ancient
import KeyedAccess.Text.NameTable.EastAsian
import KeyedAccess.Text.NameTable.Symbols
import KeyedAccess.Text.Normal
import KeyedAccess.Text.PrintableTable
import KeyedAccess.Text.Quoted
import KeyedAccess.Text.Similar
import KeyedAccess.Text.SnakeCase
import KeyedAccess.Text.Width
import KeyedAccess.Text.WidthTable
