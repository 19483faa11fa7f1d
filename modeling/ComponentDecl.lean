import ComponentDecl.Command
import ComponentDecl.Command.Request
import ComponentDecl.Component
import ComponentDecl.Config
import ComponentDecl.Declaration
import ComponentDecl.Doc
import ComponentDecl.Files.Folder
import ComponentDecl.Files.Memory
import ComponentDecl.Files.Path
import ComponentDecl.Inference
import ComponentDecl.JsonValue
import ComponentDecl.Lexeme.Character
import ComponentDecl.Lexeme.Markup
import ComponentDecl.Lexeme.Number
import ComponentDecl.Lexeme.Operator
import ComponentDecl.Lexeme.Piece
import ComponentDecl.Lexeme.Quoted
import ComponentDecl.Lexeme.Semicolon
import ComponentDecl.Lexeme.Trivia
import ComponentDecl.Lexeme.Word
import ComponentDecl.Main
import ComponentDecl.Module
import ComponentDecl.Notice
import ComponentDecl.Parse.Basic
import ComponentDecl.Parse.Chunk
import ComponentDecl.Parse.Class
import ComponentDecl.Parse.Cover
import ComponentDecl.Parse.Expression
import ComponentDecl.Parse.Flaw
import ComponentDecl.Parse.Function
import ComponentDecl.Parse.Grammar
import ComponentDecl.Parse.Markup
import ComponentDecl.Parse.Module
import ComponentDecl.Parse.Pattern
import ComponentDecl.Parse.Probe
import ComponentDecl.Parse.Repair
import ComponentDecl.Parse.Statement
import ComponentDecl.Proofs.Act
import ComponentDecl.Proofs.Command
import ComponentDecl.Proofs.Comment
import ComponentDecl.Proofs.Component
import ComponentDecl.Proofs.Configuration
import ComponentDecl.Proofs.Depth
import ComponentDecl.Proofs.Entries
import ComponentDecl.Proofs.Exported
import ComponentDecl.Proofs.Files.Memory
import ComponentDecl.Proofs.Files.Spelling
import ComponentDecl.Proofs.Identifier
import ComponentDecl.Proofs.Indentation
import ComponentDecl.Proofs.Inference
import ComponentDecl.Proofs.Json.Number
import ComponentDecl.Proofs.Json.Reader
import ComponentDecl.Proofs.Json.String
import ComponentDecl.Proofs.Label
import ComponentDecl.Proofs.Lexeme
import ComponentDecl.Proofs.Locality
import ComponentDecl.Proofs.Mistake
import ComponentDecl.Proofs.Navigation
import ComponentDecl.Proofs.Parse.Basic
import ComponentDecl.Proofs.Parse.Class
import ComponentDecl.Proofs.Parse.Cover
import ComponentDecl.Proofs.Parse.ElementEnd
import ComponentDecl.Proofs.Parse.Expression
import ComponentDecl.Proofs.Parse.Grammar
import ComponentDecl.Proofs.Parse.Module
import ComponentDecl.Proofs.Parse.Sound
import ComponentDecl.Proofs.Parse.Statement
import ComponentDecl.Proofs.Parse.Takes.Basic
import ComponentDecl.Proofs.Parse.Takes.Class
import ComponentDecl.Proofs.Parse.Takes.Expression
import ComponentDecl.Proofs.Parse.Takes.Grammar
import ComponentDecl.Proofs.Parse.Takes.Module
import ComponentDecl.Proofs.Parse.Takes.Statement
import ComponentDecl.Proofs.Position
import ComponentDecl.Proofs.Preorder
import ComponentDecl.Proofs.PropertyName
import ComponentDecl.Proofs.Quoted
import ComponentDecl.Proofs.QuotedKey
import ComponentDecl.Proofs.Reader
import ComponentDecl.Proofs.Reindent
import ComponentDecl.Proofs.Rendering
import ComponentDecl.Proofs.Selection
import ComponentDecl.Proofs.StaticField
import ComponentDecl.Proofs.Structure
import ComponentDecl.Proofs.Table
import ComponentDecl.Proofs.Taken
import ComponentDecl.Proofs.Unicode
import ComponentDecl.Proofs.View
import ComponentDecl.Proofs.Walk
import ComponentDecl.Proofs.Writing
import ComponentDecl.Props
import ComponentDecl.Report
import ComponentDecl.Step
import ComponentDecl.Syntax.Cursor
import ComponentDecl.Syntax.Kind
import ComponentDecl.Syntax.Span
import ComponentDecl.Syntax.Tree
import ComponentDecl.Text
import ComponentDecl.Text.Blank
import ComponentDecl.Text.Letter
import ComponentDecl.Text.Quoted
import ComponentDecl.Text.Ranges
import ComponentDecl.Text.Width
import ComponentDecl.Validator
import ComponentDecl.Walk
import ComponentDecl.Writer
