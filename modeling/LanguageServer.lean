import LanguageServer.Cli.Arguments
import LanguageServer.Cli.Command
import LanguageServer.Cli.FileError
import LanguageServer.Decimal.Binary64
import LanguageServer.Decimal.Integer
import LanguageServer.Decimal.Shortest
import LanguageServer.Document.Block
import LanguageServer.Document.Declaration
import LanguageServer.Document.Position
import LanguageServer.Document.Store
import LanguageServer.Document.Sync
import LanguageServer.Document.Uri
import LanguageServer.Document.Word
import LanguageServer.Feature.CallHierarchy
import LanguageServer.Feature.CodeAction
import LanguageServer.Feature.CodeLens
import LanguageServer.Feature.Completion
import LanguageServer.Feature.Diagnostic
import LanguageServer.Feature.Folding
import LanguageServer.Feature.Hover
import LanguageServer.Feature.Indentation
import LanguageServer.Feature.InlayHint
import LanguageServer.Feature.LinkedEditing
import LanguageServer.Feature.Reference
import LanguageServer.Feature.Selection
import LanguageServer.Feature.SemanticToken
import LanguageServer.Feature.Signature
import LanguageServer.Feature.Symbol
import LanguageServer.Feature.Trimming
import LanguageServer.Frame.Basic
import LanguageServer.Frame.Reader
import LanguageServer.Json.Basic
import LanguageServer.Json.Printer
import LanguageServer.Json.Reader
import LanguageServer.Json.Token
import LanguageServer.Main
import LanguageServer.OrderedMap
import LanguageServer.Rpc.Dispatcher
import LanguageServer.Rpc.Failure
import LanguageServer.Rpc.Loop
import LanguageServer.Rpc.Message
import LanguageServer.Rpc.Packet
import LanguageServer.Rpc.Reply
import LanguageServer.Server.Basic
import LanguageServer.Server.FeatureRequest
import LanguageServer.Server.Session
import LanguageServer.Server.Settings
import LanguageServer.Text.Blank
import LanguageServer.Text.Case
import LanguageServer.Text.CharTable
import LanguageServer.Text.CodePoint
import LanguageServer.Text.Letter
import LanguageServer.Text.Lines
import LanguageServer.Text.Numeral
import LanguageServer.Text.Printable
import LanguageServer.Text.Quoted
import LanguageServer.Text.Search
import LanguageServer.Text.Utf8
import LanguageServer.Wire.Kind
import LanguageServer.Wire.Object
import LanguageServer.Proofs.Utf8
import LanguageServer.Proofs.Numeral
import LanguageServer.Proofs.HeaderBlock
import LanguageServer.Proofs.Dispatch
import LanguageServer.Proofs.Framing
import LanguageServer.Proofs.Conversation
import LanguageServer.Proofs.Publishing
import LanguageServer.Proofs.ReadLimit
import LanguageServer.Proofs.Serving
import LanguageServer.Proofs.DocumentEdit
import LanguageServer.Proofs.Lifecycle
import LanguageServer.Proofs.JsonToken
import LanguageServer.Proofs.JsonText
import LanguageServer.Proofs.Sendable
import LanguageServer.Proofs.BuiltMessage
import LanguageServer.Proofs.SessionStream
import LanguageServer.Proofs.RequestGate
import LanguageServer.Proofs.RequiredParameter
import LanguageServer.Proofs.SendableAnswer
import LanguageServer.Proofs.Column
import LanguageServer.Proofs.Place
import LanguageServer.Proofs.BlockPlace
import LanguageServer.Proofs.PlacesInside
import LanguageServer.Proofs.SelectionChain
import LanguageServer.Proofs.SelectionBlock
import LanguageServer.Proofs.CallBracket
import LanguageServer.Proofs.Blank
import LanguageServer.Proofs.Lines
import LanguageServer.Proofs.Reindent
import LanguageServer.Proofs.ByNumber.Basic
import LanguageServer.Proofs.ByNumber.Word
import LanguageServer.Proofs.ByNumber.Token
import LanguageServer.Proofs.ByNumber.Block
import LanguageServer.Proofs.ByNumber.Selection
import LanguageServer.Proofs.ByNumber.Answer
import LanguageServer.Proofs.FeatureAnswer
import LanguageServer.Proofs.StrictHeader
import LanguageServer.Proofs.LineBreak
import LanguageServer.Proofs.Formatting
import LanguageServer.Proofs.LowerCase
import LanguageServer.Proofs.SymbolSearch
import LanguageServer.Proofs.OpenBlock
import LanguageServer.Proofs.IndentLevel
import LanguageServer.Proofs.SecondPass
import LanguageServer.Proofs.EnclosingFunction
import LanguageServer.Proofs.IncomingCall
import LanguageServer.Proofs.BlockMatching
import LanguageServer.Proofs.Lexing
import LanguageServer.Proofs.TokenData
import LanguageServer.Proofs.TokenMeaning
import LanguageServer.Proofs.WordRun
import LanguageServer.Proofs.LinkedOccurrence
import LanguageServer.Proofs.LineEdit
import LanguageServer.Proofs.TrimmedLine
import LanguageServer.Proofs.EditedWord
import LanguageServer.Proofs.ByDocument
import LanguageServer.Proofs.DeclaredFunction
import LanguageServer.Proofs.LastLength
import LanguageServer.Proofs.JsonGrammar
import LanguageServer.Proofs.NullBody
import LanguageServer.Proofs.UnopenedDocument
import LanguageServer.Proofs.CheckedFile
import LanguageServer.Proofs.StringEnd
import LanguageServer.Proofs.CursorWord
import LanguageServer.Proofs.Progress
