/-
# The server

The state of a session and the handlers of its messages. A session is started by
the `initialize` request and left by the `shutdown` request and the `exit`
notification; in between, notifications keep the open documents up to date and
questions about them are answered. Each accepted change of a document is followed
by an announcement of its diagnostics, unless the client has turned that off. An
announcement that cannot be built, for the name of its document, is not made.
-/

import LanguageServer.Rpc.Dispatcher
import LanguageServer.Server.FeatureRequest
import LanguageServer.Server.Settings

namespace LanguageServer

/-- An announcement that has been built. -/
structure Announcement where
  publication : Publication
  packet : Rpc.Packet
  built : packet.value = publication.toJson

/-- Builds an announcement. -/
def Announcement.build [NestingLimits] (publication : Publication) :
    Except Rpc.BuildFault Announcement :=
  match hbuild : Rpc.build publication.toJson with
  | .error fault => .error fault
  | .ok packet => .ok ⟨publication, packet, Rpc.value_of_build hbuild⟩

/-- The state of a session. -/
structure Server where
  documents : Store := .empty
  settings : Settings := {}
  initialized : Bool := false
  shutdownRequested : Bool := false
  /-- The exit code, known once the client has asked the server to exit. -/
  exitCode : Option Nat := none

namespace Server

open Rpc

/-- What a handler of the server does. -/
abbrev Effect := Reaction Server Announcement

/-- A handler that leaves the state alone and fails. -/
def refuse (server : Server) (code : ErrorCode) (message : String) : Effect :=
  { state := server, outcome := .failure (code.failure message) }

/-- A handler's end without a result. -/
def done (server : Server) (log : List Text) : Effect :=
  { state := server, outcome := .result .null, log }

/-- What the server can do, as the client is told. -/
def capabilities : Json :=
  .obj [
    ("textDocumentSync", .obj [("openClose", .bool true),
      ("change", Wire.nat Wire.SyncKind.full.toNat)]),
    ("completionProvider", .obj [("resolveProvider", .bool false)]),
    ("hoverProvider", .bool true),
    ("definitionProvider", .bool true),
    ("referencesProvider", .bool true),
    ("documentHighlightProvider", .bool true),
    ("renameProvider", .bool true),
    ("documentSymbolProvider", .bool true),
    ("workspaceSymbolProvider", .bool true),
    ("codeActionProvider", .bool true),
    ("codeLensProvider", .obj [("resolveProvider", .bool false)]),
    ("documentFormattingProvider", .bool true),
    ("foldingRangeProvider", .bool true),
    ("inlayHintProvider", .bool true),
    ("signatureHelpProvider", .obj [("triggerCharacters", .arr [.str "(", .str "[", .str ","])]),
    ("linkedEditingRangeProvider", .bool true),
    ("semanticTokensProvider", .obj [("legend", TokenKind.legend), ("full", .bool true)]),
    ("selectionRangeProvider", .bool true),
    ("callHierarchyProvider", .bool true)]

/-- Starts the session. Only the first request does so. -/
def onStart (params : Json) (server : Server) : Effect :=
  if server.initialized then server.refuse .invalidRequest "Server already initialized"
  else
    let options := Json.orNull (params.path? ["initializationOptions"])
    let settings := server.settings.withOptions options
    { state := { server with settings, initialized := true }
      outcome := .result
        (.obj [("capabilities", capabilities), ("serverInfo", settings.serverInfo)])
      log := ["Received initialize request"] }

/-- Ends the session; questions are refused from now on. -/
def onShutdown (_ : Json) (server : Server) : Effect :=
  done { server with shutdownRequested := true } ["Shutdown requested"]

/-- Answers a question in a running session. -/
def onFeature (request : FeatureRequest) (params : Json) (server : Server) : Effect :=
  if !server.initialized then server.refuse .serverNotInitialized "Server not initialized"
  else if server.shutdownRequested then server.refuse .invalidRequest "Server is shutting down"
  else
    match request.answer server.documents params with
    | .ok result => { state := server, outcome := .result result }
    | .error missing => server.refuse .invalidParams missing.message

/-- Takes note that the client is ready. -/
def onInitialized (_ : Json) (server : Server) : Effect :=
  done server ["Server initialized"]

/-- Leaves the loop. The exit is clean after a shutdown. -/
def onExit (_ : Json) (server : Server) : Effect :=
  { done { server with exitCode := some (if server.shutdownRequested then 0 else 1) }
      ["Exit notification received"] with stop := true }

variable [NestingLimits]

/-- Announces the diagnostics of a document, unless that is turned off. -/
def publish (server : Server) (uri : Text) (diagnostics : List Diagnostic) (log : List Text) :
    Effect :=
  if server.settings.publishDiagnostics then
    match Announcement.build ⟨uri, diagnostics⟩ with
    | .ok announcement => { done server log with sent := [announcement] }
    | .error fault => { state := server, outcome := .crash fault.message, log }
  else done server log

/-- Sets the text of a document and announces its diagnostics for the document that the
notification names. -/
def store (server : Server) (named uri text : Text) (log : List Text) : Effect :=
  publish { server with documents := server.documents.put uri text } named
    (Diagnostic.ofText text) log

/-- Acts on a notification about a document, if the session has started and the
notification names one. -/
def withDocument (params : Json) (server : Server) (act : Text → Effect) : Effect :=
  if !server.initialized then done server ["Dropping document notification before initialize"]
  else
    match Sync.uri? params with
    | none => done server []
    | some uri => act uri

/-- Opens a document. -/
def onOpen (params : Json) (server : Server) : Effect :=
  withDocument params server fun named =>
    match Sync.opened? params with
    | none => done server ["Ignoring malformed didOpen for " ++ named]
    | some (uri, text) => server.store named uri text ["Document opened: " ++ named]

/-- Changes a document; one that is not open is opened. -/
def onChange (params : Json) (server : Server) : Effect :=
  withDocument params server fun named =>
    match Sync.changed? params with
    | none => done server ["Ignoring malformed didChange for " ++ named]
    | some (uri, text) => server.store named uri text []

/-- Closes a document that is open and clears its diagnostics. -/
def onClose (params : Json) (server : Server) : Effect :=
  withDocument params server fun named =>
    match Sync.closed? server.documents params with
    | none => done server []
    | some uri =>
        publish { server with documents := server.documents.erase uri } named []
          ["Document closed: " ++ named]

/-- The handler of a request. -/
def request? (method : Text) : Option (Handler Server Announcement) :=
  if method = "initialize" then some onStart
  else if method = "shutdown" then some onShutdown
  else (FeatureRequest.ofMethod? method).map onFeature

/-- The handler of a notification. -/
def notification? (method : Text) : Option (Handler Server Announcement) :=
  if method = "initialized" then some onInitialized
  else if method = "exit" then some onExit
  else if method = "textDocument/didOpen" then some onOpen
  else if method = "textDocument/didChange" then some onChange
  else if method = "textDocument/didClose" then some onClose
  else none

/-- The handlers of the server. -/
def dispatcher : Dispatcher Server Announcement :=
  ⟨request?, notification?⟩

/-- Handles the body of a message. -/
def handle (server : Server) (content : Text) : Handled Server Announcement :=
  dispatcher.handle server content

end Server

end LanguageServer
