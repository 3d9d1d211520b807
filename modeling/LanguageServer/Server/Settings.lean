/-
# Settings

What a server runs with. The command line gives the log file, and the client may
turn the announcement of diagnostics on or off when it starts the server.
-/

import LanguageServer.Json.Basic

namespace LanguageServer

/-- The settings of one session. -/
structure Settings where
  name : Text := "toy-lang-server"
  version : Text := "0.1.0"
  publishDiagnostics : Bool := true
  logPath : Option String := none
  deriving DecidableEq, Repr

namespace Settings

/-- The settings after a client's options. Options of another type, and those
that are not known, change nothing. -/
def withOptions (settings : Settings) (options : Json) : Settings :=
  match (options.field? "publishDiagnostics").bind Json.asBool? with
  | some publish => { settings with publishDiagnostics := publish }
  | none => settings

/-- What the client is told about the server. -/
def serverInfo (settings : Settings) : Json :=
  .obj [("name", .str settings.name), ("version", .str settings.version)]

end Settings

end LanguageServer
