/-
# Sessions

A whole session over a stream of bytes: what goes out, what is logged, and the
exit code. The exit code is zero exactly when the client has asked for a shutdown
before the session ended.
-/

import LanguageServer.Rpc.Loop
import LanguageServer.Server.Basic

namespace LanguageServer

/-- What a session leaves behind. -/
structure Session where
  exitCode : Nat
  output : List (Rpc.Output Announcement)
  log : List Text
  unread : Bytes

namespace Session

/-- The mark of the lines that go to the error stream. -/
def logMark : String := "[toylang-lsp] "

/-- The line of the log at the start of a session. -/
def startLine (settings : Settings) : Text :=
  settings.name ++ " " ++ settings.version ++ " starting"

/-- The lines of the log at the end of a session. -/
def endLines : Rpc.Ending → List Text
  | .broken cause => ["Server error: " ++ cause.message, "Server stopped"]
  | .raised cause => ["Server error: " ++ cause.message, "Server stopped"]
  | _ => ["Server stopped"]

/-- The exit code of a session that ended in a state. -/
def exitCodeOf (server : Server) : Nat :=
  server.exitCode.getD (if server.shutdownRequested then 0 else 1)

/-- Serves a stream with the given settings. -/
def run [NestingLimits] (settings : Settings) (input : Bytes) : Session :=
  let run := Server.dispatcher.run { settings } input
  { exitCode := exitCodeOf run.state
    output := run.output
    log := startLine settings :: run.log ++ endLines run.ending
    unread := run.unread }

/-- The frames that go out, as one text. -/
def outputText (session : Session) : String :=
  Rpc.Output.text Announcement.packet session.output

/-- Lines of the log as they are written to the log file. -/
def logFileText (log : List Text) : Text :=
  ⟨log.flatMap fun line => line.toList ++ [.char '\n']⟩

/-- Lines of the log as they are written to the error stream. -/
def errorText (log : List Text) : String :=
  String.join (log.map fun line => logMark ++ line.escaped ++ "\n")

end Session

end LanguageServer
