/-
# Commands

The command line tool with its sub-commands, and the server as a command of its
own. A command line becomes a `Command` or an end with a message; a command reads
at most one file and leaves its output, an exit code and perhaps a log file.
-/

import LanguageServer.Cli.Arguments
import LanguageServer.Cli.FileError
import LanguageServer.Feature.Indentation
import LanguageServer.Server.Session

namespace LanguageServer.Cli

/-- What can be asked for on a command line. -/
inductive Command
  | serve (log : Option String)
  | format (file : String) (checkOnly : Bool)
  | check (file : String)
  deriving DecidableEq, Repr

/-- The file that a command reads. -/
def Command.source? : Command → Option String
  | .serve _ => none
  | .format file _ => some file
  | .check file => some file

/-- The programs that can be called. -/
inductive Program
  | tool
  | server
  deriving DecidableEq, Repr

/-- The help line about the help option. -/
def helpLine : String := "  -h, --help  show this help message and exit\n"

/-- The tool with its sub-commands. -/
def toolGrammar : Grammar where
  program := "toylang"
  synopsis := "[-h] <command> ..."
  details :=
    "toylang - A micro language server for a toy language\n\n"
      ++ "positional arguments:\n"
      ++ "  <command>\n"
      ++ "    lsp       Start the Language Server Protocol server\n"
      ++ "    format    Reindent a source file by brace depth\n"
      ++ "    check     Report TODO items in a file\n\n"
      ++ "options:\n" ++ helpLine ++ "\n"
      ++ "examples:\n"
      ++ "  toylang lsp                   Start the language server on stdio\n"
      ++ "  toylang lsp --log lsp.log     Also write debug logging to lsp.log\n"
      ++ "  toylang format main.toy       Print main.toy reindented\n"
      ++ "  toylang format --check a.toy  Exit 1 if a.toy is not formatted\n"
      ++ "  toylang check main.toy        List TODO items in main.toy\n"
      ++ "        \n"
  flags := [helpFlag]
  takesFile := false

/-- The sub-command that starts the server. -/
def lspGrammar : Grammar where
  program := "toylang lsp"
  synopsis := "[-h] [--log FILE]"
  details := "options:\n" ++ helpLine ++ "  --log FILE  Log file for debugging LSP communication\n"
  flags := [helpFlag, logFlag]
  takesFile := false

/-- The sub-command that reindents a file. -/
def formatGrammar : Grammar where
  program := "toylang format"
  synopsis := "[-h] [--check] file"
  details :=
    "positional arguments:\n  file        Source file to format\n\n"
      ++ "options:\n" ++ helpLine
      ++ "  --check     Don't print, exit with 1 if the file would change\n"
  flags := [helpFlag, checkFlag]
  takesFile := true

/-- The sub-command that lists what is left to do. -/
def checkGrammar : Grammar where
  program := "toylang check"
  synopsis := "[-h] file"
  details :=
    "positional arguments:\n  file        Source file to check\n\noptions:\n" ++ helpLine
  flags := [helpFlag]
  takesFile := true

/-- The server as a program. -/
def serverGrammar : Grammar where
  program := "toylang-lsp"
  synopsis := "[-h] [--log FILE]"
  details :=
    "Toy Language Server\n\noptions:\n" ++ helpLine ++ "  --log FILE  Log file for debugging\n"
  flags := [helpFlag, logFlag]
  takesFile := false

/-- The sub-commands of the tool. -/
def subcommands : List (String × Grammar × (Taken → Command)) := [
  ("lsp", lspGrammar, fun taken => .serve taken.log),
  ("format", formatGrammar, fun taken => .format (taken.file.getD "") taken.check),
  ("check", checkGrammar, fun taken => .check (taken.file.getD ""))]

/-- Why a command line is no command, and in whose name that is said. -/
structure Rejection where
  grammar : Grammar
  interruption : Interruption

/-- A refusal in the name of a command. -/
def refuse {α : Type} (grammar : Grammar) (complaint : Complaint) : Except Rejection α :=
  .error ⟨grammar, .refused complaint⟩

/-- The command of the tool's words; there is none when no sub-command is named.
Words that nobody knows are reported last. -/
def parseTool (words : List String) : Except Rejection (Option Command) := do
  let (leftOver, named) ← (toolGrammar.splitCommand [] words).mapError (⟨toolGrammar, ·⟩)
  match named with
  | [] =>
      if leftOver.isEmpty then return none else refuse toolGrammar (.unrecognized leftOver)
  | name :: rest =>
      match subcommands.lookup name with
      | none => refuse toolGrammar (.invalidChoice name (subcommands.map Prod.fst))
      | some (grammar, command) =>
          let taken ← (grammar.parse rest).mapError (⟨grammar, ·⟩)
          let leftOver := leftOver ++ taken.leftOver
          if leftOver.isEmpty then return some (command taken)
          else refuse toolGrammar (.unrecognized leftOver)

/-- The command of the server program's words. -/
def parseServer (words : List String) : Except Rejection (Option Command) := do
  let taken ← (serverGrammar.parse words).mapError (⟨serverGrammar, ·⟩)
  if taken.leftOver.isEmpty then return some (.serve taken.log)
  else refuse serverGrammar (.unrecognized taken.leftOver)

/-- The command of a program's words. -/
def Program.parse : Program → List String → Except Rejection (Option Command)
  | .tool => parseTool
  | .server => parseServer

/-- What a command leaves behind. -/
structure Result where
  exitCode : Nat
  stdout : Text := ""
  stderr : String := ""
  /-- The log file that is written, with its text. -/
  logFile : Option (String × Text) := none
  deriving DecidableEq, Repr

/-- What a command does not handle itself. -/
inductive Crash
  | embeddedNull
  | undecodable (fault : Utf8.Fault)
  | file (e : FileError)
  deriving DecidableEq, Repr

/-- The wording of a crash. -/
def Crash.message : Crash → String
  | .embeddedNull => "embedded null byte"
  | .undecodable fault => fault.message
  | .file e => e.message

/-- The end of a command line that is no command: help is printed, and a refusal
comes with the usage. -/
def Rejection.result (rejection : Rejection) : Result :=
  match rejection.interruption with
  | .help => { exitCode := 0, stdout := rejection.grammar.help }
  | .refused complaint =>
      { exitCode := 2
        stderr := rejection.grammar.usage ++ rejection.grammar.program ++ ": error: "
          ++ complaint.message ++ "\n" }

/-- The files that commands read and write. -/
structure Files where
  read : String → Except FileError Bytes
  openLog : String → Except FileError Unit

/-- The files as far as one of them has been read already. -/
def Files.ofRead (content : Except FileError Bytes) : Files :=
  ⟨fun _ => content, fun _ => .ok ()⟩

/-- A path that can be given to the system. -/
def checkPath (path : String) : Except Crash Unit :=
  if path.toList.contains '\x00' then .error .embeddedNull else .ok ()

/-- The text of a source file, with its line ends unified. A file that cannot be
read is a result of its own. -/
def readSource (files : Files) (path : String) : Except Crash (Except Result Text) := do
  checkPath path
  match files.read path with
  | .error e =>
      return .error
        { exitCode := 1, stderr := "Error: cannot read " ++ path ++ ": " ++ e.message ++ "\n" }
  | .ok content =>
      match Utf8.decode content with
      | .error fault => throw (.undecodable fault)
      | .ok text => return .ok ⟨Text.unifyLineEnds (Text.ofString text).toList⟩

/-- Prints a source reindented, or says whether that would change it. Line ends
are no difference. -/
def formatSource (path : String) (checkOnly : Bool) (source : Text) : Result :=
  let formatted := Indentation.reindent source
  if checkOnly then
    if formatted = ⟨Text.joinLines (Text.lines source)⟩ then { exitCode := 0 }
    else { exitCode := 1, stderr := path ++ " would be reformatted\n" }
  else { exitCode := 0, stdout := formatted ++ "\n" }

/-- A diagnostic on a line of its own, with places counted from one. -/
def diagnosticLine (path : String) (diagnostic : Diagnostic) : String :=
  let place := diagnostic.range.start
  s!"{path}:{place.line + 1}:{place.character + 1}: warning: {diagnostic.message}\n"

/-- Lists the diagnostics of a source. -/
def checkSource (path : String) (source : Text) : Result :=
  let diagnostics := Diagnostic.ofText source
  { exitCode := if diagnostics.isEmpty then 0 else 1
    stdout := String.join (diagnostics.map (diagnosticLine path)) }

/-- The log file of a session; an empty path names none. -/
def logTarget? (log : Option String) : Option String :=
  log.filter fun path => !path.isEmpty

/-- Opens the log file, if there is one. -/
def openLog (files : Files) (log : Option String) : Except Crash Unit :=
  match logTarget? log with
  | none => .ok ()
  | some path => do
      checkPath path
      (files.openLog path).mapError .file

/-- Serves a stream to its end. -/
def serveStream [NestingLimits] (log : Option String) (input : Bytes) : Result :=
  let session := Session.run { logPath := log } input
  { exitCode := session.exitCode
    stdout := session.outputText
    stderr := Session.errorText session.log
    logFile := (logTarget? log).map fun path => (path, Session.logFileText session.log) }

/-- The end of the tool's server when its log file cannot be opened. -/
def serveFailure (crash : Crash) : Result :=
  { exitCode := 1, stderr := "Error starting LSP server: " ++ crash.message ++ "\n" }

/-- Runs a command of a program. -/
def Command.run [NestingLimits] (program : Program) (files : Files) (input : Bytes) :
    Command → Except Crash Result
  | .format path checkOnly => do
      match ← readSource files path with
      | .error result => return result
      | .ok source => return formatSource path checkOnly source
  | .check path => do
      match ← readSource files path with
      | .error result => return result
      | .ok source => return checkSource path source
  | .serve log =>
      match openLog files log, program with
      | .ok (), _ => .ok (serveStream log input)
      | .error crash, .tool => .ok (serveFailure crash)
      | .error crash, .server => .error crash

/-- The end of the tool when no sub-command is named: it prints its help and counts
that as a misuse. -/
def missingCommand : Result :=
  { exitCode := 2, stdout := toolGrammar.help }

/-- Runs a program on its words. -/
def Program.run [NestingLimits] (program : Program) (words : List String) (files : Files)
    (input : Bytes) : Except Crash Result :=
  match program.parse words with
  | .error rejection => .ok rejection.result
  | .ok none => .ok missingCommand
  | .ok (some command) => command.run program files input

end LanguageServer.Cli
