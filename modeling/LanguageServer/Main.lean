/-
# The program

The outer layer of the command line tool: it reads files and the input stream,
and writes what the commands leave. Every decision is made by `Cli`, `Frame` and
`Server`; a stream is served frame by frame, so that a client gets its replies
while it keeps the stream open.
-/

import LanguageServer.Cli.Command

namespace LanguageServer.Console

open Cli

/-- The program runs with the usual limit on calls within calls. -/
local instance : NestingLimits := .usual

/-- The number and the wording of a system error; one that has no number counts
as a failure of input or output. -/
def report : IO.Error → Nat × String
  | .alreadyExists _ code details => (code.toNat, details)
  | .otherError code details => (code.toNat, details)
  | .resourceBusy code details => (code.toNat, details)
  | .resourceVanished code details => (code.toNat, details)
  | .unsupportedOperation code details => (code.toNat, details)
  | .hardwareFault code details => (code.toNat, details)
  | .unsatisfiedConstraints code details => (code.toNat, details)
  | .illegalOperation code details => (code.toNat, details)
  | .protocolError code details => (code.toNat, details)
  | .timeExpired code details => (code.toNat, details)
  | .interrupted _ code details => (code.toNat, details)
  | .noFileOrDirectory _ code details => (code.toNat, details)
  | .invalidArgument _ code details => (code.toNat, details)
  | .permissionDenied _ code details => (code.toNat, details)
  | .resourceExhausted _ code details => (code.toNat, details)
  | .inappropriateType _ code details => (code.toNat, details)
  | .noSuchThing _ code details => (code.toNat, details)
  | .unexpectedEof => (5, "Input/output error")
  | .userError details => (5, details)

/-- Uses a file, with the system's error as one about its path. -/
def withFile {α : Type} (path : String) (use : IO α) : IO (Except FileError α) := do
  try
    return .ok (← use)
  catch e =>
    let (number, text) := report e
    return .error ⟨.ofReport number text, path⟩

/-- The bytes of a file. -/
def readFile (path : String) : IO Bytes := do
  let file ← IO.FS.Handle.mk path .read
  return (← file.readBinToEnd).toList

/-- Writes what a command leaves and returns its exit code. -/
def finish (result : Result) : IO UInt32 := do
  (← IO.getStdout).putStr result.stdout.escaped
  (← IO.getStderr).putStr result.stderr
  return result.exitCode.toUInt32

/-- Reports a crash. -/
def fail (crash : Crash) : IO UInt32 :=
  finish { exitCode := 1, stderr := crash.message ++ "\n" }

/-- The next line of a stream with its line feed; at the end of the stream there is
none. -/
partial def readLine (stream : IO.FS.Stream) (line : ByteArray) : IO ByteArray := do
  let byte ← stream.read 1
  if byte.isEmpty then return line
  let line := line ++ byte
  if byte.data[0]? = some 10 then return line else readLine stream line

/-- A number of bytes of a stream, or all that are left. -/
partial def readUpTo (stream : IO.FS.Stream) (count : Nat) (read : ByteArray) : IO ByteArray := do
  if count ≤ read.size then return read
  let chunk ← stream.read (min 65536 (count - read.size)).toUSize
  if chunk.isEmpty then return read else readUpTo stream count (read ++ chunk)

/-- The bytes that the next frame is read from: header lines up to a blank one,
and as many bytes more as they announce. -/
partial def nextFrame (stream : IO.FS.Stream) (header : Bytes) : IO Bytes := do
  let line ← readLine stream .empty
  if line.isEmpty then return header
  let header := header ++ line.toList
  match Frame.readHeaders .missing header with
  | (.finished, _) => nextFrame stream header
  | (.complete (.length count), _) =>
      if Frame.greatestLength < count then return header
      else return header ++ (← readUpTo stream count .empty).toList
  | _ => return header

/-- Writes lines of the log to the error stream, and to the log file if there is
one. -/
def writeLog (file : Option IO.FS.Handle) (lines : List Text) : IO Unit := do
  (← IO.getStderr).putStr (Session.errorText lines)
  if let some file := file then
    file.putStr (Session.logFileText lines).escaped
    file.flush

/-- Serves the frames of a stream until the loop ends. -/
partial def serveFrames (file : Option IO.FS.Handle) (server : Server) :
    IO (Server × Rpc.Ending) := do
  let frame ← nextFrame (← IO.getStdin) []
  let turn := Server.dispatcher.turn server (Frame.read frame).1
  let stdout ← IO.getStdout
  stdout.putStr (Rpc.Output.text Announcement.packet turn.output)
  stdout.flush
  writeLog file turn.log
  match turn.ending with
  | some ending => return (turn.state, ending)
  | none => serveFrames file turn.state

/-- Serves the standard streams. -/
def serve (log : Option String) (file : Option IO.FS.Handle) : IO UInt32 := do
  let settings : Settings := { logPath := log }
  writeLog file [Session.startLine settings]
  let (server, ending) ← serveFrames file { settings }
  writeLog file (Session.endLines ending)
  return (Session.exitCodeOf server).toUInt32

/-- Opens the log file that is asked for. -/
def openLogFile (log : Option String) : IO (Except Crash (Option IO.FS.Handle)) := do
  match logTarget? log with
  | none => return .ok none
  | some path =>
      match checkPath path with
      | .error crash => return .error crash
      | .ok () =>
          let handle ← withFile path (IO.FS.Handle.mk path .write)
          return (handle.map some).mapError .file

/-- Runs a command of the tool. -/
def runCommand (command : Command) : IO UInt32 := do
  match command with
  | .serve log =>
      match ← openLogFile log with
      | .ok file => serve log file
      | .error crash => finish (serveFailure crash)
  | command =>
      let path := command.source?.getD ""
      let content ← withFile path (readFile path)
      match command.run .tool (.ofRead content) [] with
      | .ok result => finish result
      | .error crash => fail crash

/-- Runs the tool on its words. -/
def runTool (words : List String) : IO UInt32 := do
  match Program.tool.parse words with
  | .error rejection => finish rejection.result
  | .ok none => finish missingCommand
  | .ok (some command) => runCommand command

end LanguageServer.Console

/-- The command line tool. -/
def main (words : List String) : IO UInt32 :=
  LanguageServer.Console.runTool words
