/-
# File errors

Why a file cannot be opened, as the system numbers and words it.
-/

import LanguageServer.Text.Quoted

namespace LanguageServer

/-- Why a file cannot be opened. -/
inductive FileCause
  | noSuchFile
  | notDirectory
  | isDirectory
  | nameTooLong
  /-- Any other cause, as the system numbers and words it. -/
  | reported (number : Nat) (text : String)
  deriving DecidableEq, Repr

/-- The number of a cause. -/
def FileCause.number : FileCause → Nat
  | .noSuchFile => 2
  | .notDirectory => 20
  | .isDirectory => 21
  | .nameTooLong => 36
  | .reported number _ => number

/-- The wording of a cause. -/
def FileCause.message : FileCause → String
  | .noSuchFile => "No such file or directory"
  | .notDirectory => "Not a directory"
  | .isDirectory => "Is a directory"
  | .nameTooLong => "File name too long"
  | .reported _ text => text

/-- The cause that a system gives by its number and its own wording. -/
def FileCause.ofReport (number : Nat) (text : String) : FileCause :=
  if number = 2 then .noSuchFile
  else if number = 20 then .notDirectory
  else if number = 21 then .isDirectory
  else if number = 36 then .nameTooLong
  else .reported number text

/-- A file that cannot be opened. -/
structure FileError where
  cause : FileCause
  path : String
  deriving DecidableEq, Repr

/-- The wording of an error, with the path as it was given. -/
def FileError.message (e : FileError) : String :=
  s!"[Errno {e.cause.number}] " ++ e.cause.message ++ ": " ++ Text.quote e.path

end LanguageServer
