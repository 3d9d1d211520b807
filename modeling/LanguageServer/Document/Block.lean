/-
# Blocks

Blocks are told by lines: a line with an opening brace opens one, and a line with
a closing brace and no opening one closes one, however many braces it has. The
block opened on a line is closed by the first later line at which as many blocks
have been closed as opened.
-/

import LanguageServer.Text.Lines

namespace LanguageServer.Block

open Text

/-- Whether a line opens a block. -/
def opens (line : Line) : Bool :=
  line.contains '\x7b'

/-- Whether a line closes a block. -/
def closes (line : Line) : Bool :=
  !opens line && line.contains '\x7d'

/-- The number of the line that brings the depth to zero, where the first of the
lines has a given number. Only a line that closes a block can do so. -/
def closingFrom (depth : Int) (number : Nat) : List Line → Option Nat
  | [] => none
  | line :: rest =>
      if opens line then closingFrom (depth + 1) (number + 1) rest
      else if line.contains '\x7d' then
        if depth - 1 = 0 then some number else closingFrom (depth - 1) (number + 1) rest
      else closingFrom depth (number + 1) rest

/-- The line that closes the block opened on a line. -/
def closing? (lines : List Line) (start : Nat) : Option Nat :=
  closingFrom 0 start (lines.drop start)

end LanguageServer.Block
