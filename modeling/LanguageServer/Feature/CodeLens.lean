/-
# Code lenses

A command above each function that starts a line: to run it as a test when the
line before carries the test attribute, to run it when it is `main`, and to show
its references otherwise.
-/

import LanguageServer.Document.Declaration

namespace LanguageServer

open Text

/-- What a lens offers to do. -/
inductive LensCommand
  | runTest (name : Text)
  | runMain
  | showReferences (name : Text)
  deriving DecidableEq, Repr

/-- A command as an object. -/
def LensCommand.toJson : LensCommand → Json
  | .runTest name =>
      .obj [("title", .str "Run test"), ("command", .str "toylang.test.run"),
        ("arguments", .arr [.str name])]
  | .runMain => .obj [("title", .str "Run function"), ("command", .str "toylang.main.run")]
  | .showReferences name =>
      .obj [("title", .str "Show references"), ("command", .str "toylang.references.show"),
        ("arguments", .arr [.str name])]

/-- A command shown above a range. -/
structure CodeLens where
  range : Range
  command : LensCommand
  deriving DecidableEq, Repr

namespace CodeLens

/-- A lens as an object. -/
def toJson (lens : CodeLens) : Json :=
  .obj [("range", lens.range.toJson), ("command", lens.command.toJson)]

/-- The attribute of tests. -/
def testMark : Line := [.char '#', .char '[', .char 't', .char 'e', .char 's', .char 't', .char ']']

/-- The command for a function, given the line before its declaration. -/
def commandFor (previous : Option Line) (name : Line) : LensCommand :=
  if previous.any testMark.isPrefixOf then .runTest (Text.ofList name)
  else if name = [.char 'm', .char 'a', .char 'i', .char 'n'] then .runMain
  else .showReferences (Text.ofList name)

/-- The lens of a line, given the line before it. -/
def ofLine? (previous : Option Line) (number : Nat) (line : Line) : Option CodeLens :=
  (Declaration.nameAfter? Declaration.functionLead line).map fun name =>
    let column := Declaration.functionLead.length
    ⟨.onLine number column (column + name.length), commandFor previous name⟩

/-- The lenses of lines, the first of which has a given number. -/
def ofLines (previous : Option Line) (number : Nat) : List Line → List CodeLens
  | [] => []
  | line :: rest =>
      (ofLine? previous number line).toList ++ ofLines (some line) (number + 1) rest

/-- The lenses of a text. -/
def ofText (text : Text) : List CodeLens :=
  ofLines none 0 (lines text)

end CodeLens

end LanguageServer
