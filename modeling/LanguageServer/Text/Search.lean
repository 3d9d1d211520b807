/-
# Searching a text

Where a word first occurs in a text, as a column counted in characters, and the
parts of a text around such places.
-/

namespace LanguageServer.Text

variable {α : Type} [DecidableEq α]

/-- The column of the first occurrence of a word. -/
def find? (word : List α) : List α → Option Nat
  | [] => if word.isEmpty then some 0 else none
  | c :: rest =>
      if word.isPrefixOf (c :: rest) then some 0 else (find? word rest).map (· + 1)

/-- Whether a word occurs in a text. -/
def contains (word text : List α) : Bool :=
  (find? word text).isSome

/-- The part of a text from one column up to another. -/
def slice (text : List α) (start stop : Nat) : List α :=
  (text.take stop).drop start

/-- The parts before and after the first occurrence of a separator. -/
def cut? (separator text : List α) : Option (List α × List α) :=
  (find? separator text).map fun column =>
    (text.take column, text.drop (column + separator.length))

/-- The pieces of a text between the occurrences of a character; one more than
there are occurrences. -/
def pieces (separator : α) : List α → List (List α)
  | [] => [[]]
  | c :: rest =>
      if c = separator then [] :: pieces separator rest
      else
        match pieces separator rest with
        | [] => [[c]]
        | piece :: more => (c :: piece) :: more

end LanguageServer.Text
