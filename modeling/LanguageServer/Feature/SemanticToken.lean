/-
# Semantic tokens

The strings, numbers and words of a text with their meaning for highlighting. A
word is the longest run of word characters from its start, and its kind depends
on the word before it, which may stand on an earlier line. Tokens are sent as
differences: `encode` writes them relative to the token before.
-/

import LanguageServer.Document.Word

namespace LanguageServer

open Text

/-- What a token is highlighted as. -/
inductive TokenKind
  | keyword
  | function
  | binding
  | string
  | number
  | type
  deriving DecidableEq, Repr

namespace TokenKind

/-- All kinds in the order of their numbers. -/
def all : List TokenKind :=
  [.keyword, .function, .binding, .string, .number, .type]

/-- The number of a kind: its place in the legend. -/
def toNat : TokenKind → Nat
  | .keyword => 0
  | .function => 1
  | .binding => 2
  | .string => 3
  | .number => 4
  | .type => 5

/-- The name of a kind in the legend. -/
def name : TokenKind → String
  | .keyword => "keyword"
  | .function => "function"
  | .binding => "variable"
  | .string => "string"
  | .number => "number"
  | .type => "type"

/-- The legend that explains the numbers of kinds to the client. -/
def legend : Json :=
  .obj [("tokenTypes", .arr (all.map fun kind => .str kind.name)), ("tokenModifiers", .arr [])]

end TokenKind

/-- A part of a line with its kind. -/
structure SemanticToken where
  line : Nat
  start : Nat
  length : Nat
  kind : TokenKind
  deriving DecidableEq, Repr

namespace SemanticToken

/-- The words that are keywords. -/
def keywords : List Text :=
  ["fn", "let", "mut", "if", "else", "for", "while", "loop", "match", "struct", "enum", "impl",
    "trait", "use", "pub", "return", "const", "static", "mod", "as", "where", "self", "Self"]

/-- The words that are types. -/
def typeNames : List Text :=
  ["i8", "i16", "i32", "i64", "i128", "isize", "u8", "u16", "u32", "u64", "u128", "usize", "f32",
    "f64", "bool", "char", "str", "String"]

/-- The kind of a word, given the word before it. -/
def wordKind (previous word : Line) : TokenKind :=
  if keywords.contains (Text.ofList word) then .keyword
  else if typeNames.contains (Text.ofList word) then .type
  else if previous = [.char 'f', .char 'n'] then .function
  else .binding

/-- How many characters follow the opening quote of a string up to its end. A
backslash takes the meaning from the character after it, and a string that is
not closed runs to the end of the line. -/
def stringTail (escaped : Bool) : Line → Nat
  | [] => 0
  | c :: rest =>
      if escaped then stringTail false rest + 1
      else if c = '\\' then stringTail true rest + 1
      else if c = '"' then 1
      else stringTail false rest + 1

/-- The column after the string whose opening quote stands at a column. -/
def stringStop (line : Line) (start : Nat) : Nat :=
  start + 1 + stringTail false (line.drop (start + 1))

/-- What stands at the start of a text: a token of some kind or none, with the
number of further characters it takes, and the latest word from there on. -/
structure Lexeme where
  kind : Option TokenKind
  used : Nat
  word : Line

/-- The longest lexeme at the start of a text. -/
def lexeme (previous : Line) (c : CodePoint) (rest : Line) : Lexeme :=
  if c = '"' then ⟨some .string, stringTail false rest, previous⟩
  else if isAsciiDigit c then ⟨some .number, (rest.takeWhile isAsciiDigit).length, previous⟩
  else if isIdentifierStart c then
    let more := leadingWord rest
    ⟨some (wordKind previous (c :: more)), more.length, c :: more⟩
  else ⟨none, 0, previous⟩

/-- The tokens of the rest of a line from a column on, and the latest word after
them. -/
def lexLine (number column : Nat) (previous : Line) : Line → List SemanticToken × Line
  | [] => ([], previous)
  | c :: rest =>
      let found := lexeme previous c rest
      let (later, word) :=
        lexLine number (column + 1 + found.used) found.word (rest.drop found.used)
      match found.kind with
      | none => (later, word)
      | some kind => (⟨number, column, 1 + found.used, kind⟩ :: later, word)
  termination_by line => line.length
  decreasing_by simp only [List.length_cons, List.length_drop]; omega

/-- The first lexeme of a line and what comes after it. -/
theorem lexLine_cons (number column : Nat) (previous : Line) (c : CodePoint) (rest : Line) :
    lexLine number column previous (c :: rest) =
      let found := lexeme previous c rest
      let later := lexLine number (column + 1 + found.used) found.word (rest.drop found.used)
      ((found.kind.map fun kind => ⟨number, column, 1 + found.used, kind⟩).toList ++ later.1,
        later.2) := by
  rw [lexLine]
  cases hkind : (lexeme previous c rest).kind <;> simp only [hkind] <;> rfl

/-- A line is read lexeme by lexeme: what holds of a line if it holds of what comes after its
first lexeme, and of the empty line, holds of every line. -/
@[elab_as_elim]
theorem lexLine_induction {motive : Nat → Line → Line → Prop}
    (nil : ∀ column previous, motive column previous [])
    (cons : ∀ column previous c rest,
      motive (column + 1 + (lexeme previous c rest).used) (lexeme previous c rest).word
        (rest.drop (lexeme previous c rest).used) → motive column previous (c :: rest)) :
    ∀ column previous line, motive column previous line
  | column, previous, [] => nil column previous
  | column, previous, c :: rest =>
      cons column previous c rest (lexLine_induction nil cons _ _ _)
  termination_by _ _ line => line.length
  decreasing_by simp only [List.length_cons, List.length_drop]; omega

/-- The tokens of lines, the first of which has a given number. -/
def lexLines (number : Nat) (previous : Line) : List Line → List SemanticToken
  | [] => []
  | line :: rest =>
      let (found, word) := lexLine number 0 previous line
      found ++ lexLines (number + 1) word rest

/-- The tokens of a text in order. -/
def lex (text : Text) : List SemanticToken :=
  lexLines 0 [] (lines text)

/-- Five numbers for a token: the lines since the token before, the columns since
its start if it is on the same line and the column otherwise, the length, the
kind, and no modifiers. -/
def delta (line start : Nat) (token : SemanticToken) : List Int :=
  let down : Int := (token.line : Int) - line
  let across : Int := if down = 0 then (token.start : Int) - start else token.start
  [down, across, token.length, token.kind.toNat, 0]

/-- The numbers of tokens that follow a token at a given line and column. -/
def encodeAfter (line start : Nat) : List SemanticToken → List Int
  | [] => []
  | token :: rest => delta line start token ++ encodeAfter token.line token.start rest

/-- The numbers of all tokens; the first one is relative to the start of the
document. -/
def encode (tokens : List SemanticToken) : List Int :=
  encodeAfter 0 0 tokens

/-- The tokens of a text as an object. -/
def answer (text : Text) : Json :=
  .obj [("data", .arr ((encode (lex text)).map .int))]

end SemanticToken

end LanguageServer
