/-
# What tokens mean

A token is told by the character that it starts with: a string by its quote, a number by a digit
and a word by a letter or an underscore. A number and a word go on as far as they can. What a
word means is told by its text and by the word before it, which may stand on an earlier line.
What no token covers is none of these characters (`SemanticToken.tokens_cover_and_classify`).
-/

import LanguageServer.Proofs.Lexing
import Mathlib.Data.List.Basic
import Mathlib.Data.List.Induction

namespace LanguageServer.SemanticToken

open Text

/-- The characters of a token. -/
def text (lines : List Line) (token : SemanticToken) : Line :=
  slice (lines.getD token.line []) token.start (token.start + token.length)

/-- A token that is neither a string nor a number. -/
def isWord (token : SemanticToken) : Bool :=
  token.kind ≠ .string && token.kind ≠ .number

/-- The meaning of a word: what its text says, or else whether it comes after `fn`. -/
structure Means (word : Line) (afterFn : Prop) (kind : TokenKind) : Prop where
  keyword : kind = .keyword ↔ Text.ofList word ∈ keywords
  type : kind = .type ↔ Text.ofList word ∈ typeNames
  function : kind = .function ↔
    Text.ofList word ∉ keywords ∧ Text.ofList word ∉ typeNames ∧ afterFn
  binding : kind = .binding ↔
    Text.ofList word ∉ keywords ∧ Text.ofList word ∉ typeNames ∧ ¬afterFn

/-- What a token is, where it starts with a character of its line and the rest of the line
follows. -/
structure ToldBy (lines : List Line) (afterFn : Prop) (token : SemanticToken) (c : CodePoint)
    (rest : Line) : Prop where
  string : c = '"' → token.kind = .string
  number : isAsciiDigit c = true → token.kind = .number ∧
    token.text lines = (c :: rest).takeWhile isAsciiDigit
  word : c ≠ '"' → isAsciiDigit c = false → (isLetter c = true ∨ c = '_') ∧
    token.text lines = (c :: rest).takeWhile isWordChar ∧
      Means (token.text lines) afterFn token.kind

/-- A token is what the line says from its start on. -/
def Told (lines : List Line) (afterFn : Prop) (token : SemanticToken) : Prop :=
  ∃ line c rest, lines[token.line]? = some line ∧ line.drop token.start = c :: rest ∧
    token.ToldBy lines afterFn c rest

/-- The latest word behind a token. -/
def wordAfter (lines : List Line) (previous : Line) (token : SemanticToken) : Line :=
  if token.isWord then token.text lines else previous

/-- No keyword is the name of a type. -/
theorem not_mem_typeNames : ∀ word ∈ keywords, word ∉ typeNames := by
  decide

theorem means_wordKind (previous word : Line) :
    Means word (previous = [.char 'f', .char 'n']) (wordKind previous word) := by
  simp only [wordKind, List.contains_iff_mem]
  by_cases hkeyword : Text.ofList word ∈ keywords
  · have htype := not_mem_typeNames _ hkeyword
    constructor <;> simp [hkeyword, htype]
  · by_cases htype : Text.ofList word ∈ typeNames
    · constructor <;> simp [hkeyword, htype]
    · by_cases hfn : previous = [.char 'f', .char 'n']
      · constructor <;> simp [hkeyword, htype, hfn]
      · constructor <;> simp [hkeyword, htype, hfn]

/-- What a word means is none of the kinds of other tokens. -/
theorem isWord_wordKind (previous word : Line) (number column length : Nat) :
    isWord ⟨number, column, length, wordKind previous word⟩ = true := by
  rw [isWord, wordKind]
  split
  · rfl
  · split
    · rfl
    · split <;> rfl

section Lexeme

variable {lines : List Line} {number column : Nat} {line rest previous : Line} {c : CodePoint}

/-- A token that goes on as far as the characters of its line are of one class has the run of
these characters as its text. -/
theorem text_eq_takeWhile {p : CodePoint → Bool} (hline : lines[number]? = some line)
    (hdrop : line.drop column = c :: rest) (hc : p c = true) (kind : TokenKind) :
    text lines ⟨number, column, 1 + (rest.takeWhile p).length, kind⟩ =
      (c :: rest).takeWhile p := by
  have htake := List.prefix_iff_eq_take.mp (List.takeWhile_prefix p (l := rest))
  rw [text, List.getD_eq_getElem?_getD, hline, Option.getD_some, slice_eq_take_drop,
    Nat.add_sub_cancel_left, hdrop, Nat.add_comm 1, List.take_succ_cons, ← htake,
    List.takeWhile_cons_of_pos hc]

variable (hline : lines[number]? = some line) (hdrop : line.drop column = c :: rest)

include hline hdrop

/-- A lexeme that is a token is what the line says from its start on, if the latest word in front
of it is given, and leaves the latest word behind it. -/
theorem told_lexeme {kind : TokenKind} (hkind : (lexeme previous c rest).kind = some kind) :
    Told lines (previous = [.char 'f', .char 'n'])
        ⟨number, column, 1 + (lexeme previous c rest).used, kind⟩ ∧
      (lexeme previous c rest).word =
        wordAfter lines previous ⟨number, column, 1 + (lexeme previous c rest).used, kind⟩ := by
  rcases startsToken_cases (startsToken_of_kind_lexeme _ _ hkind) with
    rfl | hdigit | ⟨hquote, hdigit, hstart⟩
  · rw [lexeme_quote] at hkind ⊢
    cases hkind
    refine ⟨⟨line, _, rest, hline, hdrop, fun _ => rfl, fun hdigit => ?_, fun hne => ?_⟩, rfl⟩
    · cases hdigit
    · exact absurd rfl hne
  · rw [lexeme_digit _ _ hdigit] at hkind ⊢
    cases hkind
    refine ⟨⟨line, c, rest, hline, hdrop, fun hquote => ?_, fun _ => ⟨rfl, ?_⟩, fun _ hne => ?_⟩,
      rfl⟩
    · exact absurd hquote (ne_quote_of_isAsciiDigit hdigit)
    · exact text_eq_takeWhile hline hdrop hdigit _
    · rw [hdigit] at hne
      cases hne
  · rw [lexeme_word _ _ hquote hdigit hstart] at hkind ⊢
    cases hkind
    have hletter : isLetter c = true ∨ c = '_' := by
      simpa only [isIdentifierStart, Bool.or_eq_true, decide_eq_true_eq] using hstart
    have hword : isWordChar c = true := by
      rcases hletter with hletter | rfl
      · simp only [isWordChar, hletter, Bool.true_or]
      · decide
    have hmore : (c :: rest).takeWhile isWordChar = c :: leadingWord rest :=
      List.takeWhile_cons_of_pos hword
    have htext := text_eq_takeWhile hline hdrop hword
    refine ⟨⟨line, c, rest, hline, hdrop, fun h => absurd h hquote, fun h => ?_,
      fun _ _ => ⟨hletter, htext _, ?_⟩⟩, ?_⟩
    · rw [hdigit] at h
      cases h
    · rw [leadingWord, htext, hmore]
      exact means_wordKind previous (c :: leadingWord rest)
    · rw [wordAfter, isWord_wordKind, if_pos rfl, leadingWord, htext, hmore]
      rfl

end Lexeme

/-- Tokens that follow one another are each what the line says, where the latest word in front of
them is given. -/
def ToldFrom (lines : List Line) (previous : Line) : List SemanticToken → Prop
  | [] => True
  | token :: rest =>
      Told lines (previous = [.char 'f', .char 'n']) token ∧
        ToldFrom lines (wordAfter lines previous token) rest

section Run

variable {lines : List Line}

theorem toldFrom_append {previous : Line} {tokens more : List SemanticToken} :
    ToldFrom lines previous (tokens ++ more) ↔
      ToldFrom lines previous tokens ∧
        ToldFrom lines (tokens.foldl (wordAfter lines) previous) more := by
  induction tokens generalizing previous with
  | nil => exact iff_and_self.mpr fun _ => trivial
  | cons token rest ih => rw [List.cons_append, ToldFrom, ToldFrom, ih, and_assoc, List.foldl_cons]

theorem told_lexLine {number : Nat} {line : Line} (hline : lines[number]? = some line)
    {column : Nat} {rest : Line} (hdrop : line.drop column = rest) (previous : Line) :
    ToldFrom lines previous (lexLine number column previous rest).1 ∧
      (lexLine number column previous rest).2 =
        (lexLine number column previous rest).1.foldl (wordAfter lines) previous := by
  induction column, previous, rest using lexLine_induction with
  | nil column previous =>
      rw [lexLine]
      exact ⟨trivial, rfl⟩
  | cons column previous c rest ih =>
      have hlater := ih (by rw [← List.drop_drop, drop_succ_of_drop hdrop])
      rw [lexLine_cons]
      dsimp only
      cases hkind : (lexeme previous c rest).kind with
      | none =>
          rw [lexeme_of_kind_eq_none _ _ hkind] at hlater ⊢
          exact hlater
      | some kind =>
          obtain ⟨htold, hword⟩ := told_lexeme hline hdrop hkind
          rw [hword] at hlater ⊢
          exact ⟨⟨htold, hlater.1⟩, hlater.2⟩

theorem told_lexLines {number : Nat} {rest : List Line} (h : lines.drop number = rest)
    (previous : Line) : ToldFrom lines previous (lexLines number previous rest) := by
  induction rest generalizing number previous with
  | nil => exact trivial
  | cons line rest ih =>
      obtain ⟨htold, hword⟩ :=
        told_lexLine (getElem?_of_drop h) (List.drop_zero) previous
      simp only [lexLines]
      rw [toldFrom_append, ← hword]
      exact ⟨htold, ih (drop_succ_of_drop h) _⟩

/-- The latest word behind some tokens is that of the last one of them that is a word. -/
theorem foldl_wordAfter (lines : List Line) (previous : Line) (tokens : List SemanticToken) :
    (∃ front word back, tokens = front ++ word :: back ∧ word.isWord = true ∧
      (∀ other ∈ back, other.isWord = false) ∧
        tokens.foldl (wordAfter lines) previous = word.text lines) ∨
    (∀ other ∈ tokens, other.isWord = false) ∧
      tokens.foldl (wordAfter lines) previous = previous := by
  have hconcat {back : List SemanticToken} {token : SemanticToken}
      (hback : ∀ other ∈ back, other.isWord = false) (htoken : token.isWord = false) :
      ∀ other ∈ back ++ [token], other.isWord = false := by
    intro other hother
    rcases List.mem_append.mp hother with hmem | hmem
    · exact hback other hmem
    · rwa [List.mem_singleton.mp hmem]
  induction tokens using List.reverseRecOn with
  | nil => exact Or.inr ⟨fun _ hmem => absurd hmem List.not_mem_nil, rfl⟩
  | append_singleton tokens token ih =>
      rw [List.foldl_concat]
      cases hword : token.isWord with
      | true =>
          refine Or.inl ⟨tokens, token, [], rfl, hword, fun _ hmem => ?_, ?_⟩
          · exact absurd hmem List.not_mem_nil
          · rw [wordAfter, if_pos hword]
      | false =>
          rw [wordAfter, hword]
          rcases ih with ⟨front, word, back, rfl, hisWord, hback, hlast⟩ | ⟨hnone, hlast⟩
          · exact Or.inl ⟨front, word, back ++ [token], by simp, hisWord, hconcat hback hword,
              hlast⟩
          · exact Or.inr ⟨hconcat hnone hword, hlast⟩

end Run

/-- A token is the nearest word before another token. -/
structure NearestWord (tokens : List SemanticToken) (token word : SemanticToken) : Prop where
  mem : word ∈ tokens
  isWord : word.isWord = true
  before : word.position.before token.position = true
  nearest : ∀ other ∈ tokens, other.isWord = true →
    other.position.before token.position = true →
      word.position.before other.position = false

/-- The nearest word before a token is `fn`. -/
def AfterFn (lines : List Line) (tokens : List SemanticToken) (token : SemanticToken) : Prop :=
  ∃ word, NearestWord tokens token word ∧ word.text lines = [.char 'f', .char 'n']

section Nearest

variable {lines : List Line} {front back : List SemanticToken} {token other : SemanticToken}

theorem mem_front_iff
    (hordered : (front ++ token :: back).Pairwise fun a b => a.position.before b.position = true)
    (h : other ∈ front ++ token :: back) :
    other ∈ front ↔ other.position.before token.position = true := by
  obtain ⟨-, hback, hfront⟩ := List.pairwise_append.mp hordered
  refine ⟨fun hmem => hfront other hmem token List.mem_cons_self, fun hbefore => ?_⟩
  rcases List.mem_append.mp h with hmem | hmem
  · exact hmem
  · rcases List.mem_cons.mp hmem with rfl | hmem
    · rw [Position.before_iff] at hbefore
      omega
    · have hbehind := (List.pairwise_cons.mp hback).1 other hmem
      rw [Position.before_iff] at hbefore hbehind
      omega

/-- The nearest word before a token is the last word in front of it. -/
theorem nearestWord_iff {first later : List SemanticToken} {word : SemanticToken}
    (hordered : ((first ++ word :: later) ++ token :: back).Pairwise fun a b =>
      a.position.before b.position = true)
    (hword : word.isWord = true) (hlater : ∀ other ∈ later, other.isWord = false) :
    NearestWord ((first ++ word :: later) ++ token :: back) token other ↔ other = word := by
  have hinner := (List.pairwise_append.mp hordered).1
  have hmem : word ∈ first ++ word :: later := List.mem_append_right _ List.mem_cons_self
  have hbefore := (mem_front_iff hordered (List.mem_append_left _ hmem)).mp hmem
  -- Another word before the token comes before this one.
  have hlatest {other : SemanticToken} (h : other ∈ (first ++ word :: later) ++ token :: back)
      (hother : other.isWord = true) (htoken : other.position.before token.position = true) :
      other = word ∨ other.position.before word.position = true := by
    have hfront := (mem_front_iff hordered h).mpr htoken
    rcases List.mem_append.mp hfront with hfirst | hbehind
    · exact Or.inr ((mem_front_iff hinner hfront).mp hfirst)
    · rcases List.mem_cons.mp hbehind with rfl | hbehind
      · exact Or.inl rfl
      · rw [hlater other hbehind] at hother
        cases hother
  constructor
  · intro hnearest
    refine (hlatest hnearest.mem hnearest.isWord hnearest.before).resolve_right fun hearlier => ?_
    rw [hnearest.nearest word (List.mem_append_left _ hmem) hword hbefore] at hearlier
    cases hearlier
  · rintro rfl
    refine ⟨List.mem_append_left _ hmem, hword, hbefore, fun another hanother hisWord htoken => ?_⟩
    refine eq_false_of_ne_true fun hbehind => ?_
    rw [Position.before_iff] at hbehind
    rcases hlatest hanother hisWord htoken with rfl | hearlier
    · omega
    · rw [Position.before_iff] at hearlier
      omega

/-- The latest word in front of a token is that of the nearest word before it. -/
theorem afterFn_iff
    (hordered : (front ++ token :: back).Pairwise fun a b => a.position.before b.position = true) :
    AfterFn lines (front ++ token :: back) token ↔
      front.foldl (wordAfter lines) [] = [.char 'f', .char 'n'] := by
  rcases foldl_wordAfter lines [] front with
    ⟨first, word, later, rfl, hword, hlater, hlast⟩ | ⟨hnone, hlast⟩
  · rw [hlast]
    simp only [AfterFn, nearestWord_iff hordered hword hlater, exists_eq_left]
  · rw [hlast]
    refine iff_of_false (fun ⟨word, hnearest, _⟩ => ?_) (List.cons_ne_nil _ _).symm
    have hfalse := hnone word ((mem_front_iff hordered hnearest.mem).mpr hnearest.before)
    rw [hnearest.isWord] at hfalse
    cases hfalse

end Nearest

/-- The tokens of a text cover all characters that are quotes, digits, letters or underscores.
What starts with a quote is a string. What starts with a digit is a number, and goes on as far
as there are digits. Every other token starts with a letter or an underscore and goes on as far
as there are word characters. It is a keyword or a type if its text is the name of one, and
otherwise a function exactly if the nearest word before it, on its line or an earlier one, is
`fn`. -/
theorem tokens_cover_and_classify (text : Text) :
    (∀ (number : Nat) (row : Line) (column : Nat) (c : CodePoint),
      (lines text)[number]? = some row → row[column]? = some c →
      (∀ token ∈ lex text, ¬token.Covers number column) →
        c ≠ '"' ∧ isAsciiDigit c = false ∧ isLetter c = false ∧ c ≠ '_') ∧
      ∀ token ∈ lex text, token.Told (lines text) (AfterFn (lines text) (lex text) token) := by
  refine ⟨fun number row column c hline hc huncovered => ?_, fun token htoken => ?_⟩
  · have hstarts : startsToken c = false := by
      by_contra hstarts
      obtain ⟨token, htoken, hcovers⟩ := exists_covers hline hc (eq_true_of_ne_false hstarts)
      exact huncovered token htoken hcovers
    simpa only [startsToken, isIdentifierStart, Bool.or_eq_false_iff, decide_eq_false_iff_not,
      and_assoc] using hstarts
  · obtain ⟨front, back, hsplit⟩ := List.append_of_mem htoken
    have hordered := pairwise_before_lex text
    have htold : ToldFrom (lines text) [] (lex text) := told_lexLines List.drop_zero []
    rw [hsplit] at hordered htold ⊢
    rw [propext (afterFn_iff hordered)]
    exact (toldFrom_append.mp htold).2.1

end LanguageServer.SemanticToken
