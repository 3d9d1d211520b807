/-
# Token data read back

Tokens are sent as numbers, five for each, where places are told from the token before. A client
reads them back with the legend. From the numbers of a text it gets the tokens of that text
(`SemanticToken.data_read_back`), as these come in order.
-/

import LanguageServer.Proofs.Lexing

namespace LanguageServer.SemanticToken

open Text

/-- Reads numbers as tokens, after a token on a line at a column. Each five numbers are a token:
its line, counted from the line before; its column, counted from the column before if the line is
the same and from the start of the line otherwise; its length; its kind, as a place in the legend;
and its modifiers, of which there are none. Other numbers are no tokens. -/
def decodeAfter (line start : Nat) : List Nat → Option (List SemanticToken)
  | [] => some []
  | down :: across :: length :: place :: 0 :: rest => do
      let kind ← TokenKind.all[place]?
      let token : SemanticToken :=
        ⟨line + down, if down = 0 then start + across else across, length, kind⟩
      let later ← decodeAfter token.line token.start rest
      return token :: later
  | _ => none

/-- Reads numbers as the tokens of a document. -/
def decode (data : List Nat) : Option (List SemanticToken) :=
  decodeAfter 0 0 data

theorem getElem?_all (kind : TokenKind) : TokenKind.all[kind.toNat]? = some kind := by
  cases kind <;> rfl

/-- The five numbers for a token that does not come before a line and a column. -/
def steps (line start : Nat) (token : SemanticToken) : List Nat :=
  [token.line - line, if token.line = line then token.start - start else token.start,
    token.length, token.kind.toNat, 0]

section Order

variable {line start : Nat} {token : SemanticToken}

theorem delta_eq_map_steps (h : Position.NotAfter ⟨line, start⟩ token.position) :
    delta line start token = (steps line start token).map Int.ofNat := by
  simp only [Position.NotAfter, position] at h
  have hdown : (token.line : Int) - line = Int.ofNat (token.line - line) := by
    rw [Int.ofNat_eq_natCast]
    omega
  have hacross : (if (token.line : Int) - line = 0 then (token.start : Int) - start
      else token.start) =
      Int.ofNat (if token.line = line then token.start - start else token.start) := by
    rw [Int.ofNat_eq_natCast]
    split <;> split <;> omega
  simp only [delta, steps, List.map_cons, List.map_nil, ← hdown, ← hacross]
  rfl

theorem decodeAfter_steps (h : Position.NotAfter ⟨line, start⟩ token.position) (rest : List Nat) :
    decodeAfter line start (steps line start token ++ rest) =
      (decodeAfter token.line token.start rest).map (token :: ·) := by
  simp only [Position.NotAfter, position] at h
  have hline : line + (token.line - line) = token.line := by omega
  have hstart : (if token.line - line = 0 then
        start + (if token.line = line then token.start - start else token.start)
      else if token.line = line then token.start - start else token.start) = token.start := by
    split <;> split <;> omega
  simp only [steps, List.cons_append, List.nil_append, decodeAfter, getElem?_all, hline, hstart]
  cases decodeAfter token.line token.start rest <;> rfl

/-- The numbers for tokens that come in order are natural numbers, five for each, and are read
back as these tokens. -/
theorem exists_decodeAfter_encodeAfter {tokens : List SemanticToken}
    (hordered : tokens.Pairwise fun a b => a.position.NotAfter b.position)
    (hfirst : ∀ token ∈ tokens, Position.NotAfter ⟨line, start⟩ token.position) :
    ∃ data : List Nat, encodeAfter line start tokens = data.map Int.ofNat ∧
      5 ∣ data.length ∧ decodeAfter line start data = some tokens := by
  induction tokens generalizing line start with
  | nil => exact ⟨[], rfl, Nat.dvd_zero 5, rfl⟩
  | cons token rest ih =>
      obtain ⟨hnext, hrest⟩ := List.pairwise_cons.mp hordered
      obtain ⟨data, hdata, hlength, hdecode⟩ := ih hrest hnext
      have hplace := hfirst token List.mem_cons_self
      refine ⟨steps line start token ++ data, ?_, ?_, ?_⟩
      · rw [encodeAfter, delta_eq_map_steps hplace, hdata, List.map_append]
      · rw [List.length_append]
        exact Nat.dvd_add (Nat.dvd_refl 5) hlength
      · rw [decodeAfter_steps hplace, hdecode, Option.map_some]

end Order

/-- The data that is sent for a text are natural numbers, five for each token, and a client reads
them back as the tokens of the text. These come in the order of their places, each has at least
one character and lies on a line of the text, and no two of them overlap. -/
theorem data_read_back (text : Text) :
    ∃ data : List Nat, answer text = .obj [("data", .arr (data.map Wire.nat))] ∧
      5 ∣ data.length ∧ decode data = some (lex text) ∧
      ((lex text).Pairwise fun a b => a.position.before b.position = true ∧
        (a.line = b.line → a.start + a.length ≤ b.start)) ∧
      ∀ token ∈ lex text, 0 < token.length ∧
        ∃ line, (lines text)[token.line]? = some line ∧
          token.start + token.length ≤ line.length := by
  have hbefore := pairwise_before_lex text
  have hfirst : ∀ token ∈ lex text, Position.NotAfter ⟨0, 0⟩ token.position := by
    intro token _
    simp only [Position.NotAfter]
    omega
  obtain ⟨data, hdata, hlength, hdecode⟩ :=
    exists_decodeAfter_encodeAfter (hbefore.imp Position.notAfter_of_before) hfirst
  refine ⟨data, ?_, hlength, hdecode, hbefore.imp₂ (fun a b hplace hprecedes => ⟨hplace, ?_⟩)
    (pairwise_lex text), fun token => inside_of_mem_lex⟩
  · rw [answer, encode, hdata, List.map_map]
    rfl
  · rw [Precedes] at hprecedes
    omega

end LanguageServer.SemanticToken
