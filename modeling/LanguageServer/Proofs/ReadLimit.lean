/-
# The limits of reading

A JSON text that is neither a value nor malformed is one in which the reader meets a limit
(`Json.read_eq_error_iff`): an integer with too many digits, or a container for which there
is no room. It has to meet it: the integer or the bracket stands where a value may stand,
after a beginning in which the reader has found nothing wrong. What comes after it does not
matter.
-/

import LanguageServer.Json.Reader

namespace LanguageServer.Json

variable {room : Nat}

/-- How many containers are open where a value may come next. -/
def Expecting.valueDepth? : Expecting → Option Nat
  | .value outer => some outer.length
  | .firstItem outer => some (outer.length + 1)
  | _ => none

/-- The limit that a token meets where a value may stand within a number of containers. -/
def Token.limit? (room depth : Nat) : Token → Option ReadFault
  | .oversized fault => some (.oversized fault)
  | .openArray => if depth < room then none else some (.tooDeep .array)
  | .openObject => if depth < room then none else some (.tooDeep .object)
  | _ => none

/-- Reading meets a limit at a token after some others. -/
def MeetsLimit (room : Nat) (start : Expecting) (input : List Token) (fault : ReadFault) : Prop :=
  ∃ before token after expecting depth, input = before ++ token :: after ∧
    start.takeAll room before = .ok expecting ∧ expecting.valueDepth? = some depth ∧
      token.limit? room depth = some fault

theorem startValue_eq_error_iff {outer : List Opened} {token : Token} {fault : ReadFault}
    (hfault : fault ≠ .malformed) :
    startValue room outer token = .error fault ↔ token.limit? room outer.length = some fault := by
  cases token with
  | openArray | openObject =>
      rw [startValue, Token.limit?]
      split <;> simp
  | oversized => simp [startValue, Token.limit?]
  | closeArray | closeObject | comma | colon | scalar | text | junk =>
      simp [startValue, Token.limit?, hfault.symm]

/-- One token fails for a limit exactly if it stands for a value and meets the limit. -/
theorem take_eq_error_iff {expecting : Expecting} {token : Token} {fault : ReadFault}
    (hfault : fault ≠ .malformed) :
    expecting.take room token = .error fault ↔
      ∃ depth, expecting.valueDepth? = some depth ∧ token.limit? room depth = some fault := by
  cases expecting with
  | value outer =>
      rw [Expecting.take, startValue_eq_error_iff hfault]
      simp [Expecting.valueDepth?]
  | firstItem outer =>
      have hdepth : (Expecting.firstItem outer).valueDepth? =
          some (Opened.array [] :: outer).length := rfl
      cases token with
      | closeArray => simp [Expecting.take, hdepth, Token.limit?]
      | openArray | openObject | closeObject | comma | colon | scalar | text | oversized | junk =>
          rw [Expecting.take, startValue_eq_error_iff hfault, hdepth]
          · simp
          · exact Token.noConfusion
  | firstKey | key | colon | afterItem | afterField | nothing =>
      cases token <;> simp [Expecting.take, Expecting.valueDepth?, hfault.symm]

/-- Tokens fail for a limit exactly at a token that meets it, after fine ones. -/
theorem takeAll_eq_error_iff {start : Expecting} {input : List Token} {fault : ReadFault}
    (hfault : fault ≠ .malformed) :
    start.takeAll room input = .error fault ↔ MeetsLimit room start input fault := by
  constructor
  · intro h
    induction input generalizing start with
    | nil => cases h
    | cons token input ih =>
        rw [Expecting.takeAll, List.foldlM_cons] at h
        cases htake : start.take room token with
        | error fault' =>
            obtain rfl : fault' = fault := by
              rw [htake] at h
              exact Except.error.inj h
            obtain ⟨depth, hdepth, hlimit⟩ := (take_eq_error_iff hfault).mp htake
            exact ⟨[], token, input, start, depth, rfl, rfl, hdepth, hlimit⟩
        | ok next =>
            rw [htake] at h
            obtain ⟨before, token', after, expecting, depth, rfl, hbefore, hmet⟩ := ih h
            refine ⟨token :: before, token', after, expecting, depth, rfl, ?_, hmet⟩
            rw [Expecting.takeAll, List.foldlM_cons, htake]
            exact hbefore
  · rintro ⟨before, token, after, expecting, depth, rfl, hbefore, hmet⟩
    have htake : expecting.take room token = .error fault :=
      (take_eq_error_iff hfault).mpr ⟨depth, hmet⟩
    rw [Expecting.takeAll] at hbefore ⊢
    rw [List.foldlM_append, hbefore]
    change (do List.foldlM (Expecting.take room) (← expecting.take room token) after) = _
    rw [htake]
    rfl

/-- A text is not read for a limit exactly if the reader meets it. -/
theorem read_eq_error_iff {text : Text} {fault : ReadFault} (hfault : fault ≠ .malformed) :
    read room text = .error fault ↔ MeetsLimit room (.value []) (tokens text.toList) fault := by
  rw [← takeAll_eq_error_iff hfault, read, readChars]
  cases (Expecting.value []).takeAll room (tokens text.toList) with
  | error fault' => simp
  | ok expecting => cases expecting <;> simp [hfault.symm]

/-- A token is too long only if it has more digits than the limit. -/
def Token.KeepsLimit : Token → Prop
  | .oversized fault => Decimal.digitLimit < fault.digits
  | _ => True

theorem NumberText.keepsLimit_token (number : NumberText) : number.token.KeepsLimit := by
  rw [NumberText.token]
  split
  · rw [Decimal.read]
    by_cases hlong : Decimal.digitLimit < number.whole.length
    · rw [if_pos hlong]
      exact hlong
    · rw [if_neg hlong]
      trivial
  · trivial

theorem keepsLimit_of_scalarToken? {text : List CodePoint} {token : Token} {length : Nat}
    (h : scalarToken? text = some (token, length)) : token.KeepsLimit := by
  rw [scalarToken?] at h
  split at h
  · cases h
    trivial
  · obtain ⟨number, -, hnumber⟩ := Option.map_eq_some_iff.mp h
    cases hnumber
    exact number.keepsLimit_token

theorem keepsLimit_nextToken (c : CodePoint) (rest : List CodePoint) :
    (nextToken c rest).1.KeepsLimit := by
  rw [nextToken]
  iterate 6
    split
    · trivial
  split
  · split <;> trivial
  · split
    · next hscalar => exact keepsLimit_of_scalarToken? hscalar
    · trivial

theorem keepsLimit_of_mem_tokens {text : List CodePoint} {token : Token} (h : token ∈ tokens text) :
    token.KeepsLimit := by
  fun_induction tokens text with
  | case1 => cases h
  | case2 c rest hseparator ih => exact ih h
  | case3 c rest hseparator token' used hnext ih =>
      rcases List.mem_cons.mp h with rfl | hlater
      · have hkeeps := keepsLimit_nextToken c rest
        rw [hnext] at hkeeps
        exact hkeeps
      · exact ih hlater

/-- An integer that the reader finds too long has more digits than the limit. -/
theorem MeetsLimit.digitLimit_lt {text : Text} {start : Expecting} {fault : Decimal.Oversized}
    (h : MeetsLimit room start (tokens text.toList) (.oversized fault)) :
    Decimal.digitLimit < fault.digits := by
  obtain ⟨before, token, after, expecting, depth, htokens, -, -, hlimit⟩ := h
  have hmem : token ∈ tokens text.toList := by
    rw [htokens]
    exact List.mem_append_right _ List.mem_cons_self
  have hkeeps := keepsLimit_of_mem_tokens hmem
  cases token with
  | oversized fault' =>
      cases hlimit
      exact hkeeps
  | openArray | openObject =>
      rw [Token.limit?] at hlimit
      split at hlimit <;> cases hlimit
  | closeArray | closeObject | comma | colon | scalar | text | junk => cases hlimit

end LanguageServer.Json
