/-
# Reading frames from a stream

`read` takes the next frame from the bytes still unread and says how it ended:
with a body, at the end of the stream, with a frame that is rejected and can be
passed over, or with a failure after which reading cannot go on. Header names
are compared without regard to case, and the last announcement of a length is
the one that counts. Every call that yields a body or a rejection consumes at
least one byte (`length_read_lt`), which is what lets a loop over frames end.
-/

import LanguageServer.Frame.Basic

namespace LanguageServer.Frame

/-- Why a frame is rejected. -/
inductive Fault
  | missingLength
  | invalidLength
  | notUtf8 (fault : Utf8.Fault)
  deriving DecidableEq, Repr

/-- The wording of a rejection. -/
def Fault.message : Fault → String
  | .missingLength => "Missing Content-Length header"
  | .invalidLength => "Invalid Content-Length header"
  | .notUtf8 fault => "Message body is not valid UTF-8: " ++ fault.message

/-- Why reading cannot go on: a numeral with too many digits, or a length that
no stream position can reach. -/
inductive Breakdown
  | oversized (fault : Decimal.Oversized)
  | unreachable
  deriving DecidableEq, Repr

/-- The wording of a breakdown. -/
def Breakdown.message : Breakdown → String
  | .oversized fault => fault.message
  | .unreachable => "cannot fit 'int' into an index-sized integer"

/-- How an attempt to read a frame ended. -/
inductive Outcome
  | body (content : String)
  | finished
  | rejected (fault : Fault)
  | broken (cause : Breakdown)
  deriving DecidableEq, Repr

/-- What the header lines read so far say about the length. -/
inductive Announced
  | missing
  | invalid
  | length (n : Nat)
  deriving DecidableEq, Repr

/-- How the reading of a header block ended: with its blank line, at the end of
the stream, or with a numeral that is too long. -/
inductive Headers
  | complete (announced : Announced)
  | finished
  | broken (fault : Decimal.Oversized)
  deriving DecidableEq, Repr

/-- The character of a byte in a header; bytes outside ASCII have none of their
own. -/
def headerChar (b : UInt8) : Char :=
  if b < 0x80 then Char.ofNat b.toNat else '\uFFFD'

/-- The text of a header line, without the carriage returns at its end. -/
def headerText (line : Bytes) : List Char :=
  Text.dropEndWhile (· = '\r') (line.map headerChar)

/-- The name of a header: what stands before the first colon, trimmed and in
lower case. Only ASCII letters can occur in it. -/
def headerName (header : List Char) : List Char :=
  (trim (header.takeWhile (· ≠ ':'))).map Char.toLower

/-- The value of a header: what stands after the first colon. -/
def headerValue (header : List Char) : List Char :=
  (header.dropWhile (· ≠ ':')).drop 1

/-- What is known about the length after one more header. -/
def Announced.after (known : Announced) (header : List Char) :
    Except Decimal.Oversized Announced :=
  if headerName header = "content-length".toList then
    match numeral? (headerValue header) with
    | some numeral => (Decimal.read numeral).map .length
    | none => .ok .invalid
  else .ok known

/-- The bytes up to the next line feed. -/
def firstLine (input : Bytes) : Bytes :=
  input.takeWhile (· ≠ 10)

/-- Reads header lines up to a blank one, and returns the bytes after them. The
last line of a stream need not be ended by a line feed. -/
def readHeaders (known : Announced) (input : Bytes) : Headers × Bytes :=
  match input with
  | [] => (.finished, [])
  | b :: more =>
      let line := firstLine (b :: more)
      let rest := (b :: more).drop (line.length + 1)
      let header := headerText line
      if header.isEmpty then (.complete known, rest)
      else
        match known.after header with
        | .error fault => (.broken fault, rest)
        | .ok announced => readHeaders announced rest
  termination_by input.length
  decreasing_by simp only [List.length_cons, List.length_drop]; omega

/-- The greatest length that a stream position can reach: the greatest signed
number of 64 bits. -/
def greatestLength : Nat := 0x7FFFFFFFFFFFFFFF

/-- Reads the body of an announced length, and returns the bytes after it. A
body that the stream does not hold in full is the end of the stream. -/
def readBody (length : Nat) (input : Bytes) : Outcome × Bytes :=
  if greatestLength < length then (.broken .unreachable, input)
  else if (input.take length).length < length then (.finished, [])
  else
    match Utf8.decode (input.take length) with
    | .ok content => (.body content, input.drop length)
    | .error fault => (.rejected (.notUtf8 fault), input.drop length)

/-- Reads the next frame, and returns the bytes after it. -/
def read (input : Bytes) : Outcome × Bytes :=
  match readHeaders .missing input with
  | (.finished, rest) => (.finished, rest)
  | (.broken fault, rest) => (.broken (.oversized fault), rest)
  | (.complete .missing, rest) => (.rejected .missingLength, rest)
  | (.complete .invalid, rest) => (.rejected .invalidLength, rest)
  | (.complete (.length n), rest) => readBody n rest

/-- Reading headers to their blank line consumes at least that line. -/
theorem length_readHeaders_lt {known announced : Announced} {input rest : Bytes}
    (h : readHeaders known input = (.complete announced, rest)) : rest.length < input.length := by
  fun_induction readHeaders known input with
  | case1 => simp at h
  | case2 known b more line rest' header hempty =>
      simp only [Prod.mk.injEq] at h
      rw [← h.2]
      simp only [rest', List.length_cons, List.length_drop]
      omega
  | case3 => simp at h
  | case4 known b more line rest' header hempty announced' hafter ih =>
      have hrest : rest'.length < (b :: more).length := by
        simp only [rest', List.length_cons, List.length_drop]
        omega
      exact Nat.lt_trans (ih h) hrest

/-- Reading a body never returns more bytes than there were. -/
theorem length_readBody_le (length : Nat) (input : Bytes) :
    (readBody length input).2.length ≤ input.length := by
  unfold readBody
  split
  · exact Nat.le_refl _
  · split
    · exact Nat.zero_le _
    · split <;> simp

/-- Reading goes on only after a body or a rejection. -/
def Outcome.goesOn : Outcome → Bool
  | .body _ => true
  | .rejected _ => true
  | _ => false

/-- A frame after which reading goes on consumes at least one byte. -/
theorem length_read_lt {input rest : Bytes} {outcome : Outcome}
    (h : read input = (outcome, rest)) (hgoes : outcome.goesOn = true) :
    rest.length < input.length := by
  unfold read at h
  split at h
  · simp only [Prod.mk.injEq] at h
    simp [← h.1, Outcome.goesOn] at hgoes
  · simp only [Prod.mk.injEq] at h
    simp [← h.1, Outcome.goesOn] at hgoes
  · next hheaders =>
      simp only [Prod.mk.injEq] at h
      exact h.2 ▸ length_readHeaders_lt hheaders
  · next hheaders =>
      simp only [Prod.mk.injEq] at h
      exact h.2 ▸ length_readHeaders_lt hheaders
  · next n rest' hheaders =>
      have hbody := length_readBody_le n rest'
      rw [h] at hbody
      exact Nat.lt_of_le_of_lt hbody (length_readHeaders_lt hheaders)

end LanguageServer.Frame
