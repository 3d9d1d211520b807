/-
# Document names

A document is named by a URI with a scheme. The check is the lenient one of web
addresses: control characters and blanks in front are passed over, and tabs and
line ends count nowhere. An authority, if there is one, must not hold brackets
except around an address of the sixth or a future version, nor characters that
a compatibility normalization would turn into a delimiter.
-/

import LanguageServer.Json.Basic
import LanguageServer.Text.CharTable
import LanguageServer.Text.Numeral
import LanguageServer.Text.Search

namespace LanguageServer.Uri

/-- An ASCII letter. -/
def isAsciiLetter (c : CodePoint) : Bool :=
  decide (('a' ≤ c ∧ c ≤ 'z') ∨ ('A' ≤ c ∧ c ≤ 'Z'))

/-- A character that may stand in a scheme after its first letter. -/
def isSchemeChar (c : CodePoint) : Bool :=
  isAsciiLetter c || Text.isAsciiDigit c || c = '+' || c = '-' || c = '.'

/-- A hexadecimal digit in either case. -/
def isHexDigit (c : CodePoint) : Bool :=
  Text.isAsciiDigit c || decide (('a' ≤ c ∧ c ≤ 'f') ∨ ('A' ≤ c ∧ c ≤ 'F'))

/-- The name without what the check passes over. -/
def visible (name : List CodePoint) : List CodePoint :=
  (name.dropWhile fun c => c.toNat ≤ 0x20).filter fun c => c ≠ '\t' ∧ c ≠ '\r' ∧ c ≠ '\n'

/-- What follows the scheme and its colon, if there is a scheme. -/
def afterScheme? (name : List CodePoint) : Option (List CodePoint) :=
  let scheme := name.takeWhile (· ≠ .char ':')
  let rest := name.dropWhile (· ≠ .char ':')
  match scheme, rest with
  | first :: _, _ :: rest =>
      if isAsciiLetter first && scheme.all isSchemeChar then some rest else none
  | _, _ => none

/-- The authority after a scheme: what stands between two slashes and the end of
that part. -/
def authority : List CodePoint → List CodePoint
  | .char '/' :: .char '/' :: rest => rest.takeWhile fun c => c ≠ '/' ∧ c ≠ '?' ∧ c ≠ '#'
  | _ => []

/-- One of the four numbers of an address of the fourth version: up to 255,
without leading zeros. -/
def isOctet (part : List CodePoint) : Bool :=
  !part.isEmpty && part.all Text.isAsciiDigit && part.length ≤ 3
    && (part = [.char '0'] || part.head? ≠ some (.char '0'))
    && part.foldl (fun n c => n * 10 + (c.toNat - '0'.toNat)) 0 ≤ 255

/-- An address of the fourth version. -/
def isVersion4 (host : List CodePoint) : Bool :=
  let parts := Text.pieces (.char '.') host
  parts.length = 4 && parts.all isOctet

/-- One of the groups of an address of the sixth version. -/
def isGroup (part : List CodePoint) : Bool :=
  !part.isEmpty && part.length ≤ 4 && part.all isHexDigit

/-- The groups of an address, with a trailing address of the fourth version as
the two groups it fills. -/
def groups? (host : List CodePoint) : Option (List (List CodePoint)) :=
  let parts := Text.pieces (.char ':') host
  match parts.getLast? with
  | some last =>
      if last.contains '.' then
        if isVersion4 last then some (parts.dropLast ++ [[.char '0'], [.char '0']]) else none
      else some parts
  | none => none

/-- Whether groups make up an address: eight of them, or fewer around one gap,
which is an empty group in the inside. A gap at an end leaves that end empty
too. -/
def areGroups (parts : List (List CodePoint)) : Bool :=
  let inner := (parts.drop 1).dropLast
  match inner.findIdx? List.isEmpty with
  | none => parts.length = 8 && parts.all isGroup
  | some gap =>
      let front := parts.take (gap + 1)
      let back := parts.drop (gap + 2)
      let front := if front = [[]] then [] else front
      let back := if back = [[]] then [] else back
      parts.length ≤ 9 && front.all isGroup && back.all isGroup && front.length + back.length ≤ 7

/-- An address of the sixth version, with an optional zone after a percent sign. -/
def isVersion6 (host : List CodePoint) : Bool :=
  let address := host.takeWhile (· ≠ .char '%')
  let zone := host.dropWhile (· ≠ .char '%')
  let zoneFine := zone.isEmpty || (zone.length ≥ 2 && !(zone.drop 1).contains '%')
  zoneFine && 3 ≤ (Text.pieces (.char ':') address).length
    && match groups? address with
      | some parts => areGroups parts
      | none => false

/-- An address of a future version: a version number in hexadecimal, a point and
at least one more character. -/
def isFuture (host : List CodePoint) : Bool :=
  match host with
  | .char 'v' :: rest =>
      let number := rest.takeWhile isHexDigit
      let tail := rest.dropWhile isHexDigit
      !number.isEmpty && tail.head? = some (.char '.') && 2 ≤ tail.length
  | _ => false

/-- A host that may stand in brackets. -/
def isBracketHost (host : List CodePoint) : Bool :=
  if host.head? = some (.char 'v') then isFuture host else isVersion6 host

/-- The part of an authority after the last at sign: the host and what belongs to
it. -/
def hostPart (name : List CodePoint) : List CodePoint :=
  (name.reverse.takeWhile (· ≠ .char '@')).reverse

/-- Whether the brackets of an authority are in order. The host in them may be
preceded by the user's name, and only a colon may come right after it. -/
def bracketsFine (name : List CodePoint) : Bool :=
  let opened := name.contains '['
  let closed := name.contains ']'
  if opened && closed then
    let host := hostPart name
    if host.contains '[' then
      let inside := (host.dropWhile (· ≠ .char '[')).drop 1
      let behind := (inside.dropWhile (· ≠ .char ']')).drop 1
      host.head? = some (.char '[') && (behind.isEmpty || behind.head? = some (.char ':'))
        && isBracketHost (inside.takeWhile (· ≠ .char ']'))
    else isBracketHost (host.takeWhile (· ≠ .char ':'))
  else !opened && !closed

/-- Characters whose compatibility form holds a delimiter of an authority. -/
def hiddenDelimiters : Text.CharTable := [
  (0x2047, 0x2049), (0x2100, 0x2101), (0x2105, 0x2106), (0x2A74, 0x2A74), (0xFE13, 0xFE13),
  (0xFE16, 0xFE16), (0xFE55, 0xFE56), (0xFE5F, 0xFE5F), (0xFE6B, 0xFE6B), (0xFF03, 0xFF03),
  (0xFF0F, 0xFF0F), (0xFF1A, 0xFF1A), (0xFF1F, 0xFF20)]

/-- Whether a text is the name of a document. -/
def isValid (name : Text) : Bool :=
  match afterScheme? (visible name.toList) with
  | none => false
  | some rest =>
      let authority := authority rest
      bracketsFine authority && authority.all fun c => !hiddenDelimiters.contains c.toNat

/-- The name that a value is. It is kept as it was given. -/
def ofJson? (value : Json) : Option Text :=
  value.asString?.filter isValid

end LanguageServer.Uri
