/-
# Packets

A message is sent as the text of a value. Building it can fail: the value may be one that
cannot be printed, and its text may hold half of a surrogate pair and so have no form in
UTF-8. A `Packet` is a message that has been built.
-/

import LanguageServer.Frame.Basic
import LanguageServer.Json.Printer

namespace LanguageServer

/-- How many containers may be nested in a text that is read and in a value that is
printed, as each takes a call within a call. There is room at least for the messages that
have a shape of their own. -/
class NestingLimits where
  reading : Nat
  writing : Nat
  enough : 8 ≤ writing

/-- The room that is left of the usual limit of a thousand calls. -/
@[reducible]
def NestingLimits.usual : NestingLimits := ⟨900, 900, by decide⟩

namespace Rpc

/-- Why a message cannot be built. -/
inductive BuildFault
  | unprintable (fault : Json.PrintFault)
  | unencodable (fault : Text.Unencodable)
  deriving DecidableEq, Repr

/-- The wording of a fault. -/
def BuildFault.message : BuildFault → String
  | .unprintable fault => fault.message
  | .unencodable fault => fault.message

/-- A message that can be sent: a value with its text, which has a form in UTF-8. -/
structure Packet where
  value : Json
  content : String
  printed : value.render = content

/-- The bytes that are sent. -/
def Packet.frame (packet : Packet) : Bytes :=
  Frame.encode packet.content

variable [NestingLimits]

/-- Builds the message that a value is. -/
def build (value : Json) : Except BuildFault Packet :=
  match value.printFault? NestingLimits.writing with
  | some fault => .error (.unprintable fault)
  | none =>
      match hcontent : value.render.asString with
      | .error fault => .error (.unencodable fault)
      | .ok content => .ok ⟨value, content, Text.asString_eq_ok_iff.mp hcontent⟩

/-- The packet of a value is built if the value can be printed. -/
theorem build_eq_ok_iff {value : Json} {packet : Packet} :
    build value = .ok packet ↔
      value.printFault? NestingLimits.writing = none ∧ packet.value = value := by
  constructor
  · intro h
    rw [build] at h
    split at h
    · cases h
    · next hprints =>
        split at h
        · cases h
        · cases h
          exact ⟨hprints, rfl⟩
  · rintro ⟨hprints, rfl⟩
    obtain ⟨value, content, hprinted⟩ := packet
    have hstring : value.render.asString = .ok content := Text.asString_eq_ok_iff.mpr hprinted
    rw [build]
    simp only [hprints]
    split
    · next fault hfault => cases hstring.symm.trans hfault
    · next content' hcontent =>
        obtain rfl : content = content' := Except.ok.inj (hstring.symm.trans hcontent)
        rfl

theorem value_of_build {value : Json} {packet : Packet} (h : build value = .ok packet) :
    packet.value = value :=
  (build_eq_ok_iff.mp h).2

/-- A value can be built if it can be printed and its text holds no half of a pair. -/
theorem exists_build_iff {value : Json} :
    (∃ packet, build value = .ok packet) ↔
      value.printFault? NestingLimits.writing = none ∧ value.render.holdsHalf = false := by
  constructor
  · rintro ⟨packet, h⟩
    obtain ⟨hprints, rfl⟩ := build_eq_ok_iff.mp h
    rw [packet.printed]
    exact ⟨hprints, Text.holdsHalf_ofString _⟩
  · rintro ⟨hprints, hwhole⟩
    cases hstring : value.render.asString with
    | ok content =>
        exact ⟨⟨value, content, Text.asString_eq_ok_iff.mp hstring⟩,
          build_eq_ok_iff.mpr ⟨hprints, rfl⟩⟩
    | error fault =>
        have hhalf := Text.asString_eq_error_iff.mp ⟨fault, hstring⟩
        rw [hwhole] at hhalf
        cases hhalf

end Rpc

end LanguageServer
