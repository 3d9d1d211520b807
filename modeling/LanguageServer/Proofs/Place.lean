/-
# Places inside a document

What it means that a place or a range lies inside a document, that one range is
contained in another one, and which word a range covers.
-/

import LanguageServer.Document.Store
import LanguageServer.Proofs.Column

namespace LanguageServer

open Text

/-- A place lies in lines: it names one of them and a character of that line, or the
end of it. -/
def Position.Inside (p : Position) (lines : List Line) : Prop :=
  ∃ line, lines[p.line]? = some line ∧ p.character ≤ line.length

/-- A place is another one or comes before it. -/
def Position.NotAfter (p q : Position) : Prop :=
  p.line < q.line ∨ p.line = q.line ∧ p.character ≤ q.character

namespace Range

/-- A range lies in lines: its two places do, and they are in order. -/
structure Inside (r : Range) (lines : List Line) : Prop where
  start : r.start.Inside lines
  stop : r.stop.Inside lines
  ordered : r.start.NotAfter r.stop

/-- A range is contained in another one. -/
structure Within (inner outer : Range) : Prop where
  start : outer.start.NotAfter inner.start
  stop : inner.stop.NotAfter outer.stop

/-- A range covers a word: it is a part of one line, and the word is what stands
there. -/
def Covers (r : Range) (lines : List Line) (word : List CodePoint) : Prop :=
  r.start.line = r.stop.line ∧ ∃ line, lines[r.start.line]? = some line ∧
    slice line r.start.character r.stop.character = word

section OnLine

variable {lines : List Line} {line word : Line} {number start stop : Nat}

theorem inside_onLine (hline : lines[number]? = some line) (hordered : start ≤ stop)
    (hstop : stop ≤ line.length) : (onLine number start stop).Inside lines where
  start := ⟨line, hline, Nat.le_trans hordered hstop⟩
  stop := ⟨line, hline, hstop⟩
  ordered := Or.inr ⟨rfl, hordered⟩

/-- The part of a line where a word stands lies inside. -/
theorem inside_word (hline : lines[number]? = some line)
    (hword : start + word.length ≤ line.length) :
    (onLine number start (start + word.length)).Inside lines :=
  inside_onLine hline (Nat.le_add_right ..) hword

theorem covers_word (hline : lines[number]? = some line) (hword : word <+: line.drop start) :
    (onLine number start (start + word.length)).Covers lines word :=
  ⟨rfl, line, hline, slice_of_prefix_drop hword⟩

end OnLine

end Range

theorem Position.before_iff {p q : Position} :
    p.before q = true ↔ p.line < q.line ∨ p.line = q.line ∧ p.character < q.character := by
  simp only [before, Bool.or_eq_true, Bool.and_eq_true, decide_eq_true_eq]

/-- A place counts as being in order with the ones that do not come before it. -/
theorem Position.notAfter_of_not_before {p q : Position} (h : p.before q = false) :
    q.NotAfter p := by
  simp only [before, Bool.or_eq_false_iff, Bool.and_eq_false_iff, decide_eq_false_iff_not] at h
  rw [NotAfter]
  omega

theorem Position.notAfter_of_before {p q : Position} (h : p.before q = true) : p.NotAfter q := by
  rw [before_iff] at h
  rw [NotAfter]
  omega

/-- The numbers of lines, or of the characters of a line, ascend. -/
theorem pairwise_zipIdx {α : Type} (items : List α) :
    items.zipIdx.Pairwise fun a b => a.2 < b.2 := by
  rw [← List.pairwise_map (f := Prod.snd) (R := (· < ·)), List.zipIdx_map_snd]
  exact List.pairwise_lt_range'

/-- What is made of each line of a text is made of the line that its number names. -/
theorem mem_zipIdx_filterMap_iff {α : Type} {f : Line → Nat → Option α} {lines : List Line}
    {a : α} :
    (a ∈ lines.zipIdx.filterMap fun (line, number) => f line number) ↔
      ∃ (number : Nat) (line : Line), lines[number]? = some line ∧ f line number = some a := by
  rw [List.mem_filterMap]
  constructor
  · rintro ⟨⟨line, number⟩, hmem, ha⟩
    exact ⟨number, line, List.mem_zipIdx_iff_getElem?.mp hmem, ha⟩
  · rintro ⟨number, line, hline, ha⟩
    exact ⟨(line, number), List.mem_zipIdx_iff_getElem?.mpr hline, ha⟩

theorem mem_zipIdx_flatMap_iff {α : Type} {f : Line → Nat → List α} {lines : List Line}
    {a : α} :
    (a ∈ lines.zipIdx.flatMap fun (line, number) => f line number) ↔
      ∃ (number : Nat) (line : Line), lines[number]? = some line ∧ a ∈ f line number := by
  rw [List.mem_flatMap]
  constructor
  · rintro ⟨⟨line, number⟩, hmem, ha⟩
    exact ⟨number, line, List.mem_zipIdx_iff_getElem?.mp hmem, ha⟩
  · rintro ⟨number, line, hline, ha⟩
    exact ⟨(line, number), List.mem_zipIdx_iff_getElem?.mpr hline, ha⟩

namespace Store

/-- A document is open, and something holds of its lines. -/
def HasLines (store : Store) (uri : Text) (holds : List Line → Prop) : Prop :=
  ∃ text, store.get? uri = some text ∧ holds (lines text)

/-- Each entry of the store is the document that its name finds. -/
theorem get?_of_mem_entries {store : Store} {uri text : Text}
    (h : (uri, text) ∈ store.entries) : store.get? uri = some text := by
  obtain ⟨entries, hdistinct⟩ := store
  simp only [get?] at h ⊢
  obtain ⟨before, after, rfl⟩ := List.append_of_mem h
  rw [List.map_append, List.map_cons, List.nodup_append] at hdistinct
  have hbefore : before.lookup uri = none := by
    rw [List.lookup_eq_none_iff]
    intro entry hentry
    exact bne_iff_ne.mpr fun huri =>
      hdistinct.2.2 _ (List.mem_map_of_mem hentry) _ List.mem_cons_self huri.symm
  rw [List.lookup_append, List.lookup_cons_self, hbefore]
  rfl

theorem mem_entries_of_get? {store : Store} {uri text : Text} (h : store.get? uri = some text) :
    (uri, text) ∈ store.entries := by
  obtain ⟨before, after, hentries, -⟩ := List.lookup_eq_some_iff.mp h
  rw [hentries]
  exact List.mem_append_right _ List.mem_cons_self

end Store

end LanguageServer
