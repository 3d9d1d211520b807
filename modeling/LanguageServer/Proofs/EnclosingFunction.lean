/-
# The function around a line

A line lies in a function if the block of its declaration is not closed before the line. The
calls on a line are counted to the nearest declaration, if the line lies in that one. Where
functions are nested this misses the outer one: behind the end of an inner function the nearest
declaration is the one of the inner function, and the search is given up there. It never finds
a wrong function, and it finds none exactly if a closed one is the nearest
(`CallSite.enclosingAt?_eq_none_iff`).
-/

import LanguageServer.Proofs.ByNumber.Block
import Mathlib.Order.Bounds.Defs

namespace LanguageServer

open Text

variable {lines : List Line} {number start count : Nat}

/-- Whether the line of a number declares a function. -/
def Declaration.declaresAt (lines : List Line) (number : Nat) : Bool :=
  lines[number]?.any fun line => (function? line).isSome

namespace Declared

theorem From.declaresAt {declared : Declared} (h : declared.From lines) :
    Declaration.declaresAt lines declared.number =
      (Declaration.function? declared.line).isSome := by
  rw [Declaration.declaresAt, h.line, Option.any_some]

theorem From.closing?_eq {declared : Declared} (h : declared.From lines) :
    declared.closing? = Block.closing? lines declared.number := by
  rw [closing?, Block.closing?, h]

/-- The block of a declaration reaches as far as a line if it is not closed before it. -/
theorem From.reaches_iff {declared : Declared} (h : declared.From lines) :
    declared.reaches number = true ↔
      ∀ last, Block.closing? lines declared.number = some last → number ≤ last := by
  rw [reaches, h.closing?_eq]
  cases Block.closing? lines declared.number with
  | none => exact iff_of_true rfl fun _ hlast => by cases hlast
  | some last => simp

/-- A line with what follows it is told by its number. -/
theorem From.eq_of_number_eq {declared other : Declared} (h : declared.From lines)
    (hother : other.From lines) (hnumber : declared.number = other.number) : declared = other := by
  obtain ⟨n, line, rest⟩ := declared
  obtain ⟨m, line', rest'⟩ := other
  cases hnumber
  obtain ⟨rfl, rfl⟩ := List.cons.inj (h.symm.trans hother)
  rfl

/-- The nearest declaration on the first lines of a document, or that there is none. -/
def IsNearest (lines : List Line) (count : Nat) : Option Declared → Prop
  | none => ∀ number < count, Declaration.declaresAt lines number = false
  | some declared =>
      declared.From lines ∧ declared.number < count ∧
        Declaration.declaresAt lines declared.number = true ∧
          ∀ number, declared.number < number → number < count →
            Declaration.declaresAt lines number = false

/-- A line that declares nothing leaves the nearest declaration as it is. -/
theorem IsNearest.extend {known : Option Declared} (h : IsNearest lines count known)
    (hhere : Declaration.declaresAt lines count = false) : IsNearest lines (count + 1) known := by
  have hextend {number : Nat}
      (hbefore : number < count → Declaration.declaresAt lines number = false)
      (hlt : number < count + 1) : Declaration.declaresAt lines number = false := by
    rcases Nat.lt_succ_iff_lt_or_eq.mp hlt with hlt | rfl
    · exact hbefore hlt
    · exact hhere
  cases known with
  | none => exact fun number hlt => hextend (h number) hlt
  | some nearest =>
      obtain ⟨hfrom, hbefore, hdeclares, hbetween⟩ := h
      exact ⟨hfrom, Nat.lt_succ_of_lt hbefore, hdeclares,
        fun number hgt hlt => hextend (hbetween number hgt) hlt⟩

theorem isNearest_nearestIn (h : count ≤ lines.length) :
    IsNearest lines count (nearestIn lines count) := by
  induction count with
  | zero => exact fun _ hlt => absurd hlt (Nat.not_lt_zero _)
  | succ count ih =>
      have hfrom : From ⟨count, lines[count], lines.drop (count + 1)⟩ lines :=
        drop_of_getElem? (List.getElem?_eq_getElem h)
      have hdeclares := hfrom.declaresAt
      rw [nearestIn_succ hfrom rfl, nearest]
      split
      · next hsome =>
          refine ⟨hfrom, Nat.lt_succ_self _, hdeclares.trans hsome, fun number hgt hlt => ?_⟩
          exact absurd (Nat.le_of_lt_succ hlt) (Nat.not_le_of_lt hgt)
      · next hnone =>
          exact (ih (Nat.le_of_succ_le h)).extend (hdeclares.trans (eq_false_of_ne_true hnone))

/-- No declaration comes behind the nearest one. -/
theorem IsNearest.le {declared : Declared} (h : IsNearest lines count (some declared))
    (hdeclares : Declaration.declaresAt lines start = true) (hlt : start < count) :
    start ≤ declared.number := by
  refine Nat.le_of_not_lt fun hgt => ?_
  rw [h.2.2.2 start hgt hlt] at hdeclares
  cases hdeclares

end Declared

open Declaration

namespace CallSite

/-- The function that the calls on a line are counted to: of the declarations up to the line the
nearest one, if its block reaches the line. -/
def enclosingAt? (lines : List Line) (number : Nat) : Option Declared :=
  enclosing? (Declared.nearestIn lines (number + 1)) number

/-- A line declares a function that another line lies in: it does not come behind that line,
and the block is not closed before that line. -/
structure Encloses (lines : List Line) (start number : Nat) : Prop where
  declares : declaresAt lines start = true
  before : start ≤ number
  unclosed : ∀ last, Block.closing? lines start = some last → number ≤ last

/-- A declaration is not the nearest one to a line, and the block of the nearest one is closed
before that line. -/
def Hidden (lines : List Line) (start number : Nat) : Prop :=
  ∃ nearest, start < nearest ∧ nearest ≤ number ∧ declaresAt lines nearest = true ∧
    (∀ other, nearest < other → other ≤ number → declaresAt lines other = false) ∧
      ∃ last < number, Block.closing? lines nearest = some last

theorem enclosingAt?_eq_some {declared : Declared} (h : number < lines.length)
    (hfound : enclosingAt? lines number = some declared) :
    Declared.IsNearest lines (number + 1) (some declared) ∧
      Encloses lines declared.number number := by
  obtain ⟨hnearest, hreaches⟩ := Option.filter_eq_some_iff.mp hfound
  have hspec := Declared.isNearest_nearestIn (Nat.succ_le_of_lt h)
  rw [hnearest] at hspec
  exact ⟨hspec, hspec.2.2.1, Nat.le_of_lt_succ hspec.2.1, hspec.1.reaches_iff.mp hreaches⟩

/-- The function that a line is counted to is declared no later than that of a later line. -/
theorem enclosingAt?_mono {declared later : Declared} {number' : Nat} (hle : number ≤ number')
    (h' : number' < lines.length) (hfound : enclosingAt? lines number = some declared)
    (hfound' : enclosingAt? lines number' = some later) : declared.number ≤ later.number := by
  obtain ⟨⟨-, hlt, hdeclares, -⟩, -⟩ := enclosingAt?_eq_some (Nat.lt_of_le_of_lt hle h') hfound
  exact (enclosingAt?_eq_some h' hfound').1.le hdeclares (by omega)

/-- The function that is found for a line is the innermost one. -/
theorem isGreatest_of_enclosingAt? {declared : Declared} (h : number < lines.length)
    (hfound : enclosingAt? lines number = some declared) :
    declared.From lines ∧ IsGreatest {start | Encloses lines start number} declared.number := by
  obtain ⟨hnearest, hencloses⟩ := enclosingAt?_eq_some h hfound
  exact ⟨hnearest.1, hencloses, fun start hstart =>
    hnearest.le hstart.declares (Nat.lt_succ_of_le hstart.before)⟩

/-- No function is found for a line exactly if all that it lies in are hidden by a function that
is closed before it. -/
theorem enclosingAt?_eq_none_iff (h : number < lines.length) :
    enclosingAt? lines number = none ↔
      ∀ start, Encloses lines start number → Hidden lines start number := by
  have hspec := Declared.isNearest_nearestIn (Nat.succ_le_of_lt h)
  constructor
  · intro hnone start hstart
    have hreaches := Option.filter_eq_none_iff.mp hnone
    cases hnearest : Declared.nearestIn lines (number + 1) with
    | none =>
        rw [hnearest] at hspec
        have hfalse := hspec start (Nat.lt_succ_of_le hstart.before)
        rw [hstart.declares] at hfalse
        cases hfalse
    | some nearest =>
        rw [hnearest] at hspec
        obtain ⟨hfrom, hlt, hdeclares, hbetween⟩ := hspec
        -- The search has ended at the nearest declaration, so its block does not reach the line.
        have hclosed : ∃ last < number, Block.closing? lines nearest.number = some last := by
          have hshort := mt hfrom.reaches_iff.mpr (hreaches nearest hnearest)
          simp only [not_forall, Nat.not_le] at hshort
          obtain ⟨last, hclosing, hlast⟩ := hshort
          exact ⟨last, hlast, hclosing⟩
        have hbefore : start < nearest.number := by
          refine Nat.lt_of_le_of_ne ?_ ?_
          · exact Declared.IsNearest.le ⟨hfrom, hlt, hdeclares, hbetween⟩ hstart.declares
              (Nat.lt_succ_of_le hstart.before)
          · rintro rfl
            obtain ⟨last, hlast, hclosing⟩ := hclosed
            exact absurd (hstart.unclosed last hclosing) (Nat.not_le_of_lt hlast)
        exact ⟨nearest.number, hbefore, Nat.le_of_lt_succ hlt, hdeclares,
          fun other hgt hle => hbetween other hgt (Nat.lt_succ_of_le hle), hclosed⟩
  · intro hhidden
    by_contra hfound
    obtain ⟨declared, hdeclared⟩ := Option.ne_none_iff_exists'.mp hfound
    obtain ⟨hnearest, hencloses⟩ := enclosingAt?_eq_some h hdeclared
    obtain ⟨nearest, hgt, hle, hdeclares, -⟩ := hhidden declared.number hencloses
    exact absurd (hnearest.le hdeclares (Nat.lt_succ_of_le hle)) (Nat.not_le_of_lt hgt)

end CallSite

end LanguageServer
