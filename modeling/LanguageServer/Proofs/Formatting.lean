/-
# Formatting settles at once

What `format` prints for a source, stored as a file, is formatted: the check of it succeeds
without a word, and formatting prints it again (`Cli.printed_format_settles`). Indenting is
idempotent on lines, but a file is read as lines again first. Printing adds a line feed,
so that an empty line at the end of the source stays one, and the empty source turns into
an empty line.
-/

import LanguageServer.Cli.Command
import LanguageServer.Proofs.Reindent
import LanguageServer.Proofs.Utf8

namespace LanguageServer

open Text

theorem Block.closes_eq_of_trimStart {line line' : Line}
    (same : trimStart line' = trimStart line) : closes line' = closes line := by
  rw [closes, closes, opens_eq_of_trimStart same, ← contains_trimStart (by decide) line,
    ← contains_trimStart (by decide) line', same]

namespace Indentation

/-- Only the last indentation counts. -/
theorem atLevel_atLevel (level other : Nat) (line : Line) :
    atLevel level (atLevel other line) = atLevel level line := by
  rw [atLevel, trimStart_atLevel, ← atLevel]

theorem opens_atLevel (level : Nat) (line : Line) :
    Block.opens (atLevel level line) = Block.opens line :=
  Block.opens_eq_of_trimStart (trimStart_atLevel level line)

theorem closes_atLevel (level : Nat) (line : Line) :
    Block.closes (atLevel level line) = Block.closes line :=
  Block.closes_eq_of_trimStart (trimStart_atLevel level line)

theorem isEmpty_of_marks {marks : Line → Bool} (hempty : marks [] = false) {line : Line}
    (h : marks line = true) : line.isEmpty = false :=
  List.isEmpty_eq_false_iff.mpr (ne_nil_of_marks hempty h)

/-- Lines that are indented by blocks stay as they are when that is done again. -/
theorem fromLevel_fromLevel (level : Nat) (lines : List Line) :
    fromLevel level (fromLevel level lines) = fromLevel level lines := by
  induction lines generalizing level with
  | nil => rfl
  | cons line rest ih =>
      rw [fromLevel]
      split
      · next hempty => rw [fromLevel, if_pos hempty, ih]
      · split
        · next hopens =>
            have hopens' : Block.opens (atLevel level line) = true :=
              (opens_atLevel level line).trans hopens
            rw [fromLevel, isEmpty_of_marks rfl hopens', if_neg Bool.false_ne_true, if_pos hopens',
              atLevel_atLevel, ih]
        · next hopens =>
            split
            · next hcloses =>
                have hcloses' : Block.closes (atLevel (level - 1) line) = true :=
                  (closes_atLevel (level - 1) line).trans hcloses
                rw [fromLevel, isEmpty_of_marks rfl hcloses', if_neg Bool.false_ne_true,
                  opens_atLevel, if_neg hopens, if_pos hcloses', atLevel_atLevel, ih]
            · next hcloses =>
                -- A blank line at level zero is empty by now, and is left alone.
                rw [fromLevel, ih, opens_atLevel, if_neg hopens, closes_atLevel, if_neg hcloses,
                  atLevel_atLevel, ite_self]

/-- A line is indented without regard to the lines behind it. -/
theorem exists_fromLevel_cons (level : Nat) (line : Line) :
    ∃ line' level', ∀ rest, fromLevel level (line :: rest) = line' :: fromLevel level' rest := by
  simp only [fromLevel]
  split
  · exact ⟨_, _, fun _ => rfl⟩
  · split
    · exact ⟨_, _, fun _ => rfl⟩
    · split <;> exact ⟨_, _, fun _ => rfl⟩

theorem fromLevel_ne_nil (level : Nat) {lines : List Line} (h : lines ≠ []) :
    fromLevel level lines ≠ [] := by
  obtain ⟨line, rest, rfl⟩ := List.exists_cons_of_ne_nil h
  obtain ⟨line', level', hcons⟩ := exists_fromLevel_cons level line
  rw [hcons]
  exact List.cons_ne_nil _ _

/-- What is printed for a source with lines is these lines, each with a line feed. -/
theorem toList_reindent_feed {text : Text} (h : lines text ≠ []) :
    (reindent text ++ "\n").toList =
      (fromLevel 0 (lines text)).flatMap fun line => line ++ [.char '\n'] := by
  rw [← joinLines_append_feed (fromLevel_ne_nil 0 h), Text.toList_append, reindent]
  rfl

theorem reindent_of_lines_eq_nil {text : Text} (h : lines text = []) : reindent text = "" := by
  rw [reindent, h]
  rfl

/-- What is printed for a source, read as lines. -/
theorem lines_reindent_feed {text : Text} (h : .char '\r' ∉ text.toList) (hne : lines text ≠ []) :
    lines (reindent text ++ "\n") = fromLevel 0 (lines text) := by
  rw [lines, toList_reindent_feed hne,
    splitLines_ended fun line hline => (plain_of_mem_fromLevel h hline).1]
  refine (List.map_congr_left fun line hline => ?_).trans (List.map_id _)
  exact dropReturn_of_not_mem (plain_of_mem_fromLevel h hline).2

/-- What is printed for a source, read as a source again, is indented as it is. -/
theorem reindent_reindent_feed {text : Text} (h : .char '\r' ∉ text.toList) :
    reindent (reindent text ++ "\n") = reindent text ∧
      Text.ofList (joinLines (lines (reindent text ++ "\n"))) = reindent text := by
  by_cases hne : lines text = []
  · rw [reindent_of_lines_eq_nil hne]
    decide
  · have hlines := lines_reindent_feed h hne
    constructor
    · rw [reindent, hlines, fromLevel_fromLevel, ← reindent]
    · rw [hlines, reindent]

/-- Printing brings no returns in. -/
theorem return_not_mem_reindent_feed {text : Text} (h : .char '\r' ∉ text.toList) :
    .char '\r' ∉ (reindent text ++ "\n").toList := by
  by_cases hne : lines text = []
  · rw [reindent_of_lines_eq_nil hne]
    decide
  · rw [toList_reindent_feed hne]
    intro hmem
    obtain ⟨line, hline, hreturn⟩ := List.mem_flatMap.mp hmem
    rcases List.mem_append.mp hreturn with hreturn | hfeed
    · exact (plain_of_mem_fromLevel h hline).2 hreturn
    · exact absurd hfeed (by decide)

/-- What is printed for a string is a string. -/
theorem exists_reindent_eq (source : String) :
    ∃ printed : String, reindent source ++ "\n" = (printed : Text) := by
  rw [← Text.holdsHalf_eq_false_iff]
  by_cases hne : lines source = []
  · rw [reindent_of_lines_eq_nil hne]
    decide
  · rw [Text.holdsHalf, toList_reindent_feed hne, List.any_eq_false]
    intro c hc
    obtain ⟨line, hline, hc⟩ := List.mem_flatMap.mp hc
    rcases List.mem_append.mp hc with hline' | hfeed
    · rcases mem_of_mem_fromLevel hline hline' with rfl | ⟨other, hother, hc⟩
      · exact Bool.false_ne_true
      · obtain ⟨char, -, rfl⟩ := List.mem_map.mp (mem_of_mem_lines hother hc).1
        exact Bool.false_ne_true
    · rw [List.mem_singleton.mp hfeed]
      exact Bool.false_ne_true

end Indentation

theorem Text.unifyLineEnds_of_not_mem {text : List CodePoint} (h : .char '\r' ∉ text) :
    unifyLineEnds text = text := by
  fun_induction unifyLineEnds text with
  | case1 => rfl
  | case2 rest ih => exact absurd List.mem_cons_self h
  | case3 rest hnext ih => exact absurd List.mem_cons_self h
  | case4 c rest hfirst hsecond ih =>
      rw [ih fun hmem => h (List.mem_cons_of_mem _ hmem)]

namespace Cli

/-- A file that holds a text is read as this text with its line ends unified. -/
theorem readSource_encode {files : Files} {path text : String} (hpath : '\x00' ∉ path.toList)
    (hfile : files.read path = .ok (Utf8.encode text)) :
    readSource files path = .ok (.ok ⟨unifyLineEnds (text : Text).toList⟩) := by
  have hcheck : checkPath path = .ok () := by
    rw [checkPath, List.contains_eq_mem, decide_eq_false hpath]
    rfl
  rw [readSource, hcheck, hfile]
  simp only [bind, Except.bind, Utf8.decode_encode]
  rfl

/-- A file that holds a text without returns is read as this text. -/
theorem readSource_eq_ok {files : Files} {path text : String} (hpath : '\x00' ∉ path.toList)
    (hfile : files.read path = .ok (Utf8.encode text))
    (h : .char '\r' ∉ (text : Text).toList) : readSource files path = .ok (.ok text) := by
  rw [readSource_encode hpath hfile, unifyLineEnds_of_not_mem h]

theorem run_format [NestingLimits] {program : Program} {files : Files} {path : String}
    {source : Text} (h : readSource files path = .ok (.ok source)) (input : Bytes)
    (checkOnly : Bool) :
    (Command.format path checkOnly).run program files input =
      .ok (formatSource path checkOnly source) := by
  rw [Command.run, h]
  rfl

/-- For a source that is read from a file, `format` prints it indented anew, with a line feed
at the end. On a file that holds what has been printed, the check succeeds and prints
nothing, and `format` prints the same once more. -/
theorem printed_format_settles [NestingLimits] {source : String} (hsource : '\r' ∉ source.toList)
    {path : String} (hpath : '\x00' ∉ path.toList) (program : Program) (input : Bytes) :
    ∃ printed : String, (printed : Text) = Indentation.reindent source ++ "\n" ∧
      (∀ files, readSource files path = .ok (.ok source) →
        (Command.format path false).run program files input =
          .ok { exitCode := 0, stdout := printed }) ∧
      ∀ files, files.read path = .ok (Utf8.encode printed) →
        (Command.format path true).run program files input = .ok { exitCode := 0 } ∧
        (Command.format path false).run program files input =
          .ok { exitCode := 0, stdout := printed } := by
  have hreturn : .char '\r' ∉ (source : Text).toList := mt Text.char_mem_ofChars.mp hsource
  obtain ⟨printed, hprinted⟩ := Indentation.exists_reindent_eq source
  obtain ⟨hagain, hlines⟩ := Indentation.reindent_reindent_feed hreturn
  have hfeed := Indentation.return_not_mem_reindent_feed hreturn
  rw [hprinted] at hagain hlines hfeed
  refine ⟨printed, hprinted.symm, fun files hread => ?_, fun files hfile => ?_⟩
  · rw [run_format hread, formatSource, if_neg Bool.false_ne_true, hprinted]
  have hread : readSource files path = .ok (.ok printed) := readSource_eq_ok hpath hfile hfeed
  have hcheck : formatSource path true printed = { exitCode := 0 } := by
    simp only [formatSource, hagain, hlines, if_true]
  have hformat : formatSource path false printed = { exitCode := 0, stdout := printed } := by
    simp only [formatSource, hagain, hprinted, Bool.false_eq_true, if_false]
  rw [run_format hread, run_format hread, hcheck, hformat]
  exact ⟨rfl, rfl⟩

/-- A source with a no-break space before a line, a blank line inside a block, an unmatched
closing brace, and a line of one blank at the end. -/
theorem block_settles :
    let source := "\x7d fn f() \x7b\n\u00a0x\n\t\n \x7d\n "
    let printed := "\x7d fn f() \x7b\n    x\n    \n\x7d\n\n"
    let files := Files.ofRead (.ok (Utf8.encode printed))
    letI : NestingLimits := .usual
    '\r' ∉ source.toList ∧ '\x00' ∉ "a.toy".toList ∧
      Indentation.reindent source ++ "\n" = printed ∧
      files.read "a.toy" = .ok (Utf8.encode printed) ∧
      (Command.format "a.toy" true).run .tool files [] = .ok { exitCode := 0 } ∧
      (Command.format "a.toy" false).run .tool files [] =
        .ok { exitCode := 0, stdout := printed } := by
  intro source printed files
  let _ : NestingLimits := .usual
  have hsource : '\r' ∉ source.toList := by decide
  have hpath : '\x00' ∉ "a.toy".toList := by decide
  have hprinted : Indentation.reindent source ++ "\n" = printed := by decide +kernel
  obtain ⟨printed', hprinted', -, hsettles⟩ := printed_format_settles hsource hpath .tool []
  obtain rfl : printed' = printed := Text.ofString_inj.mp (hprinted'.trans hprinted)
  exact ⟨hsource, hpath, hprinted, rfl, hsettles files rfl⟩

end Cli

end LanguageServer
