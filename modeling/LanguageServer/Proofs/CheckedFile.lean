/-
# The check and the server agree

A source can be checked as a file and as an open document. A file has its line ends unified
before it is split into lines, a document is split first and loses one carriage return at the
end of each line. Where a carriage return stands only in front of a line feed, both come to
the same lines (`Text.lines_unifyLineEnds`), so that the check prints the numbers of the lines
for which the server announces diagnostics (`Cli.check_prints_announced`).

A carriage return elsewhere makes a difference: in a file it ends a line, in a document it is
a part of one.
-/

import LanguageServer.Proofs.DocumentEdit
import LanguageServer.Proofs.Formatting

namespace LanguageServer

open Text

namespace Text

/-- Every carriage return is followed by a line feed. -/
def ReturnsBeforeFeeds (text : List CodePoint) : Prop :=
  ∀ i, text[i]? = some (.char '\r') → text[i + 1]? = some (.char '\n')

instance (text : List CodePoint) : Decidable (ReturnsBeforeFeeds text) :=
  decidable_of_iff
    (∀ i < text.length, text[i]? = some (.char '\r') → text[i + 1]? = some (.char '\n'))
    ⟨fun h i hreturn => h i (List.getElem?_eq_some_iff.mp hreturn).1 hreturn, fun h i _ => h i⟩

theorem ReturnsBeforeFeeds.tail {c : CodePoint} {rest : List CodePoint}
    (h : ReturnsBeforeFeeds (c :: rest)) : ReturnsBeforeFeeds rest :=
  fun i hreturn => h (i + 1) hreturn

theorem ReturnsBeforeFeeds.getLast? {text : List CodePoint} (h : ReturnsBeforeFeeds text) :
    text.getLast? ≠ some (.char '\r') := by
  intro hlast
  rw [List.getLast?_eq_getElem?] at hlast
  have hlt := (List.getElem?_eq_some_iff.mp (h _ hlast)).1
  omega

theorem dropReturn_cons_of_ne {c : CodePoint} (h : c ≠ '\r') (line : Line) :
    dropReturn (c :: line) = c :: dropReturn line := by
  cases line with
  | nil => exact dropReturn_of_getLast? fun hlast => h (Option.some.inj hlast)
  | cons d line =>
      rw [dropReturn, dropReturn, List.getLast?_cons_cons]
      split <;> rfl

theorem return_not_mem_unifyLineEnds (text : List CodePoint) :
    .char '\r' ∉ unifyLineEnds text := by
  fun_induction unifyLineEnds text with
  | case1 => exact List.not_mem_nil
  | case2 rest ih => exact List.not_mem_cons_of_ne_of_not_mem (by decide) ih
  | case3 rest hnext ih => exact List.not_mem_cons_of_ne_of_not_mem (by decide) ih
  | case4 c rest hfirst hsecond ih =>
      exact List.not_mem_cons_of_ne_of_not_mem (fun h => hsecond h.symm) ih

/-- Between the line feeds, unifying the line ends takes a carriage return off each end. -/
theorem pieces_unifyLineEnds {text : List CodePoint} (h : ReturnsBeforeFeeds text) :
    pieces (.char '\n') (unifyLineEnds text) = (pieces (.char '\n') text).map dropReturn := by
  fun_induction unifyLineEnds text with
  | case1 => rfl
  | case2 rest ih =>
      have hreturn : pieces (.char '\n') (.char '\r' :: .char '\n' :: rest) =
          [.char '\r'] :: pieces (.char '\n') rest :=
        pieces_append_separator (by decide : CodePoint.char '\n' ∉ [.char '\r']) rest
      rw [hreturn, pieces, if_pos rfl, ih h.tail.tail]
      rfl
  | case3 rest hnext ih =>
      have hfeed : rest[0]? = some (.char '\n') := h 0 rfl
      cases rest with
      | nil => cases hfeed
      | cons c later => exact absurd (congrArg (· :: later) (Option.some.inj hfeed)) (hnext later)
  | case4 c rest hfirst hsecond ih =>
      by_cases hfeed : c = '\n'
      · subst hfeed
        rw [pieces, if_pos rfl, ih h.tail, pieces, if_pos rfl]
        rfl
      · obtain ⟨piece, more, hrest, hpieces⟩ := pieces_cons_of_ne hfeed rest
        obtain ⟨piece', more', hrest', hpieces'⟩ := pieces_cons_of_ne hfeed (unifyLineEnds rest)
        have hmore := ih h.tail
        rw [hrest, hrest', List.map_cons] at hmore
        obtain ⟨rfl, rfl⟩ := List.cons.inj hmore
        rw [hpieces, hpieces', List.map_cons, dropReturn_cons_of_ne hsecond]

/-- The last of some lines that are joined stands at the end. -/
theorem suffix_joinLines {parts : List Line} {line : Line} (h : parts.getLast? = some line) :
    line <:+ joinLines parts := by
  induction parts with
  | nil => cases h
  | cons first rest ih =>
      cases rest with
      | nil =>
          obtain rfl := Option.some.inj h
          exact (joinLines_singleton first).symm ▸ List.suffix_rfl
      | cons next rest =>
          rw [joinLines_cons_cons]
          rw [List.getLast?_cons_cons] at h
          exact (ih h).trans ((List.suffix_cons _ _).trans (List.suffix_append _ _))

/-- What stands behind the last line feed does not end with a carriage return. -/
theorem getLast?_pieces {text : List CodePoint} (h : ReturnsBeforeFeeds text) {piece : Line}
    (hlast : (pieces (.char '\n') text).getLast? = some piece) :
    piece.getLast? ≠ some (.char '\r') := by
  intro hreturn
  obtain ⟨before, hbefore⟩ := joinLines_pieces text ▸ suffix_joinLines hlast
  refine h.getLast? ?_
  rw [← hbefore, List.getLast?_append, hreturn, Option.some_or]

/-- A text that has its line ends unified has the same lines, if it has carriage returns only
in front of line feeds. -/
theorem lines_unifyLineEnds {text : Text} (h : ReturnsBeforeFeeds text.toList) :
    lines (Text.ofList (unifyLineEnds text.toList)) = lines text := by
  have hpieces := pieces_unifyLineEnds h
  have hbare : ∀ line ∈ dropEmptyLast (pieces (.char '\n') (unifyLineEnds text.toList)),
      dropReturn line = line := by
    intro line hline
    refine dropReturn_of_not_mem fun hreturn => return_not_mem_unifyLineEnds text.toList ?_
    exact (mem_of_mem_pieces (mem_of_mem_dropEmptyLast hline) hreturn).1
  have hlast : ((pieces (.char '\n') text.toList).map dropReturn).getLast? =
      (pieces (.char '\n') text.toList).getLast? := by
    rw [List.getLast?_map]
    cases hpiece : (pieces (.char '\n') text.toList).getLast? with
    | none => rfl
    | some piece => rw [Option.map_some, dropReturn_of_getLast? (getLast?_pieces h hpiece)]
  calc
    lines (Text.ofList (unifyLineEnds text.toList)) =
        dropEmptyLast (pieces (.char '\n') (unifyLineEnds text.toList)) := by
      rw [lines, splitLines]
      exact (List.map_congr_left hbare).trans (List.map_id _)
    _ = (dropEmptyLast (pieces (.char '\n') text.toList)).map dropReturn := by
      rw [hpieces, dropEmptyLast, hlast, dropEmptyLast]
      split
      · exact List.map_dropLast.symm
      · rfl

end Text

namespace Cli

/-- What is printed for the line of a number, which is counted from one. -/
def todoLine (path : String) (number : Nat) : String :=
  s!"{path}:{number}:1: warning: Found a TODO item.\n"

/-- A diagnostic is printed as the number of its line and nothing else that depends on it. -/
theorem diagnosticLine_todoAt (path : String) (line : Nat) :
    diagnosticLine path (Diagnostic.todoAt line) = todoLine path (line + 1) := by
  have hrest : ":" ++ (toString (0 + 1) ++ (": warning: " ++ (Diagnostic.todoMessage ++ "\n"))) =
      ":1: warning: Found a TODO item.\n" := by decide
  rw [diagnosticLine, todoLine]
  simp only [Diagnostic.todoAt, Range.onLine, String.append_assoc]
  exact congrArg (fun rest => toString path ++ (":" ++ (toString (line + 1) ++ rest))) hrest

/-- The diagnostics of a text are printed as the numbers of their lines. -/
theorem map_diagnosticLine (path : String) (text : Text) :
    (Diagnostic.ofText text).map (diagnosticLine path) =
      (Diagnostic.ofText text).map fun diagnostic =>
        todoLine path (diagnostic.range.start.line + 1) := by
  refine List.map_congr_left fun diagnostic hdiagnostic => ?_
  obtain ⟨⟨line, number⟩, -, htodo⟩ := List.mem_filterMap.mp hdiagnostic
  simp only [Option.ite_none_right_eq_some, Option.some.injEq] at htodo
  obtain ⟨-, rfl⟩ := htodo
  exact diagnosticLine_todoAt path number

/-- Checking a text with its line ends unified prints what checking the text itself does. -/
theorem checkSource_unifyLineEnds {text : Text} (h : ReturnsBeforeFeeds text.toList)
    (path : String) :
    checkSource path (Text.ofList (unifyLineEnds text.toList)) =
      { exitCode := if (Diagnostic.ofText text).isEmpty then 0 else 1
        stdout := String.join ((Diagnostic.ofText text).map fun diagnostic =>
          todoLine path (diagnostic.range.start.line + 1)) } := by
  have hsame : Diagnostic.ofText (Text.ofList (unifyLineEnds text.toList)) =
      Diagnostic.ofText text := by
    rw [Diagnostic.ofText, Diagnostic.ofText, lines_unifyLineEnds h]
  rw [checkSource, hsame, map_diagnosticLine]

end Cli

namespace Server

/-- The edit that a body asks for is announced. -/
theorem sent_of_asks [NestingLimits] {server : Server} {content : Text} {message : Rpc.Message}
    {edit : Edit} (hcontent : messageOf? content = some message)
    (hasks : server.Asks message edit) :
    (server.handle content).sent = server.announce ⟨edit.uri, edit.diagnostics⟩ := by
  have heffect := server.handle_effect content
  rw [hcontent, Option.map_some, Option.getD_some, follow, hasks.move?] at heffect
  exact (Prod.mk.inj heffect).2

end Server

namespace Cli

/-- The check of a file reports what the server announces for the same text. Let a session
announce diagnostics, and let a body open or change a document to a text in which every
carriage return is followed by a line feed. Then one list of diagnostics is announced for the
document if it can be sent, and nothing otherwise. On a file that holds the bytes of the text, the
check prints one line for each of these diagnostics, in the same order, with the number of its line
counted from one, and nothing else; it exits with one if there are any, and with zero otherwise. -/
theorem check_prints_announced [NestingLimits] {server : Server}
    (hpublish : server.settings.publishDiagnostics = true) {content : Text}
    {message : Rpc.Message} (hcontent : messageOf? content = some message) {uri : Text}
    {text : String} (hasks : server.Asks message (.put uri text))
    (hreturns : ReturnsBeforeFeeds (text : Text).toList)
    {words : List String} {path : String}
    (hwords : Program.tool.parse words = .ok (some (.check path)))
    (hpath : '\x00' ∉ path.toList) {files : Files}
    (hfile : files.read path = .ok (Utf8.encode text)) (input : Bytes) :
    let announced := Diagnostic.ofText text
    let sent := (server.handle content).sent.map Announcement.publication
    (Publication.Sendable ⟨uri, announced⟩ → sent = [⟨uri, announced⟩]) ∧
      (¬Publication.Sendable ⟨uri, announced⟩ → sent = []) ∧
      Program.tool.run words files input = .ok
        { exitCode := if announced.isEmpty then 0 else 1
          stdout := String.join (announced.map fun diagnostic =>
            todoLine path (diagnostic.range.start.line + 1)) } := by
  intro announced sent
  have hsent : sent =
      (server.announce ⟨uri, announced⟩).map Announcement.publication := by
    simp only [sent, Server.sent_of_asks hcontent hasks, Edit.diagnostics_put]
    rfl
  have hrun := checkSource_unifyLineEnds hreturns path
  rw [Program.run, hwords]
  simp only [Command.run, readSource_encode hpath hfile]
  rw [hsent]
  obtain ⟨hsendable, announcement, hpublication, hannounce⟩ | ⟨hunsendable, hannounce⟩ :=
    Server.announce_cases ⟨uri, announced⟩ hpublish
  · rw [hannounce, List.map_singleton, hpublication]
    exact ⟨fun _ => rfl, fun h => absurd hsendable h, congrArg Except.ok hrun⟩
  · rw [hannounce]
    exact ⟨fun h => absurd h hunsendable, fun _ => rfl, congrArg Except.ok hrun⟩

/-- A text with both kinds of line ends, without one behind its last line. -/
theorem mixed_line_ends_checked :
    let text : String := "let a;\r\n// ToDo\r\n\n  mytodo"
    let params : Json :=
      .obj [("textDocument", .obj [("uri", .str "file:///a.toy"), ("text", .str text)])]
    let content : Text := (Rpc.notification "textDocument/didOpen" params).render
    let server : Server := { initialized := true }
    letI : NestingLimits := .usual
    (server.handle content).sent.map Announcement.publication =
        [⟨"file:///a.toy", [Diagnostic.todoAt 1, Diagnostic.todoAt 3]⟩] ∧
      Program.tool.run ["check", "a.toy"] (Files.ofRead (.ok (Utf8.encode text))) [] = .ok
        { exitCode := 1
          stdout := "a.toy:2:1: warning: Found a TODO item.\n"
            ++ "a.toy:4:1: warning: Found a TODO item.\n" } := by
  intro text params content server
  let _ : NestingLimits := .usual
  have hplain : (Rpc.notification "textDocument/didOpen" params).Plain 3 := by
    simp [Rpc.notification, Rpc.announcement, params]
  have hcontent : messageOf? content =
      some (.notification "textDocument/didOpen" (some params)) :=
    messageOf?_render hplain (by decide)
  have hasks : server.Asks (.notification "textDocument/didOpen" (some params))
      (.put "file:///a.toy" text) := .opening rfl rfl (by decide) rfl
  have hdiagnostics : Diagnostic.ofText text = [Diagnostic.todoAt 1, Diagnostic.todoAt 3] := by
    decide +kernel
  have hsendable : Publication.Sendable ⟨"file:///a.toy", Diagnostic.ofText text⟩ :=
    (Publication.sendable_ofText_iff (by decide +kernel)).mpr (Text.holdsHalf_ofString _)
  have hwords : Program.tool.parse ["check", "a.toy"] = .ok (some (.check "a.toy")) := by rfl
  have hfile : (Files.ofRead (.ok (Utf8.encode text))).read "a.toy" = .ok (Utf8.encode text) := rfl
  obtain ⟨hsent, -, hrun⟩ :=
    check_prints_announced rfl hcontent hasks (by decide) hwords (by decide) hfile []
  rw [hdiagnostics] at hsendable hsent hrun
  exact ⟨hsent hsendable, hrun⟩

end Cli

end LanguageServer
