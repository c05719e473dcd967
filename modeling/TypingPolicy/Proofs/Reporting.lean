import TypingPolicy.Console
import TypingPolicy.Proofs.Escaping

/-!
# Reports on a console

A report is logged as one line of markup, the name set off by a tag, with text around the tag that is
not escaped.  So two texts that were escaped each for itself stand in one line, and the places where
they are joined are the ones to look at (`pieces_record`): a bracket that the name leaves open is
closed nowhere, since the closing tag begins with a bracket, but backslashes at the end of the name
act on that tag.

* `read_record`: every line can be read, and shows these texts; in the worst case the closing tag is
  shown as well;
* `Console.report_eq`: so no console refuses a report;
* `Console.report_shown_literally`: without backslashes, the line shows exactly the report.
-/

namespace TypingPolicy

/-! ## 1. The line -/

/-- The record that a report is logged as. -/
def Report.record (r : Report) : Record where
  level := .error
  message := "❌ [code]" ++ Markup.escape r.subject.name ++ "[/code] (" ++ r.subject.kind.label
    ++ "): " ++ Markup.escape r.message
  markup := true

theorem Console.error_reportLine (r : Report) (c : Console) :
    c.error (reportLine r) = c.log r.record := by
  have hmark : "❌ " ++ "[code]" = "❌ [code]" := rfl
  simp only [Console.error, reportLine, Report.record, ← String.append_assoc, hmark]

/-- The characters between the name and the message of a report. -/
def DeclarationKind.insertion (kind : DeclarationKind) : List Char :=
  (" (" ++ kind.label ++ "): ").toList

theorem DeclarationKind.plain_insertion (kind : DeclarationKind) :
    '\\' ∉ kind.insertion ∧ '[' ∉ kind.insertion := by
  cases kind <;> decide

/-! ## 2. The tag around the name -/

namespace Markup

open Sheet

theorem normal?_code : Style.normal? "code".toList = some "code" := by decide +kernel

/-- The tag in which names stand. -/
def codeTag (start : Nat) : OpenTag := ⟨start, "code", none⟩

theorem Sheet.piece_open (s : Sheet) :
    s.piece (.tag 0 "code".toList) = .ok { s with opened := codeTag s.text.length :: s.opened } := by
  have hadd : s.add (slashes (0 / 2)) = s := by simp [add, slashes]
  have hname : "code".toList.takeWhile (· ≠ '=') = "code".toList := by decide
  have heq : '=' ∉ "code".toList := by decide
  rw [piece, if_neg (by decide), hadd, Sheet.tag, hname, normal?_code, if_neg heq]
  rfl

/-- A closing tag behind backslashes, as it is shown. -/
def closing (m : Nat) : List Char :=
  slashes (m / 2) ++ if m % 2 = 1 then bracketed "/code".toList else []

theorem Sheet.closedBy_code {s : Sheet} {t : OpenTag} (h : s.opened = [t]) (ht : t.name = "code") :
    s.closedBy (Text.trim "code".toList) = .ok t := by
  have htrim : Text.trim "code".toList = "code".toList := rfl
  rw [closedBy, htrim, if_neg (by decide), normal?_code, h]
  simp [ht]

/-- Only names stand in a tag. -/
structure Sheet.Coded (s : Sheet) : Prop where
  opened : ∀ t ∈ s.opened, t.style = "code"
  spans : ∀ span ∈ s.spans, span.style = "code"

theorem Sheet.Coded.add {s : Sheet} (h : s.Coded) (more : List Char) : (s.add more).Coded :=
  ⟨h.opened, h.spans⟩

theorem Sheet.tag_close {s : Sheet} {start : Nat} (h : s.opened = [codeTag start]) :
    s.tag "/code".toList
      = .ok { s with opened := [], spans := s.spans ++ [⟨start, s.text.length, "code"⟩] } := by
  have hname : "/code".toList.takeWhile (· ≠ '=') = '/' :: "code".toList := by decide
  have hclosed : s.closedBy (Text.trim "code".toList) = .ok (codeTag start) := closedBy_code h rfl
  have hclose : s.close (codeTag start)
      = .ok { s with opened := [], spans := s.spans ++ [⟨start, s.text.length, "code"⟩] } := by
    have haction : (codeTag start).isAction = false := by
      change decide ("code".toList.head? = some '@') = false
      decide
    simp only [close, h, List.erase_cons_head, haction]
    rfl
  rw [Sheet.tag, hname]
  simp only [hclosed, Except.bind]
  exact hclose

/-- **The end of the name.**  Behind an odd number of backslashes the tag is shown and the name never
ends; otherwise there is a tag to close.  There is no third case. -/
theorem Sheet.piece_close {s : Sheet} {start : Nat} (h : s.opened = [codeTag start])
    (hcoded : s.Coded) (m : Nat) :
    ∃ s', s.piece (.tag m "/code".toList) = .ok s' ∧ s'.text = s.text ++ closing m ∧ s'.Coded := by
  rw [piece]
  split
  · rename_i hodd
    exact ⟨_, rfl, by rw [closing, if_pos hodd]; rfl, hcoded.add _⟩
  · rename_i heven
    refine ⟨_, tag_close (s := s.add (slashes (m / 2))) h, ?_, ?_⟩
    · rw [closing, if_neg heven, List.append_nil]
      rfl
    · constructor
      · exact fun t ht => absurd ht List.not_mem_nil
      · intro span hspan
        rcases List.mem_append.mp hspan with hspan | hspan
        · exact hcoded.spans span hspan
        · rw [List.mem_singleton.mp hspan]

theorem Sheet.Coded.isPaintable {s : Sheet} (h : s.Coded) : s.finish.isPaintable = true := by
  have hcode : Style.isPaintable "code" = true := by decide +kernel
  rw [Sheet.isPaintable, List.all_eq_true]
  intro span hspan
  have hstyle : span.style = "code" := by
    rcases List.mem_append.mp hspan with hspan | hspan
    · exact h.spans span hspan
    · obtain ⟨t, ht, rfl⟩ := List.mem_map.mp hspan
      exact h.opened t ht
  rw [hstyle, hcode, Bool.or_true]

/-! ## 3. Reading the line -/

/-- The pieces of a record, in which only the end of the name depends on the name. -/
theorem pieces_record (r : Report) :
    ∃ front m, pieces (escape r.subject.name).toList = front ++ plainSlashes m ∧
      pieces r.record.message.toList
        = "❌ ".toList.map .plain ++ .tag 0 "code".toList :: (front ++ .tag m "/code".toList ::
            (r.subject.kind.insertion.map .plain ++ pieces (escape r.message).toList)) := by
  obtain ⟨front, m, hname, happend⟩ := exists_scan_append 0 (escape r.subject.name).toList
  obtain ⟨hslash, hopen⟩ := r.subject.kind.plain_insertion
  let rest := r.subject.kind.insertion ++ (escape r.message).toList
  have htext : r.record.message.toList
      = "❌ ".toList ++ '[' :: ("code]".toList ++ ((escape r.subject.name).toList
          ++ '[' :: ("/code]".toList ++ rest))) := by
    simp [Report.record, rest, DeclarationKind.insertion]
  have hcode (t : List Char) : tag? ("code]".toList ++ t) = some ("code".toList, t) := rfl
  have hclose (t : List Char) : tag? ("/code]".toList ++ t) = some ("/code".toList, t) := rfl
  refine ⟨front, m, hname, ?_⟩
  rw [pieces, htext, scan_plain_append (by decide) (by decide), scan_of_tag (hcode _),
    happend _ (endsNoTag_bracket _), scan_of_tag (hclose _), scan_plain_append hslash hopen]
  rfl

/-- **Every report can be read.**  The text is that of the name and of the message; if the escaped
name ends in backslashes, they are halved, and an odd one shows the tag behind them. -/
theorem read_record (r : Report) :
    ∃ front m sheet, pieces (escape r.subject.name).toList = front ++ plainSlashes m ∧
      read r.record.message = .ok sheet ∧ sheet.isPaintable = true ∧
      sheet.text = "❌ ".toList ++ front.flatMap Piece.shown ++ closing m
        ++ r.subject.kind.insertion ++ (pieces (escape r.message).toList).flatMap Piece.shown := by
  obtain ⟨front, m, hname, hpieces⟩ := pieces_record r
  have hfront : ∀ p ∈ front, p.Literal := by
    intro p hp
    exact literal_of_mem_escape (hname ▸ List.mem_append_left _ hp)
  have hmessage : ∀ p ∈ pieces (escape r.message).toList, p.Literal :=
    fun p hp => literal_of_mem_escape hp
  -- The sheet when the name has been read, and the tag is still open.
  let named : Sheet := { ({} : Sheet).add ("❌ ".toList ++ front.flatMap Piece.shown) with
    opened := [codeTag 2] }
  have hcoded : named.Coded :=
    ⟨fun t ht => by rw [List.mem_singleton.mp ht]; rfl, fun span hspan => absurd hspan List.not_mem_nil⟩
  obtain ⟨closed, hclosed, htext, hcoded'⟩ := piece_close (s := named) rfl hcoded m
  let done := closed.add (r.subject.kind.insertion
    ++ (pieces (escape r.message).toList).flatMap Piece.shown)
  have hread : ({} : Sheet).pieces (pieces r.record.message.toList) = .ok done := by
    have hnamed : ({} : Sheet).pieces ("❌ ".toList.map .plain ++ .tag 0 "code".toList :: front)
        = .ok named := by
      rw [pieces_append, pieces_plain]
      simp only [Except.bind, Sheet.pieces, piece_open]
      rw [pieces_of_literal hfront]
      rfl
    have hrest : closed.pieces (r.subject.kind.insertion.map .plain
        ++ pieces (escape r.message).toList) = .ok done := by
      rw [pieces_append, pieces_plain]
      simp only [Except.bind]
      rw [pieces_of_literal hmessage, add_add]
    rw [hpieces, ← List.cons_append, ← List.append_assoc, pieces_append, hnamed]
    simp only [Except.bind, Sheet.pieces, hclosed]
    exact hrest
  refine ⟨front, m, done.finish, hname, ?_, (hcoded'.add _).isPaintable, ?_⟩
  · rw [read, hread]
    rfl
  · have hdone : done.finish.text = closed.text ++ (r.subject.kind.insertion
        ++ (pieces (escape r.message).toList).flatMap Piece.shown) := rfl
    have hstart : named.text = "❌ ".toList ++ front.flatMap Piece.shown := rfl
    rw [hdone, htext, hstart]
    simp only [List.append_assoc]

theorem no_slashes_at_end {s : String} (hs : '\\' ∉ s.toList) {front : List Piece} {m : Nat}
    (h : pieces (escape s).toList = front ++ plainSlashes m) : m = 0 := by
  cases m with
  | zero => rfl
  | succ m =>
    have hin : Piece.plain '\\' ∈ (pieces s.toList).map Piece.escaped := by
      rw [← pieces_escape_of_bare hs, h]
      exact List.mem_append_right _ List.mem_cons_self
    obtain ⟨p, hp, heq⟩ := List.mem_map.mp hin
    have hbare : p.Bare := bare_of_mem_scan hs hp
    cases p with
    | plain c => exact absurd (Piece.plain.inj heq) hbare
    | bracket n => exact absurd heq (by simp [Piece.escaped])
    | tag n body => exact absurd heq (by simp [Piece.escaped])

end Markup

/-! ## 4. Consoles -/

/-- A report in plain words. -/
def Report.text (r : Report) : String :=
  "❌ " ++ r.subject.name ++ " (" ++ r.subject.kind.label ++ "): " ++ r.message

/-- **Without backslashes a report is shown literally.** -/
theorem Report.exists_sheet (r : Report) (hname : '\\' ∉ r.subject.name.toList)
    (hmessage : '\\' ∉ r.message.toList) :
    ∃ sheet, Markup.read r.record.message = .ok sheet ∧ sheet.isPaintable = true ∧
      sheet.text = r.text.toList := by
  obtain ⟨front, m, sheet, hpieces, hread, hpaint, htext⟩ := Markup.read_record r
  obtain rfl := Markup.no_slashes_at_end hname hpieces
  have hfront : front.flatMap Markup.Piece.shown = r.subject.name.toList := by
    rw [← Markup.flatMap_shown_escape hname, hpieces, List.flatMap_append]
    exact (List.append_nil _).symm
  refine ⟨sheet, hread, hpaint, ?_⟩
  rw [htext, hfront, Markup.flatMap_shown_escape hmessage]
  simp [Report.text, Markup.closing, Markup.slashes, DeclarationKind.insertion]

namespace Record

/-- A record whose message can be shown in its styles is shown. -/
theorem lines_of_sheet {r : Record} {sheet : Markup.Sheet} (hsheet : r.sheet = .ok sheet)
    (hpaint : sheet.isPaintable = true) :
    r.lines = .ok ((layOut (r.level.label.toList ++ spaces (levelWidth - r.level.label.toList.length)
      ++ [' ']) sheet.text).map String.ofList) := by
  rw [lines, hsheet]
  simp only [Except.map, if_pos hpaint]

theorem lines_of_read {r : Record} {sheet : Markup.Sheet} (hmarkup : r.markup = true)
    (hread : Markup.read r.message = .ok sheet) (hpaint : sheet.isPaintable = true) :
    r.lines = .ok ((layOut (r.level.label.toList ++ spaces (levelWidth - r.level.label.toList.length)
      ++ [' ']) sheet.text).map String.ofList) := by
  apply lines_of_sheet _ hpaint
  rw [Record.sheet, if_pos hmarkup, hread]

end Record

theorem Report.exists_lines (r : Report) : ∃ lines, r.record.lines = .ok lines := by
  obtain ⟨-, -, sheet, -, hread, hpaint, -⟩ := Markup.read_record r
  exact ⟨_, Record.lines_of_read rfl hread hpaint⟩

namespace Console

/-- Handlers take every record that can be shown. -/
theorem handleAll_of_lines {r : Record} {lines : List String} (h : r.lines = .ok lines)
    (handlers : List Handler) (c : Console) : (c.handleAll r handlers).1 = none := by
  induction handlers generalizing c with
  | nil => rfl
  | cons handler rest ih =>
    cases handler with
    | screen backend =>
      rw [handleAll, handle, h]
      exact ih _
    | recorder => exact ih _

theorem log_of_lines {r : Record} {lines : List String} (h : r.lines = .ok lines) (c : Console) :
    (c.log r).1 = none := by
  unfold log
  split
  · exact handleAll_of_lines h c.handlers c
  · rfl

/-- **No console refuses a report**, whatever the name and the message are. -/
theorem report_eq (r : Report) (c : Console) : c.report r = .ok (c.log r.record).2 := by
  obtain ⟨lines, hlines⟩ := r.exists_lines
  have hfault : (c.log r.record).1 = none := log_of_lines hlines c
  rw [report, error_reportLine]
  cases hlog : c.log r.record with
  | mk fault after =>
    obtain rfl : fault = none := by rw [← hfault, hlog]
    rfl

/-- **The console shows reports literally.**  A report whose texts have no backslash in them, but
brackets in any number and order, is handed on as one record, at the level of errors and as markup.
Read as markup, the record is the plain text of the report, and no character is lost or added; this
is also what the lines on the screen are made of. -/
theorem report_shown_literally (r : Report) (hname : '\\' ∉ r.subject.name.toList)
    (hmessage : '\\' ∉ r.message.toList) :
    ∃ record : Record, record.level = .error ∧ record.markup = true ∧
      (∀ c : Console, c.report r = .ok (c.log record).2) ∧
      Markup.render record.message = .ok r.text ∧
      record.lines = .ok ((layOut "ERROR    ".toList r.text.toList).map String.ofList) := by
  obtain ⟨sheet, hread, hpaint, htext⟩ := r.exists_sheet hname hmessage
  refine ⟨r.record, rfl, rfl, report_eq r, ?_, ?_⟩
  · rw [Markup.render, hread]
    simp only [Except.map, htext, String.ofList_toList]
  · have hfirst : "ERROR".toList ++ spaces (levelWidth - "ERROR".toList.length) ++ [' ']
        = "ERROR    ".toList := by decide
    rw [Record.lines_of_read rfl hread hpaint, htext, ← hfirst]
    rfl

/-- The name ends the tag that it stands in and opens another; the message has a tag that closes
nothing, and a bracket that is never closed. -/
theorem report_shown_literally_unbalanced :
    let r : Report := ⟨"limited to: [a, [b]] [/] [", .fieldAt 0 0, "x[/code][[red"⟩
    '\\' ∉ r.subject.name.toList ∧ '\\' ∉ r.message.toList ∧
      ∃ record : Record, record.level = .error ∧
        (∀ c : Console, c.report r = .ok (c.log record).2) ∧
        Markup.render record.message
          = .ok "❌ x[/code][[red (field): limited to: [a, [b]] [/] [" := by
  intro r
  have hname : '\\' ∉ r.subject.name.toList := by decide
  have hmessage : '\\' ∉ r.message.toList := by decide
  obtain ⟨record, hlevel, -, hreport, hrender, -⟩ := report_shown_literally r hname hmessage
  exact ⟨hname, hmessage, record, hlevel, hreport, hrender⟩

end Console

end TypingPolicy
