import Mathlib.Data.List.Basic
import TypingPolicy.Proofs.Escaping

/-!
# Markup behind other text

An error is logged with a mark in front of what the caller wrote.  If the caller's text can be shown,
so can the line, since the mark only moves everything on:

* `read_append`: behind plain text, markup is read as it is on its own, each tag and each stretch so
  much later (`Sheet.behind`), with the same faults;
* `Sheet.isPaintable_behind`: and it needs the same styles, if no line ends in front of it;
* `WellFormed.append`: so a text in front takes nothing from markup that is well-formed.
-/

namespace TypingPolicy.Markup

/-! ## 1. Sheets, moved on -/

def OpenTag.later (n : Nat) (t : OpenTag) : OpenTag := { t with start := n + t.start }

def Span.later (n : Nat) (span : Span) : Span :=
  { span with start := n + span.start, stop := n + span.stop }

/-- A sheet with text in front of all that stands on it. -/
def Sheet.behind (front : List Char) (s : Sheet) : Sheet where
  text := front ++ s.text
  opened := s.opened.map (OpenTag.later front.length)
  spans := s.spans.map (Span.later front.length)

theorem OpenTag.later_injective (n : Nat) : Function.Injective (OpenTag.later n) := by
  intro t u h
  simp only [OpenTag.later, OpenTag.mk.injEq] at h
  obtain ⟨hstart, hname, hargument⟩ := h
  cases t
  cases u
  simp only [OpenTag.mk.injEq]
  exact ⟨Nat.add_left_cancel hstart, hname, hargument⟩

namespace Sheet

variable {front : List Char}

theorem add_behind (more : List Char) (s : Sheet) :
    (s.behind front).add more = (s.add more).behind front := by
  simp only [add, behind, List.append_assoc]

theorem spanOf_behind (front : List Char) (t : OpenTag) (s : Sheet) :
    (s.behind front).spanOf (t.later front.length) = (s.spanOf t).later front.length := by
  simp only [spanOf, behind, List.length_append]
  rfl

theorem closedBy_behind (name : List Char) (s : Sheet) :
    (s.behind front).closedBy name = (s.closedBy name).map (OpenTag.later front.length) := by
  unfold closedBy
  split
  · simp only [behind]
    cases s.opened with
    | nil => rfl
    | cons t rest => rfl
  · cases Style.normal? name with
    | none => rfl
    | some style =>
      -- Tags are found by their names, and these stay.
      have hfind : (s.behind front).opened.find? (·.name = style)
          = (s.opened.find? (·.name = style)).map (OpenTag.later front.length) := by
        simp only [behind, List.find?_map]
        rfl
      simp only [hfind]
      cases s.opened.find? (·.name = style) with
      | none => rfl
      | some t => rfl

theorem close_behind (t : OpenTag) (s : Sheet) :
    (s.behind front).close (t.later front.length) = (s.close t).map (behind front) := by
  have herase : (s.behind front).opened.erase (t.later front.length)
      = (s.opened.erase t).map (OpenTag.later front.length) :=
    (List.map_erase (OpenTag.later_injective front.length) s.opened).symm
  have haction : (t.later front.length).isAction = t.isAction := rfl
  have hargument : (t.later front.length).argument = t.argument := rfl
  unfold close
  simp only [herase, haction, hargument]
  split
  · have hspan := spanOf_behind front t { s with opened := s.opened.erase t }
    simp only [behind] at hspan
    simp only [behind, Except.map, List.map_append, List.map_cons, List.map_nil, hspan]
  · split
    · rfl
    · rfl

theorem tag_behind (body : List Char) (s : Sheet) :
    (s.behind front).tag body = (s.tag body).map (behind front) := by
  unfold tag
  dsimp only
  split
  · rename_i closing _
    rw [closedBy_behind]
    cases s.closedBy (Text.trim closing) with
    | ok t => exact close_behind t s
    | error e => rfl
  · cases Style.normal? (body.takeWhile (· ≠ '=')) with
    | none => rfl
    | some style =>
      simp only [behind, Except.map, List.length_append]
      rfl

theorem piece_behind (p : Piece) (s : Sheet) :
    (s.behind front).piece p = (s.piece p).map (behind front) := by
  cases p with
  | plain c => exact congrArg Except.ok (add_behind [c] s)
  | bracket n => exact congrArg Except.ok (add_behind (slashes (n - 1) ++ ['[']) s)
  | tag n body =>
    rw [piece, piece]
    split
    · exact congrArg Except.ok (add_behind _ s)
    · rw [add_behind, tag_behind]

theorem pieces_behind (ps : List Piece) (s : Sheet) :
    (s.behind front).pieces ps = (s.pieces ps).map (behind front) := by
  induction ps generalizing s with
  | nil => rfl
  | cons p ps ih =>
    rw [pieces, pieces, piece_behind]
    cases s.piece p with
    | ok s => exact ih s
    | error e => rfl

theorem finish_behind (s : Sheet) : (s.behind front).finish = s.finish.behind front := by
  have hspans : (s.behind front).opened.map (s.behind front).spanOf
      = (s.opened.map s.spanOf).map (Span.later front.length) := by
    simp only [behind, List.map_map]
    apply List.map_congr_left
    intro t _
    exact spanOf_behind front t s
  simp only [finish, hspans]
  simp only [behind, List.map_append, List.map_nil]

/-- Which styles are asked for does not depend on what stands in front, on the same line. -/
theorem isPaintable_behind (hline : '\n' ∉ front) (s : Sheet) :
    (s.behind front).isPaintable = s.isPaintable := by
  have hseen (span : Span) :
      (s.behind front).isSeen (span.later front.length) = s.isSeen span := by
    have hcontains : (front ++ s.text).contains '\n' = s.text.contains '\n' := by
      simp [hline]
    simp only [isSeen, behind, Span.later, hcontains, List.take_length_add_append,
      List.drop_length_add_append]
  simp only [isPaintable, behind, List.all_map]
  congr 1
  funext span
  exact congrArg (fun seen => !seen || Style.isPaintable span.style) (hseen span)

end Sheet

/-! ## 2. Well-formed markup -/

/-- **Behind plain text** markup is read as it is on its own, only later. -/
theorem read_append {front : String} (hslash : '\\' ∉ front.toList) (hopen : '[' ∉ front.toList)
    (s : String) : read (front ++ s) = (read s).map (Sheet.behind front.toList) := by
  have hpieces : pieces (front ++ s).toList = front.toList.map .plain ++ pieces s.toList := by
    rw [String.toList_append, pieces, scan_plain_append hslash hopen]
    rfl
  have hstart : ({} : Sheet).add front.toList = ({} : Sheet).behind front.toList := by
    simp [Sheet.add, Sheet.behind]
  rw [read, hpieces, Sheet.pieces_append, Sheet.pieces_plain, hstart]
  simp only [Except.bind, Sheet.pieces_behind, read]
  cases ({} : Sheet).pieces (pieces s.toList) with
  | ok sheet => exact congrArg Except.ok (Sheet.finish_behind sheet)
  | error e => rfl

/-- Markup is well-formed if it can be read, and shown in its styles. -/
def WellFormed (s : String) : Prop := ∃ sheet, read s = .ok sheet ∧ sheet.isPaintable = true

instance (s : String) : Decidable (WellFormed s) :=
  match h : read s with
  | .ok sheet => decidable_of_iff (sheet.isPaintable = true) (by simp [WellFormed, h])
  | .error _ => isFalse (by simp [WellFormed, h])

theorem WellFormed.append {s front : String} (h : WellFormed s) (hslash : '\\' ∉ front.toList)
    (hopen : '[' ∉ front.toList) (hline : '\n' ∉ front.toList) : WellFormed (front ++ s) := by
  obtain ⟨sheet, hread, hpaint⟩ := h
  refine ⟨sheet.behind front.toList, ?_, ?_⟩
  · rw [read_append hslash hopen, hread]
    rfl
  · rw [Sheet.isPaintable_behind hline, hpaint]

end TypingPolicy.Markup
