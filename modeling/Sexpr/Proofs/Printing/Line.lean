/-
The lines of a row of pieces.

A row of pieces is broken into lines at its line breaks.  The lines of its text are the same
ones where no token has a line break in it.
-/
import Mathlib.Data.List.Chain
import Sexpr.Proofs.Printing.Fit

namespace Sexpr

/-- A line of a text: its indentation and the pieces behind it. -/
structure Line where
  indent : Nat
  pieces : List Piece

namespace Line

open Piece

def start : Line := { indent := 0, pieces := [] }

def text (l : Line) : String := Text.spaces l.indent ++ textOf l.pieces

/-- The columns of a line, where each token is measured by itself. -/
def columns (l : Line) : Nat := l.indent + columnsOf l.pieces

def push (l : Line) (p : Piece) : Line := { l with pieces := l.pieces ++ [p] }

/-- The lines of a row of pieces that continues `l`. -/
def followed (l : Line) : List Piece → List Line
  | [] => [l]
  | p :: ps =>
    if p.isNewline then l :: followed { indent := p.columns, pieces := [] } ps
    else followed (l.push p) ps

variable {l m : Line} {p : Piece} {ps : List Piece} {width : Nat}

theorem followed_of_newline (h : p.isNewline = true) :
    l.followed (p :: ps) = l :: followed { indent := p.columns, pieces := [] } ps := by
  rw [followed, h]
  rfl

theorem followed_of_not_newline (h : p.isNewline = false) :
    l.followed (p :: ps) = (l.push p).followed ps := by
  rw [followed, h]
  rfl

theorem followed_ne_nil (l : Line) (ps : List Piece) : l.followed ps ≠ [] := by
  induction ps generalizing l with
  | nil => exact nofun
  | cons p ps ih =>
      cases h : p.isNewline with
      | true =>
          rw [followed_of_newline h]
          exact nofun
      | false =>
          rw [followed_of_not_newline h]
          exact ih (l.push p)

/-- What holds of a line that a row of pieces is put behind, with the rest of the row, and holds
again at each step along the row, holds of all lines at their ends. -/
theorem followed_induction {P : Line → List Piece → Prop}
    (hbreak : ∀ l p ps, p.isNewline = true → P l (p :: ps) →
      P l [] ∧ P { indent := p.columns, pieces := [] } ps)
    (hpush : ∀ l p ps, p.isNewline = false → P l (p :: ps) → P (l.push p) ps)
    (h : P l ps) (hm : m ∈ l.followed ps) : P m [] := by
  induction ps generalizing l with
  | nil =>
      obtain rfl := List.mem_singleton.1 hm
      exact h
  | cons p ps ih =>
      cases hp : p.isNewline with
      | true =>
          rw [followed_of_newline hp] at hm
          obtain ⟨hl, hps⟩ := hbreak l p ps hp h
          rcases List.mem_cons.1 hm with rfl | hm
          · exact hl
          · exact ih hps hm
      | false =>
          rw [followed_of_not_newline hp] at hm
          exact ih (hpush l p ps hp h) hm

theorem columns_push (l : Line) (p : Piece) : (l.push p).columns = l.columns + p.columns := by
  have hp : columnsOf [p] = p.columns := rfl
  rw [columns, push, columnsOf_append, hp, ← Nat.add_assoc]
  rfl

theorem text_push (l : Line) (p : Piece) : (l.push p).text = l.text ++ p.text := by
  rw [text, push, textOf_append, textOf_singleton, ← String.append_assoc]
  rfl

theorem intercalate_followed (l : Line) (ps : List Piece) :
    "\n".intercalate ((l.followed ps).map text) = l.text ++ textOf ps := by
  induction ps generalizing l with
  | nil =>
      have hnil : textOf [] = "" := rfl
      rw [followed, List.map_singleton, String.intercalate_singleton, hnil, String.append_empty]
  | cons p ps ih =>
      cases h : p.isNewline with
      | true =>
          let next : Line := { indent := p.columns, pieces := [] }
          have hnext : next.text = Text.spaces p.columns := String.append_empty
          have hp : p.text = "\n" ++ Text.spaces p.columns :=
            congrArg Piece.text (eq_newline_of_isNewline h)
          have hrest := ih next
          obtain ⟨m, ms, hms⟩ := List.exists_cons_of_ne_nil (next.followed_ne_nil ps)
          rw [hms, hnext, List.map_cons] at hrest
          rw [followed_of_newline h, hms, List.map_cons, List.map_cons,
            String.intercalate_cons_cons, hrest, textOf_cons, hp]
          simp only [String.append_assoc]
      | false => rw [followed_of_not_newline h, ih, text_push, textOf_cons, String.append_assoc]

/-- A space that has been passed keeps the end of its line within the width. -/
theorem columns_le_of_spacesFit (h : SpacesFit width 0 l.columns ps) (hl : space ∉ l.pieces)
    (hm : m ∈ l.followed ps) (hspace : space ∈ m.pieces) : m.columns ≤ width := by
  refine (followed_induction (P := fun l ps => SpacesFit width 0 l.columns ps ∧
    (space ∈ l.pieces → l.columns + lead 0 ps ≤ width)) ?_ ?_ ⟨h, fun hs => absurd hs hl⟩ hm).2 hspace
  · rintro l p ps hp ⟨hfit, hpassed⟩
    have hlead : lead 0 (p :: ps) = 0 := by rw [lead, hp]; rfl
    have hadvance : p.advance l.columns = p.columns := by rw [advance, hp]; rfl
    rw [hlead] at hpassed
    rw [SpacesFit, hadvance] at hfit
    exact ⟨⟨trivial, hpassed⟩, hfit.2, fun hs => absurd hs List.not_mem_nil⟩
  · rintro l p ps hp ⟨hfit, hpassed⟩
    have hlead : lead 0 (p :: ps) = p.columns + lead 0 ps := by rw [lead, hp]; rfl
    rw [SpacesFit, advance_of_not_newline hp, hlead] at hfit
    rw [hlead] at hpassed
    refine ⟨columns_push l p ▸ hfit.2, ?_⟩
    intro hs
    rw [columns_push, Nat.add_assoc]
    rcases List.mem_append.1 hs with hs | hs
    · exact hpassed hs
    · exact hfit.1 (List.mem_singleton.1 hs).symm

/-- Line breaks are only where lines end. -/
theorem newline_not_mem_text (h : ∀ p ∈ ps, p.isNewline = false → '\n' ∉ p.text.toList)
    (hm : m ∈ start.followed ps) : '\n' ∉ m.text.toList := by
  have hpieces : ∀ p ∈ m.pieces, '\n' ∉ p.text.toList := by
    refine (followed_induction (P := fun l ps => (∀ p ∈ l.pieces, '\n' ∉ p.text.toList) ∧
      ∀ p ∈ ps, p.isNewline = false → '\n' ∉ p.text.toList) ?_ ?_
      ⟨fun p hp => absurd hp List.not_mem_nil, h⟩ hm).1
    · rintro l p ps hp ⟨hl, hps⟩
      exact ⟨⟨hl, nofun⟩, nofun, fun q hq => hps q (List.mem_cons_of_mem _ hq)⟩
    · rintro l p ps hp ⟨hl, hps⟩
      refine ⟨?_, fun q hq => hps q (List.mem_cons_of_mem _ hq)⟩
      intro q hq
      rcases List.mem_append.1 hq with hq | hq
      · exact hl q hq
      · obtain rfl := List.mem_singleton.1 hq
        exact hps q List.mem_cons_self hp
  intro hc
  rw [text, String.toList_append, List.mem_append, Text.spaces, String.toList_ofList] at hc
  rcases hc with hc | hc
  · exact absurd (List.eq_of_mem_replicate hc) (by decide)
  · rw [textOf, String.toList_join] at hc
    obtain ⟨s, hs, hc⟩ := List.mem_flatMap.1 hc
    obtain ⟨p, hp, rfl⟩ := List.mem_map.1 hs
    exact hpieces p hp hc

theorem splitOn_textOf (h : ∀ p ∈ ps, p.isNewline = false → '\n' ∉ p.text.toList) :
    (textOf ps).toList.splitOn '\n' = (start.followed ps).map fun l => l.text.toList := by
  have hlines := congrArg String.toList (intercalate_followed start ps)
  have hstart : start.text = "" := rfl
  rw [String.toList_intercalate, hstart, String.empty_append, List.map_map] at hlines
  rw [← hlines]
  refine List.splitOn_intercalate '\n' ?_ ?_
  · intro cs hcs
    obtain ⟨l, hl, rfl⟩ := List.mem_map.1 hcs
    exact newline_not_mem_text h hl
  · exact fun hnil => followed_ne_nil start ps (List.map_eq_nil_iff.1 hnil)

end Line

end Sexpr
