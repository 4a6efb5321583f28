/-
Widening never adds a line break.

While all lists around it are broken, a list is reached in a column that the width has no say
in: behind parentheses that were opened in a known column, or at the indentation.  What has to
follow it on its line is known in the same way.  So a list that is flat at one width is flat at
all larger ones, and a list that stays broken has its items where they were.
-/
import Sexpr.Proofs.Printing.Pieces

namespace Sexpr

namespace Arrangement

mutual
/-- Marking every list flat turns line breaks into spaces and changes nothing else. -/
theorem relaxes_flat (depth : Nat) (a : Arrangement) :
    List.Forall₂ Piece.Relaxes (a.pieces depth) (a.tree.flat.pieces depth) := by
  cases a with
  | atom t => exact .cons (.same _) .nil
  | list o broken as c =>
      have hgap : List.Forall₂ Piece.Relaxes (gap broken (depth + 1)) (gap false (depth + 1)) := by
        refine .cons ?_ .nil
        cases broken
        · exact .same _
        · exact .joined _
      exact forall₂_pieces_list .same hgap (relaxes_flats (depth + 1) as)

theorem relaxes_flats (depth : Nat) (as : List Arrangement) :
    List.Forall₂ (fun a b => List.Forall₂ Piece.Relaxes (a.pieces depth) (b.pieces depth))
      as (SExpr.flats (trees as)) := by
  cases as with
  | nil => exact .nil
  | cons a as => exact .cons (relaxes_flat depth a) (relaxes_flats depth as)
end

end Arrangement

namespace SExpr

variable {narrow wide : Nat}

mutual
theorem relaxes_arrange (h : narrow ≤ wide) (depth column after : Nat) (x : SExpr) :
    List.Forall₂ Piece.Relaxes ((x.arrange narrow depth column after).pieces depth)
      ((x.arrange wide depth column after).pieces depth) := by
  cases x with
  | atom t => exact .cons (.same _) .nil
  | list o xs c =>
      by_cases hwide : column + (list o xs c).inlineColumns + after ≤ wide
      · have hflat := Arrangement.relaxes_flat depth ((list o xs c).arrange narrow depth column after)
        rw [tree_arrange] at hflat
        rw [arrange_of_fits hwide]
        exact hflat
      · have hnarrow : ¬column + (list o xs c).inlineColumns + after ≤ narrow := by omega
        rw [arrange_of_not_fits hwide, arrange_of_not_fits hnarrow]
        exact Arrangement.forall₂_pieces_list .same (.cons (.same _) .nil)
          (relaxes_arrangeAll h (depth + 1) (column + 1) (after + 1) xs)

theorem relaxes_arrangeAll (h : narrow ≤ wide) (depth column after : Nat) (xs : List SExpr) :
    List.Forall₂ (fun a b => List.Forall₂ Piece.Relaxes (a.pieces depth) (b.pieces depth))
      (arrangeAll narrow depth column after xs) (arrangeAll wide depth column after xs) := by
  cases xs with
  | nil => exact .nil
  | cons x xs =>
      exact .cons (relaxes_arrange h depth column _ x) (relaxes_arrangeAll h depth _ after xs)
end

end SExpr

namespace Piece

/-- A line break that becomes a space is one line break less in the text. -/
theorem count_newline_of_relaxes {ps qs : List Piece} (h : List.Forall₂ Relaxes ps qs) :
    (textOf qs).toList.count '\n' ≤ (textOf ps).toList.count '\n' := by
  induction h with
  | nil => exact Nat.le_refl _
  | cons hpq _ ih =>
      rw [textOf_cons, textOf_cons, String.toList_append, String.toList_append, List.count_append,
        List.count_append]
      cases hpq with
      | same => omega
      | joined indent =>
          have hspace : space.text.toList.count '\n' = 0 := by decide
          omega

end Piece

namespace Program

theorem relaxes_arrange {narrow wide : Nat} (h : narrow ≤ wide) (p : Program) :
    List.Forall₂ Piece.Relaxes (Arrangement.paragraphRow (p.arrange narrow))
      (Arrangement.paragraphRow (p.arrange wide)) :=
  Arrangement.forall₂_paragraphRow .same (SExpr.relaxes_arrangeAll h 0 0 0 p.exprs)

end Program

/-- At each of two widths a program is written in one row of pieces, and its text is read as
that row only.  The rows have the same words and parentheses, and every separator that is a
space at the smaller width is a space at the larger one.  So the text at the larger width has
no more line breaks. -/
theorem widening_keeps_spaces (p : Program) (hp : p.Worded) {narrow wide : Nat}
    (h : narrow ≤ wide) :
    (∃ ps qs : List Piece, (∀ rs, p.ReadsAs (pretty narrow p) rs ↔ rs = ps) ∧
      (∀ rs, p.ReadsAs (pretty wide p) rs ↔ rs = qs) ∧ List.Forall₂ Piece.Relaxes ps qs) ∧
    (pretty wide p).toList.count '\n' ≤ (pretty narrow p).toList.count '\n' := by
  have hrelaxes := p.relaxes_arrange h
  have hcount := Piece.count_newline_of_relaxes hrelaxes
  rw [Program.textOf_arrange hp, Program.textOf_arrange hp] at hcount
  exact ⟨⟨_, _, Program.readsAs_pretty hp narrow, Program.readsAs_pretty hp wide, hrelaxes⟩,
    hcount⟩

/-- A string with a line break in it, which stays in the column it was started in.  The inner
list fits at both widths and the outer one at the larger width only. -/
theorem widening_keeps_spaces_around_string :
    let a : SExpr := .atom ⟨.id, "a", ⟨2, 3⟩⟩
    let s : SExpr := .atom ⟨.string, "\"\n\"", ⟨4, 7⟩⟩
    let p : Program := ⟨[.list ⟨.literal, "(", ⟨0, 1⟩⟩
      [.list ⟨.literal, "(", ⟨1, 2⟩⟩ [a, s] ⟨.literal, ")", ⟨7, 8⟩⟩, a] ⟨.literal, ")", ⟨10, 11⟩⟩]⟩
    p.Worded ∧ 10 ≤ 11 ∧
      (∃ ps qs : List Piece, (∀ rs, p.ReadsAs "((a \"\n\")\n  a)" rs ↔ rs = ps) ∧
        (∀ rs, p.ReadsAs "((a \"\n\") a)" rs ↔ rs = qs) ∧ List.Forall₂ Piece.Relaxes ps qs) ∧
      "((a \"\n\") a)".toList.count '\n' ≤ "((a \"\n\")\n  a)".toList.count '\n' := by
  intro a s p
  have hp : p.Worded := by decide
  have hnarrow : pretty 10 p = "((a \"\n\")\n  a)" := by decide +kernel
  have hwide : pretty 11 p = "((a \"\n\") a)" := by decide +kernel
  refine ⟨hp, by decide, ?_⟩
  rw [← hnarrow, ← hwide]
  exact widening_keeps_spaces p hp (by decide)

end Sexpr
