/-
Which lines may be wider than the width.

A line with a space between two items is within the width, since a list is only written flat
where its line ends within the width.  A line without one can only consist of parentheses that
open, one token, and parentheses that close, since two items always have a separator between
them.  So a line that is too wide has no place where it could be broken.
-/
import Sexpr.Proofs.Printing.Line

namespace Sexpr

namespace Piece

/-- Whether a piece separates two items. -/
def isSeparator : Piece → Bool
  | space | newline _ => true
  | _ => false

/-- Whether `q` may stand behind `p`.  An item comes first in a list or behind a separator. -/
def Follows (p q : Piece) : Prop :=
  p.isSeparator = true ∨ p = opening ∨ q.isSeparator = true ∨ q = closing

variable {p : Piece} {ps : List Piece}

theorem eq_replicate_closing (h : List.IsChain Follows (p :: ps)) (hp : p ≠ opening)
    (hs : ∀ q ∈ p :: ps, q.isSeparator = false) : ps = List.replicate ps.length closing := by
  induction ps generalizing p with
  | nil => rfl
  | cons q qs ih =>
      obtain ⟨hfollows, hchain⟩ := List.isChain_cons_cons.1 h
      have hq : q = closing := by
        rcases hfollows with hsep | hopen | hsep | hclose
        · exact absurd (hs p (by simp)) (by simp [hsep])
        · exact absurd hopen hp
        · exact absurd (hs q (by simp)) (by simp [hsep])
        · exact hclose
      have hrest := ih hchain (by simp [hq]) fun r hr => hs r (List.mem_cons_of_mem _ hr)
      rw [List.length_cons, List.replicate_succ, ← hrest, hq]

end Piece

namespace Line

open Piece

/-- Whether a line has nothing but parentheses that open, one token at most, and parentheses
that close. -/
def Unbreakable (l : Line) : Prop :=
  ∃ (opened : Nat) (token : Option String) (closed : Nat),
    l.pieces = List.replicate opened opening ++ token.toList.map word ++
      List.replicate closed closing

variable {m : Line} {ps : List Piece}

theorem unbreakable_of_isChain {indent : Nat} (h : List.IsChain Follows ps)
    (hs : ∀ p ∈ ps, p.isSeparator = false) : Unbreakable { indent := indent, pieces := ps } := by
  induction ps with
  | nil => exact ⟨0, none, 0, rfl⟩
  | cons p ps ih =>
      have hrest := fun hp => eq_replicate_closing h hp hs
      cases p with
      | opening =>
          obtain ⟨opened, token, closed, heq⟩ := ih h.tail fun p hp => hs p (List.mem_cons_of_mem _ hp)
          exact ⟨opened + 1, token, closed, congrArg (opening :: ·) heq⟩
      | word s => exact ⟨0, some s, ps.length, congrArg (word s :: ·) (hrest nofun)⟩
      | closing => exact ⟨0, none, ps.length + 1, congrArg (closing :: ·) (hrest nofun)⟩
      | space => exact nomatch hs space List.mem_cons_self
      | newline indent => exact nomatch hs (newline indent) List.mem_cons_self

/-- A line of a row in which items are always separated. -/
theorem unbreakable_of_mem (h : List.IsChain Follows ps) (hm : m ∈ start.followed ps)
    (hspace : space ∉ m.pieces) : m.Unbreakable := by
  have hend : List.IsChain Follows (m.pieces ++ []) ∧ ∀ p ∈ m.pieces, p.isNewline = false := by
    refine followed_induction (l := start) (P := fun l ps =>
      List.IsChain Follows (l.pieces ++ ps) ∧ ∀ p ∈ l.pieces, p.isNewline = false) ?_ ?_
      ⟨h, fun q hq => absurd hq List.not_mem_nil⟩ hm
    · rintro l p ps - ⟨hchain, hl⟩
      obtain ⟨hleft, hright, -⟩ := List.isChain_append.1 hchain
      rw [List.append_nil]
      exact ⟨⟨hleft, hl⟩, hright.tail, fun q hq => absurd hq List.not_mem_nil⟩
    · rintro l p ps hp ⟨hchain, hl⟩
      rw [List.append_cons] at hchain
      refine ⟨hchain, ?_⟩
      intro q hq
      rcases List.mem_append.1 hq with hq | hq
      · exact hl q hq
      · exact List.mem_singleton.1 hq ▸ hp
  obtain ⟨hchain, hline⟩ := hend
  rw [List.append_nil] at hchain
  refine unbreakable_of_isChain hchain ?_
  intro p hp
  cases p with
  | space => exact absurd hp hspace
  | newline indent => exact nomatch hline _ hp
  | _ => rfl

end Line

namespace Arrangement

mutual
theorem isChain_pieces (depth : Nat) (a : Arrangement) :
    List.IsChain Piece.Follows (a.pieces depth) := by
  cases a with
  | atom t => exact .singleton _
  | list o broken as c =>
      have hgap : ∀ p ∈ gap broken (depth + 1), p.isSeparator = true := by
        intro p hp
        rw [List.mem_singleton.1 hp]
        cases broken <;> rfl
      have hrow := isChain_row hgap (List.cons_ne_nil _ _) (depth + 1) as
      have hclosed : List.IsChain Piece.Follows
          (row (gap broken (depth + 1)) (depth + 1) as ++ [.closing]) := by
        refine List.isChain_append.2 ⟨hrow, .singleton _, ?_⟩
        intro p _ q hq
        exact .inr (.inr (.inr (Option.some.inj hq).symm))
      exact List.isChain_cons.2 ⟨fun _ _ => .inr (.inl rfl), hclosed⟩

theorem isChain_row {gap : List Piece} (hgap : ∀ p ∈ gap, p.isSeparator = true) (hne : gap ≠ [])
    (depth : Nat) (as : List Arrangement) : List.IsChain Piece.Follows (row gap depth as) := by
  match as with
  | [] => exact .nil
  | [a] => exact isChain_pieces depth a
  | a :: b :: bs =>
      have hrest := isChain_row hgap hne depth (b :: bs)
      have hseparates : List.IsChain Piece.Follows gap :=
        (List.pairwise_of_forall_mem_list fun p hp q _ => .inl (hgap p hp)).isChain
      refine List.isChain_append.2 ⟨List.isChain_append.2 ⟨isChain_pieces depth a, hseparates, ?_⟩,
        hrest, ?_⟩
      · intro p _ q hq
        exact .inr (.inr (.inl (hgap q (List.mem_of_mem_head? hq))))
      · intro p hp q _
        rw [List.getLast?_append_of_ne_nil _ hne] at hp
        exact .inl (hgap p (List.mem_of_mem_getLast? hp))
end

mutual
theorem newline_not_mem_pieces (depth : Nat) {a : Arrangement}
    (h : ∀ t ∈ a.tree.atoms, '\n' ∉ t.text.toList) :
    ∀ p ∈ a.pieces depth, p.isNewline = false → '\n' ∉ p.text.toList := by
  cases a with
  | atom t =>
      intro p hp _
      obtain rfl := List.mem_singleton.1 hp
      exact h t List.mem_cons_self
  | list o broken as c =>
      have hgap : ∀ p ∈ gap broken (depth + 1), p.isNewline = false → '\n' ∉ p.text.toList := by
        intro p hp hline
        obtain rfl := List.mem_singleton.1 hp
        cases broken with
        | false => exact (by decide : '\n' ∉ Piece.space.text.toList)
        | true => exact nomatch hline
      have hrow := forall_mem_row hgap (newline_not_mem_items (depth + 1) h)
      intro p hp hline
      rw [pieces, List.mem_cons, List.mem_append, List.mem_singleton] at hp
      rcases hp with rfl | hp | rfl
      · decide
      · exact hrow p hp hline
      · decide

theorem newline_not_mem_items (depth : Nat) {as : List Arrangement}
    (h : ∀ t ∈ SExpr.atomsOf (trees as), '\n' ∉ t.text.toList) :
    ∀ a ∈ as, ∀ p ∈ a.pieces depth, p.isNewline = false → '\n' ∉ p.text.toList := by
  cases as with
  | nil => exact nofun
  | cons a as =>
      rw [trees, SExpr.atomsOf] at h
      obtain ⟨ha, has⟩ := List.forall_mem_append.1 h
      exact List.forall_mem_cons.2
        ⟨newline_not_mem_pieces depth ha, newline_not_mem_items depth has⟩
end

end Arrangement

/-- The text of a program whose tokens have no line breaks is read as one row of pieces, and its
lines are those of the row.  A line with a space between two items is within the width, so a
line that is wider has no place where it could be broken. -/
theorem wide_lines_unbreakable (width : Nat) (p : Program) (hp : p.Worded)
    (hline : ∀ t ∈ p.atoms, '\n' ∉ t.text.toList) :
    ∃ ps : List Piece, (∀ qs, p.ReadsAs (pretty width p) qs ↔ qs = ps) ∧
      (pretty width p).toList.splitOn '\n' =
        (Line.start.followed ps).map (fun l => l.text.toList) ∧
      ∀ l ∈ Line.start.followed ps,
        (.space ∈ l.pieces → l.columns ≤ width) ∧ (width < l.columns → l.Unbreakable) := by
  have hgap : ∀ q ∈ [Piece.newline 0, .newline 0], q.isNewline = true := by decide
  have hbreaks : Piece.Breaks 0 [.newline 0, .newline 0] := ⟨nofun, by decide⟩
  have hfit := SExpr.spacesFit_arrangeAll width 0 0 0 hbreaks p.exprs
  have hchain : List.IsChain Piece.Follows (Arrangement.paragraphRow (p.arrange width)) :=
    Arrangement.isChain_row (by decide) (by decide) 0 _
  have hatoms : ∀ t ∈ SExpr.atomsOf (Arrangement.trees (p.arrange width)), '\n' ∉ t.text.toList := by
    rw [p.trees_arrange]
    exact hline
  have hwords : ∀ q ∈ Arrangement.paragraphRow (p.arrange width), q.isNewline = false →
      '\n' ∉ q.text.toList := by
    refine Arrangement.forall_mem_row ?_ (Arrangement.newline_not_mem_items 0 hatoms)
    intro q hq hfalse
    exact absurd (hgap q hq) (by simp [hfalse])
  refine ⟨_, Program.readsAs_pretty hp width, ?_, ?_⟩
  · rw [← Program.textOf_arrange hp, Line.splitOn_textOf hwords]
  · intro l hl
    have hcolumns := Line.columns_le_of_spacesFit (l := Line.start) hfit List.not_mem_nil hl
    refine ⟨hcolumns, fun hwide => Line.unbreakable_of_mem hchain hl ?_⟩
    intro hspace
    exact absurd (hcolumns hspace) (Nat.not_le.2 hwide)

/-- A line with a space that fits, and behind it a line that is too wide and has no place where it
could be broken. -/
theorem wide_lines_unbreakable_at_long_token :
    let word (s : String) : SExpr := .atom ⟨.id, s, ⟨0, 0⟩⟩
    let list (xs : List SExpr) : SExpr := .list ⟨.literal, "(", ⟨0, 0⟩⟩ xs ⟨.literal, ")", ⟨0, 0⟩⟩
    let p : Program := ⟨[list [list [word "a", word "b"], list [word "abcdefgh"]]]⟩
    p.Worded ∧ (∀ t ∈ p.atoms, '\n' ∉ t.text.toList) ∧
      ∃ ps : List Piece, (∀ qs, p.ReadsAs "((a b)\n  (abcdefgh))" qs ↔ qs = ps) ∧
        "((a b)\n  (abcdefgh))".toList.splitOn '\n' =
          (Line.start.followed ps).map (fun l => l.text.toList) ∧
        ∀ l ∈ Line.start.followed ps,
          (.space ∈ l.pieces → l.columns ≤ 8) ∧ (8 < l.columns → l.Unbreakable) := by
  intro word list p
  have hp : p.Worded := by decide
  have hline : ∀ t ∈ p.atoms, '\n' ∉ t.text.toList := by decide
  have hpretty : pretty 8 p = "((a b)\n  (abcdefgh))" := by decide +kernel
  refine ⟨hp, hline, ?_⟩
  rw [← hpretty]
  exact wide_lines_unbreakable 8 p hp hline

end Sexpr
