/-
Spaces stand where the line fits.

A list is only written flat where it ends within the width together with the parentheses that
follow it, and nothing else can stand behind it on its line.  So every space in what the pretty
printer writes stands on a line that ends within the width.  This is told of a row of pieces by
the column it starts in and the columns that follow it, so that rows can be joined.
-/
import Sexpr.Proofs.Printing.Pieces

namespace Sexpr

namespace Piece

/-- The columns a piece takes on the line it ends on. -/
def columns : Piece → Nat
  | word s => Text.columns s
  | opening | closing | space => 1
  | newline indent => indent

def columnsOf : List Piece → Nat
  | [] => 0
  | p :: ps => p.columns + columnsOf ps

def isNewline : Piece → Bool
  | newline _ => true
  | _ => false

variable {p q : Piece} {ps qs : List Piece} {width after column : Nat}

theorem columnsOf_append (ps qs : List Piece) :
    columnsOf (ps ++ qs) = columnsOf ps + columnsOf qs := by
  induction ps with
  | nil => exact (Nat.zero_add _).symm
  | cons p ps ih => rw [List.cons_append, columnsOf, columnsOf, ih, Nat.add_assoc]

theorem eq_newline_of_isNewline (h : p.isNewline = true) : p = newline p.columns := by
  cases p with
  | newline indent => rfl
  | _ => exact nomatch h

/-! ## Spaces that fit -/

/-- The column behind a piece that starts at `column`. -/
def advance (column : Nat) (p : Piece) : Nat :=
  if p.isNewline then p.columns else column + p.columns

/-- The columns of a row up to its first line break, or to its end and `after` more. -/
def lead (after : Nat) : List Piece → Nat
  | [] => after
  | p :: ps => if p.isNewline then 0 else p.columns + lead after ps

/-- Whether every space in a row stands on a line that ends within `width` columns, when the
row starts at `column` and has `after` columns behind it on its last line. -/
def SpacesFit (width after : Nat) : Nat → List Piece → Prop
  | _, [] => True
  | column, p :: ps =>
    (p = space → column + lead after (p :: ps) ≤ width) ∧ SpacesFit width after (p.advance column) ps

theorem advance_of_not_newline (h : p.isNewline = false) : p.advance column = column + p.columns := by
  rw [advance, h]
  rfl

theorem lead_append (after : Nat) (ps qs : List Piece) :
    lead after (ps ++ qs) = lead (lead after qs) ps := by
  induction ps with
  | nil => rfl
  | cons p ps ih => rw [List.cons_append, lead, lead, ih]

theorem lead_of_no_newline (h : ∀ p ∈ ps, p.isNewline = false) :
    lead after ps = columnsOf ps + after := by
  induction ps with
  | nil => exact (Nat.zero_add after).symm
  | cons p ps ih =>
      have hp := h p List.mem_cons_self
      have hps := ih fun q hq => h q (List.mem_cons_of_mem _ hq)
      rw [lead, hp, hps, columnsOf, Nat.add_assoc]
      rfl

theorem spacesFit_append :
    SpacesFit width after column (ps ++ qs) ↔
      SpacesFit width (lead after qs) column ps ∧
        SpacesFit width after (ps.foldl advance column) qs := by
  induction ps generalizing column with
  | nil =>
      show _ ↔ True ∧ _
      rw [true_and]
      rfl
  | cons p ps ih =>
      rw [List.cons_append, SpacesFit, SpacesFit, ih, ← List.cons_append, lead_append,
        List.foldl_cons, and_assoc]

theorem spacesFit_of_no_space (h : space ∉ ps) : SpacesFit width after column ps := by
  induction ps generalizing column with
  | nil => trivial
  | cons p ps ih =>
      rw [List.mem_cons, not_or] at h
      exact ⟨fun hp => absurd hp.symm h.1, ih h.2⟩

/-- A row on one line that ends within the width. -/
theorem spacesFit_of_columnsOf (hline : ∀ p ∈ ps, p.isNewline = false)
    (h : column + columnsOf ps + after ≤ width) : SpacesFit width after column ps := by
  induction ps generalizing column with
  | nil => trivial
  | cons p ps ih =>
      have hp := hline p List.mem_cons_self
      constructor
      · intro _
        rw [lead_of_no_newline hline]
        omega
      · refine ih (fun q hq => hline q (List.mem_cons_of_mem _ hq)) ?_
        rw [advance_of_not_newline hp]
        rw [columnsOf] at h
        omega

/-- Line breaks to the same indentation, at least one. -/
def Breaks (indent : Nat) (gap : List Piece) : Prop := gap ≠ [] ∧ ∀ p ∈ gap, p = newline indent

theorem Breaks.lead {indent : Nat} {gap : List Piece} (h : Breaks indent gap) (after : Nat)
    (ps : List Piece) : lead after (gap ++ ps) = 0 := by
  obtain ⟨p, ps', rfl⟩ := List.exists_cons_of_ne_nil h.1
  rw [h.2 p List.mem_cons_self]
  rfl

theorem Breaks.foldl_advance {indent : Nat} {gap : List Piece} (h : Breaks indent gap)
    (column : Nat) : gap.foldl advance column = indent := by
  obtain ⟨hne, hgap⟩ := h
  rw [← List.dropLast_append_getLast hne, List.foldl_concat, hgap _ (List.getLast_mem hne)]
  rfl

theorem Breaks.space_not_mem {indent : Nat} {gap : List Piece} (h : Breaks indent gap) :
    space ∉ gap := fun hs => nomatch h.2 space hs

/-- A line break lets what stands before it and what stands behind it fit by themselves. -/
theorem Breaks.spacesFit {indent : Nat} {gap : List Piece} (h : Breaks indent gap)
    (hps : SpacesFit width 0 column ps) (hqs : SpacesFit width after indent qs) :
    SpacesFit width after column (ps ++ gap ++ qs) := by
  rw [List.append_assoc, spacesFit_append, h.lead, spacesFit_append, h.foldl_advance]
  exact ⟨hps, spacesFit_of_no_space h.space_not_mem, hqs⟩

end Piece

namespace Arrangement

theorem forall_mem_row {P : Piece → Prop} {gap : List Piece} {depth : Nat} {as : List Arrangement}
    (hgap : ∀ p ∈ gap, P p) (h : ∀ a ∈ as, ∀ p ∈ a.pieces depth, P p) :
    ∀ p ∈ row gap depth as, P p := by
  match as with
  | [] => exact nofun
  | [a] => exact h a List.mem_cons_self
  | a :: b :: bs =>
      have hrest : ∀ p ∈ row gap depth (b :: bs), P p :=
        forall_mem_row hgap fun c hc => h c (List.mem_cons_of_mem _ hc)
      intro p hp
      rw [row, List.mem_append, List.mem_append] at hp
      rcases hp with (hp | hp) | hp
      · exact h a List.mem_cons_self p hp
      · exact hgap p hp
      · exact hrest p hp

end Arrangement

namespace SExpr

mutual
theorem isNewline_flat (depth : Nat) (x : SExpr) :
    ∀ p ∈ x.flat.pieces depth, p.isNewline = false := by
  cases x with
  | atom t => exact fun p hp => List.mem_singleton.1 hp ▸ rfl
  | list o xs c =>
      have hgap : ∀ p ∈ Arrangement.gap false (depth + 1), p.isNewline = false :=
        fun p hp => List.mem_singleton.1 hp ▸ rfl
      have hrow := Arrangement.forall_mem_row hgap (isNewline_flats (depth + 1) xs)
      intro p hp
      rw [flat, Arrangement.pieces, List.mem_cons, List.mem_append, List.mem_singleton] at hp
      rcases hp with rfl | hp | rfl
      · rfl
      · exact hrow p hp
      · rfl

theorem isNewline_flats (depth : Nat) (xs : List SExpr) :
    ∀ a ∈ flats xs, ∀ p ∈ a.pieces depth, p.isNewline = false := by
  cases xs with
  | nil => exact nofun
  | cons x xs =>
      intro a ha
      rcases List.mem_cons.1 ha with rfl | ha
      · exact isNewline_flat depth x
      · exact isNewline_flats depth xs a ha
end

mutual
theorem columnsOf_flat (depth : Nat) (x : SExpr) :
    Piece.columnsOf (x.flat.pieces depth) = x.inlineColumns := by
  cases x with
  | atom t => rfl
  | list o xs c =>
      rw [flat, Arrangement.pieces, Piece.columnsOf, Piece.columnsOf_append,
        columnsOf_flats (depth + 1) xs, inlineColumns, ← Nat.add_assoc]
      rfl

theorem columnsOf_flats (depth : Nat) (xs : List SExpr) :
    Piece.columnsOf (Arrangement.row (Arrangement.gap false depth) depth (flats xs)) =
      inlineColumnsOf xs := by
  match xs with
  | [] => rfl
  | [x] => exact columnsOf_flat depth x
  | x :: y :: ys =>
      have hrest := columnsOf_flats depth (y :: ys)
      rw [flats, flats, Arrangement.row, Piece.columnsOf_append, Piece.columnsOf_append,
        columnsOf_flat depth x, ← flats, hrest]
      rfl
end

mutual
theorem spacesFit_arrange (width depth column after : Nat) (x : SExpr) :
    Piece.SpacesFit width after column ((x.arrange width depth column after).pieces depth) := by
  cases x with
  | atom t => exact ⟨nofun, trivial⟩
  | list o xs c =>
      by_cases h : column + (list o xs c).inlineColumns + after ≤ width
      · rw [arrange_of_fits h]
        rw [← columnsOf_flat depth] at h
        exact Piece.spacesFit_of_columnsOf (isNewline_flat depth _) h
      · have hgap : Piece.Breaks (2 * (depth + 1)) (Arrangement.gap true (depth + 1)) :=
          ⟨nofun, fun p hp => List.mem_singleton.1 hp⟩
        have hitems := spacesFit_arrangeAll width (depth + 1) (column + 1) (after + 1) hgap xs
        have hlead : Piece.lead after [.closing] = after + 1 := Nat.add_comm 1 after
        rw [arrange_of_not_fits h, Arrangement.pieces]
        refine ⟨nofun, Piece.spacesFit_append.2 ⟨?_, nofun, trivial⟩⟩
        rw [hlead]
        exact hitems

theorem spacesFit_arrangeAll (width depth column after : Nat) {gap : List Piece}
    (hgap : Piece.Breaks (2 * depth) gap) (xs : List SExpr) :
    Piece.SpacesFit width after column
      (Arrangement.row gap depth (arrangeAll width depth column after xs)) := by
  match xs with
  | [] => trivial
  | [x] => exact spacesFit_arrange width depth column after x
  | x :: y :: ys =>
      have hx := spacesFit_arrange width depth column 0 x
      have hrest := spacesFit_arrangeAll width depth (2 * depth) after hgap (y :: ys)
      exact hgap.spacesFit hx hrest
end

end SExpr

end Sexpr
