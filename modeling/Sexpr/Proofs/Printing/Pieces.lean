/-
The pieces of a printed program.

The text of an arrangement is a row of words, parentheses and separators.  Two arrangements of
one tree make rows that differ at separators only, and there one has a space where the other
has a line break.  These differ in their first character, so the text of a program determines
its pieces, whatever blanks and line breaks its tokens contain.
-/
import Mathlib.Data.List.Forall2
import Sexpr.Proofs.Printing.Marks

namespace Sexpr

inductive Piece where
  | word (text : String)
  | opening
  | closing
  | space
  /-- A line break and the indentation of the line behind it. -/
  | newline (indent : Nat)
deriving DecidableEq

namespace Piece

def text : Piece → String
  | word s => s
  | opening => "("
  | closing => ")"
  | space => " "
  | newline indent => "\n" ++ Text.spaces indent

def textOf (ps : List Piece) : String := String.join (ps.map text)

theorem textOf_cons (p : Piece) (ps : List Piece) : textOf (p :: ps) = p.text ++ textOf ps :=
  String.join_cons

theorem textOf_singleton (p : Piece) : textOf [p] = p.text := by
  rw [textOf_cons]
  exact String.append_empty

theorem textOf_append (ps qs : List Piece) : textOf (ps ++ qs) = textOf ps ++ textOf qs := by
  rw [textOf, List.map_append, String.join_append]
  rfl

/-- Whether a piece stays what it is, or is a line break that becomes a space. -/
inductive Relaxes : Piece → Piece → Prop where
  | same (p : Piece) : Relaxes p p
  | joined (indent : Nat) : Relaxes (newline indent) space

/-- Whether two pieces may stand in the same place of a tree. -/
def Alike (p q : Piece) : Prop := Relaxes p q ∨ Relaxes q p

theorem Alike.same (p : Piece) : p.Alike p := .inl (.same p)

theorem Relaxes.eq_of_text {p q : Piece} (h : Relaxes p q) {s t : String}
    (htext : p.text ++ s = q.text ++ t) : p = q := by
  cases h with
  | same => rfl
  | joined indent =>
      -- A line break and a space differ in their first character.
      have hhead := congrArg (fun r => r.toList.head?) htext
      simp [text] at hhead

theorem Alike.eq_of_text {p q : Piece} (h : Alike p q) {s t : String}
    (htext : p.text ++ s = q.text ++ t) : p = q := by
  cases h with
  | inl h => exact h.eq_of_text htext
  | inr h => exact (h.eq_of_text htext.symm).symm

theorem eq_of_textOf {ps qs : List Piece} (h : List.Forall₂ Alike ps qs)
    (htext : textOf ps = textOf qs) : ps = qs := by
  induction h with
  | nil => rfl
  | cons hpq _ ih =>
      rw [textOf_cons, textOf_cons] at htext
      obtain rfl := hpq.eq_of_text htext
      rw [ih ((String.append_right_inj _).1 htext)]

end Piece

namespace Arrangement

/-- What stands between the items of a list at nesting depth `depth`. -/
def gap (broken : Bool) (depth : Nat) : List Piece :=
  [if broken then .newline (2 * depth) else .space]

mutual
/-- The pieces of an arrangement with `depth` lists around it. -/
def pieces (depth : Nat) : Arrangement → List Piece
  | atom t => [.word t.text]
  | list _ broken items _ =>
    .opening :: (row (gap broken (depth + 1)) (depth + 1) items ++ [.closing])

/-- The pieces of arrangements side by side, with `gap` between neighbours. -/
def row (gap : List Piece) (depth : Nat) : List Arrangement → List Piece
  | [] => []
  | [a] => pieces depth a
  | a :: b :: bs => pieces depth a ++ gap ++ row gap depth (b :: bs)
end

def paragraphRow (as : List Arrangement) : List Piece := row [.newline 0, .newline 0] 0 as

theorem textOf_gap (broken : Bool) (depth : Nat) :
    Piece.textOf (gap broken depth) = separator broken depth := by
  rw [gap, Piece.textOf_singleton]
  cases broken <;> rfl

mutual
theorem textOf_pieces (depth : Nat) (a : Arrangement) :
    Piece.textOf (a.pieces depth) = a.text depth := by
  cases a with
  | atom t => exact Piece.textOf_singleton _
  | list o broken as c =>
      rw [pieces, Piece.textOf_cons, Piece.textOf_append,
        textOf_row (textOf_gap broken (depth + 1)) (depth + 1) as, Piece.textOf_singleton,
        ← String.append_assoc]
      rfl

theorem textOf_row {gap : List Piece} {separator : String}
    (hgap : Piece.textOf gap = separator) (depth : Nat) (as : List Arrangement) :
    Piece.textOf (row gap depth as) = separator.intercalate (texts depth as) := by
  match as with
  | [] => rfl
  | [a] => rw [row, textOf_pieces depth a, texts, texts, String.intercalate_singleton]
  | a :: b :: bs =>
      rw [row, Piece.textOf_append, Piece.textOf_append, textOf_pieces depth a, hgap,
        textOf_row hgap depth (b :: bs), texts, texts, texts, String.intercalate_cons_cons]
end

theorem textOf_paragraphRow (as : List Arrangement) :
    Piece.textOf (paragraphRow as) = paragraphs as := textOf_row rfl 0 as

/-- Rows of items that correspond piece by piece correspond piece by piece. -/
theorem forall₂_row {R : Piece → Piece → Prop} {gap gap' : List Piece} {depth : Nat}
    {as bs : List Arrangement} (hgap : List.Forall₂ R gap gap')
    (h : List.Forall₂ (fun a b => List.Forall₂ R (a.pieces depth) (b.pieces depth)) as bs) :
    List.Forall₂ R (row gap depth as) (row gap' depth bs) := by
  induction h with
  | nil => exact .nil
  | cons hab hrest ih =>
      cases hrest with
      | nil => exact hab
      | cons _ _ => exact List.rel_append (List.rel_append hab hgap) ih

/-- The pieces of a list correspond if its gaps and items do, since it has the parentheses
whatever the marks are. -/
theorem forall₂_pieces_list {R : Piece → Piece → Prop} (hR : ∀ p, R p p) {depth : Nat}
    {o c p d : Token} {broken broken' : Bool} {as bs : List Arrangement}
    (hgap : List.Forall₂ R (gap broken (depth + 1)) (gap broken' (depth + 1)))
    (h : List.Forall₂ (fun a b => List.Forall₂ R (a.pieces (depth + 1)) (b.pieces (depth + 1)))
      as bs) :
    List.Forall₂ R ((list o broken as c).pieces depth) ((list p broken' bs d).pieces depth) :=
  .cons (hR _) (List.rel_append (forall₂_row hgap h) (.cons (hR _) .nil))

theorem forall₂_paragraphRow {R : Piece → Piece → Prop} (hR : ∀ p, R p p)
    {as bs : List Arrangement}
    (h : List.Forall₂ (fun a b => List.Forall₂ R (a.pieces 0) (b.pieces 0)) as bs) :
    List.Forall₂ R (paragraphRow as) (paragraphRow bs) :=
  forall₂_row (List.forall₂_same.2 fun p _ => hR p) h

theorem alike_gap (broken broken' : Bool) (depth : Nat) :
    List.Forall₂ Piece.Alike (gap broken depth) (gap broken' depth) := by
  refine .cons ?_ .nil
  cases broken <;> cases broken'
  · exact .same _
  · exact .inr (.joined _)
  · exact .inl (.joined _)
  · exact .same _

mutual
theorem alike_of_tree {a b : Arrangement} (h : a.tree = b.tree) (depth : Nat) :
    List.Forall₂ Piece.Alike (a.pieces depth) (b.pieces depth) := by
  cases a with
  | atom t =>
      cases b with
      | atom u =>
          obtain rfl := SExpr.atom.inj h
          exact .cons (.same _) .nil
      | list p broken bs d => exact nomatch h
  | list o broken as c =>
      cases b with
      | atom u => exact nomatch h
      | list p broken' bs d =>
          have hitems : trees as = trees bs := (SExpr.list.inj h).2.1
          exact forall₂_pieces_list .same (alike_gap broken broken' (depth + 1))
            (alike_of_trees hitems (depth + 1))

theorem alike_of_trees {as bs : List Arrangement} (h : trees as = trees bs) (depth : Nat) :
    List.Forall₂ (fun a b => List.Forall₂ Piece.Alike (a.pieces depth) (b.pieces depth))
      as bs := by
  cases as with
  | nil =>
      cases bs with
      | nil => exact .nil
      | cons b bs => exact nomatch h
  | cons a as =>
      cases bs with
      | nil => exact nomatch h
      | cons b bs =>
          obtain ⟨hhead, htail⟩ := List.cons.inj h
          exact .cons (alike_of_tree hhead depth) (alike_of_trees htail depth)
end

end Arrangement

namespace Program

/-- Whether a text is that of the tree of a program, made of these pieces, with its lists marked
in some way. -/
def ReadsAs (p : Program) (text : String) (ps : List Piece) : Prop :=
  ∃ as, Arrangement.trees as = p.exprs ∧ Arrangement.paragraphRow as = ps ∧ Piece.textOf ps = text

theorem textOf_arrange {p : Program} (hp : p.Worded) (width : Nat) :
    Piece.textOf (Arrangement.paragraphRow (p.arrange width)) = pretty width p := by
  rw [Arrangement.textOf_paragraphRow, pretty_eq_paragraphs hp]

/-- What the pretty printer writes is read in one way. -/
theorem readsAs_pretty {p : Program} (hp : p.Worded) (width : Nat) (ps : List Piece) :
    p.ReadsAs (pretty width p) ps ↔ ps = Arrangement.paragraphRow (p.arrange width) := by
  constructor
  · rintro ⟨as, htrees, rfl, htext⟩
    have htrees : Arrangement.trees as = Arrangement.trees (p.arrange width) := by
      rw [htrees, trees_arrange]
    have halike := Arrangement.forall₂_paragraphRow .same (Arrangement.alike_of_trees htrees 0)
    exact Piece.eq_of_textOf halike (htext.trans (textOf_arrange hp width).symm)
  · rintro rfl
    exact ⟨p.arrange width, p.trees_arrange width, rfl, textOf_arrange hp width⟩

end Program
end Sexpr
