/-
What the pretty printer writes is an arrangement.

Laying out the document of a tree marks its lists one by one, and the text is that of the tree
with these marks.  Each top-level item is laid out at the margin, with nothing behind it on its
last line.
-/
import Sexpr.Proofs.Printing.Arrangement
import Sexpr.Proofs.Printing.ListDocument
import Sexpr.Proofs.Printing.Pretty

namespace Sexpr

namespace SExpr

mutual
theorem flatText_doc (x : SExpr) : x.doc.flatText = x.inline := by
  cases x with
  | atom t => exact Doc.flatText_ofText t.text
  | list o xs c =>
      show "(" ++ (Doc.intersperse Doc.line (docs xs)).flatText ++ ")" = _
      rw [flatText_docs xs, inline]

theorem flatText_docs (xs : List SExpr) :
    (Doc.intersperse Doc.line (docs xs)).flatText = " ".intercalate (inlineAll xs) := by
  match xs with
  | [] => rfl
  | [x] =>
      show x.doc.flatText = " ".intercalate [x.inline]
      rw [flatText_doc x, String.intercalate_singleton]
  | x :: y :: ys =>
      have hrest : (Doc.intersperse Doc.line (y.doc :: docs ys)).flatText =
          " ".intercalate (y.inline :: inlineAll ys) := flatText_docs (y :: ys)
      rw [docs, docs, Doc.flatText_intersperse_line, flatText_doc x, hrest, inlineAll, inlineAll,
        String.intercalate_cons_cons]
end

mutual
theorem flatColumns_doc (x : SExpr) : x.doc.flatColumns = x.inlineColumns := by
  cases x with
  | atom t => exact Doc.flatColumns_ofText t.text
  | list o xs c =>
      show 1 + (Doc.intersperse Doc.line (docs xs)).flatColumns + 1 = _
      rw [flatColumns_docs xs, inlineColumns]

theorem flatColumns_docs (xs : List SExpr) :
    (Doc.intersperse Doc.line (docs xs)).flatColumns = inlineColumnsOf xs := by
  match xs with
  | [] => rfl
  | [x] => exact flatColumns_doc x
  | x :: y :: ys =>
      have hrest : (Doc.intersperse Doc.line (y.doc :: docs ys)).flatColumns =
          inlineColumnsOf (y :: ys) := flatColumns_docs (y :: ys)
      rw [docs, docs, Doc.flatColumns_intersperse_line, flatColumns_doc x, hrest, inlineColumnsOf]
      rfl
end

/-! ## Layouts

The empty text is the empty document, which leaves no trace, so a line break before it is
taken for one before what follows.  Where every atom has a text, every line break is followed
by an item of the list it is in. -/

/-- Whether every atom has a text. -/
def Worded (x : SExpr) : Prop := ∀ t ∈ x.atoms, t.text ≠ ""

def AllWorded (xs : List SExpr) : Prop := ∀ t ∈ atomsOf xs, t.text ≠ ""

theorem allWorded_cons {x : SExpr} {xs : List SExpr} :
    AllWorded (x :: xs) ↔ x.Worded ∧ AllWorded xs := List.forall_mem_append

theorem Worded.doc_ne_nil {x : SExpr} (h : x.Worded) : x.doc ≠ .nil := by
  cases x with
  | atom t => exact Doc.ofText_ne_nil (h t List.mem_cons_self)
  | list o xs c => exact Doc.append_ne_nil (Doc.ofText_ne_nil (by decide))

theorem AllWorded.docs_ne_nil {xs : List SExpr} (h : AllWorded xs) : ∀ d ∈ docs xs, d ≠ .nil := by
  induction xs with
  | nil => exact nofun
  | cons x xs ih =>
      obtain ⟨hx, hxs⟩ := allWorded_cons.1 h
      intro d hd
      rcases List.mem_cons.1 hd with rfl | hd
      · exact hx.doc_ne_nil
      · exact ih hxs d hd

mutual
theorem emit_doc (width depth next after : Nat) (o : Doc.Output) {x : SExpr} (hx : x.Worded) :
    (Doc.emit width x.doc (2 * depth) next after o).text =
      o.text ++ (x.arrange width depth o.column after).text depth := by
  cases x with
  | atom t =>
      have ht : t.text ≠ "" := hx t List.mem_cons_self
      rw [doc, Doc.ofText, if_neg ht]
      rfl
  | list p xs c =>
      by_cases h : o.column + (list p xs c).inlineColumns + after ≤ width
      · rw [arrange_of_fits h, text_flat, ← flatText_doc]
        rw [← flatColumns_doc] at h
        exact Doc.emit_parenthesize_of_fits h
      · rw [arrange_of_not_fits h]
        rw [← flatColumns_doc] at h
        have hitems : (Doc.emit width (Doc.intersperse Doc.line (docs xs)) (2 * depth + 2)
            (2 * depth) (after + 1) (o.write "(" 1)).text = _ :=
          emit_docs width (depth + 1) (2 * depth) (after + 1) (o.write "(" 1) hx
        rw [doc, Doc.emit_parenthesize_of_not_fits h, hitems, Arrangement.text]
        simp only [Doc.Output.write, String.append_assoc]

theorem emit_docs (width depth next after : Nat) (o : Doc.Output) {xs : List SExpr}
    (hxs : AllWorded xs) :
    (Doc.emit width (Doc.intersperse Doc.line (docs xs)) (2 * depth) next after o).text =
      o.text ++ (Arrangement.separator true depth).intercalate
        (Arrangement.texts depth (arrangeAll width depth o.column after xs)) := by
  match xs with
  | [] => exact String.append_empty.symm
  | [x] =>
      obtain ⟨hx, -⟩ := allWorded_cons.1 hxs
      show (Doc.emit width x.doc (2 * depth) next after o).text =
        o.text ++ (Arrangement.separator true depth).intercalate
          [(x.arrange width depth o.column after).text depth]
      rw [emit_doc width depth next after o hx, String.intercalate_singleton]
  | x :: y :: ys =>
      obtain ⟨hx, hys⟩ := allWorded_cons.1 hxs
      let behind := (Doc.emit width x.doc (2 * depth) (2 * depth) 0 o).breakLine (2 * depth)
      have hbreak : behind.text = o.text ++ (x.arrange width depth o.column 0).text depth ++
          Arrangement.separator true depth := by
        show _ ++ "\n" ++ Text.spaces (2 * depth) = _
        rw [emit_doc width depth (2 * depth) 0 o hx, String.append_assoc]
        rfl
      have hrest : (Doc.emit width (Doc.intersperse Doc.line (y.doc :: docs ys)) (2 * depth) next
          after behind).text = _ := emit_docs width depth next after behind hys
      have hcolumn : behind.column = 2 * depth := rfl
      rw [docs, docs, Doc.emit_intersperse_line_cons _ _ _ _ _ hys.docs_ne_nil, hrest, hbreak,
        hcolumn, arrangeAll, arrangeAll, arrangeAll, Arrangement.texts, Arrangement.texts,
        Arrangement.texts, String.intercalate_cons_cons]
      simp only [String.append_assoc]
      rfl
end

theorem render_docs (width : Nat) {xs : List SExpr} (hxs : AllWorded xs) :
    (docs xs).map (Doc.render width) = Arrangement.texts 0 (arrangeAll width 0 0 0 xs) := by
  induction xs with
  | nil => rfl
  | cons x xs ih =>
      obtain ⟨hx, hxs⟩ := allWorded_cons.1 hxs
      have hx : x.doc.render width = (x.arrange width 0 0 0).text 0 := by
        rw [Doc.render, emit_doc width 0 0 0 Doc.Output.start hx]
        exact String.empty_append
      rw [docs, List.map_cons, hx, ih hxs, arrangeAll, Arrangement.texts, ite_self]

end SExpr

namespace Program

def atoms (p : Program) : List Token := SExpr.atomsOf p.exprs

/-- Whether every atom has a text. -/
def Worded (p : Program) : Prop := ∀ t ∈ p.atoms, t.text ≠ ""

instance (p : Program) : Decidable p.Worded := inferInstanceAs (Decidable (∀ _ ∈ _, _))

/-- The arrangement of a program within `width` columns. -/
def arrange (width : Nat) (p : Program) : List Arrangement := SExpr.arrangeAll width 0 0 0 p.exprs

variable {p : Program}

theorem trees_arrange (width : Nat) (p : Program) : Arrangement.trees (p.arrange width) = p.exprs :=
  SExpr.trees_arrangeAll width 0 0 0 p.exprs

theorem pretty_eq_paragraphs (hp : p.Worded) (width : Nat) :
    pretty width p = Arrangement.paragraphs (p.arrange width) := by
  rw [pretty_program, Doc.render_intersperse_lines, SExpr.render_docs width hp]
  rfl

end Program

/-- What the pretty printer writes at a width is the text of the tree with its lists marked in
some way, where all lists inside a flat list are flat.  The marks choose between the separators
of each list and bear on nothing else: the text on one line is that of the same tree with all
lists marked flat. -/
theorem marks_decide_layout (width : Nat) (p : Program) (hp : p.Worded) :
    ∃ as : List Arrangement, Arrangement.trees as = p.exprs ∧ Arrangement.AllInherit as ∧
      pretty width p = Arrangement.paragraphs as ∧
      oneLine p = " ".intercalate (Arrangement.texts 0 (SExpr.flats p.exprs)) := by
  refine ⟨p.arrange width, p.trees_arrange width, ?_, Program.pretty_eq_paragraphs hp width, ?_⟩
  · exact SExpr.allInherit_arrangeAll width 0 0 0 p.exprs
  · rw [oneLine_program, SExpr.texts_flats]

/-- A broken list whose first item is a flat one, with an item beside it. -/
theorem marks_decide_layout_of_pair :
    let a : SExpr := .atom ⟨.id, "a", ⟨2, 3⟩⟩
    let p : Program := ⟨[.list ⟨.literal, "(", ⟨0, 1⟩⟩
      [.list ⟨.literal, "(", ⟨1, 2⟩⟩ [a, a] ⟨.literal, ")", ⟨5, 6⟩⟩, a] ⟨.literal, ")", ⟨8, 9⟩⟩, a]⟩
    p.Worded ∧ ∃ as : List Arrangement, Arrangement.trees as = p.exprs ∧
      Arrangement.AllInherit as ∧ "((a a)\n  a)\n\na" = Arrangement.paragraphs as ∧
      oneLine p = " ".intercalate (Arrangement.texts 0 (SExpr.flats p.exprs)) := by
  intro a p
  have hp : p.Worded := by decide
  have hpretty : pretty 8 p = "((a a)\n  a)\n\na" := by decide +kernel
  refine ⟨hp, ?_⟩
  rw [← hpretty]
  exact marks_decide_layout 8 p hp

end Sexpr
