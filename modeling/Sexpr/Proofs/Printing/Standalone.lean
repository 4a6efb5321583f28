/-
Items at the margin are laid out alone.

A blank line takes the printer back to the margin, and nothing of what was written before it or
comes after it bears on an item.  So the text of a program is made of the texts of its items,
each of which is on one line if it fits in the width.  A list that does not fit has a line break
between any two of its items, but an item of it may still be flat.
-/
import Sexpr.Proofs.Printing.Marks
import Sexpr.Text.Blank

namespace Sexpr

def Text.IsAscii (s : String) : Prop := ∀ c ∈ s.toList, c.toNat < 0x80

theorem pretty_sexpr (width : Nat) (x : SExpr) : pretty width x = x.doc.render width := by
  show (((SExpr.print Pretty.printer x).run Pretty.start).2.document).render width = _
  rw [Pretty.run_print]
  rfl

theorem oneLine_sexpr (x : SExpr) : oneLine x = x.inline := by
  show ((SExpr.print OneLine.printer x).run OneLine.start).2.text = _
  rw [OneLine.run_print, OneLine.write_text rfl, String.intercalate_singleton]
  exact String.empty_append

theorem pretty_items (width : Nat) (xs : List SExpr) :
    (Doc.intersperse (Doc.line ++ Doc.line) (SExpr.docs xs)).render width =
      "\n\n".intercalate (xs.map (pretty width)) := by
  have hdocs : (SExpr.docs xs).map (Doc.render width) = xs.map (pretty width) := by
    rw [SExpr.docs_eq_map, List.map_map]
    exact List.map_congr_left fun x _ => (pretty_sexpr width x).symm
  rw [Doc.render_intersperse_lines, hdocs]

theorem pretty_sequence (width : Nat) (s : Sequence) :
    pretty width s = "\n\n".intercalate (s.items.map (pretty width)) := by
  -- To a printer a sequence is a program with its items.
  have hprogram : pretty width s = pretty width (Program.mk s.items) := rfl
  rw [hprogram, pretty_program, pretty_items]

namespace SExpr

variable {x : SExpr} {width : Nat}

theorem pretty_of_fits (h : x.inlineColumns ≤ width) : pretty width x = x.inline := by
  rw [pretty_sexpr]
  cases x with
  | atom t => exact Doc.render_ofText width t.text
  | list o xs c =>
      have hfits : Doc.Output.start.column + (list o xs c).doc.flatColumns + 0 ≤ width := by
        rw [flatColumns_doc]
        show 0 + _ + 0 ≤ width
        omega
      rw [Doc.render, doc, Doc.emit_parenthesize_of_fits hfits, ← doc, flatText_doc]
      exact String.empty_append

theorem pretty_of_not_fits {o c : Token} {xs : List SExpr} (hx : (list o xs c).Worded)
    (h : width < (list o xs c).inlineColumns) :
    pretty width (list o xs c) =
      (Arrangement.list o true (arrangeAll width 1 1 1 xs) c).text 0 := by
  have hfits : ¬0 + (list o xs c).inlineColumns + 0 ≤ width := by omega
  rw [pretty_sexpr, Doc.render, emit_doc width 0 0 0 Doc.Output.start hx]
  show "" ++ ((list o xs c).arrange width 0 0 0).text 0 = _
  rw [arrange_of_not_fits hfits, String.empty_append]

/-! ## Columns of ASCII -/

mutual
theorem length_inline (x : SExpr) (h : ∀ t ∈ x.atoms, Text.IsAscii t.text) :
    x.inline.length = x.inlineColumns := by
  cases x with
  | atom t => exact (Text.columns_of_ascii (h t List.mem_cons_self)).symm
  | list o xs c =>
      rw [inline, String.length_append, String.length_append, length_inlineAll xs h, inlineColumns]
      rfl

theorem length_inlineAll (xs : List SExpr) (h : ∀ t ∈ atomsOf xs, Text.IsAscii t.text) :
    (" ".intercalate (inlineAll xs)).length = inlineColumnsOf xs := by
  match xs with
  | [] => rfl
  | [x] =>
      rw [atomsOf, List.forall_mem_append] at h
      rw [inlineAll, inlineAll, String.intercalate_singleton, length_inline x h.1]
      rfl
  | x :: y :: ys =>
      rw [atomsOf, List.forall_mem_append] at h
      have hrest := length_inlineAll (y :: ys) h.2
      rw [inlineAll] at hrest
      rw [inlineAll, inlineAll, String.intercalate_cons_cons, String.length_append,
        String.length_append, length_inline x h.1, hrest]
      rfl
end

end SExpr

/-- Programs and sequences are laid out item by item.  An item is written on one line if it
fits, and a list that does not fit has a line break between any two of its items.  Items are
measured token by token, which for ASCII gives the length of their text on one line. -/
theorem items_laid_out_alone :
    (∀ (width : Nat) (p : Program),
      pretty width p = "\n\n".intercalate (p.exprs.map (pretty width))) ∧
    (∀ (width : Nat) (s : Sequence),
      pretty width s = "\n\n".intercalate (s.items.map (pretty width))) ∧
    (∀ (width : Nat) (x : SExpr), x.inlineColumns ≤ width → pretty width x = oneLine x) ∧
    (∀ (width : Nat) (o c : Token) (xs : List SExpr), (SExpr.list o xs c).Worded →
      width < (SExpr.list o xs c).inlineColumns →
        ∃ as, Arrangement.trees as = xs ∧ Arrangement.AllInherit as ∧
          pretty width (SExpr.list o xs c) =
            "(" ++ "\n  ".intercalate (Arrangement.texts 1 as) ++ ")") ∧
    ∀ x : SExpr, (∀ t ∈ x.atoms, Text.IsAscii t.text) → (oneLine x).length = x.inlineColumns := by
  refine ⟨?_, pretty_sequence, ?_, ?_, ?_⟩
  · intro width p
    rw [pretty_program, pretty_items]
  · intro width x h
    rw [SExpr.pretty_of_fits h, oneLine_sexpr]
  · intro width o c xs hx h
    exact ⟨_, SExpr.trees_arrangeAll width 1 1 1 xs, SExpr.allInherit_arrangeAll width 1 1 1 xs,
      SExpr.pretty_of_not_fits hx h⟩
  · intro x h
    rw [oneLine_sexpr, SExpr.length_inline x h]

/-- In a list that does not fit, the first separator is a space where it stands inside an item
that fits. -/
theorem first_separator_inside_item :
    let word (s : String) : SExpr := .atom ⟨.id, s, ⟨0, 0⟩⟩
    let list (xs : List SExpr) : SExpr := .list ⟨.literal, "(", ⟨0, 0⟩⟩ xs ⟨.literal, ")", ⟨0, 0⟩⟩
    let x := list [list [word "a", word "b"], word "c"]
    8 < x.inlineColumns ∧ (oneLine x).length = 9 ∧ pretty 8 x = "((a b)\n  c)" ∧
      (pretty 8 x).toList.find? Text.isBlank = some ' ' := by
  decide +kernel

end Sexpr
