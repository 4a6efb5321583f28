/-
The documents of lists.

The items of a list are joined by lines, and the list is one group.  Where it fits, it is
written flat.  Where it does not, every item behind a line starts at the indentation, wherever
the items before it end.
-/
import Sexpr.Proofs.Printing.Paragraphs

namespace Sexpr
namespace Doc

theorem flatText_append (a b : Doc) : (a ++ b).flatText = a.flatText ++ b.flatText := by
  show (append a b).flatText = _
  rw [append.eq_def]
  split
  · exact String.empty_append.symm
  · exact String.append_empty.symm
  · rfl

theorem flatColumns_append (a b : Doc) : (a ++ b).flatColumns = a.flatColumns + b.flatColumns := by
  show (append a b).flatColumns = _
  rw [append.eq_def]
  split
  · exact (Nat.zero_add _).symm
  · rfl
  · rfl

theorem flatText_ofText (s : String) : (ofText s).flatText = s := by
  rw [ofText]
  split
  · rename_i h
    exact h.symm
  · rfl

theorem flatColumns_ofText (s : String) : (ofText s).flatColumns = Text.columns s := by
  rw [ofText]
  split
  · rename_i h
    rw [h]
    rfl
  · rfl

theorem parenthesize_eq (items : List Doc) :
    parenthesize items =
      cat (cat (text "(") (group (nest 2 (intersperse line items)))) (text ")") := rfl

/-- The document before a line may be joined to the one behind it first. -/
theorem intersperse_cons_cons (separator a d : Doc) (ds : List Doc) :
    intersperse separator (a :: d :: ds) = intersperse separator ((a ++ separator ++ d) :: ds) := rfl

/-- What is told of joined documents by an operation that may be bracketed in any way is told of
a list from its first document on. -/
theorem map_intersperse_cons_cons {α : Type} (f : Doc → α) (op : α → α → α)
    (hassoc : ∀ r s t, op (op r s) t = op r (op s t)) (hf : ∀ a b, f (a ++ b) = op (f a) (f b))
    (separator a d : Doc) (ds : List Doc) :
    f (intersperse separator (a :: d :: ds)) =
      op (op (f a) (f separator)) (f (intersperse separator (d :: ds))) := by
  induction ds generalizing a d with
  | nil =>
      show f (a ++ separator ++ d) = op (op (f a) (f separator)) (f d)
      rw [hf, hf]
  | cons e es ih =>
      rw [intersperse_cons_cons, ih, ih d, hf, hf]
      simp only [hassoc]

theorem flatText_intersperse_line (a d : Doc) (ds : List Doc) :
    (intersperse line (a :: d :: ds)).flatText =
      a.flatText ++ " " ++ (intersperse line (d :: ds)).flatText :=
  map_intersperse_cons_cons flatText (· ++ ·) @String.append_assoc flatText_append line a d ds

theorem flatColumns_intersperse_line (a d : Doc) (ds : List Doc) :
    (intersperse line (a :: d :: ds)).flatColumns =
      a.flatColumns + 1 + (intersperse line (d :: ds)).flatColumns :=
  map_intersperse_cons_cons flatColumns (· + ·) Nat.add_assoc flatColumns_append line a d ds

/-! ## Lists that do and do not fit -/

variable {width indent next after : Nat} {items : List Doc} {o : Output}

theorem emit_parenthesize :
    emit width (parenthesize items) indent next after o =
      (emit width (group (nest 2 (intersperse line items))) indent indent (1 + after)
        (o.write "(" 1)).write ")" 1 := rfl

/-- The items of a list fit behind its opening parenthesis, with the closing one behind them,
if the list fits. -/
theorem items_fit_iff :
    (o.write "(" 1).column + (nest 2 (intersperse line items)).flatColumns + (1 + after) ≤ width ↔
      o.column + (parenthesize items).flatColumns + after ≤ width := by
  have hcolumns : (parenthesize items).flatColumns =
      1 + (nest 2 (intersperse line items)).flatColumns + 1 := rfl
  have hcolumn : (o.write "(" 1).column = o.column + 1 := rfl
  rw [hcolumns, hcolumn]
  omega

theorem emit_parenthesize_of_fits
    (h : o.column + (parenthesize items).flatColumns + after ≤ width) :
    (emit width (parenthesize items) indent next after o).text =
      o.text ++ (parenthesize items).flatText := by
  rw [emit_parenthesize, emit, if_pos (items_fit_iff.2 h)]
  simp only [Output.write, parenthesize_eq, flatText, String.append_assoc]

theorem emit_parenthesize_of_not_fits
    (h : ¬o.column + (parenthesize items).flatColumns + after ≤ width) :
    (emit width (parenthesize items) indent next after o).text =
      (emit width (intersperse line items) (indent + 2) indent (after + 1)
        (o.write "(" 1)).text ++ ")" := by
  rw [emit_parenthesize, emit, if_neg (mt items_fit_iff.1 h), Nat.add_comm after 1]
  rfl

/-! ## Items one on a line -/

theorem append_eq_cat {a b : Doc} (ha : a ≠ nil) (hb : b ≠ nil) : a ++ b = cat a b := by
  show append a b = _
  rw [append.eq_def]
  split
  · exact absurd rfl ha
  · exact absurd rfl hb
  · rfl

theorem ofText_ne_nil {s : String} (h : s ≠ "") : ofText s ≠ nil := by
  rw [ofText, if_neg h]
  exact Doc.noConfusion

theorem append_ne_nil {a b : Doc} (hb : b ≠ nil) : a ++ b ≠ nil := by
  by_cases ha : a = nil
  · rw [ha]
    exact hb
  · rw [append_eq_cat ha hb]
    exact nofun

theorem emit_append_line (width indent next after : Nat) (a : Doc) {d : Doc} (hd : d ≠ nil)
    (o : Output) :
    emit width (a ++ line ++ d) indent next after o =
      emit width d indent next after ((emit width a indent indent 0 o).breakLine indent) := by
  have hline : a ++ line ≠ nil := append_ne_nil nofun
  rw [append_eq_cat hline hd, emit, emit_append]
  rfl

/-- Wherever the items before it end, an item behind a line break starts at the indentation. -/
theorem emit_intersperse_line_cons (width indent next after : Nat) (a : Doc) {d : Doc}
    {ds : List Doc} (hds : ∀ e ∈ d :: ds, e ≠ nil) (o : Output) :
    emit width (intersperse line (a :: d :: ds)) indent next after o =
      emit width (intersperse line (d :: ds)) indent next after
        ((emit width a indent indent 0 o).breakLine indent) := by
  -- The documents are joined from the left, so `a` grows along the induction.
  induction ds generalizing a d o with
  | nil => exact emit_append_line width indent next after a (hds d List.mem_cons_self) o
  | cons e es ih =>
      have hd : d ≠ nil := hds d List.mem_cons_self
      have hes : ∀ f ∈ e :: es, f ≠ nil := fun f hf => hds f (List.mem_cons_of_mem _ hf)
      rw [intersperse_cons_cons, ih (a ++ line ++ d) hes, ih d hes,
        emit_append_line width indent indent 0 a hd]

end Doc

end Sexpr
