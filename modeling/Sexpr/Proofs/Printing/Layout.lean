/-
The layouts of a document.

Whatever the width, laying a document out writes its texts as they are and turns
every line into a space or into a line break with some indentation.  The layouts
are all the texts that can come of this, so what holds of every layout holds at
every width.
-/
import Sexpr.Layout.Document

namespace Sexpr
namespace Doc

/-- Whether a text is a layout of a document, for some choice at every line. -/
def Lays : Doc → List Char → Prop
  | nil, s => s = []
  | text t, s => s = t.toList
  | line, s => s = [' '] ∨ ∃ indent, s = '\n' :: List.replicate indent ' '
  | cat a b, s => ∃ u v, s = u ++ v ∧ Lays a u ∧ Lays b v
  | nest _ d, s | group d, s => Lays d s

variable {a b d : Doc} {s : List Char} {t : String}

theorem lays_flatText (d : Doc) : d.Lays d.flatText.toList := by
  induction d with
  | nil => rfl
  | text t => rfl
  | line => exact .inl rfl
  | cat a b iha ihb => exact ⟨_, _, String.toList_append, iha, ihb⟩
  | nest n d ih => exact ih
  | group d ih => exact ih

/-- Laying out appends one of the layouts to what has been written. -/
theorem lays_emit (width : Nat) (d : Doc) (indent next after : Nat) (o : Output) :
    ∃ s, d.Lays s ∧
      (emit width d indent next after o).text.toList = o.text.toList ++ s := by
  induction d generalizing indent next after o with
  | nil =>
      refine ⟨[], rfl, ?_⟩
      rw [emit, List.append_nil]
  | text t =>
      refine ⟨t.toList, rfl, ?_⟩
      rw [emit]
      exact String.toList_append
  | line =>
      refine ⟨'\n' :: List.replicate next ' ', .inr ⟨next, rfl⟩, ?_⟩
      show (o.text ++ "\n" ++ Text.spaces next).toList = _
      simp only [String.toList_append, Text.spaces, String.toList_ofList, List.append_assoc]
      rfl
  | cat a b iha ihb =>
      obtain ⟨u, hu, hemit⟩ := iha indent indent (lead b after) o
      obtain ⟨v, hv, hemit'⟩ := ihb indent next after (emit width a indent indent (lead b after) o)
      refine ⟨u ++ v, ⟨u, v, rfl, hu, hv⟩, ?_⟩
      rw [emit, hemit', hemit, List.append_assoc]
  | nest amount d ih =>
      rw [emit]
      exact ih (indent + amount) next after o
  | group d ih =>
      rw [emit]
      split
      · exact ⟨d.flatText.toList, lays_flatText d, String.toList_append⟩
      · exact ih indent next after o

theorem lays_render (width : Nat) (d : Doc) : d.Lays (d.render width).toList := by
  obtain ⟨s, hs, hemit⟩ := lays_emit width d 0 0 0 Output.start
  rw [render, hemit]
  exact hs

/-! ## The layouts of composed documents -/

theorem lays_append : (a ++ b).Lays s ↔ ∃ u v, s = u ++ v ∧ a.Lays u ∧ b.Lays v := by
  show (append a b).Lays s ↔ _
  rw [append.eq_def]
  split
  · constructor
    · intro h
      exact ⟨[], s, rfl, rfl, h⟩
    · rintro ⟨u, v, rfl, rfl, hv⟩
      exact hv
  · constructor
    · intro h
      exact ⟨s, [], (List.append_nil s).symm, h, rfl⟩
    · rintro ⟨u, v, rfl, hu, rfl⟩
      rw [List.append_nil]
      exact hu
  · exact Iff.rfl

theorem lays_ofText : (ofText t).Lays s ↔ s = t.toList := by
  rw [ofText]
  split
  · rename_i h
    rw [h]
    exact Iff.rfl
  · exact Iff.rfl

theorem lays_parenthesize {items : List Doc} :
    (parenthesize items).Lays s ↔
      ∃ u, (intersperse line items).Lays u ∧ s = '(' :: (u ++ [')']) := by
  rw [parenthesize, lays_append]
  constructor
  · rintro ⟨_, w, rfl, h, hw⟩
    obtain ⟨v, u, rfl, hv, hu⟩ := lays_append.1 h
    rw [lays_ofText.1 hv, lays_ofText.1 hw]
    exact ⟨u, hu, rfl⟩
  · rintro ⟨u, hu, rfl⟩
    refine ⟨'(' :: u, [')'], rfl, lays_append.2 ⟨['('], u, rfl, ?_, hu⟩, lays_ofText.2 rfl⟩
    exact lays_ofText.2 rfl

end Doc
end Sexpr
