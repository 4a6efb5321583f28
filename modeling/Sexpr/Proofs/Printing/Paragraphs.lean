/-
Documents with blank lines between them.

What was written before a document bears on its layout only through the column it
ends in, and what follows only through the columns up to its first line break.
Lines outside of every group always break, so at the margin both are zero next to
them, and each document between them is laid out as it would be alone.
-/
import Sexpr.Layout.Document

namespace Sexpr
namespace Doc

/-- The output with a text in front of it. -/
def Output.prepend (s : String) (o : Output) : Output := { o with text := s ++ o.text }

theorem emit_prepend (width : Nat) (d : Doc) (indent next after : Nat) (s : String)
    (o : Output) :
    emit width d indent next after (o.prepend s) =
      (emit width d indent next after o).prepend s := by
  induction d generalizing indent next after o with
  | nil => rfl
  | text t => simp only [emit, Output.write, Output.prepend, String.append_assoc]
  | line => simp only [emit, Output.breakLine, Output.prepend, String.append_assoc]
  | cat a b iha ihb =>
      rw [emit, emit, iha, ihb]
  | nest amount d ih => exact ih (indent + amount) next after o
  | group d ih =>
      rw [emit, emit]
      show (if o.column + d.flatColumns + after ≤ width then _ else _) = _
      split
      · simp only [Output.write, Output.prepend, String.append_assoc]
      · exact ih indent next after o

/-- Documents in a row are laid out one after the other, also where one is empty and
leaves no trace. -/
theorem emit_append (width : Nat) (a b : Doc) (indent after : Nat) (o : Output) :
    emit width (a ++ b) indent indent after o =
      emit width b indent indent after (emit width a indent indent (b.lead after) o) := by
  show emit width (append a b) indent indent after o = _
  rw [append.eq_def]
  split
  · rfl
  · rfl
  · rfl

theorem emit_lines (width after : Nat) (o : Output) :
    emit width (line ++ line) 0 0 after o = { text := o.text ++ "\n\n", column := 0 } := by
  show (o.breakLine 0).breakLine 0 = _
  simp only [Output.breakLine, String.append_assoc]
  rfl

theorem render_ofText (width : Nat) (s : String) : (ofText s).render width = s := by
  rw [ofText]
  split
  · rename_i h
    exact h.symm
  · exact String.empty_append

theorem render_append_lines (width : Nat) (a b : Doc) :
    (a ++ (line ++ line) ++ b).render width = a.render width ++ "\n\n" ++ b.render width := by
  have hstart : ∀ s : String, ({ text := s, column := 0 } : Output) = Output.start.prepend s := by
    intro s
    rw [Output.prepend, Output.start, String.append_empty]
  -- A line comes right behind `a`, so `a` is laid out as if nothing did.
  have hleft : emit width (a ++ (line ++ line)) 0 0 (b.lead 0) Output.start =
      Output.start.prepend (a.render width ++ "\n\n") := by
    rw [emit_append, emit_lines, hstart]
    rfl
  rw [render, emit_append, hleft, emit_prepend]
  rfl

theorem render_foldl_lines (width : Nat) (ds : List Doc) (acc : Doc) :
    (ds.foldl (fun acc e => acc ++ (line ++ line) ++ e) acc).render width =
      "\n\n".intercalate (acc.render width :: ds.map (render width)) := by
  induction ds generalizing acc with
  | nil => exact String.intercalate_singleton.symm
  | cons d ds ih =>
      rw [List.foldl_cons, ih, render_append_lines, String.intercalate_cons_append,
        List.map_cons, String.intercalate_cons_cons]

/-- Blank lines are all that documents at the margin have to do with each other. -/
theorem render_intersperse_lines (width : Nat) (ds : List Doc) :
    (intersperse (line ++ line) ds).render width = "\n\n".intercalate (ds.map (render width)) := by
  cases ds with
  | nil => rfl
  | cons d ds => exact render_foldl_lines width ds d

end Doc
end Sexpr
