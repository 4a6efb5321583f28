/-
Where texts start in a dump.

In front of the text of a leaf stand the indentation and the tag, filled up to the text column,
and one space.  So texts line up as long as indentation and tag leave room for it, and a leaf too
deep for that has its text right behind its tag.  The indentation grows by one level for every
item that comes before in a list, not only with the nesting.  Texts may hold line breaks, and a
column is counted from the last one.
-/
import Mathlib.Data.List.TakeWhile
import Sexpr.Proofs.Printing.Dump

namespace Sexpr

/-! ## Columns -/

/-- The column behind a text: how many characters follow its last line break. -/
def columnAfter (cs : List Char) : Nat := (cs.reverse.takeWhile (· != '\n')).length

section Columns

variable {cs : List Char}

theorem all_bne_newline (h : '\n' ∉ cs) : ∀ c ∈ cs.reverse, (c != '\n') = true := by
  intro c hc
  rw [bne_iff_ne]
  rintro rfl
  exact h (List.mem_reverse.1 hc)

theorem columnAfter_of_no_newline (h : '\n' ∉ cs) : columnAfter cs = cs.length := by
  rw [columnAfter, List.takeWhile_eq_self_iff.2 (all_bne_newline h), List.length_reverse]

theorem columnAfter_append_newline (h : '\n' ∉ cs) (before : List Char) :
    columnAfter (before ++ '\n' :: cs) = cs.length := by
  have hreverse : (before ++ '\n' :: cs).reverse = cs.reverse ++ '\n' :: before.reverse := by
    rw [List.reverse_append, List.reverse_cons, List.append_assoc, List.singleton_append]
  rw [columnAfter, hreverse, List.takeWhile_append_of_pos (all_bne_newline h),
    List.takeWhile_cons_of_neg (by decide), List.append_nil, List.length_reverse]

end Columns

namespace Text

theorem length_spaces (count : Nat) : (spaces count).length = count := by
  rw [spaces, String.length_ofList, List.length_replicate]

theorem length_pad_left (width : Nat) (text : String) :
    (pad .left width text).length = max width text.length := by
  show (text ++ spaces (width - text.length)).length = _
  rw [String.length_append, length_spaces]
  omega

theorem newline_not_mem_spaces (count : Nat) : '\n' ∉ (spaces count).toList := by
  rw [spaces, String.toList_ofList, List.mem_replicate]
  rintro ⟨-, h⟩
  exact absurd h (by decide)

end Text

theorem Tag.newline_not_mem_name (t : Tag) : '\n' ∉ t.name.toList := by
  have hall : ∀ t ∈ all, '\n' ∉ t.name.toList := by decide
  exact hall t t.mem_all

namespace Node

variable {n : Node} {before after : List (Nat × Node)} {depth column : Nat} {t : Token}

/-! ## Lines -/

/-- What stands in a line in front of the text. -/
def lineStart (depth : Nat) (tag : Tag) : String :=
  Text.spaces (2 * depth) ++ Text.pad .left (textColumn - 2 * depth) tag.name ++ " "

theorem dumpLine_eq (depth : Nat) (n : Node) :
    dumpLine depth n = lineStart depth n.tag ++ n.text ++ "\n" := rfl

theorem length_lineStart (depth : Nat) (tag : Tag) :
    (lineStart depth tag).length = max textColumn (2 * depth + tag.name.length) + 1 := by
  have hspace : (" " : String).length = 1 := rfl
  rw [lineStart, String.length_append, String.length_append, Text.length_spaces,
    Text.length_pad_left, hspace]
  omega

theorem newline_not_mem_lineStart (depth : Nat) (tag : Tag) :
    '\n' ∉ (lineStart depth tag).toList := by
  have hpad : Text.pad .left (textColumn - 2 * depth) tag.name =
      tag.name ++ Text.spaces (textColumn - 2 * depth - tag.name.length) := rfl
  simp only [lineStart, hpad, String.toList_append, List.mem_append, not_or]
  exact ⟨⟨Text.newline_not_mem_spaces _, tag.newline_not_mem_name, Text.newline_not_mem_spaces _⟩,
    by decide⟩

/-- The lines of some nodes in a row, each with its depth. -/
def dumpLines (below : List (Nat × Node)) : List Char :=
  below.flatMap fun entry => (dumpLine entry.1 entry.2).toList

theorem dumpLines_append (before after : List (Nat × Node)) :
    dumpLines (before ++ after) = dumpLines before ++ dumpLines after :=
  List.flatMap_append

theorem dumpLines_cons (depth : Nat) (n : Node) (after : List (Nat × Node)) :
    dumpLines ((depth, n) :: after) = (dumpLine depth n).toList ++ dumpLines after :=
  List.flatMap_cons

/-- A new line starts behind lines, so what stands there starts at column zero. -/
theorem columnAfter_dumpLines {cs : List Char} (h : '\n' ∉ cs) (before : List (Nat × Node)) :
    columnAfter (dumpLines before ++ cs) = cs.length := by
  rcases List.eq_nil_or_concat' before with rfl | ⟨front, ⟨depth, n⟩, rfl⟩
  · exact columnAfter_of_no_newline h
  · have hline : dumpLines (front ++ [(depth, n)]) =
        dumpLines front ++ (lineStart depth n.tag ++ n.text).toList ++ ['\n'] := by
      have hlast : dumpLines [(depth, n)] = (dumpLine depth n).toList := List.flatMap_singleton ..
      rw [dumpLines_append, hlast, dumpLine_eq, String.toList_append, List.append_assoc]
      rfl
    rw [hline, List.append_assoc]
    exact columnAfter_append_newline h _

/-! ## Leaves -/

/-- Whether the text of the leaf `t` starts at `column` in the dump of `n`, where the lines of
`before` and `after` stand around its own. -/
def TextAt (n : Node) (before after : List (Nat × Node)) (t : Token) (column : Nat) : Prop :=
  ∃ start : List Char,
    n.dump.toList = dumpLines before ++ (start ++ (t.text.toList ++ '\n' :: dumpLines after)) ∧
      columnAfter (dumpLines before ++ start) = column

theorem textAt_iff (h : n.preorder 0 = before ++ (depth, leaf t) :: after) :
    n.TextAt before after t column ↔
      column = max textColumn (2 * depth + t.kind.name.length) + 1 := by
  have hdump : n.dump.toList = dumpLines before ++ ((lineStart depth (.token t.kind)).toList ++
      (t.text.toList ++ '\n' :: dumpLines after)) := by
    have hlines : n.dump.toList = dumpLines (n.preorder 0) := toList_dump n
    rw [hlines, h, dumpLines_append, dumpLines_cons, dumpLine_eq]
    simp only [String.toList_append, List.append_assoc]
    rfl
  have hcolumn : columnAfter (dumpLines before ++ (lineStart depth (.token t.kind)).toList) =
      max textColumn (2 * depth + t.kind.name.length) + 1 := by
    rw [columnAfter_dumpLines (newline_not_mem_lineStart _ _), String.length_toList,
      length_lineStart]
    rfl
  constructor
  · rintro ⟨start, hstart, rfl⟩
    rw [hdump] at hstart
    rw [← List.append_cancel_right (List.append_cancel_left hstart), hcolumn]
  · rintro rfl
    exact ⟨_, hdump, hcolumn⟩

end Node

/-- In the dump of a node the text of a leaf starts one space behind the text column, or behind
its indentation and tag if these reach beyond that column.  So all texts start at one column whose
indentation and tag fit into the text column, and only those. -/
theorem leaf_texts_line_up {n : Node} {before after : List (Nat × Node)} {depth : Nat} {t : Token}
    (h : n.preorder 0 = before ++ (depth, .leaf t) :: after) :
    (∀ column, n.TextAt before after t column ↔
      column = max Node.textColumn (2 * depth + t.kind.name.length) + 1) ∧
    (n.TextAt before after t (Node.textColumn + 1) ↔
      2 * depth + t.kind.name.length ≤ Node.textColumn) := by
  refine ⟨fun column => Node.textAt_iff h, ?_⟩
  rw [Node.textAt_iff h]
  omega

/-- In a list of fifteen integers the last one is too deep for the text column. -/
theorem leaf_texts_line_up_in_long_list :
    ∃ p, Program.ofSource "(1 1 1 1 1 1 1 1 1 1 1 1 1 1 1)" = .ok p ∧
      (∃ before after, (Node.program p).preorder 0 =
          before ++ (6, .leaf ⟨.int, "1", ⟨1, 2⟩⟩) :: after ∧
        (Node.program p).TextAt before after ⟨.int, "1", ⟨1, 2⟩⟩ 43) ∧
      ∃ before after, (Node.program p).preorder 0 =
          before ++ (20, .leaf ⟨.int, "1", ⟨29, 30⟩⟩) :: after ∧
        (Node.program p).TextAt before after ⟨.int, "1", ⟨29, 30⟩⟩ 44 ∧
        ¬(Node.program p).TextAt before after ⟨.int, "1", ⟨29, 30⟩⟩ 43 := by
  let item (i : Nat) : Token := ⟨.int, "1", ⟨2 * i + 1, 2 * i + 2⟩⟩
  let p : Program := ⟨[.list ⟨.literal, "(", ⟨0, 1⟩⟩ ((List.range 15).map fun i => .atom (item i))
    ⟨.literal, ")", ⟨30, 31⟩⟩]⟩
  have hp : Program.ofSource "(1 1 1 1 1 1 1 1 1 1 1 1 1 1 1)" = .ok p := by decide +kernel
  have hfirst : (6, Node.leaf (item 0)) ∈ (Node.program p).preorder 0 := by decide +kernel
  have hlast : (20, Node.leaf (item 14)) ∈ (Node.program p).preorder 0 := by decide +kernel
  obtain ⟨before, after, hsplit⟩ := List.append_of_mem hfirst
  obtain ⟨before', after', hsplit'⟩ := List.append_of_mem hlast
  obtain ⟨-, hlined⟩ := leaf_texts_line_up hsplit
  obtain ⟨hcolumn', hlined'⟩ := leaf_texts_line_up hsplit'
  refine ⟨p, hp, ⟨before, after, hsplit, hlined.2 (by decide)⟩,
    before', after', hsplit', (hcolumn' 44).2 (by decide), ?_⟩
  exact fun h => absurd (hlined'.1 h) (by decide)

/-- Six lists in each other, all of them first items: the parenthesis of the outermost stands one
column to the left of the one of the innermost. -/
theorem deep_leaf_past_text_column :
    ∃ p, Program.ofSource "(((((())))))" = .ok p ∧
      ¬∃ column, ∀ before after depth t,
        (Node.program p).preorder 0 = before ++ (depth, .leaf t) :: after →
          (Node.program p).TextAt before after t column := by
  let o (i : Nat) : Token := ⟨.literal, "(", ⟨i, i + 1⟩⟩
  let c (i : Nat) : Token := ⟨.literal, ")", ⟨i, i + 1⟩⟩
  let p : Program := ⟨[.list (o 0) [.list (o 1) [.list (o 2) [.list (o 3) [.list (o 4)
    [.list (o 5) [] (c 6)] (c 7)] (c 8)] (c 9)] (c 10)] (c 11)]⟩
  have hp : Program.ofSource "(((((())))))" = .ok p := by decide +kernel
  refine ⟨p, hp, ?_⟩
  rintro ⟨column, hcolumn⟩
  have houter : (3, Node.leaf (o 0)) ∈ (Node.program p).preorder 0 := by decide +kernel
  have hinner : (18, Node.leaf (o 5)) ∈ (Node.program p).preorder 0 := by decide +kernel
  obtain ⟨before, after, hsplit⟩ := List.append_of_mem houter
  obtain ⟨before', after', hsplit'⟩ := List.append_of_mem hinner
  have hleft := (Node.textAt_iff hsplit).1 (hcolumn _ _ _ _ hsplit)
  have hright := (Node.textAt_iff hsplit').1 (hcolumn _ _ _ _ hsplit')
  rw [hleft] at hright
  exact absurd hright (by decide)

end Sexpr
