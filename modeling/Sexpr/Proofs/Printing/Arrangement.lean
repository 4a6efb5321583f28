/-
How the pretty printer arranges a tree.

Every list is either flat, with its items on one line and a space between neighbours, or
broken, with every item but the first on a line of its own.  A tree with its lists marked so
is an arrangement, and its text can be told without a width.  The width only decides the
marks, from the outside in.  A list is flat if it ends within the width together with the
parentheses that have to follow it on its line; otherwise it is broken, and its items are
reached in columns that are known beforehand, the first right behind the parenthesis and the
others at the indentation.
-/
import Sexpr.Proofs.Printing.OneLine
import Sexpr.Text.Columns
import Sexpr.Text.Padding

namespace Sexpr

/-- A tree in which every list is marked as broken or as flat. -/
inductive Arrangement where
  | atom (token : Token)
  | list (opening : Token) (broken : Bool) (items : List Arrangement) (closing : Token)

namespace Arrangement

mutual
/-- The tree without the marks. -/
def tree : Arrangement → SExpr
  | atom t => .atom t
  | list opening _ items closing => .list opening (trees items) closing

def trees : List Arrangement → List SExpr
  | [] => []
  | a :: as => tree a :: trees as
end

mutual
/-- Whether no list is broken. -/
def Flat : Arrangement → Prop
  | atom _ => True
  | list _ broken items _ => broken = false ∧ AllFlat items

def AllFlat : List Arrangement → Prop
  | [] => True
  | a :: as => Flat a ∧ AllFlat as
end

mutual
/-- Whether all lists inside a flat list are flat. -/
def Inherits : Arrangement → Prop
  | atom _ => True
  | list _ broken items _ => (broken = false → AllFlat items) ∧ AllInherit items

def AllInherit : List Arrangement → Prop
  | [] => True
  | a :: as => Inherits a ∧ AllInherit as
end

/-- What stands between the items of a list at nesting depth `depth`, where an outermost list
has depth one: a space, or a line break and two spaces for each list around. -/
def separator (broken : Bool) (depth : Nat) : String :=
  if broken then "\n" ++ String.ofList (List.replicate (2 * depth) ' ') else " "

mutual
/-- The text of an arrangement with `depth` lists around it. -/
def text (depth : Nat) : Arrangement → String
  | atom t => t.text
  | list _ broken items _ =>
    "(" ++ (separator broken (depth + 1)).intercalate (texts (depth + 1) items) ++ ")"

def texts (depth : Nat) : List Arrangement → List String
  | [] => []
  | a :: as => text depth a :: texts depth as
end

/-- The text of arrangements side by side, with a blank line between neighbours. -/
def paragraphs (as : List Arrangement) : String := "\n\n".intercalate (texts 0 as)

end Arrangement

namespace SExpr

mutual
/-- The tokens of the atoms.  These are the tokens that a printer is told of. -/
def atoms : SExpr → List Token
  | atom t => [t]
  | list _ items _ => atomsOf items

def atomsOf : List SExpr → List Token
  | [] => []
  | x :: xs => atoms x ++ atomsOf xs
end

mutual
def flat : SExpr → Arrangement
  | atom t => .atom t
  | list opening items closing => .list opening false (flats items) closing

def flats : List SExpr → List Arrangement
  | [] => []
  | x :: xs => flat x :: flats xs
end

mutual
/-- The columns a tree takes on one line, where each token is measured by itself. -/
def inlineColumns : SExpr → Nat
  | atom t => Text.columns t.text
  | list _ items _ => 1 + inlineColumnsOf items + 1

def inlineColumnsOf : List SExpr → Nat
  | [] => 0
  | x :: xs => inlineColumns x + (if xs.isEmpty then 0 else 1) + inlineColumnsOf xs
end

mutual
/-- The arrangement of a tree within `width` columns, when it has `depth` lists around it,
starts at `column`, and has `after` columns behind it on its last line. -/
def arrange (width depth column after : Nat) : SExpr → Arrangement
  | atom t => .atom t
  | list opening items closing =>
    if column + (1 + inlineColumnsOf items + 1) + after ≤ width then
      .list opening false (flats items) closing
    else
      .list opening true (arrangeAll width (depth + 1) (column + 1) (after + 1) items) closing

/-- The arrangements of the items of a broken list, of which the first starts at `column`. -/
def arrangeAll (width depth column after : Nat) : List SExpr → List Arrangement
  | [] => []
  | x :: xs =>
    arrange width depth column (if xs.isEmpty then after else 0) x ::
      arrangeAll width depth (2 * depth) after xs
end

/-! ## Marks -/

mutual
theorem tree_flat (x : SExpr) : x.flat.tree = x := by
  cases x with
  | atom t => rfl
  | list o xs c => rw [flat, Arrangement.tree, trees_flats xs]

theorem trees_flats (xs : List SExpr) : Arrangement.trees (flats xs) = xs := by
  cases xs with
  | nil => rfl
  | cons x xs => rw [flats, Arrangement.trees, tree_flat x, trees_flats xs]
end

mutual
theorem flat_flat (x : SExpr) : x.flat.Flat := by
  cases x with
  | atom t => trivial
  | list o xs c => exact ⟨rfl, allFlat_flats xs⟩

theorem allFlat_flats (xs : List SExpr) : Arrangement.AllFlat (flats xs) := by
  cases xs with
  | nil => trivial
  | cons x xs => exact ⟨flat_flat x, allFlat_flats xs⟩
end

mutual
theorem inherits_flat (x : SExpr) : x.flat.Inherits := by
  cases x with
  | atom t => trivial
  | list o xs c => exact ⟨fun _ => allFlat_flats xs, allInherit_flats xs⟩

theorem allInherit_flats (xs : List SExpr) : Arrangement.AllInherit (flats xs) := by
  cases xs with
  | nil => trivial
  | cons x xs => exact ⟨inherits_flat x, allInherit_flats xs⟩
end

variable {width depth column after : Nat}

theorem arrange_of_fits {o c : Token} {xs : List SExpr}
    (h : column + (list o xs c).inlineColumns + after ≤ width) :
    arrange width depth column after (list o xs c) = (list o xs c).flat := by
  rw [arrange, flat]
  exact if_pos h

theorem arrange_of_not_fits {o c : Token} {xs : List SExpr}
    (h : ¬column + (list o xs c).inlineColumns + after ≤ width) :
    arrange width depth column after (list o xs c) =
      .list o true (arrangeAll width (depth + 1) (column + 1) (after + 1) xs) c := by
  rw [arrange]
  exact if_neg h

mutual
theorem tree_arrange (width depth column after : Nat) (x : SExpr) :
    (x.arrange width depth column after).tree = x := by
  cases x with
  | atom t => rfl
  | list o xs c =>
      by_cases h : column + (list o xs c).inlineColumns + after ≤ width
      · rw [arrange_of_fits h, tree_flat]
      · rw [arrange_of_not_fits h, Arrangement.tree, trees_arrangeAll]

theorem trees_arrangeAll (width depth column after : Nat) (xs : List SExpr) :
    Arrangement.trees (arrangeAll width depth column after xs) = xs := by
  cases xs with
  | nil => rfl
  | cons x xs => rw [arrangeAll, Arrangement.trees, tree_arrange, trees_arrangeAll]
end

mutual
theorem inherits_arrange (width depth column after : Nat) (x : SExpr) :
    (x.arrange width depth column after).Inherits := by
  cases x with
  | atom t => trivial
  | list o xs c =>
      by_cases h : column + (list o xs c).inlineColumns + after ≤ width
      · rw [arrange_of_fits h]
        exact inherits_flat _
      · rw [arrange_of_not_fits h]
        exact ⟨nofun, allInherit_arrangeAll width (depth + 1) (column + 1) (after + 1) xs⟩

theorem allInherit_arrangeAll (width depth column after : Nat) (xs : List SExpr) :
    Arrangement.AllInherit (arrangeAll width depth column after xs) := by
  cases xs with
  | nil => trivial
  | cons x xs => exact ⟨inherits_arrange _ _ _ _ x, allInherit_arrangeAll _ _ _ _ xs⟩
end

/-! ## Flat texts -/

mutual
theorem text_flat (depth : Nat) (x : SExpr) : x.flat.text depth = x.inline := by
  cases x with
  | atom t => rfl
  | list o xs c =>
      rw [flat, Arrangement.text, texts_flats (depth + 1) xs, inline]
      rfl

theorem texts_flats (depth : Nat) (xs : List SExpr) :
    Arrangement.texts depth (flats xs) = inlineAll xs := by
  cases xs with
  | nil => rfl
  | cons x xs => rw [flats, Arrangement.texts, text_flat depth x, texts_flats depth xs, inlineAll]
end

end SExpr

end Sexpr
