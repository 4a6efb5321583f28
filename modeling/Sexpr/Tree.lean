/-
Trees of s-expressions.

An `SExpr` keeps every token it was read from, parentheses included, so a tree
and its tokens determine each other.  A list holds its items as a plain `List`;
the chain of sequence nodes that the grammar derives for them is a view, which
`Sexpr.Node` gives.
-/
import Sexpr.Token

namespace Sexpr

inductive SExpr where
  | atom (token : Token)
  | list (opening : Token) (items : List SExpr) (closing : Token)

/-- One or more s-expressions in a row, as they stand inside a list. -/
structure Sequence where
  head : SExpr
  tail : List SExpr

/-- A whole source: s-expressions side by side. -/
structure Program where
  exprs : List SExpr

namespace SExpr

mutual
/-- The tokens an s-expression was read from, in order. -/
def tokens : SExpr → List Token
  | atom t => [t]
  | list opening items closing => opening :: tokensOf items ++ [closing]

def tokensOf : List SExpr → List Token
  | [] => []
  | x :: xs => tokens x ++ tokensOf xs
end

@[simp]
theorem tokens_atom (t : Token) : tokens (atom t) = [t] := rfl

@[simp]
theorem tokens_list (o c : Token) (xs : List SExpr) :
    tokens (list o xs c) = o :: tokensOf xs ++ [c] := rfl

@[simp]
theorem tokensOf_nil : tokensOf [] = [] := rfl

@[simp]
theorem tokensOf_cons (x : SExpr) (xs : List SExpr) :
    tokensOf (x :: xs) = tokens x ++ tokensOf xs := rfl

@[simp]
theorem tokensOf_append (a b : List SExpr) :
    tokensOf (a ++ b) = tokensOf a ++ tokensOf b := by
  induction a with
  | nil => rfl
  | cons x xs ih => simp only [List.cons_append, tokensOf_cons, ih, List.append_assoc]

/- Equality of trees compares every token, spans included.  The instance is
written out because the items of a list are nested. -/
mutual
def decEq : (a b : SExpr) → Decidable (a = b)
  | atom s, atom t =>
    if h : s = t then isTrue (h ▸ rfl) else isFalse fun e => h (SExpr.atom.inj e)
  | list o xs c, list p ys d =>
    if h : o = p ∧ c = d then
      match decEqs xs ys with
      | isTrue hs => isTrue (by obtain ⟨rfl, rfl⟩ := h; rw [hs])
      | isFalse hs => isFalse fun e => hs (SExpr.list.inj e).2.1
    else isFalse fun e => h ⟨(SExpr.list.inj e).1, (SExpr.list.inj e).2.2⟩
  | atom _, list _ _ _ => isFalse nofun
  | list _ _ _, atom _ => isFalse nofun

def decEqs : (a b : List SExpr) → Decidable (a = b)
  | [], [] => isTrue rfl
  | x :: xs, y :: ys =>
    match decEq x y with
    | isFalse h => isFalse fun e => h (List.cons.inj e).1
    | isTrue h =>
      match decEqs xs ys with
      | isTrue hs => isTrue (by rw [h, hs])
      | isFalse hs => isFalse fun e => hs (List.cons.inj e).2
  | [], _ :: _ => isFalse nofun
  | _ :: _, [] => isFalse nofun
end

instance : DecidableEq SExpr := decEq

end SExpr

deriving instance DecidableEq for Sequence
deriving instance DecidableEq for Program

namespace Sequence

def items (s : Sequence) : List SExpr := s.head :: s.tail

def ofList? : List SExpr → Option Sequence
  | [] => none
  | x :: xs => some { head := x, tail := xs }

def rest? (s : Sequence) : Option Sequence := ofList? s.tail

end Sequence

namespace Program

def size (p : Program) : Nat := p.exprs.length

def isEmpty (p : Program) : Bool := p.exprs.isEmpty

def tokens (p : Program) : List Token := SExpr.tokensOf p.exprs

end Program
end Sexpr
