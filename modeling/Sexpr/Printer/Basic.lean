/-
Printers.

A printer is told about a tree piece by piece: each token of an atom, and where
a list starts and ends.  It never sees the parentheses as tokens.  The walk over
the tree runs in whatever monad the printer works in, so a printer may build a
text, stop with an error, or record what it is told.
-/
import Sexpr.Node

namespace Sexpr

structure Printer (m : Type → Type) where
  token : Token → m Unit
  startList : m Unit
  endList : m Unit

namespace SExpr

variable {m : Type → Type} [Monad m]

mutual
def print (p : Printer m) : SExpr → m Unit
  | atom t => p.token t
  | list _ items _ => do
    p.startList
    printAll p items
    p.endList

def printAll (p : Printer m) : List SExpr → m Unit
  | [] => pure ()
  | x :: xs => do
    print p x
    printAll p xs
end

end SExpr

class Printable (α : Type) where
  print : {m : Type → Type} → [Monad m] → Printer m → α → m Unit

namespace Printable

instance : Printable Token := ⟨fun p t => p.token t⟩

instance : Printable SExpr := ⟨SExpr.print⟩

/-- The items of a sequence one after the other, without parentheses. -/
instance : Printable Sequence := ⟨fun p s => SExpr.printAll p s.items⟩

instance : Printable Program := ⟨fun p q => SExpr.printAll p q.exprs⟩

instance : Printable Node where
  print p
    | .program q => print p q
    | .sexpr x => print p x
    | .list opening items closing => print p (SExpr.list opening items closing)
    | .seq s => print p s
    | .atom t => print p t
    | .leaf t => print p t

instance {α : Type} [Printable α] : Printable (List α) := ⟨fun p xs => xs.forM (print p)⟩

end Printable
end Sexpr
