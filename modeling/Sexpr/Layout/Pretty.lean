import Sexpr.Layout.Document
import Sexpr.Printer.Basic

namespace Sexpr

/-- The documents of the items printed so far, those of all lists on one stack, and the
positions at which the items of the lists still open start, the innermost list first. -/
structure Pretty where
  items : Array Doc
  positions : List Nat

namespace Pretty

def start : Pretty := { items := #[], positions := [] }

def push (d : Doc) (s : Pretty) : Pretty := { s with items := s.items.push d }

def openList (s : Pretty) : Pretty := { s with positions := s.items.size :: s.positions }

/-- Takes the items of the innermost list off the stack and puts the list there as one item. -/
def closeList (s : Pretty) : Pretty :=
  let position := s.positions.headD 0
  let d := Doc.parenthesize (s.items.drop position).toList
  { items := (s.items.shrink position).push d, positions := s.positions.tail }

def printer : Printer (StateM Pretty) where
  token t := modify (push (Doc.ofText t.text))
  startList := modify openList
  endList := modify closeList

/-- The items printed, with a blank line between neighbours. -/
def document (s : Pretty) : Doc :=
  Doc.intersperse (Doc.line ++ Doc.line) s.items.toList

end Pretty

/-- The text of `a`, with the lists that do not fit in `width` columns broken up
into one item a line. -/
def pretty {α : Type} [Printable α] (width : Nat) (a : α) : String :=
  ((Printable.print Pretty.printer a).run Pretty.start).2.document.render width

end Sexpr
