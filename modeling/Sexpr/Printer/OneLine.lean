import Sexpr.Printer.Basic

namespace Sexpr

/-- A line being written, and whether a space has to come before the next item.
It has to after an item, and does not at the start or after a parenthesis that
opens a list. -/
structure OneLine where
  text : String
  needsSpace : Bool
deriving DecidableEq

namespace OneLine

def start : OneLine := { text := "", needsSpace := false }

/-- Puts the space that separates an item from the one before it. -/
def separate (s : OneLine) : OneLine :=
  { s with text := if s.needsSpace then s.text ++ " " else s.text }

def token (t : Token) (s : OneLine) : OneLine :=
  { text := s.separate.text ++ t.text, needsSpace := true }

def openList (s : OneLine) : OneLine :=
  { text := s.separate.text ++ "(", needsSpace := false }

def closeList (s : OneLine) : OneLine :=
  { text := s.text ++ ")", needsSpace := true }

/-- Writes everything on one line, with single spaces between neighbours. -/
def printer : Printer (StateM OneLine) where
  token t := modify (token t)
  startList := modify openList
  endList := modify closeList

end OneLine

def oneLine {α : Type} [Printable α] (a : α) : String :=
  ((Printable.print OneLine.printer a).run OneLine.start).2.text

end Sexpr
