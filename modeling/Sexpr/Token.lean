namespace Sexpr

/-- The lexical class of a token.  `endMark` belongs to the marker that stands
after the last token of a parser's input. -/
inductive Kind where
  | id
  | int
  | real
  | string
  | literal
  | endMark
deriving DecidableEq

namespace Kind

def name : Kind → String
  | .id => "ID"
  | .int => "INT"
  | .real => "REAL"
  | .string => "STRING"
  | .literal => "LITERAL"
  | .endMark => "END"

/-- Whether a token of this kind is an atom on its own. -/
def isAtom : Kind → Bool
  | .id | .int | .real | .string => true
  | .literal | .endMark => false

end Kind

/-- A stretch of the source, by byte offsets; `stop` is the offset after the last
byte. -/
structure Span where
  start : Nat
  stop : Nat
deriving DecidableEq

/-- A classified stretch of the source.  The text is kept as it was written, so a
string keeps its quotes and escapes. -/
structure Token where
  kind : Kind
  text : String
  span : Span
deriving DecidableEq

namespace Token

/-- The marker for the end of the input, standing at `offset`. -/
def endAt (offset : Nat) : Token :=
  { kind := .endMark, text := "", span := { start := offset, stop := offset } }

def isLiteral (t : Token) (text : String) : Bool :=
  t.kind == .literal && t.text == text

end Token
end Sexpr
