/-
Positions in a buffer of tokens.

A buffer is an array of tokens, the last of which is the end marker.  A position is such an
array and the index of the current token.  Nothing in its type keeps the index inside the
array, so looking up the current token may fail, and then there is no answer of any kind:
the results here are `none` where an index is out of range, and `some` of an answer or of a
refusal elsewhere.
-/
import Sexpr.Parser.Basic

namespace Sexpr

/-- A token as the grammar asks for it: one that reads `text`, or one that is an atom. -/
inductive Terminal where
  | literal (text : String)
  | atom
deriving DecidableEq

namespace Terminal

/-- Only the text of a literal is compared, whatever the kind of the token. -/
def accepts : Terminal → Token → Bool
  | literal text, t => t.text == text
  | atom, t => t.kind.isAtom

/-- The terminal as error messages name it. -/
def name : Terminal → String
  | literal text => Parser.quoted text
  | atom => "an atom"

end Terminal

structure Buffer where
  tokens : Array Token
deriving DecidableEq

structure Position where
  tokens : Array Token
  index : Nat
deriving DecidableEq

namespace Buffer

/-- Puts the end marker behind `tokens`, where the last of them ends. -/
def ofTokens (tokens : List Token) : Buffer :=
  { tokens := tokens.toArray.push
      (Token.endAt ((tokens.toArray.back?.map (·.span.stop)).getD 0)) }

def position (b : Buffer) (index : Nat) : Position := { tokens := b.tokens, index := index }

def start (b : Buffer) : Position := b.position 0

end Buffer

namespace Position

/-- The current token. -/
def token (p : Position) : Option Token := p.tokens[p.index]?

def isEnd (p : Position) : Option Bool := p.token.map (·.kind == .endMark)

def peekLiteral (p : Position) (text : String) : Option Bool := p.token.map (·.isLiteral text)

def peekAtom (p : Position) : Option Bool := p.token.map (·.kind.isAtom)

/-- The next position, or the same one at the last index.  An array without tokens has no
last index. -/
def advance (p : Position) : Option Position :=
  if p.tokens.size = 0 then none
  else some { p with index := min (p.index + 1) (p.tokens.size - 1) }

/-- The current token and the position after it, if the token is the one asked for. -/
def take (p : Position) (terminal : Terminal) : Option (Option (Token × Position)) := do
  let t ← p.token
  if terminal.accepts t then return some (t, ← p.advance) else return none

/-- The error that `expected` was wanted in place of the current token. -/
def unexpected (p : Position) (expected : String) : Option ParseError := do
  let t ← p.token
  return { found := t.text, kind := t.kind, expected := expected, span := t.span }

end Position
end Sexpr
