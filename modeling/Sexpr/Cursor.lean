/-
Positions in a row of tokens.

A cursor holds the tokens still to be read.  After the last of them comes a
marker for the end of the input, which is not in the list: it stands for itself
however often it is consumed, so a cursor has a current token everywhere and
moves only forward.
-/
import Sexpr.Token

namespace Sexpr

/-- The tokens still to be read, and the byte offset of the end marker behind
them. -/
structure Cursor where
  rest : List Token
  stop : Nat
deriving DecidableEq

namespace Cursor

/-- The start of `tokens`.  The end marker stands where the last token ends. -/
def ofTokens (tokens : List Token) : Cursor :=
  { rest := tokens, stop := (tokens.getLast?.map (·.span.stop)).getD 0 }

/-- The tokens ahead, with the end marker after them. -/
def toList (c : Cursor) : List Token := c.rest ++ [Token.endAt c.stop]

/-- The current token: the next one to be read, or the end marker. -/
def token (c : Cursor) : Token := c.rest.head?.getD (Token.endAt c.stop)

/-- The cursor after the current token.  The end marker is never passed. -/
def advance (c : Cursor) : Cursor := { c with rest := c.rest.tail }

def isEnd (c : Cursor) : Bool := c.token.kind == .endMark

def peekLiteral (c : Cursor) (text : String) : Bool := c.token.isLiteral text

def peekAtom (c : Cursor) : Bool := c.token.kind.isAtom

/-- The current token and the cursor after it, if the token reads `text`.  Only
the text is compared, whatever the kind of the token. -/
def literal (c : Cursor) (text : String) : Option (Token × Cursor) :=
  if c.token.text = text then some (c.token, c.advance) else none

/-- The current token and the cursor after it, if the token is an atom. -/
def atom (c : Cursor) : Option (Token × Cursor) :=
  if c.peekAtom then some (c.token, c.advance) else none

@[simp]
theorem token_cons (t : Token) (ts : List Token) (stop : Nat) :
    (Cursor.mk (t :: ts) stop).token = t := rfl

@[simp]
theorem token_nil (stop : Nat) : (Cursor.mk [] stop).token = Token.endAt stop := rfl

@[simp]
theorem advance_cons (t : Token) (ts : List Token) (stop : Nat) :
    (Cursor.mk (t :: ts) stop).advance = ⟨ts, stop⟩ := rfl

@[simp]
theorem advance_nil (stop : Nat) : (Cursor.mk [] stop).advance = ⟨[], stop⟩ := rfl

@[simp]
theorem stop_advance (c : Cursor) : c.advance.stop = c.stop := rfl

/-- The end marker is no atom, so an atom is always a token of the list. -/
theorem rest_ne_nil_of_peekAtom {c : Cursor} (h : c.peekAtom = true) : c.rest ≠ [] := by
  obtain ⟨rest, stop⟩ := c
  rintro rfl
  exact absurd h (by simp [peekAtom, Token.endAt, Kind.isAtom])

/-- The end marker has no text, so a token with a text is one of the list. -/
theorem rest_ne_nil_of_text {c : Cursor} (h : c.token.text ≠ "") : c.rest ≠ [] := by
  obtain ⟨rest, stop⟩ := c
  rintro rfl
  exact h rfl

theorem length_advance {c : Cursor} (h : c.rest ≠ []) :
    c.advance.rest.length + 1 = c.rest.length := by
  have := List.length_pos_iff.2 h
  simp only [advance, List.length_tail]
  omega

end Cursor
end Sexpr
