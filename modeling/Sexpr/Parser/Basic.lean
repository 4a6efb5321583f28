/-
Parsers over a row of tokens.

A parser takes a cursor, and gives an answer together with the cursor it
stopped at.  It has a cursor to stop at also when it fails, because the tokens
it took before the mismatch stay taken.
-/
import Sexpr.Cursor

namespace Sexpr

/-- The current token was not the expected one. -/
structure ParseError where
  found : String
  kind : Kind
  expected : String
  span : Span
deriving DecidableEq

namespace ParseError

def message (e : ParseError) : String :=
  s!"unexpected token `{e.found}` of type {e.kind.name}, expected {e.expected}"

end ParseError

/-- The error that `expected` was wanted in place of the current token. -/
def Cursor.unexpected (c : Cursor) (expected : String) : ParseError :=
  { found := c.token.text, kind := c.token.kind, expected := expected, span := c.token.span }

def Parser (α : Type) := Cursor → Except ParseError α × Cursor

namespace Parser

instance : Monad Parser where
  pure a c := (.ok a, c)
  bind p f c :=
    match p c with
    | (.ok a, d) => f a d
    | (.error e, d) => (.error e, d)

theorem bind_apply {α β : Type} (p : Parser α) (f : α → Parser β) (c : Cursor) :
    (p >>= f) c =
      match p c with
      | (.ok a, d) => f a d
      | (.error e, d) => (.error e, d) := rfl

/-- The text of a literal as error messages name it. -/
def quoted (text : String) : String := s!"`{text}`"

def unexpected {α : Type} (expected : String) : Parser α := fun c =>
  (.error (c.unexpected expected), c)

/-- Consumes the current token if `step` takes it, and stays put otherwise. -/
def ofStep {α : Type} (step : Cursor → Option (α × Cursor)) (expected : String) : Parser α :=
  fun c =>
    match step c with
    | some (a, d) => (.ok a, d)
    | none => (.error (c.unexpected expected), c)

/-- Consumes the current token if it reads `text`. -/
def literal (text : String) : Parser Token := ofStep (·.literal text) (quoted text)

/-- Consumes the current token if it is an atom. -/
def atom : Parser Token := ofStep Cursor.atom "an atom"

/-- Whether an answer reached at `d` from `c` took at least `k` tokens, or, when
it is a failure, gave none back. -/
def Took {α : Type} (k : Nat) (c : Cursor) (r : Except ParseError α × Cursor) : Prop :=
  r.2.rest.length ≤ c.rest.length ∧
    ∀ a, r.1 = .ok a → r.2.rest.length + k ≤ c.rest.length

theorem literal_took {text : String} (h : text ≠ "") (c : Cursor) :
    Took 1 c (literal text c) := by
  simp only [literal, ofStep, Cursor.literal]
  by_cases ht : c.token.text = text
  · have hne := Cursor.length_advance (Cursor.rest_ne_nil_of_text (ht ▸ h))
    simp only [ht, if_true]
    exact ⟨by simp only; omega, fun _ _ => by simp only; omega⟩
  · simp only [ht, if_false]
    exact ⟨Nat.le_refl _, nofun⟩

theorem atom_took (c : Cursor) : Took 1 c (atom c) := by
  simp only [atom, ofStep, Cursor.atom]
  by_cases ht : c.peekAtom = true
  · have hne := Cursor.length_advance (Cursor.rest_ne_nil_of_peekAtom ht)
    simp only [ht, if_true]
    exact ⟨by simp only; omega, fun _ _ => by simp only; omega⟩
  · simp only [ht]
    exact ⟨Nat.le_refl _, nofun⟩

end Parser
end Sexpr
