/-
Escapes in the body of a string.

A body is a row of units.  A unit is one character other than a backslash, which
stands for itself, or a backslash and what it hides: `n`, `r` and `t` name the
control characters, `u` must be followed by a code point in braces, and every
other character stands for itself.  A unit says how long it is, so no unit
continues another and a body is cut into units in one way.
-/
import Sexpr.Text.Numeral

namespace Sexpr
namespace Text

/-- The character that `c` stands for after a backslash, when it is no `u`. -/
def hidden (c : Char) : Char :=
  if c = 'n' then '\n' else if c = 'r' then '\r' else if c = 't' then '\t' else c

/-- Reads a code point in braces: hexadecimal digits that name a character, as
many as one likes.  Also gives the number of characters read. -/
def braced? : List Char → Option (Char × Nat)
  | [] => none
  | c :: r =>
    let digits := r.takeWhile isHexDigit
    let code := ofDigits 16 digits
    let closed := (r.dropWhile isHexDigit).head? = some '\x7d'
    if c = '\x7b' ∧ digits ≠ [] ∧ closed ∧ code.isValidChar then
      some (Char.ofNat code, digits.length + 2)
    else none

/-- Reads the unit at the front of a body: the character it stands for and the
number of characters it takes. -/
def unit? : List Char → Option (Char × Nat)
  | [] => none
  | [c] => if c = '\\' then none else some (c, 1)
  | c :: d :: r =>
    if c = '\\' then
      if d = 'u' then (braced? r).map fun (e, n) => (e, n + 2) else some (hidden d, 2)
    else some (c, 1)

theorem unit?_pos {cs : List Char} {c : Char} {n : Nat} (h : unit? cs = some (c, n)) : 0 < n := by
  match cs with
  | [] => simp [unit?] at h
  | [d] =>
      simp only [unit?] at h
      split at h
      · simp at h
      · simp only [Option.some.injEq, Prod.mk.injEq] at h
        omega
  | d :: e :: r =>
      simp only [unit?] at h
      split at h
      · split at h
        · obtain ⟨m, -, h⟩ := Option.map_eq_some_iff.1 h
          simp only [Prod.mk.injEq] at h
          omega
        · simp only [Option.some.injEq, Prod.mk.injEq] at h
          omega
      · simp only [Option.some.injEq, Prod.mk.injEq] at h
        omega

/-- Replaces every unit of a body by the character it stands for. -/
def unescape (cs : List Char) : Option (List Char) :=
  match cs with
  | [] => some []
  | d :: r =>
    match _h : unit? (d :: r) with
    | none => none
    | some (c, n) => (unescape ((d :: r).drop n)).map (c :: ·)
termination_by cs.length
decreasing_by
  have := unit?_pos ‹_›
  simp only [List.length_drop, List.length_cons]
  omega

def escapeChar (c : Char) : List Char :=
  if c = '\n' then ['\\', 'n']
  else if c = '\r' then ['\\', 'r']
  else if c = '\t' then ['\\', 't']
  else if c = '"' then ['\\', '"']
  else if c = '\\' then ['\\', '\\']
  else [c]

def quote (text : String) : String :=
  String.ofList ('"' :: text.toList.flatMap escapeChar ++ ['"'])

/-- The text between the quotes of a quoted one. -/
def unquote? (text : String) : Option (List Char) :=
  match text.toList with
  | [] => none
  | c :: r => if c = '"' ∧ r.getLast? = some '"' then some r.dropLast else none

end Text
end Sexpr
