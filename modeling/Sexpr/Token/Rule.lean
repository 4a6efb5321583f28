/-
The lexical rules.

A rule looks at the front of a text and says how many characters it takes
there, or that it does not apply.  The rules are tried in order and the first
that applies decides: parentheses, reals, integers, strings, and then
identifiers, which take every run of characters that are neither blank nor a
delimiter.  Numbers come before identifiers, so `3abc` is an integer and an
identifier, while `+x` and `..5` are identifiers because no number starts there.
-/
import Sexpr.Text.Blank
import Sexpr.Token

namespace Sexpr

/-- How many characters a token takes at the front of a text, if it starts
there. -/
abbrev Rule := List Char → Option Nat

namespace Rule

def isSign (c : Char) : Bool := c == '+' || c == '-'

def isParenthesis (c : Char) : Bool := c == '(' || c == ')'

/-- The characters an identifier may hold. -/
def isWordChar (c : Char) : Bool :=
  !Text.isBlank c && !isParenthesis c && !(c == '"')

def run (p : Char → Bool) (cs : List Char) : Nat := (cs.takeWhile p).length

theorem run_le (p : Char → Bool) (cs : List Char) : run p cs ≤ cs.length :=
  (List.takeWhile_prefix p).length_le

def sign : List Char → Nat
  | [] => 0
  | c :: _ => if isSign c then 1 else 0

theorem sign_le (cs : List Char) : sign cs ≤ cs.length := by
  cases cs with
  | nil => simp [sign]
  | cons c r => simp only [sign, List.length_cons]; split <;> omega

/-- The number of characters in an optional sign and the digits after it. -/
def signedDigits (cs : List Char) : Nat :=
  sign cs + run Char.isDigit (cs.drop (sign cs))

theorem signedDigits_le (cs : List Char) : signedDigits cs ≤ cs.length := by
  have h := run_le Char.isDigit (cs.drop (sign cs))
  have := sign_le cs
  rw [List.length_drop] at h
  simp only [signedDigits]
  omega

def literal : Rule
  | [] => none
  | c :: _ => if isParenthesis c then some 1 else none

/-- An optional sign, digits that may be missing, a point, and at least one digit
after it. -/
def real : Rule := fun cs =>
  let whole := signedDigits cs
  match cs.drop whole with
  | [] => none
  | c :: r =>
    let fraction := run Char.isDigit r
    if c = '.' ∧ 0 < fraction then some (whole + 1 + fraction) else none

def integer : Rule := fun cs =>
  if sign cs < signedDigits cs then some (signedDigits cs) else none

/-- The number of characters up to and including the quote that closes a string,
after the opening one.  A backslash hides the character after it, and may not
stand before a line feed. -/
def closing : Rule
  | [] => none
  | c :: r =>
    if c = '"' then some 1
    else if c = '\\' then
      match r with
      | [] => none
      | d :: r => if d = '\n' then none else (closing r).map (· + 2)
    else (closing r).map (· + 1)

/-- The number of characters after the opening quote that can still belong to a
string when no quote closes it: all of them, or those before the first backslash
with nothing to hide. -/
def stuck : List Char → Nat
  | [] => 0
  | c :: r =>
    if c = '\\' then
      match r with
      | [] => 0
      | d :: r => if d = '\n' then 0 else stuck r + 2
    else stuck r + 1

def string : Rule
  | [] => none
  | c :: r => if c = '"' then (closing r).map (· + 1) else none

def identifier : Rule := fun cs =>
  let n := run isWordChar cs
  if 0 < n then some n else none

def ordered : List (Kind × Rule) :=
  [(.literal, literal), (.real, real), (.int, integer), (.string, string), (.id, identifier)]

/-- The kind and length of the token at the front of a text, by the first rule
that applies. -/
def first (cs : List Char) : Option (Kind × Nat) :=
  ordered.findSome? fun r => (r.2 cs).map (r.1, ·)

/- A token is never empty and never longer than what is left to read.  The first
keeps the scan going, the second keeps its spans inside the source. -/
theorem closing_bounds {cs : List Char} {n : Nat} (h : closing cs = some n) :
    0 < n ∧ n ≤ cs.length := by
  fun_induction closing cs generalizing n with
  | case1 => simp at h
  | case2 =>
      simp only [Option.some.injEq] at h
      simp only [List.length_cons]
      omega
  | case3 => simp at h
  | case4 => simp at h
  | case5 r d hd hq ih =>
      obtain ⟨m, hm, rfl⟩ := Option.map_eq_some_iff.1 h
      have := ih hm
      simp only [List.length_cons]
      omega
  | case6 c r hc hb ih =>
      obtain ⟨m, hm, rfl⟩ := Option.map_eq_some_iff.1 h
      have := ih hm
      simp only [List.length_cons]
      omega

theorem literal_bounds {cs : List Char} {n : Nat} (h : literal cs = some n) :
    0 < n ∧ n ≤ cs.length := by
  cases cs with
  | nil => simp [literal] at h
  | cons c r =>
      simp only [literal] at h
      split at h
      · simp only [Option.some.injEq] at h
        simp only [List.length_cons]
        omega
      · simp at h

theorem real_bounds {cs : List Char} {n : Nat} (h : real cs = some n) :
    0 < n ∧ n ≤ cs.length := by
  simp only [real] at h
  split at h
  · simp at h
  · rename_i c r hr
    split at h
    · simp only [Option.some.injEq] at h
      have hl := congrArg List.length hr
      simp only [List.length_drop, List.length_cons] at hl
      have := run_le Char.isDigit r
      omega
    · simp at h

theorem integer_bounds {cs : List Char} {n : Nat} (h : integer cs = some n) :
    0 < n ∧ n ≤ cs.length := by
  have := signedDigits_le cs
  simp only [integer] at h
  split at h
  · simp only [Option.some.injEq] at h
    omega
  · simp at h

theorem string_bounds {cs : List Char} {n : Nat} (h : string cs = some n) :
    0 < n ∧ n ≤ cs.length := by
  cases cs with
  | nil => simp [string] at h
  | cons c r =>
      simp only [string] at h
      split at h
      · obtain ⟨m, hm, rfl⟩ := Option.map_eq_some_iff.1 h
        have := closing_bounds hm
        simp only [List.length_cons]
        omega
      · simp at h

theorem identifier_bounds {cs : List Char} {n : Nat} (h : identifier cs = some n) :
    0 < n ∧ n ≤ cs.length := by
  have := run_le isWordChar cs
  simp only [identifier] at h
  split at h
  · simp only [Option.some.injEq] at h
    omega
  · simp at h

theorem first_bounds {cs : List Char} {k : Kind} {n : Nat} (h : first cs = some (k, n)) :
    0 < n ∧ n ≤ cs.length := by
  obtain ⟨r, hr, h⟩ := List.exists_of_findSome?_eq_some h
  obtain ⟨m, hm, h⟩ := Option.map_eq_some_iff.1 h
  simp only [Prod.mk.injEq] at h
  obtain ⟨-, rfl⟩ := h
  simp only [ordered, List.mem_cons, List.not_mem_nil, or_false] at hr
  rcases hr with rfl | rfl | rfl | rfl | rfl
  · exact literal_bounds hm
  · exact real_bounds hm
  · exact integer_bounds hm
  · exact string_bounds hm
  · exact identifier_bounds hm

end Rule
end Sexpr
