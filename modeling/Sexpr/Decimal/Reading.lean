/-
Reading real numbers.

A numeral is an optional sign and then `inf`, `infinity` or `nan` in any case, or
digits with an optional point, at least one digit on one side of it, and an
optional exponent.  Its value is rounded to the nearest double; a value too
large is infinite and one too small is zero.
-/
import Sexpr.Decimal.Basic
import Sexpr.Text.Numeral

namespace Sexpr
namespace Decimal

/-- Reads an exponent part that takes the whole text.  No text at all is the
exponent zero. -/
def exponent? : List Char → Option Int
  | [] => some 0
  | c :: r => if c.toLower = 'e' then Text.integer? r else none

/-- The digits after a point at the front of a text, and what follows them. -/
def fraction : List Char → List Char × List Char
  | [] => ([], [])
  | c :: r => if c = '.' then (r.takeWhile Char.isDigit, r.dropWhile Char.isDigit) else ([], c :: r)

def read? (cs : List Char) : Option Decimal :=
  let whole := cs.takeWhile Char.isDigit
  let (part, r) := fraction (cs.dropWhile Char.isDigit)
  if whole = [] ∧ part = [] then none
  else
    (exponent? r).map fun e =>
      { digits := Text.ofDigits 10 (whole ++ part), exponent := e - part.length }

/-- The nearest double.  From ten to the 309th on everything rounds to infinity,
and below ten to the minus 324th everything rounds to zero, so powers of ten
beyond these need not be computed. -/
def toFloat (d : Decimal) : Float :=
  if d.digits = 0 ∨ d.point ≤ -324 then 0.0
  else if 310 ≤ d.point then 1.0 / 0.0
  else Float.ofScientific d.digits (d.exponent < 0) d.exponent.natAbs

end Decimal

namespace Real

def unsigned? (cs : List Char) : Option Float :=
  let name := String.ofList (cs.map Char.toLower)
  if name = "inf" ∨ name = "infinity" then some (1.0 / 0.0)
  else if name = "nan" then some (0.0 / 0.0)
  else (Decimal.read? cs).map Decimal.toFloat

def ofString? (text : String) : Option Float :=
  match text.toList with
  | '-' :: r => (unsigned? r).map fun x => -x
  | '+' :: r => unsigned? r
  | cs => unsigned? cs

end Real
end Sexpr
