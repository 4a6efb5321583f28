/-
Doubles as binary numbers.

A finite double other than zero is a positive significand times a power of two.
The reals that round to it form an interval around it, which reaches half way to
each neighbour; the two ends belong to it when the significand is even, because
a tie goes to the even neighbour.
-/

namespace Sexpr

/-- The number `significand * 2 ^ exponent`.  At a power of two the doubles below
lie half as far apart as those above, and `closeBelow` holds. -/
structure Binary where
  significand : Nat
  exponent : Int
  closeBelow : Bool
deriving DecidableEq

inductive Magnitude where
  | zero
  | finite (b : Binary)
  | infinite
  | undefined
deriving DecidableEq

namespace Magnitude

def ofBits (bits : UInt64) : Magnitude :=
  let biased : Nat := (bits.toNat / Nat.pow 2 52) % Nat.pow 2 11
  let fraction : Nat := bits.toNat % Nat.pow 2 52
  if biased = 2047 then
    if fraction = 0 then infinite else undefined
  else if biased = 0 then
    if fraction = 0 then zero
    else finite { significand := fraction, exponent := -1074, closeBelow := false }
  else
    finite
      { significand := Nat.pow 2 52 + fraction
        exponent := biased - 1075
        closeBelow := fraction = 0 && 1 < biased }

end Magnitude

def isNegative (bits : UInt64) : Bool := Nat.pow 2 63 ≤ bits.toNat

end Sexpr
