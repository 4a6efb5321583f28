import Sexpr.Decimal.Basic
import Sexpr.Decimal.Double

namespace Sexpr
namespace Binary

/- The interval of a double is measured in quarters of its last place, so that
its ends are whole numbers. -/

def low (b : Binary) : Nat := 4 * b.significand - if b.closeBelow then 1 else 2

def high (b : Binary) : Nat := 4 * b.significand + 2

/-- The factors that bring a multiple of `10 ^ k` and a number of quarters of the
last place to one scale. -/
def scales (b : Binary) (k : Int) : Nat × Nat :=
  (Nat.pow 10 k.toNat * Nat.pow 2 (2 - b.exponent).toNat,
    Nat.pow 10 (-k).toNat * Nat.pow 2 (b.exponent - 2).toNat)

def contains (b : Binary) (k : Int) (n : Nat) : Bool :=
  let (tens, quarters) := b.scales k
  if b.significand % 2 = 0 then b.low * quarters ≤ n * tens && n * tens ≤ b.high * quarters
  else b.low * quarters < n * tens && n * tens < b.high * quarters

/-- The multiple of `10 ^ k` that rounds to the double and lies nearest to it, if
there is one.  Only the two around the double come into question; half way
between them the larger is taken. -/
def nearest? (b : Binary) (k : Int) : Option Decimal :=
  let (tens, quarters) := b.scales k
  let exact := 4 * b.significand * quarters
  let below := exact / tens
  let above := below + 1
  match b.contains k below, b.contains k above with
  | true, true =>
    if above * tens - exact ≤ exact - below * tens then some { digits := above, exponent := k }
    else some { digits := below, exponent := k }
  | true, false => some { digits := below, exponent := k }
  | false, true => some { digits := above, exponent := k }
  | false, false => none

/-- A power of ten above the double.  The decimal logarithm of two is slightly
less than 0.30103. -/
def topExponent (b : Binary) : Int :=
  Int.fdiv ((b.significand.log2 + 1 + b.exponent) * 30103) 100000 + 2

/-- The shortest decimal that rounds to the double: the first one found as the
grid gets finer.  Seventeen digits always suffice, and the first grids are too
coarse to have a digit at all. -/
def shortest (b : Binary) : Decimal :=
  ((List.range 24).findSome? fun (i : Nat) => b.nearest? (b.topExponent - i)).getD ⟨0, 0⟩

end Binary
end Sexpr
