namespace Sexpr

/-- The number `digits * 10 ^ exponent`. -/
structure Decimal where
  digits : Nat
  exponent : Int
deriving DecidableEq

namespace Decimal

/-- The digits of a decimal, the most significant first. -/
def digitChars (d : Decimal) : List Char := Nat.toDigits 10 d.digits

/-- The place of the decimal point, counted from the left end of the digits: a
decimal other than zero lies between the powers of ten of this place and the one
before it. -/
def point (d : Decimal) : Int := d.digitChars.length + d.exponent

end Decimal
end Sexpr
