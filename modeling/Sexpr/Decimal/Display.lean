import Sexpr.Decimal.Shortest

namespace Sexpr

/-- How real numbers are written.  A number is written in positions when the
place of its decimal point is in the given range, and with an exponent
otherwise. -/
structure RealFormat where
  leastPoint : Int
  greatestPoint : Int

namespace Decimal

/-- All digits in their positions, with at least one on each side of the
point. -/
def positional (d : Decimal) : List Char :=
  let cs := d.digitChars
  if d.point ≤ 0 then '0' :: '.' :: List.replicate (-d.point).toNat '0' ++ cs
  else if d.point < cs.length then
    cs.take d.point.toNat ++ '.' :: cs.drop d.point.toNat
  else cs ++ List.replicate (d.point - cs.length).toNat '0' ++ ['.', '0']

/-- One digit before the point, a point only if more digits follow, and the
exponent. -/
def scientific (d : Decimal) : List Char :=
  let cs := d.digitChars
  let fraction := if cs.length ≤ 1 then [] else '.' :: cs.tail
  cs.take 1 ++ fraction ++ 'e' :: (toString (d.point - 1)).toList

def format (f : RealFormat) (d : Decimal) : List Char :=
  if f.leastPoint ≤ d.point ∧ d.point ≤ f.greatestPoint then d.positional else d.scientific

end Decimal

namespace Real

/-- From ten to the minus fourth up to ten to the sixteenth positions are used. -/
def format : RealFormat := { leastPoint := -3, greatestPoint := 16 }

/-- The text of a double: the fewest digits that round to it. -/
def text (x : Float) : String :=
  let bits := x.toBits
  let sign := if isNegative bits then ['-'] else []
  match Magnitude.ofBits bits with
  | .undefined => "NaN"
  | .infinite => String.ofList (sign ++ "inf".toList)
  | .zero => String.ofList (sign ++ "0.0".toList)
  | .finite b => String.ofList (sign ++ b.shortest.format format)

end Real
end Sexpr
