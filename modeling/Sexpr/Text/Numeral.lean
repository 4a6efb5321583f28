namespace Sexpr
namespace Text

/-- The value of a digit in any base up to sixteen. -/
def digitValue (c : Char) : Nat :=
  if c.isDigit then c.toNat - '0'.toNat
  else if 'a' ≤ c then c.toNat - 'a'.toNat + 10
  else c.toNat - 'A'.toNat + 10

def isHexDigit (c : Char) : Bool :=
  c.isDigit || ('a' ≤ c && c ≤ 'f') || ('A' ≤ c && c ≤ 'F')

/-- The number written by a row of digits, the most significant first. -/
def ofDigits (base : Nat) (cs : List Char) : Nat :=
  cs.foldl (fun n c => n * base + digitValue c) 0

/-- Reads one or more ASCII digits and nothing else. -/
def natural? (cs : List Char) : Option Nat :=
  if !cs.isEmpty && cs.all Char.isDigit then some (ofDigits 10 cs) else none

/-- Reads an optional `+` and then digits. -/
def unsigned? (cs : List Char) : Option Nat :=
  match cs with
  | '+' :: r => natural? r
  | _ => natural? cs

/-- Reads an optional sign and then digits. -/
def integer? (cs : List Char) : Option Int :=
  match cs with
  | '-' :: r => (natural? r).map fun n => -(n : Int)
  | _ => (unsigned? cs).map fun n => (n : Int)

end Text
end Sexpr
