import Sexpr.Decimal.Display
import Sexpr.Decimal.Reading
import Sexpr.Text.Escape
import Sexpr.Token

namespace Sexpr

inductive Value where
  | symbol (name : String)
  | int (n : Int64)
  | real (x : Float)
  | string (s : String)

inductive ValueError where
  | intOutOfRange (text : String)
  | invalidReal (text : String)
  | invalidEscape (text : String)
  | notAnAtom (kind : Kind)
deriving DecidableEq

namespace ValueError

def message : ValueError → String
  | intOutOfRange text => s!"integer {text} does not fit in 64 bits"
  | invalidReal text => s!"invalid real number {text}"
  | invalidEscape text => s!"invalid escape sequence in string {text}"
  | notAnAtom kind => s!"a {kind.name} token does not denote a value"

end ValueError

namespace Value

/-- Reads an integer that fits in 64 bits. -/
def int64? (text : String) : Option Int64 :=
  match Text.integer? text.toList with
  | none => none
  | some n => if Int64.minValue.toInt ≤ n ∧ n ≤ Int64.maxValue.toInt then some (Int64.ofInt n) else none

def string? (text : String) : Option String :=
  (Text.unquote? text).bind fun body => (Text.unescape body).map String.ofList

/-- The value a token denotes.  The kind says how the text is to be read. -/
def ofToken (t : Token) : Except ValueError Value :=
  match t.kind with
  | .id => .ok (symbol t.text)
  | .int =>
    match int64? t.text with
    | some n => .ok (int n)
    | none => .error (.intOutOfRange t.text)
  | .real =>
    match Real.ofString? t.text with
    | some x => .ok (real x)
    | none => .error (.invalidReal t.text)
  | .string =>
    match string? t.text with
    | some s => .ok (string s)
    | none => .error (.invalidEscape t.text)
  | .literal | .endMark => .error (.notAnAtom t.kind)

/-- The text of a value, as source text where the value has one. -/
def text : Value → String
  | symbol name => name
  | int n => toString n.toInt
  | real x => Real.text x
  | string s => Text.quote s

/-- Equality of values.  Reals are equal as numbers, so the two zeros are, and a
result that is not a number equals every other such result. -/
def beq : Value → Value → Bool
  | symbol a, symbol b => a == b
  | int a, int b => a == b
  | real x, real y => (x.isNaN && y.isNaN) || x == y
  | string a, string b => a == b
  | _, _ => false

instance : BEq Value := ⟨beq⟩

end Value
end Sexpr
