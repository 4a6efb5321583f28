import Sexpr.Text.Numeral

namespace Sexpr
namespace CommandLine

inductive Verb where
  | check
  | tokens
  | tree
  | fmt
deriving DecidableEq

def Verb.ofName? : String → Option Verb
  | "check" => some check
  | "tokens" => some tokens
  | "tree" => some tree
  | "fmt" => some fmt
  | _ => none

/-- The arguments of a command that carry a value. -/
inductive Slot where
  | file
  | expr
  | width
deriving DecidableEq

namespace Slot

def name : Slot → String
  | file => "FILE"
  | expr => "--expr"
  | width => "--width"

def ofLetter? (verb : Verb) (c : Char) : Option Slot :=
  if c = 'e' then some expr
  else if c = 'w' ∧ verb = .fmt then some width
  else none

def ofLongName? (verb : Verb) (name : String) : Option Slot :=
  if name = "expr" then some expr
  else if name = "width" ∧ verb = .fmt then some width
  else none

end Slot

def defaultWidth : Nat := 80

/-- Widths fit in 64 bits. -/
def width? (text : String) : Option Nat :=
  (Text.unsigned? text.toList).bind fun n => if n < Nat.pow 2 64 then some n else none

/-- Occurrences of the verbose flag are counted up to 255. -/
def countFlag (n : Nat) : Nat := min (n + 1) 255

/-- How an argument looks, before anyone knows what it means. -/
inductive Shape where
  | dashes
  | long (name : String) (value : Option String)
  | short (letters : List Char)
  | plain
deriving DecidableEq

/-- A long option may carry a value after `=`.  A single dash is a plain
argument. -/
def Shape.of (argument : String) : Shape :=
  match argument.toList with
  | '-' :: '-' :: [] => dashes
  | '-' :: '-' :: cs =>
    let name := cs.takeWhile (· ≠ '=')
    let value := match cs.drop name.length with
      | [] => none
      | _ :: value => some (String.ofList value)
    long (String.ofList name) value
  | '-' :: c :: cs => short (c :: cs)
  | _ => plain

end CommandLine
end Sexpr
