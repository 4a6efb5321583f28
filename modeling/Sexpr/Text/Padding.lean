namespace Sexpr
namespace Text

inductive Alignment where
  | left
  | right
  | center
deriving DecidableEq

def spaces (count : Nat) : String := String.ofList (List.replicate count ' ')

/-- Pads a text with spaces to at least `width` characters.  When the spaces to
add are odd in number, centring puts the extra one on the right. -/
def pad (align : Alignment) (width : Nat) (text : String) : String :=
  let missing := width - text.length
  match align with
  | .left => text ++ spaces missing
  | .right => spaces missing ++ text
  | .center => spaces (missing / 2) ++ text ++ spaces (missing - missing / 2)

/-- Cuts a text to at most `precision` characters, when a precision is given. -/
def cut (precision : Option Nat) (text : String) : String :=
  match precision with
  | none => text
  | some n => String.ofList (text.toList.take n)

end Text
end Sexpr
