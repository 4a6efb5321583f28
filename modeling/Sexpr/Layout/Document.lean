/-
Documents and their layout.

A document is a text in which some places may be either a space or a line break.
All the places of one group are decided together: spaces if the group and what
follows it on its last line fit in the width, line breaks otherwise.  Groups are
decided from the outside in, and a group inside one that is laid out flat is
flat.

After a line break come as many spaces as the indentation of whatever document
stands next.  This is the indentation of the break itself except at the very
end of a nested part, where the text after the part decides.
-/
import Sexpr.Text.Columns
import Sexpr.Text.Padding

namespace Sexpr

inductive Doc where
  | nil
  | text (s : String)
  | line
  | cat (a b : Doc)
  | nest (amount : Nat) (d : Doc)
  | group (d : Doc)
deriving DecidableEq

namespace Doc

/-- The document of a text.  The empty text is the empty document. -/
def ofText (s : String) : Doc := if s = "" then nil else text s

/-- One document after another.  The empty document leaves no trace, so a line
break before it is followed by the indentation of what comes after it. -/
def append : Doc → Doc → Doc
  | nil, b => b
  | a, nil => a
  | a, b => cat a b

instance : Append Doc := ⟨append⟩

/-- The documents in order with `separator` between neighbours. -/
def intersperse (separator : Doc) : List Doc → Doc
  | [] => nil
  | d :: ds => ds.foldl (fun acc e => acc ++ separator ++ e) d

/-- The items of a list, in parentheses. -/
def parenthesize (items : List Doc) : Doc :=
  ofText "(" ++ group (nest 2 (intersperse line items)) ++ ofText ")"

def flatText : Doc → String
  | nil => ""
  | text s => s
  | line => " "
  | cat a b => flatText a ++ flatText b
  | nest _ d | group d => flatText d

def flatColumns : Doc → Nat
  | nil => 0
  | text s => Text.columns s
  | line => 1
  | cat a b => flatColumns a + flatColumns b
  | nest _ d | group d => flatColumns d

/-- The columns from the start of a document to its first line break, or to the
end and `after` columns more. -/
def lead : Doc → Nat → Nat
  | nil, after => after
  | text s, after => Text.columns s + after
  | line, _ => 0
  | cat a b, after => lead a (lead b after)
  | nest _ d, after | group d, after => lead d after

structure Output where
  text : String
  column : Nat
deriving DecidableEq

namespace Output

def start : Output := { text := "", column := 0 }

def write (o : Output) (s : String) (width : Nat) : Output :=
  { text := o.text ++ s, column := o.column + width }

def breakLine (o : Output) (indent : Nat) : Output :=
  { text := o.text ++ "\n" ++ Text.spaces indent, column := indent }

end Output

/-- Lays out a document within `width` columns.  Here `indent` is its own
indentation, `next` the one of the document after it, and `after` the columns
from its end to the first line break behind it. -/
def emit (width : Nat) : Doc → (indent next after : Nat) → Output → Output
  | nil, _, _, _, o => o
  | text s, _, _, _, o => o.write s (Text.columns s)
  | line, _, next, _, o => o.breakLine next
  | cat a b, indent, next, after, o =>
    emit width b indent next after (emit width a indent indent (lead b after) o)
  | nest amount d, indent, next, after, o => emit width d (indent + amount) next after o
  | group d, indent, next, after, o =>
    if o.column + d.flatColumns + after ≤ width then o.write d.flatText d.flatColumns
    else emit width d indent next after o

def render (width : Nat) (d : Doc) : String := (emit width d 0 0 0 Output.start).text

end Doc
end Sexpr
