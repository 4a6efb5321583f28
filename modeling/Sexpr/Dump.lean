import Sexpr.Node
import Sexpr.Text.Padding

namespace Sexpr
namespace Node

/-- The column at which the text of a leaf starts, as long as its indentation and
tag leave room for it. -/
def textColumn : Nat := 42

/-- One line of a dump: two spaces for each level, the tag padded up to the text
column, a space, and the text of a leaf as it was written. -/
def dumpLine (depth : Nat) (n : Node) : String :=
  Text.spaces (2 * depth) ++ Text.pad .left (textColumn - 2 * depth) n.tag.name ++ " " ++
    n.text ++ "\n"

/-- The derivation below a node, one line for each node. -/
def dump (n : Node) : String :=
  String.join ((n.preorder 0).map fun entry => dumpLine entry.1 entry.2)

end Node
end Sexpr
