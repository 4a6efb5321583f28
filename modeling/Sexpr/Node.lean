/-
The derivation of a program, node by node.

Every use of a grammar rule is a node: an atom hangs below an s-expression and
its token below the atom, and the items of a list hang on a chain of sequence
nodes, one for each item, each holding its item first and the rest of the chain
second.  The tree types do not store these nodes; `Node.children` unfolds them.
-/
import Sexpr.Tree

namespace Sexpr

/-- The grammar rule or token kind a node stands for. -/
inductive Tag where
  | program
  | sexpr
  | list
  | seq
  | atom
  | token (kind : Kind)
deriving DecidableEq

def Tag.name : Tag → String
  | .program => "Program"
  | .sexpr => "SExpr"
  | .list => "List"
  | .seq => "Seq"
  | .atom => "Atom"
  | .token kind => kind.name

inductive Node where
  | program (p : Program)
  | sexpr (x : SExpr)
  | list (opening : Token) (items : List SExpr) (closing : Token)
  | seq (s : Sequence)
  | atom (token : Token)
  | leaf (token : Token)
deriving DecidableEq

/-- The node below the one of an s-expression: what it was read as. -/
def SExpr.production : SExpr → Node
  | atom t => .atom t
  | list opening items closing => .list opening items closing

namespace Node

def tag : Node → Tag
  | program _ => .program
  | sexpr _ => .sexpr
  | list _ _ _ => .list
  | seq _ => .seq
  | atom _ => .atom
  | leaf t => .token t.kind

/-- The text of a leaf.  Other nodes have none. -/
def text : Node → String
  | leaf t => t.text
  | _ => ""

def isLeaf : Node → Bool
  | leaf _ => true
  | _ => false

/-- The nodes directly below, in the order of the grammar rule. -/
def children : Node → List Node
  | program p => p.exprs.map sexpr
  | sexpr x => [x.production]
  | list opening [] closing => [leaf opening, leaf closing]
  | list opening (x :: xs) closing => [leaf opening, seq ⟨x, xs⟩, leaf closing]
  | seq ⟨x, []⟩ => [sexpr x]
  | seq ⟨x, y :: ys⟩ => [sexpr x, seq ⟨y, ys⟩]
  | atom t => [leaf t]
  | leaf _ => []

/-- The tokens below a node, in order. -/
def tokens : Node → List Token
  | program p => p.tokens
  | sexpr x => x.tokens
  | list opening items closing => (SExpr.list opening items closing).tokens
  | seq s => SExpr.tokensOf s.items
  | atom t => [t]
  | leaf t => [t]

end Node

namespace SExpr

mutual
/-- The number of nodes in the derivation of an s-expression. -/
def nodeCount : SExpr → Nat
  | atom _ => 3
  | list _ items _ => 4 + nodeCounts items

/-- The number of nodes in a chain of sequence nodes. -/
def nodeCounts : List SExpr → Nat
  | [] => 0
  | x :: xs => 1 + nodeCount x + nodeCounts xs
end

end SExpr

namespace Node

def total : List Nat → Nat
  | [] => 0
  | n :: ns => n + total ns

/-- The number of nodes at and below a node. -/
def count : Node → Nat
  | program p => 1 + total (p.exprs.map SExpr.nodeCount)
  | sexpr x => x.nodeCount
  | list _ items _ => 3 + SExpr.nodeCounts items
  | seq s => SExpr.nodeCounts s.items
  | atom _ => 2
  | leaf _ => 1

theorem count_eq (n : Node) : n.count = 1 + total (n.children.map count) := by
  match n with
  | program p =>
      have : count ∘ sexpr = SExpr.nodeCount := rfl
      simp only [children, count, List.map_map, this]
  | sexpr (.atom t) => rfl
  | sexpr (.list o xs c) =>
      simp [children, total, SExpr.production, count, SExpr.nodeCount, ← Nat.add_assoc]
  | list o [] c => simp [children, total, count, SExpr.nodeCounts]
  | list o (x :: xs) c => simp [children, total, count, Sequence.items]; omega
  | seq ⟨x, []⟩ => simp [children, total, count, Sequence.items, SExpr.nodeCounts]
  | seq ⟨x, y :: ys⟩ => simp [children, total, count, Sequence.items, SExpr.nodeCounts]; omega
  | atom t => rfl
  | leaf t => rfl

theorem le_total_of_mem {a : Nat} {l : List Nat} (h : a ∈ l) : a ≤ total l := by
  induction l with
  | nil => exact absurd h List.not_mem_nil
  | cons b l ih =>
      rw [total]
      rcases List.mem_cons.1 h with rfl | h
      · omega
      · have := ih h
        omega

/-- A child has fewer nodes than its parent, so walks down the tree end. -/
theorem count_lt_of_mem_children {n m : Node} (h : m ∈ n.children) : m.count < n.count := by
  have hm : m.count ≤ total (n.children.map count) :=
    le_total_of_mem (List.mem_map_of_mem h)
  rw [count_eq n]
  omega

/-- A node and everything below it, each before its children and with its depth
below the first. -/
def preorder (depth : Nat) (n : Node) : List (Nat × Node) :=
  (depth, n) :: n.children.attach.flatMap fun m => preorder (depth + 1) m.1
termination_by n.count
decreasing_by exact count_lt_of_mem_children m.2

theorem preorder_eq (depth : Nat) (n : Node) :
    n.preorder depth = (depth, n) :: n.children.flatMap (preorder (depth + 1)) := by
  rw [preorder, List.flatMap_subtype (fun _ _ => rfl), List.unattach_attach]

/-- The node reached by following child indices downward. -/
def descend : List Nat → Node → Except Node Node
  | [], n => .ok n
  | i :: path, n =>
    match n.children[i]? with
    | some m => descend path m
    | none => .error n

end Node
end Sexpr
