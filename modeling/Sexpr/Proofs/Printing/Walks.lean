/-
The two walks over a tree.

A printer is taken through a tree item by item, and is told of parentheses it never sees.
The view by nodes goes down through the children, along the chain of sequence nodes, and
comes to the parentheses as leaves.  Both meet the same texts in the same order, at every
node of a program that was read, and these are the texts of the tokens it was read from.
-/
import Mathlib.Data.List.Basic
import Sexpr.Proofs.Parsing.Derivation
import Sexpr.Proofs.Parsing.Nonterminals
import Sexpr.Proofs.Printing.Trace

namespace Sexpr

namespace SExpr

theorem tokensOf_eq_flatMap (xs : List SExpr) : tokensOf xs = xs.flatMap tokens := by
  induction xs with
  | nil => rfl
  | cons x xs ih => rw [tokensOf_cons, ih, List.flatMap_cons]

theorem eventsOf_eq_flatMap (xs : List SExpr) : eventsOf xs = xs.flatMap events := by
  induction xs with
  | nil => rfl
  | cons x xs ih => rw [eventsOf, ih, List.flatMap_cons]

theorem AllShaped.of_mem {x : SExpr} {xs : List SExpr} (h : AllShaped xs) (hx : x ∈ xs) :
    x.Shaped := by
  induction xs with
  | nil => exact absurd hx List.not_mem_nil
  | cons y ys ih =>
      rcases List.mem_cons.1 hx with rfl | hx
      · exact h.1
      · exact ih h.2 hx

/- The start and the end of a list are told without the tokens.  They read as the tokens do
because the grammar asks for a `(` and a `)` there. -/
mutual
theorem text_events {x : SExpr} (h : x.Shaped) :
    x.events.map Event.text = x.tokens.map Token.text := by
  cases x with
  | atom t => rfl
  | list o xs c =>
      obtain ⟨ho, hxs, hc⟩ := h
      have hitems := text_eventsOf hxs
      simp only [events, tokens_list, List.map_cons, List.map_append, List.map_nil, List.cons_append,
        Event.text, hitems, ho.2, hc.2]

theorem text_eventsOf {xs : List SExpr} (h : AllShaped xs) :
    (eventsOf xs).map Event.text = (tokensOf xs).map Token.text := by
  cases xs with
  | nil => rfl
  | cons x xs =>
      rw [eventsOf, tokensOf_cons, List.map_append, List.map_append, text_events h.1,
        text_eventsOf h.2]
end

end SExpr

namespace Node

/-- The leaves at and below a node, in the order in which the walk through the children
comes to them. -/
def leaves (n : Node) : List Node := ((n.preorder 0).map (·.2)).filter isLeaf

/-- Nothing stands between the tokens of the children, and nothing around them. -/
theorem tokens_children {n : Node} (h : n.isLeaf = false) :
    n.children.flatMap tokens = n.tokens := by
  match n with
  | program p =>
      show (p.exprs.map sexpr).flatMap tokens = SExpr.tokensOf p.exprs
      rw [List.flatMap_map, SExpr.tokensOf_eq_flatMap]
      rfl
  | sexpr x =>
      show x.production.tokens ++ [] = x.tokens
      rw [List.append_nil, SExpr.tokens_production]
  | list o [] c => rfl
  | list o (x :: xs) c => rfl
  | seq ⟨x, []⟩ => rfl
  | seq ⟨x, y :: ys⟩ =>
      show x.tokens ++ (SExpr.tokensOf (y :: ys) ++ []) = x.tokens ++ SExpr.tokensOf (y :: ys)
      rw [List.append_nil]
  | atom t => rfl
  | leaf t => exact nomatch h

theorem mem_tokens_of_mem_preorder {n : Node} {depth : Nat} {entry : Nat × Node}
    (hm : entry ∈ n.preorder depth) {t : Token} (ht : t ∈ entry.2.tokens) : t ∈ n.tokens := by
  rw [preorder_eq] at hm
  rcases List.mem_cons.1 hm with rfl | hm
  · exact ht
  · obtain ⟨m, hchild, hm⟩ := List.mem_flatMap.1 hm
    have hleaf : n.isLeaf = false := by
      cases n with
      | leaf u => exact absurd hchild List.not_mem_nil
      | _ => rfl
    rw [← tokens_children hleaf]
    exact List.mem_flatMap.2 ⟨m, hchild, mem_tokens_of_mem_preorder hm ht⟩
termination_by n.count
decreasing_by exact count_lt_of_mem_children hchild

theorem filter_isLeaf_preorder (depth : Nat) (n : Node) :
    ((n.preorder depth).map (·.2)).filter isLeaf = n.tokens.map leaf := by
  have hbelow : n.children.flatMap (fun m => ((m.preorder (depth + 1)).map (·.2)).filter isLeaf) =
      n.children.flatMap fun m => m.tokens.map leaf :=
    List.flatMap_congr fun m hm => filter_isLeaf_preorder (depth + 1) m
  rw [preorder_eq, List.map_cons, List.map_flatMap, List.filter_cons, List.filter_flatMap, hbelow,
    ← List.map_flatMap]
  by_cases h : n.isLeaf = true
  · cases n with
    | leaf t => rfl
    | _ => exact nomatch h
  · rw [if_neg h, tokens_children (Bool.not_eq_true _ ▸ h)]
termination_by n.count
decreasing_by exact count_lt_of_mem_children hm

theorem leaves_eq (n : Node) : n.leaves = n.tokens.map leaf := filter_isLeaf_preorder 0 n

/-! ## Nodes of the grammar -/

/-- Whether every token below a node is one the grammar allows in its place. -/
def Shaped : Node → Prop
  | program p => p.Shaped
  | sexpr x => x.Shaped
  | list opening items closing => (SExpr.list opening items closing).Shaped
  | seq s => SExpr.AllShaped s.items
  | atom t => t.kind.isAtom = true
  | leaf _ => True

theorem Shaped.of_mem_children {n m : Node} (h : n.Shaped) (hm : m ∈ n.children) : m.Shaped := by
  match n, h with
  | program p, h =>
      obtain ⟨x, hx, rfl⟩ := List.mem_map.1 hm
      exact SExpr.AllShaped.of_mem h hx
  | sexpr (.atom t), h =>
      obtain rfl := List.mem_singleton.1 hm
      exact h
  | sexpr (.list o xs c), h =>
      obtain rfl := List.mem_singleton.1 hm
      exact h
  | list o [] c, h =>
      simp only [children, List.mem_cons, List.not_mem_nil, or_false] at hm
      rcases hm with rfl | rfl <;> trivial
  | list o (x :: xs) c, h =>
      simp only [children, List.mem_cons, List.not_mem_nil, or_false] at hm
      rcases hm with rfl | rfl | rfl
      · trivial
      · exact h.2.1
      · trivial
  | seq ⟨x, []⟩, h =>
      obtain rfl := List.mem_singleton.1 hm
      exact h.1
  | seq ⟨x, y :: ys⟩, h =>
      simp only [children, List.mem_cons, List.not_mem_nil, or_false] at hm
      rcases hm with rfl | rfl
      · exact h.1
      · exact h.2
  | atom t, h =>
      obtain rfl := List.mem_singleton.1 hm
      trivial
  | leaf t, h => exact absurd hm List.not_mem_nil

theorem Shaped.of_mem_preorder {n : Node} (h : n.Shaped) {depth : Nat} {entry : Nat × Node}
    (hm : entry ∈ n.preorder depth) : entry.2.Shaped := by
  rw [preorder_eq] at hm
  rcases List.mem_cons.1 hm with rfl | hm
  · exact h
  · obtain ⟨m, hchild, hm⟩ := List.mem_flatMap.1 hm
    exact (h.of_mem_children hchild).of_mem_preorder hm
termination_by n.count
decreasing_by exact count_lt_of_mem_children hchild

theorem text_events_eq_text_leaves {n : Node} (h : n.Shaped) :
    n.events.map Event.text = n.leaves.map Node.text := by
  have htext : Node.text ∘ leaf = Token.text := rfl
  rw [leaves_eq, List.map_map, htext]
  cases n with
  | program p => exact SExpr.text_eventsOf h
  | sexpr x => exact SExpr.text_events h
  | list o xs c => exact SExpr.text_events (x := .list o xs c) h
  | seq s => exact SExpr.text_eventsOf h
  | atom t => rfl
  | leaf t => rfl

end Node

/-- What a printer is told of a program that was parsed, the leaves of the program and the
tokens that were consumed for it have the same texts.  A printer is told the same texts as
the leaves have at every node below the program too, where a sequence gives its items and
no parentheses.  This holds for every printer, since printing is telling it these events. -/
theorem walks_agree {ts : List Token} {p : Program} (h : parse ts = .ok p) :
    (∃ consumed d, Parser.program (Cursor.ofTokens ts) = (.ok p, d) ∧ ts = consumed ++ d.rest ∧
      (Node.program p).events.map Event.text = consumed.map Token.text ∧
      (Node.program p).leaves.map Node.text = consumed.map Token.text) ∧
    ∀ entry ∈ (Node.program p).preorder 0,
      (∀ {m : Type → Type} [Monad m] [LawfulMonad m] (P : Printer m),
        Printable.print P entry.2 = entry.2.events.forM (Event.tell P)) ∧
      entry.2.events.map Event.text = entry.2.leaves.map Node.text ∧
      ∀ s, entry.2 = .seq s → entry.2.events = s.items.flatMap SExpr.events := by
  obtain ⟨hshaped, -⟩ := Parser.derived_of_parse h
  constructor
  · have hconsumes := Parser.program_consumes (Cursor.ofTokens ts)
    rcases hrun : Parser.program (Cursor.ofTokens ts) with ⟨result, d⟩
    rw [parse, hrun] at h
    obtain rfl : result = .ok p := h
    rw [hrun] at hconsumes
    have hleaves : (Node.program p).leaves.map Node.text = p.tokens.map Token.text := by
      rw [Node.leaves_eq, List.map_map]
      rfl
    exact ⟨p.tokens, d, rfl, hconsumes.rest, SExpr.text_eventsOf hshaped, hleaves⟩
  · intro entry hentry
    refine ⟨fun P => entry.2.print_eq_forM_events P, ?_, ?_⟩
    · apply Node.text_events_eq_text_leaves
      exact Node.Shaped.of_mem_preorder (n := .program p) hshaped hentry
    · intro s hs
      rw [hs]
      exact SExpr.eventsOf_eq_flatMap s.items

/-- A token of kind end that opens an inner list, and one that ends the program before the
last token. -/
theorem walks_agree_on_end_tokens :
    let ts : List Token := [⟨.literal, "(", ⟨0, 1⟩⟩, ⟨.endMark, "(", ⟨0, 0⟩⟩, ⟨.literal, ")", ⟨7, 3⟩⟩,
      ⟨.int, "x", ⟨1, 2⟩⟩, ⟨.literal, ")", ⟨3, 4⟩⟩, ⟨.endMark, "y", ⟨5, 6⟩⟩, ⟨.id, "z", ⟨6, 7⟩⟩]
    ∃ p, parse ts = .ok p ∧
      (∃ consumed d, ts = consumed ++ d ∧ consumed.map Token.text = ["(", "(", ")", "x", ")"] ∧
        (Node.program p).leaves.map Node.text = consumed.map Token.text) ∧
      ∀ entry ∈ (Node.program p).preorder 0,
        entry.2.events.map Event.text = entry.2.leaves.map Node.text := by
  intro ts
  let p : Program := ⟨[.list ⟨.literal, "(", ⟨0, 1⟩⟩
    [.list ⟨.endMark, "(", ⟨0, 0⟩⟩ [] ⟨.literal, ")", ⟨7, 3⟩⟩, .atom ⟨.int, "x", ⟨1, 2⟩⟩]
    ⟨.literal, ")", ⟨3, 4⟩⟩]⟩
  have hp : parse ts = .ok p := by decide +kernel
  obtain ⟨⟨consumed, d, -, hsplit, hevents, hleaves⟩, hbelow⟩ := walks_agree hp
  refine ⟨p, hp, ⟨consumed, d.rest, hsplit, ?_, hleaves⟩, fun entry hentry => (hbelow entry hentry).2.1⟩
  rw [← hevents]
  rfl

end Sexpr
