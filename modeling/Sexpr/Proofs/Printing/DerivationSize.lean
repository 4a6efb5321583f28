/-
How many nodes a program has.

The derivation of a program leaves no rule out, so the tokens fix how many nodes it has.  An atom
accounts for its token, the atom above it and the s-expression above that, a list for its two
parentheses, itself and the s-expression above it, and each item of a list for a sequence node as
well, which only the s-expressions at top level do without.  The sequence nodes of a list stand
in a chain, one level deeper for every item.  A dump has one line for each node if no text brings
a line break with it.
-/
import Sexpr.Proofs.Printing.DumpLines

namespace Sexpr

/-! ## Counting -/

namespace Node

theorem total_append (a b : List Nat) : total (a ++ b) = total a + total b := by
  induction a with
  | nil => exact (Nat.zero_add _).symm
  | cons n a ih => rw [List.cons_append, total, total, ih, Nat.add_assoc]

theorem length_flatMap_eq_total {α β : Type} (l : List α) (f : α → List β) :
    (l.flatMap f).length = total (l.map fun a => (f a).length) := by
  induction l with
  | nil => rfl
  | cons a l ih => rw [List.flatMap_cons, List.length_append, List.map_cons, total, ih]

end Node

namespace Token

/-- How many nodes of a list stand for a token, or for the list it opens. -/
def share (t : Token) : Nat := if t.kind.isAtom then 4 else if t.isLiteral "(" then 5 else 0

theorem share_of_isAtom {t : Token} (h : t.kind.isAtom = true) : t.share = 4 := if_pos h

theorem share_of_opens {t : Token} (h : t.Opens) (hk : t.kind ≠ .endMark) : t.share = 5 := by
  obtain ⟨hatom, htext⟩ := h
  have hliteral : t.kind = .literal := by
    cases hkind : t.kind <;> simp_all [Kind.isAtom]
  rw [share, if_neg (Bool.eq_false_iff.1 hatom), if_pos (isLiteral_iff.2 ⟨hliteral, htext⟩)]

theorem share_of_closes {t : Token} (h : t.Closes) : t.share = 0 := by
  have hopen : ¬t.isLiteral "(" = true := by
    intro hopen
    exact absurd ((isLiteral_iff.1 hopen).2.symm.trans h.2) (by decide)
  rw [share, if_neg (Bool.eq_false_iff.1 h.isAtom), if_neg hopen]

theorem total_share (ts : List Token) :
    Node.total (ts.map share) =
      4 * ts.countP (·.kind.isAtom) + 5 * ts.countP (·.isLiteral "(") := by
  induction ts with
  | nil => rfl
  | cons t ts ih =>
      rw [List.map_cons, Node.total, ih, List.countP_cons, List.countP_cons]
      by_cases hatom : t.kind.isAtom = true
      · have hliteral : ¬t.isLiteral "(" = true := by
          intro hliteral
          rw [(isLiteral_iff.1 hliteral).1] at hatom
          exact Bool.noConfusion hatom
        rw [share_of_isAtom hatom, if_pos hatom, if_neg hliteral]
        omega
      · rw [share, if_neg hatom, if_neg hatom]
        split <;> omega

end Token

namespace SExpr

mutual
theorem nodeCount_eq {x : SExpr} (h : x.Shaped) (hend : ∀ t ∈ x.tokens, t.kind ≠ .endMark) :
    x.nodeCount + 1 = Node.total (x.tokens.map Token.share) := by
  cases x with
  | atom t =>
      show 3 + 1 = t.share + 0
      rw [Token.share_of_isAtom h]
  | list o xs c =>
      obtain ⟨ho, hxs, hc⟩ := h
      have hitems := nodeCounts_eq hxs fun t ht => hend t (by simp [ht])
      have hopen := Token.share_of_opens ho (hend o (by simp))
      simp only [tokens_list, List.cons_append, List.map_cons, List.map_append, List.map_nil,
        Node.total, Node.total_append, ← hitems, hopen, Token.share_of_closes hc, nodeCount]
      omega

theorem nodeCounts_eq {xs : List SExpr} (h : AllShaped xs)
    (hend : ∀ t ∈ tokensOf xs, t.kind ≠ .endMark) :
    nodeCounts xs = Node.total ((tokensOf xs).map Token.share) := by
  cases xs with
  | nil => rfl
  | cons x xs =>
      have hx := nodeCount_eq h.1 fun t ht => hend t (List.mem_append_left _ ht)
      have hxs := nodeCounts_eq h.2 fun t ht => hend t (List.mem_append_right _ ht)
      rw [nodeCounts, tokensOf_cons, List.map_append, Node.total_append, ← hx, ← hxs]
      omega
end

/-- At top level an s-expression has no sequence node. -/
theorem total_nodeCount_add_length (xs : List SExpr) :
    Node.total (xs.map nodeCount) + xs.length = nodeCounts xs := by
  induction xs with
  | nil => rfl
  | cons x xs ih =>
      rw [List.map_cons, Node.total, List.length_cons, nodeCounts, ← ih]
      omega

end SExpr

namespace Node

theorem length_preorder (depth : Nat) (n : Node) : (n.preorder depth).length = n.count := by
  have hbelow : n.children.map (fun m => (m.preorder (depth + 1)).length) = n.children.map count :=
    List.map_congr_left fun m hm => length_preorder (depth + 1) m
  rw [preorder_eq, List.length_cons, length_flatMap_eq_total, hbelow, count_eq, Nat.add_comm]
termination_by n.count
decreasing_by exact count_lt_of_mem_children hm

/-- What is below a node stands in one piece in a listing. -/
theorem preorder_below {n : Node} {depth : Nat} {entry : Nat × Node}
    (hm : entry ∈ n.preorder depth) : entry.2.preorder entry.1 <:+: n.preorder depth := by
  have hroot := n.preorder_eq depth
  rw [hroot] at hm
  rcases List.mem_cons.1 hm with rfl | hm
  · exact List.infix_refl _
  · obtain ⟨m, hchild, hm⟩ := List.mem_flatMap.1 hm
    obtain ⟨before, after, hchildren⟩ := List.append_of_mem hchild
    have hpiece : m.preorder (depth + 1) <:+: n.children.flatMap (preorder (depth + 1)) := by
      rw [hchildren, List.flatMap_append, List.flatMap_cons, ← List.append_assoc]
      exact List.infix_append _ _ _
    rw [hroot]
    exact ((preorder_below hm).trans hpiece).trans (List.suffix_cons _ _).isInfix
termination_by n.count
decreasing_by exact count_lt_of_mem_children hchild

end Node

/-! ## Chains -/

namespace SExpr

/-- The sequence nodes of the items of a list, from the top down. -/
def chain : List SExpr → List Sequence
  | [] => []
  | x :: xs => ⟨x, xs⟩ :: chain xs

theorem heads_chain (xs : List SExpr) : (chain xs).map Sequence.head = xs := by
  induction xs with
  | nil => rfl
  | cons x xs ih => rw [chain, List.map_cons, ih]

end SExpr

namespace Node

open SExpr

/-- The listing of a chain: each node of it, and behind it what is below its item. -/
def links (depth : Nat) (chain : List Sequence) : List (Nat × Node) :=
  (chain.zipIdx depth).flatMap fun link =>
    (link.2, seq link.1) :: (sexpr link.1.head).preorder (link.2 + 1)

theorem preorder_seq (depth : Nat) (x : SExpr) (xs : List SExpr) :
    (seq ⟨x, xs⟩).preorder depth = links depth (chain (x :: xs)) := by
  induction xs generalizing depth x with
  | nil => rw [preorder_eq]; rfl
  | cons y ys ih =>
      have hchildren : (seq ⟨x, y :: ys⟩).children = [sexpr x, seq ⟨y, ys⟩] := rfl
      have hrest := ih (depth + 1) y
      rw [preorder_eq, hchildren, List.flatMap_cons, List.flatMap_singleton, hrest]
      rfl

theorem preorder_list (depth : Nat) (o c : Token) (xs : List SExpr) :
    (list o xs c).preorder depth = (depth, list o xs c) :: (depth + 1, leaf o) ::
      (links (depth + 1) (chain xs) ++ [(depth + 1, leaf c)]) := by
  have hleaf (t : Token) : (leaf t).preorder (depth + 1) = [(depth + 1, leaf t)] := by
    rw [preorder_eq]
    rfl
  rw [preorder_eq]
  cases xs with
  | nil =>
      have hchildren : (list o [] c).children = [leaf o, leaf c] := rfl
      rw [hchildren, List.flatMap_cons, List.flatMap_singleton, hleaf, hleaf]
      rfl
  | cons x xs =>
      have hchildren : (list o (x :: xs) c).children = [leaf o, seq ⟨x, xs⟩, leaf c] := rfl
      rw [hchildren, List.flatMap_cons, List.flatMap_cons, List.flatMap_singleton, hleaf, hleaf,
        preorder_seq]
      rfl

/-- What the sequence nodes of a list are in a derivation, where the list stands at `depth` of a
listing: one for each item, from the top down.  The list holds the first of them between its
parentheses, each holds its item and behind it the next one, and each stands a level deeper than
the one before. -/
structure HangsOn (below : List (Nat × Node)) (depth : Nat) (o : Token) (xs : List SExpr)
    (c : Token) (chain : List Sequence) : Prop where
  heads : chain.map Sequence.head = xs
  hung : (list o xs c).children = leaf o :: ((chain.head?.map seq).toList ++ [leaf c])
  linked : ∀ i s, chain[i]? = some s →
    (seq s).children = sexpr s.head :: ((chain[i + 1]?).map seq).toList
  placed : ∀ i s, chain[i]? = some s → (depth + (i + 1), seq s) ∈ below
  listed : (list o xs c).preorder depth = (depth, list o xs c) :: (depth + 1, leaf o) ::
    (links (depth + 1) chain ++ [(depth + 1, leaf c)])
  within : (list o xs c).preorder depth <:+: below

theorem children_list (o c : Token) (xs : List SExpr) :
    (list o xs c).children = leaf o :: (((chain xs).head?.map seq).toList ++ [leaf c]) := by
  cases xs <;> rfl

theorem children_seq_of_chain {xs : List SExpr} {i : Nat} {s : Sequence}
    (h : (chain xs)[i]? = some s) :
    (seq s).children = sexpr s.head :: (((chain xs)[i + 1]?).map seq).toList := by
  induction xs generalizing i with
  | nil => exact absurd h nofun
  | cons x xs ih =>
      cases i with
      | zero =>
          obtain rfl : (⟨x, xs⟩ : Sequence) = s := Option.some.inj h
          cases xs <;> rfl
      | succ i => exact ih h

theorem mem_links {chain : List Sequence} {depth i : Nat} {s : Sequence}
    (h : chain[i]? = some s) : (depth + i, seq s) ∈ links depth chain := by
  have hlink : (s, depth + i) ∈ chain.zipIdx depth :=
    List.mk_add_mem_zipIdx_iff_getElem?.2 h
  exact List.mem_flatMap.2 ⟨_, hlink, List.mem_cons_self⟩

theorem hangsOn_chain {below : List (Nat × Node)} {depth : Nat} {o c : Token} {xs : List SExpr}
    (h : (list o xs c).preorder depth <:+: below) : HangsOn below depth o xs c (chain xs) where
  heads := heads_chain xs
  hung := children_list o c xs
  linked _ _ := children_seq_of_chain
  placed i s hs := by
    refine h.subset ?_
    have hlink : (depth + 1 + i, seq s) ∈ links (depth + 1) (chain xs) := mem_links hs
    rw [preorder_list, Nat.add_comm i 1, ← Nat.add_assoc]
    exact List.mem_cons_of_mem _ (List.mem_cons_of_mem _ (List.mem_append_left _ hlink))
  listed := preorder_list depth o c xs
  within := h

/-! ## Lines -/

theorem newline_not_mem_text {n : Node} (h : ∀ t ∈ n.tokens, '\n' ∉ t.text.toList) :
    '\n' ∉ n.text.toList := by
  cases n with
  | leaf t => exact h t List.mem_cons_self
  | _ => exact nofun

theorem splitOn_dumpLines {below : List (Nat × Node)}
    (h : ∀ entry ∈ below, '\n' ∉ entry.2.text.toList) :
    (dumpLines below).splitOn '\n' =
      below.map (fun entry => (lineStart entry.1 entry.2.tag ++ entry.2.text).toList) ++ [[]] := by
  induction below with
  | nil => rfl
  | cons entry below ih =>
      obtain ⟨hentry, hbelow⟩ := List.forall_mem_cons.1 h
      have hline : '\n' ∉ (lineStart entry.1 entry.2.tag ++ entry.2.text).toList := by
        rw [String.toList_append, List.mem_append, not_or]
        exact ⟨newline_not_mem_lineStart _ _, hentry⟩
      rw [dumpLines_cons, dumpLine_eq, String.toList_append, List.append_assoc]
      exact (List.splitOn_append_cons_self_of_not_mem hline _).trans
        (congrArg (List.cons _) (ih hbelow))

theorem splitOn_dump {n : Node} (h : ∀ t ∈ n.tokens, '\n' ∉ t.text.toList) :
    n.dump.toList.splitOn '\n' =
      (n.preorder 0).map (fun entry => (lineStart entry.1 entry.2.tag ++ entry.2.text).toList) ++
        [[]] := by
  have hlines : n.dump.toList = dumpLines (n.preorder 0) := toList_dump n
  rw [hlines]
  refine splitOn_dumpLines fun entry hentry => newline_not_mem_text fun t ht => ?_
  exact h t (mem_tokens_of_mem_preorder hentry ht)

end Node

theorem Program.length_preorder_add_size {p : Program} (h : p.Shaped)
    (hend : ∀ t ∈ p.tokens, t.kind ≠ .endMark) :
    ((Node.program p).preorder 0).length + p.size =
      1 + 4 * p.tokens.countP (·.kind.isAtom) + 5 * p.tokens.countP (·.isLiteral "(") := by
  have hcount : (Node.program p).count = 1 + Node.total (p.exprs.map SExpr.nodeCount) := rfl
  have htop : Node.total (p.exprs.map SExpr.nodeCount) + p.size = SExpr.nodeCounts p.exprs :=
    SExpr.total_nodeCount_add_length p.exprs
  have hshare : SExpr.nodeCounts p.exprs = Node.total (p.tokens.map Token.share) :=
    SExpr.nodeCounts_eq h hend
  rw [Token.total_share] at hshare
  rw [Node.length_preorder, hcount]
  omega

/-- The tokens of a program fix how many nodes it has: four for each atom and five for each list,
less the sequence nodes its s-expressions do without, and the program.  The items of each of its
lists hang on a chain of as many sequence nodes.  If no token has a line break, the lines of the
dump are those of the nodes, and an empty one ends it. -/
theorem derivation_size_fixed {ts : List Token} {p : Program}
    (hend : ∀ t ∈ ts, t.kind ≠ .endMark) (hp : parse ts = .ok p) :
    (((Node.program p).preorder 0).length : Int) =
        1 + 4 * ts.countP (·.kind.isAtom) + 5 * ts.countP (·.isLiteral "(") - p.size ∧
      (∀ depth o xs c, (depth, .list o xs c) ∈ (Node.program p).preorder 0 →
        ∃ chain, chain.length = xs.length ∧
          Node.HangsOn ((Node.program p).preorder 0) depth o xs c chain) ∧
      ((∀ t ∈ ts, '\n' ∉ t.text.toList) →
        (Node.program p).dump.toList.splitOn '\n' =
          ((Node.program p).preorder 0).map (fun entry =>
            (Node.lineStart entry.1 entry.2.tag ++ entry.2.text).toList) ++ [[]]) := by
  obtain ⟨hshaped, rfl⟩ := (Parser.parse_eq_ok_of_no_endMark hend p).1 hp
  refine ⟨?_, ?_, Node.splitOn_dump (n := .program p)⟩
  · have hsize := p.length_preorder_add_size hshaped hend
    omega
  · intro depth o xs c hlist
    refine ⟨SExpr.chain xs, ?_, Node.hangsOn_chain (Node.preorder_below hlist)⟩
    have hheads := congrArg List.length (SExpr.heads_chain xs)
    rwa [List.length_map] at hheads

/-- The tokens of `(a (b) ())`: two atoms, three lists and one s-expression at top level give
twenty-three nodes, and the outer list a chain of three. -/
theorem derivation_size_fixed_of_nested :
    let o (i : Nat) : Token := ⟨.literal, "(", ⟨i, i + 1⟩⟩
    let c (i : Nat) : Token := ⟨.literal, ")", ⟨i, i + 1⟩⟩
    let x (i : Nat) (name : String) : Token := ⟨.id, name, ⟨i, i + 1⟩⟩
    let ts := [o 0, x 1 "a", o 3, x 4 "b", c 5, o 7, c 8, c 9]
    ∃ p, parse ts = .ok p ∧ ((Node.program p).preorder 0).length = 23 ∧
      ((Node.program p).dump.toList.splitOn '\n').length = 24 ∧
      ∃ xs chain, (2, .list (o 0) xs (c 9)) ∈ (Node.program p).preorder 0 ∧ chain.length = 3 ∧
        Node.HangsOn ((Node.program p).preorder 0) 2 (o 0) xs (c 9) chain := by
  intro o c x ts
  let xs : List SExpr :=
    [.atom (x 1 "a"), .list (o 3) [.atom (x 4 "b")] (c 5), .list (o 7) [] (c 8)]
  let p : Program := ⟨[.list (o 0) xs (c 9)]⟩
  have hp : parse ts = .ok p := by decide +kernel
  obtain ⟨hsize, hchain, hlines⟩ := derivation_size_fixed (by decide) hp
  have hsize : ((Node.program p).preorder 0).length = 23 := by
    have hcount : 1 + 4 * ts.countP (·.kind.isAtom) + 5 * ts.countP (·.isLiteral "(") = 24 := by
      decide
    have htop : p.size = 1 := rfl
    omega
  have hlist : (2, Node.list (o 0) xs (c 9)) ∈ (Node.program p).preorder 0 := by decide +kernel
  obtain ⟨chain, hlength, hhangs⟩ := hchain 2 (o 0) xs (c 9) hlist
  refine ⟨p, hp, hsize, ?_, xs, chain, hlist, hlength, hhangs⟩
  rw [hlines (by decide), List.length_append, List.length_map, hsize]
  rfl

end Sexpr
