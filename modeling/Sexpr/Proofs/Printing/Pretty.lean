/-
What the pretty printer writes.

The printer's stack of items mirrors the tree, so the document it makes can be
told from the tree alone.  Every layout of that document spells the tokens of the
tree: neighbours are kept apart by at least one blank character, and parentheses
need no space.
-/
import Sexpr.Layout.Pretty
import Sexpr.Proofs.Printing.Layout
import Sexpr.Proofs.Printing.OneLine

namespace Sexpr

namespace SExpr

mutual
/-- The document of a tree. -/
def doc : SExpr → Doc
  | atom t => Doc.ofText t.text
  | list _ items _ => Doc.parenthesize (docs items)

def docs : List SExpr → List Doc
  | [] => []
  | x :: xs => doc x :: docs xs
end

theorem docs_eq_map (xs : List SExpr) : docs xs = xs.map doc := by
  induction xs with
  | nil => rfl
  | cons x xs ih => rw [docs, ih, List.map_cons]

end SExpr

namespace Pretty

/-- The stack after some items have been pushed, the last one on top. -/
def pushAll (ds : List Doc) (s : Pretty) : Pretty := { s with items := s.items ++ ds.toArray }

theorem pushAll_cons (d : Doc) (ds : List Doc) (s : Pretty) :
    (s.push d).pushAll ds = s.pushAll (d :: ds) := by
  simp only [pushAll, push, List.push_append_toArray]

/-- Closing a list undoes opening it, but for one item more.  The position noted when the list
was opened parts what stood on the stack before from the items of the list. -/
theorem closeList_pushAll (ds : List Doc) (s : Pretty) :
    (s.openList.pushAll ds).closeList = s.push (Doc.parenthesize ds) := by
  have hbelow : (s.items ++ ds.toArray).shrink s.items.size = s.items := by simp
  have habove : ((s.items ++ ds.toArray).drop s.items.size).toList = ds := by simp
  simp only [pushAll, openList, closeList, push, List.headD_cons, List.tail_cons, hbelow, habove]

mutual
theorem run_print (x : SExpr) (s : Pretty) :
    (SExpr.print printer x).run s = ((), s.push x.doc) := by
  cases x with
  | atom t => rfl
  | list o xs c =>
      have hinner := run_printAll xs s.openList
      have hrun : (SExpr.print printer (.list o xs c)).run s =
          ((), ((SExpr.printAll printer xs).run s.openList).2.closeList) := rfl
      rw [hrun, hinner, closeList_pushAll, SExpr.doc]

theorem run_printAll (xs : List SExpr) (s : Pretty) :
    (SExpr.printAll printer xs).run s = ((), s.pushAll (SExpr.docs xs)) := by
  cases xs with
  | nil => rfl
  | cons x xs =>
      have hrun : (SExpr.printAll printer (x :: xs)).run s =
          (SExpr.printAll printer xs).run ((SExpr.print printer x).run s).2 := rfl
      rw [hrun, run_print x s, run_printAll xs, pushAll_cons, SExpr.docs]
end

end Pretty

theorem pretty_program (width : Nat) (p : Program) :
    pretty width p =
      (Doc.intersperse (Doc.line ++ Doc.line) (SExpr.docs p.exprs)).render width := by
  show (((SExpr.printAll Pretty.printer p.exprs).run Pretty.start).2.document).render width = _
  rw [Pretty.run_printAll, Pretty.document, Pretty.pushAll, Pretty.start, Array.empty_append]

/-! ## What the layouts spell -/

namespace Doc

theorem gap_of_line {s : List Char} (h : line.Lays s) : Gap s := by
  rcases h with rfl | ⟨indent, rfl⟩
  · exact gap_space
  · refine ⟨List.cons_ne_nil _ _, ?_⟩
    intro c hc
    rcases List.mem_cons.1 hc with rfl | hc
    · decide
    · rw [List.eq_of_mem_replicate hc]
      decide

theorem gap_of_lines {s : List Char} (h : (line ++ line).Lays s) : Gap s := by
  obtain ⟨u, v, rfl, hu, hv⟩ := lays_append.1 h
  obtain ⟨hne, hu⟩ := gap_of_line hu
  obtain ⟨-, hv⟩ := gap_of_line hv
  refine ⟨List.append_ne_nil_of_left_ne_nil hne v, ?_⟩
  intro c hc
  rcases List.mem_append.1 hc with hc | hc
  · exact hu c hc
  · exact hv c hc

end Doc

namespace SExpr

open Doc in
mutual
theorem spells_doc (x : SExpr) (hx : x.Shaped) (hlexed : ∀ t ∈ x.tokens, t.Lexed)
    {s : List Char} (hs : x.doc.Lays s) : Spells s x.tokens := by
  cases x with
  | atom t =>
      rw [lays_ofText.1 hs]
      exact (hlexed t List.mem_cons_self).spells
  | list o xs c =>
      obtain ⟨ho, hxs, hc⟩ := hx
      rw [tokens_list] at hlexed
      have hopen := (hlexed o (by simp)).spells_of_text (c := '(') ho.2
      have hclose := (hlexed c (by simp)).spells_of_text (c := ')') hc.2
      obtain ⟨u, hu, rfl⟩ := lays_parenthesize.1 hs
      have hitems := spells_intersperse xs hxs (fun t ht => hlexed t (by simp [ht])) @gap_of_line hu
      exact Spells.parenthesized hopen hclose hitems

theorem spells_intersperse (xs : List SExpr) (hxs : AllShaped xs)
    (hlexed : ∀ t ∈ tokensOf xs, t.Lexed) {separator : Doc}
    (hsep : ∀ {s}, separator.Lays s → Gap s) {s : List Char}
    (hs : (intersperse separator (docs xs)).Lays s) : Spells s (tokensOf xs) := by
  cases xs with
  | nil =>
      obtain rfl := hs
      exact Spells.nil
  | cons x xs =>
      have hhead : ∀ s, x.doc.Lays s → Spells s x.tokens := by
        intro s hs
        exact spells_doc x hxs.1 (fun t ht => hlexed t (by simp [ht])) hs
      exact spells_docs xs hxs.2 (fun t ht => hlexed t (by simp [ht])) hsep hhead hs

/-- What has been laid out, and then more items, each after a separator. -/
theorem spells_docs (xs : List SExpr) (hxs : AllShaped xs) (hlexed : ∀ t ∈ tokensOf xs, t.Lexed)
    {separator acc : Doc} (hsep : ∀ {s}, separator.Lays s → Gap s) {ts : List Token}
    (hacc : ∀ s, acc.Lays s → Spells s ts) {s : List Char}
    (hs : ((docs xs).foldl (fun acc e => acc ++ separator ++ e) acc).Lays s) :
    Spells s (ts ++ tokensOf xs) := by
  -- The documents are joined from the left, so what is carried along is a text in front.
  cases xs with
  | nil =>
      rw [tokensOf_nil, List.append_nil]
      exact hacc s hs
  | cons x xs =>
      rw [tokensOf_cons, ← List.append_assoc]
      refine spells_docs xs hxs.2 (fun t ht => hlexed t (by simp [ht])) hsep ?_ hs
      intro s hs
      obtain ⟨_, v, rfl, h, hv⟩ := lays_append.1 hs
      obtain ⟨u, g, rfl, hu, hg⟩ := lays_append.1 h
      have hx := spells_doc x hxs.1 (fun t ht => hlexed t (by simp [ht])) hv
      exact (hacc u hu).separated (hsep hg) hx
end

end SExpr
end Sexpr
