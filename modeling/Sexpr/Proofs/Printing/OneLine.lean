/-
What the one-line printer writes.

The printer only remembers whether a space has to come before the next item.
What it writes can be told from the tree alone: the items of a list, joined by
single spaces, between parentheses.  That text spells the tokens of the tree.
-/
import Sexpr.Printer.OneLine
import Sexpr.Proofs.Lexing.Spelling

namespace Sexpr

namespace SExpr

mutual
/-- The text of a tree on one line. -/
def inline : SExpr → String
  | atom t => t.text
  | list _ items _ => "(" ++ " ".intercalate (inlineAll items) ++ ")"

def inlineAll : List SExpr → List String
  | [] => []
  | x :: xs => inline x :: inlineAll xs
end

theorem inlineAll_eq_map (xs : List SExpr) : inlineAll xs = xs.map inline := by
  induction xs with
  | nil => rfl
  | cons x xs ih => rw [inlineAll, ih, List.map_cons]

end SExpr

namespace OneLine

/-- The line after some items have been written to it. -/
def write (s : OneLine) : List String → OneLine
  | [] => s
  | item :: items =>
    { text := s.separate.text ++ " ".intercalate (item :: items), needsSpace := true }

/-- Items may be written one at a time. -/
theorem write_cons (s : OneLine) (item : String) (items : List String) :
    (s.write [item]).write items = s.write (item :: items) := by
  cases items with
  | nil => rfl
  | cons i is =>
      simp only [write, separate, String.intercalate_singleton, String.intercalate_cons_cons,
        if_true, String.append_assoc]

theorem write_text {s : OneLine} (h : s.needsSpace = false) (items : List String) :
    (s.write items).text = s.text ++ " ".intercalate items := by
  cases items with
  | nil => rw [write, String.intercalate_nil, String.append_empty]
  | cons i is => simp only [write, separate, h, if_false, Bool.false_eq_true]

mutual
theorem run_print (x : SExpr) (s : OneLine) :
    (SExpr.print printer x).run s = ((), s.write [x.inline]) := by
  cases x with
  | atom t =>
      show ((), s.token t) = ((), s.write [t.text])
      rw [token, write, String.intercalate_singleton]
  | list o xs c =>
      have hinner := run_printAll xs s.openList
      have hrun : (SExpr.print printer (.list o xs c)).run s =
          ((), ((SExpr.printAll printer xs).run s.openList).2.closeList) := rfl
      have htext : (s.openList.write (SExpr.inlineAll xs)).text =
          s.separate.text ++ "(" ++ " ".intercalate (SExpr.inlineAll xs) := write_text rfl _
      rw [hrun, hinner, closeList, htext, write, String.intercalate_singleton, SExpr.inline]
      simp only [String.append_assoc]

theorem run_printAll (xs : List SExpr) (s : OneLine) :
    (SExpr.printAll printer xs).run s = ((), s.write (SExpr.inlineAll xs)) := by
  cases xs with
  | nil => rfl
  | cons x xs =>
      have hrun : (SExpr.printAll printer (x :: xs)).run s =
          (SExpr.printAll printer xs).run ((SExpr.print printer x).run s).2 := rfl
      rw [hrun, run_print x s, run_printAll xs, write_cons, SExpr.inlineAll]
end

end OneLine

theorem oneLine_program (p : Program) : oneLine p = " ".intercalate (SExpr.inlineAll p.exprs) := by
  show ((SExpr.printAll OneLine.printer p.exprs).run OneLine.start).2.text = _
  rw [OneLine.run_printAll, OneLine.write_text rfl]
  exact String.empty_append

/-! ## What the line spells -/

theorem gap_space : Gap [' '] := by
  refine ⟨List.cons_ne_nil _ _, ?_⟩
  intro c hc
  rw [List.mem_singleton.1 hc]
  decide

namespace Token

theorem Lexed.spells_of_text {t : Token} (h : t.Lexed) {c : Char}
    (ht : t.text = String.singleton c) : Spells [c] [t] := by
  have hspells := h.spells
  rw [ht, String.toList_singleton] at hspells
  exact hspells

end Token

namespace SExpr

mutual
theorem spells_inline (x : SExpr) (hx : x.Shaped) (hlexed : ∀ t ∈ x.tokens, t.Lexed) :
    Spells x.inline.toList x.tokens := by
  cases x with
  | atom t => exact (hlexed t List.mem_cons_self).spells
  | list o xs c =>
      obtain ⟨ho, hxs, hc⟩ := hx
      rw [tokens_list] at hlexed
      have hopen := (hlexed o (by simp)).spells_of_text (c := '(') ho.2
      have hclose := (hlexed c (by simp)).spells_of_text (c := ')') hc.2
      have hitems := spells_inlineAll xs hxs fun t ht => hlexed t (by simp [ht])
      have hlist := Spells.parenthesized hopen hclose hitems
      rw [inline, String.toList_append, String.toList_append]
      exact hlist

theorem spells_inlineAll (xs : List SExpr) (hxs : AllShaped xs)
    (hlexed : ∀ t ∈ tokensOf xs, t.Lexed) :
    Spells (" ".intercalate (inlineAll xs)).toList (tokensOf xs) := by
  cases xs with
  | nil => exact Spells.nil
  | cons x xs =>
      rw [tokensOf_cons] at hlexed
      have hx := spells_inline x hxs.1 fun t ht => hlexed t (List.mem_append_left _ ht)
      have hrest := spells_inlineAll xs hxs.2 fun t ht => hlexed t (List.mem_append_right _ ht)
      cases xs with
      | nil =>
          rw [inlineAll, inlineAll, String.intercalate_singleton, tokensOf_cons, tokensOf_nil,
            List.append_nil]
          exact hx
      | cons y ys =>
          have hsep := hx.separated gap_space hrest
          rw [inlineAll, inlineAll, String.intercalate_cons_cons, tokensOf_cons,
            String.toList_append, String.toList_append]
          exact hsep
end

end SExpr
end Sexpr
