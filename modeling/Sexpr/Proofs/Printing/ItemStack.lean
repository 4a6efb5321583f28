/-
The stack of items.

All lists share one stack of documents.  A list remembers how many documents there were when it
was opened, and when it is closed it takes what stands above for its items, after whatever was
printed in between.  What it takes are the documents of its items, one for each, because every
tree leaves the stack as it found it but for one document more.  The documents that were there
before stay where they are all the while, at every point of the walk over the tree.
-/
import Sexpr.Proofs.Printing.Pretty
import Sexpr.Proofs.Printing.Trace

namespace Sexpr

namespace Pretty

theorem items_printAll (xs : List SExpr) :
    ((SExpr.printAll printer xs).run start).2.items = (xs.map SExpr.doc).toArray := by
  rw [run_printAll, SExpr.docs_eq_map]
  exact Array.empty_append

/-! ## On the way through a tree -/

/-- The stack after some calls to the printer. -/
def after (s : Pretty) (calls : List Event) : Pretty := ((calls.forM (Event.tell printer)).run s).2

theorem after_append (s : Pretty) (before behind : List Event) :
    s.after (before ++ behind) = (s.after before).after behind := by
  have hcalls : (before ++ behind).forM (Event.tell printer) =
      (do before.forM (Event.tell printer); behind.forM (Event.tell printer)) := by
    simp only [List.forM_eq_forM, List.forM_append]
  rw [after, hcalls]
  rfl

theorem after_events (s : Pretty) (x : SExpr) : s.after x.events = s.push x.doc := by
  rw [after, ← SExpr.print_eq_forM_events, run_print]

theorem items_prefix_push (s : Pretty) (d : Doc) :
    s.items.toList <+: (s.push d).items.toList := by
  rw [push, Array.toList_push]
  exact List.prefix_append _ _

mutual
/-- Nothing is taken off the stack but what came onto it since the walk over the tree began. -/
theorem items_prefix_after_take (x : SExpr) (s : Pretty) (k : Nat) :
    s.items.toList <+: (s.after (x.events.take k)).items.toList := by
  by_cases hwhole : x.events.length ≤ k
  · rw [List.take_of_length_le hwhole, after_events]
    exact items_prefix_push s x.doc
  cases k with
  | zero => exact List.prefix_rfl
  | succ k =>
      cases x with
      | atom t => exact absurd (Nat.le_add_left 1 k) hwhole
      | list o xs c =>
          -- The list is open and its end still to come, so the walk is among its items.
          have hinside : k ≤ (SExpr.eventsOf xs).length := by
            rw [SExpr.events, List.length_cons, List.length_append, List.length_singleton] at hwhole
            omega
          rw [SExpr.events, List.take_succ_cons, List.take_append_of_le_length hinside]
          exact items_prefix_after_takeAll xs s.openList k

theorem items_prefix_after_takeAll (xs : List SExpr) (s : Pretty) (k : Nat) :
    s.items.toList <+: (s.after ((SExpr.eventsOf xs).take k)).items.toList := by
  cases xs with
  | nil =>
      rw [SExpr.eventsOf, List.take_nil]
      exact List.prefix_rfl
  | cons x xs =>
      rw [SExpr.eventsOf]
      rcases Nat.le_total k x.events.length with hfirst | hrest
      · rw [List.take_append_of_le_length hfirst]
        exact items_prefix_after_take x s k
      · have hpush := items_prefix_push s x.doc
        rw [List.take_append, List.take_of_length_le hrest, after_append, after_events]
        exact hpush.trans (items_prefix_after_takeAll xs (s.push x.doc) (k - x.events.length))
end

end Pretty

/-- Printing a tree pushes one document, whatever the stack holds and whichever lists are open.
The documents that were there before are at the bottom of the stack after any number of the calls
that make up the printing.  The document of an atom is its text, and that of a list is made of the
documents of its items, so it is told from the tree alone.  A program or a sequence leaves one
document per item on an empty stack, in order. -/
theorem item_stack_mirrors_tree :
    (∀ (x : SExpr) (s : Pretty), (Printable.print Pretty.printer x).run s =
      ((), { s with items := s.items.push x.doc })) ∧
    (∀ (x : SExpr) (s : Pretty) (k : Nat),
      s.items.toList <+: (s.after (x.events.take k)).items.toList) ∧
    (∀ t, (SExpr.atom t).doc = Doc.ofText t.text) ∧
    (∀ o xs c, (SExpr.list o xs c).doc =
      Doc.ofText "(" ++ Doc.group (Doc.nest 2 (Doc.intersperse Doc.line (xs.map SExpr.doc))) ++
        Doc.ofText ")") ∧
    (∀ p : Program, ((Printable.print Pretty.printer p).run Pretty.start).2.items =
      (p.exprs.map SExpr.doc).toArray) ∧
    ∀ q : Sequence, ((Printable.print Pretty.printer q).run Pretty.start).2.items =
      (q.items.map SExpr.doc).toArray := by
  refine ⟨Pretty.run_print, Pretty.items_prefix_after_take, fun _ => rfl, ?_,
    fun p => Pretty.items_printAll p.exprs, fun q => Pretty.items_printAll q.items⟩
  intro o xs c
  rw [SExpr.doc, SExpr.docs_eq_map, Doc.parenthesize]

end Sexpr
