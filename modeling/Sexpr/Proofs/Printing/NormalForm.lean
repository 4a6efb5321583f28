/-
Formatting computes a normal form.

A printer is told nothing of places unless it asks a token for its own, and
neither of these two does.  So programs that differ in places only are written
alike, and reading back what was written changes nothing but places: whatever was
done to the layout of a source by formatting it leaves no trace in the next
formatting, at any width.
-/
import Sexpr.Proofs.Printing.RoundTrip

namespace Sexpr

/-- Whether a printer does without the places of tokens. -/
def Printer.Placeless {m : Type → Type} (p : Printer m) : Prop :=
  ∀ t : Token, p.token t.unplaced = p.token t

namespace SExpr

variable {m : Type → Type} [Monad m] {p : Printer m} {f : Token → Token}

mutual
theorem print_mapTokens (hf : ∀ t, p.token (f t) = p.token t) (x : SExpr) :
    print p (x.mapTokens f) = print p x := by
  cases x with
  | atom t => exact hf t
  | list o xs c => rw [mapTokens, print, print, printAll_mapAll hf xs]

theorem printAll_mapAll (hf : ∀ t, p.token (f t) = p.token t) (xs : List SExpr) :
    printAll p (mapAll f xs) = printAll p xs := by
  cases xs with
  | nil => rfl
  | cons x xs => rw [mapAll, printAll, printAll, print_mapTokens hf x, printAll_mapAll hf xs]
end

end SExpr

namespace Program

variable {p q : Program} {source : String}

/-- Printers that do not ask a token for its place are told the same of programs that differ
in places only. -/
theorem print_of_unplaced {m : Type → Type} [Monad m] {P : Printer m} (hP : P.Placeless)
    (h : q.unplaced = p.unplaced) : Printable.print P q = Printable.print P p := by
  have hprint (r : Program) : Printable.print P r.unplaced = Printable.print P r :=
    SExpr.printAll_mapAll hP r.exprs
  rw [← hprint q, h, hprint p]

theorem pretty_of_unplaced (h : q.unplaced = p.unplaced) (width : Nat) :
    pretty width q = pretty width p := by
  have hplaceless : Pretty.printer.Placeless := fun _ => rfl
  rw [pretty, print_of_unplaced hplaceless h, ← pretty]

theorem oneLine_of_unplaced (h : q.unplaced = p.unplaced) : oneLine q = oneLine p := by
  have hplaceless : OneLine.printer.Placeless := fun _ => rfl
  rw [oneLine, print_of_unplaced hplaceless h, ← oneLine]

/-! ## Texts of one program -/

theorem RestoredBy.pretty_eq (h : p.RestoredBy source) (width : Nat) :
    ∃ q, ofSource source = .ok q ∧ pretty width q = pretty width p := by
  obtain ⟨⟨q, hq, hplaced⟩, -⟩ := h
  exact ⟨q, hq, pretty_of_unplaced hplaced width⟩

theorem restoredBy_of_ofSource (h : ofSource source = .ok p) : p.RestoredBy source := by
  have hts := (ofSource_eq_ok_iff_tokens.1 h).2
  exact ⟨⟨p, h, rfl⟩, p.tokens, hts, rfl⟩

/-- The formatted text of a program ends in a line break of its own. -/
theorem restoredBy_formatted (h : ofSource source = .ok p) (width : Nat) :
    p.RestoredBy (pretty width p ++ "\n") := by
  obtain ⟨hp, hlexed⟩ := shaped_of_ofSource h
  have hbreak : Gap ['\n'] := Doc.gap_of_line (.inr ⟨0, rfl⟩)
  have hspells := (spells_pretty hp hlexed width).append (Spells.gap hbreak) hbreak.boundary_left
  rw [List.append_nil] at hspells
  refine restoredBy_of_spells hp ?_
  rw [String.toList_append]
  exact hspells

end Program
end Sexpr
