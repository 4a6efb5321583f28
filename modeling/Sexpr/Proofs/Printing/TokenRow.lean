/-
Printing tokens in a row.

A list of tokens may be printed without being read, so its parentheses need not
match.  To a printer it is a row of atoms, whatever the kinds.  Both printers put
the same gap between all neighbours, a space or a blank line, and the width has no
say in it.  So what they write is one of the texts that the lexer reads back.
-/
import Sexpr.Proofs.Lexing.Spacing
import Sexpr.Proofs.Printing.Paragraphs
import Sexpr.Proofs.Printing.Pretty

namespace Sexpr

theorem SExpr.printAll_atoms {m : Type → Type} [Monad m] (p : Printer m) (ts : List Token) :
    SExpr.printAll p (ts.map SExpr.atom) = Printable.print p ts := by
  induction ts with
  | nil => rfl
  | cons t ts ih =>
      show (do p.token t; SExpr.printAll p (ts.map SExpr.atom)) = _
      rw [ih]
      rfl

theorem SExpr.inlineAll_atoms (ts : List Token) :
    SExpr.inlineAll (ts.map SExpr.atom) = ts.map Token.text := by
  rw [inlineAll_eq_map, List.map_map]
  rfl

theorem SExpr.docs_atoms (ts : List Token) :
    SExpr.docs (ts.map SExpr.atom) = ts.map fun t => Doc.ofText t.text := by
  rw [docs_eq_map, List.map_map]
  rfl

/-- To a printer a row of tokens is a program of atoms. -/
theorem print_tokens {m : Type → Type} [Monad m] (p : Printer m) (ts : List Token) :
    Printable.print p ts = Printable.print p (Program.mk (ts.map SExpr.atom)) :=
  (SExpr.printAll_atoms p ts).symm

theorem oneLine_tokens (ts : List Token) : oneLine ts = " ".intercalate (ts.map Token.text) := by
  rw [oneLine, print_tokens, ← oneLine, oneLine_program, SExpr.inlineAll_atoms]

theorem pretty_tokens (width : Nat) (ts : List Token) :
    pretty width ts = "\n\n".intercalate (ts.map Token.text) := by
  have htexts : (ts.map fun t => Doc.ofText t.text).map (Doc.render width) = ts.map Token.text := by
    rw [List.map_map]
    exact List.map_congr_left fun t _ => Doc.render_ofText width t.text
  rw [pretty, print_tokens, ← pretty, pretty_program, SExpr.docs_atoms,
    Doc.render_intersperse_lines, htexts]

/-- Tokens joined by a gap are read back. -/
theorem tokenize_joined {gap : String} (hblank : Blank gap) (hne : gap ≠ "") {ts : List Token}
    (h : ∀ t ∈ ts, t.Lexed) : ∃ us, tokenize (gap.intercalate (ts.map Token.text)) = .ok us ∧
      us.map Token.label = ts.map Token.label := by
  have hspells : Spells (spaced (joined gap ts) "").toList ((joined gap ts).map (·.2)) := by
    refine (legal_joined hblank hne ts).spells ?_
    intro p hp
    refine h p.2 ?_
    rw [← map_joined gap ts]
    exact List.mem_map_of_mem hp
  rw [map_joined, spaced_joined] at hspells
  exact hspells.tokenize

/-- Tokens that are each a whole text of their own are read back from every text that
spaces them legally.  All tokens that were read are such, so they are read back from
what both printers write of them, at every width. -/
theorem tokenize_undoes_spacing :
    (∀ (row : List (String × Token)) (last : String), LegalSpacing row last →
      (∀ p ∈ row, p.2.Lexable) →
        ∃ ts, tokenize (spaced row last) = .ok ts ∧
          ts.map Token.label = row.map fun p => p.2.label) ∧
    (∀ (source : String) (ts : List Token), tokenize source = .ok ts →
      (∀ t ∈ ts, t.Lexable) ∧
      (∃ us, tokenize (oneLine ts) = .ok us ∧ us.map Token.label = ts.map Token.label) ∧
      ∀ width, ∃ us, tokenize (pretty width ts) = .ok us ∧
        us.map Token.label = ts.map Token.label) := by
  constructor
  · intro row last hlegal hrow
    have hspells := hlegal.spells fun p hp => Token.lexable_iff_lexed.1 (hrow p hp)
    obtain ⟨ts, hts, hlabels⟩ := hspells.tokenize
    refine ⟨ts, hts, ?_⟩
    rw [hlabels, List.map_map]
    rfl
  · intro source ts h
    have hlexed : ∀ t ∈ ts, t.Lexed := fun t ht => Token.lexed_of_tokenize h ht
    refine ⟨fun t ht => Token.lexable_iff_lexed.2 (hlexed t ht), ?_, ?_⟩
    · rw [oneLine_tokens]
      exact tokenize_joined (by decide) (by decide) hlexed
    · intro width
      rw [pretty_tokens]
      exact tokenize_joined (by decide) (by decide) hlexed

end Sexpr
