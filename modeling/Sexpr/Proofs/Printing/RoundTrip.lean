/-
Printing undoes parsing.

Both printers write a text that spells the tokens of the program they print, at
every width.  Reading that text gives tokens with the same kinds and texts again,
and these are the tokens of one program only.
-/
import Sexpr.Proofs.Parsing.Reading
import Sexpr.Proofs.Printing.Pretty

namespace Sexpr

namespace Program

/-- Whether reading a text gives a program back, up to places, and finds the labels
of its tokens in it. -/
def RestoredBy (p : Program) (source : String) : Prop :=
  (∃ q, ofSource source = .ok q ∧ q.unplaced = p.unplaced) ∧
  ∃ ts, tokenize source = .ok ts ∧ ts.map Token.label = p.tokens.map Token.label

theorem restoredBy_of_spells {p : Program} {source : String} (hp : p.Shaped)
    (h : Spells source.toList p.tokens) : p.RestoredBy source := by
  obtain ⟨ts, hts, hlabels⟩ := h.tokenize
  obtain ⟨q, hq, hplaced⟩ := parse_of_labels hp hlabels (kind_ne_endMark_of_tokenize hts)
  exact ⟨⟨q, ofSource_eq_ok.2 ⟨ts, hts, hq⟩, hplaced⟩, ts, hts, hlabels⟩

theorem spells_oneLine {p : Program} (hp : p.Shaped) (hlexed : ∀ t ∈ p.tokens, t.Lexed) :
    Spells (oneLine p).toList p.tokens := by
  rw [oneLine_program]
  exact SExpr.spells_inlineAll p.exprs hp hlexed

theorem spells_pretty {p : Program} (hp : p.Shaped) (hlexed : ∀ t ∈ p.tokens, t.Lexed)
    (width : Nat) : Spells (pretty width p).toList p.tokens := by
  have hlays := Doc.lays_render width
    (Doc.intersperse (Doc.line ++ Doc.line) (SExpr.docs p.exprs))
  rw [← pretty_program] at hlays
  exact SExpr.spells_intersperse p.exprs hp hlexed @Doc.gap_of_lines hlays

end Program

/-- A program of the grammar made of tokens of the lexer is given back by the texts
both printers write, at every width.  All programs that were read are such. -/
theorem printers_restore (p : Program) :
    ((∃ source, Program.ofSource source = .ok p) → p.Shaped ∧ ∀ t ∈ p.tokens, t.Lexed) ∧
    (p.Shaped → (∀ t ∈ p.tokens, t.Lexed) →
      p.RestoredBy (oneLine p) ∧ ∀ width, p.RestoredBy (pretty width p)) := by
  constructor
  · rintro ⟨source, h⟩
    exact Program.shaped_of_ofSource h
  · intro hp hlexed
    constructor
    · exact Program.restoredBy_of_spells hp (Program.spells_oneLine hp hlexed)
    · intro width
      exact Program.restoredBy_of_spells hp (Program.spells_pretty hp hlexed width)

end Sexpr
