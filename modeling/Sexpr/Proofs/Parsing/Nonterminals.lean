/-
What each nonterminal consumes.

A nonterminal hands its tokens on as a node of the derivation.  The node holds the tokens
that were consumed and no others, so what is known of the runs of the grammar carries over
to all of them alike.  Only the atom fails with a wish of its own: asked for directly, it
wants an atom where all others want a parenthesis.
-/
import Sexpr.Parser.Nonterminal
import Sexpr.Proofs.Parsing.Consumption

namespace Sexpr

@[simp]
theorem SExpr.tokens_production (x : SExpr) : x.production.tokens = x.tokens := by
  cases x <;> rfl

namespace Parser

variable {α β : Type}

theorem map_apply (f : α → β) (p : Parser α) (c : Cursor) :
    (f <$> p) c = ((p c).1.map f, (p c).2) := by
  show (p >>= fun a => pure (f a)) c = _
  match h : p c with
  | (.ok a, d) => rw [bind_ok h]; rfl
  | (.error e, d) => rw [bind_error h]; rfl

theorem program_apply (c : Cursor) :
    program c = ((exprs c).1.map Program.mk, (exprs c).2) := map_apply Program.mk exprs c

theorem seq_of_ok {c d : Cursor} {x : SExpr} (h : sexpr c = (.ok x, d)) :
    seq c = ((items d).1.map (Sequence.mk x), (items d).2) := by
  rw [seq, bind_ok h]
  exact map_apply (Sequence.mk x) items d

theorem seq_of_error {c d : Cursor} {e : ParseError} (h : sexpr c = (.error e, d)) :
    seq c = (.error e, d) := by
  rw [seq, bind_error h]

theorem Consumes.map {tokens : α → List Token} {tokens' : β → List Token} (f : α → β)
    (hf : ∀ a, tokens' (f a) = tokens a) {c : Cursor} {r : Except ParseError α × Cursor}
    (h : Consumes tokens c r) : Consumes tokens' c (r.1.map f, r.2) := by
  match r, h with
  | (.ok a, d), h =>
      show c.Passes (tokens' (f a)) d
      rw [hf]
      exact h
  | (.error _, _), h => exact h

theorem program_consumes (c : Cursor) : Consumes Program.tokens c (program c) := by
  rw [program_apply]
  exact (consumption.of_exprs c).map Program.mk fun _ => rfl

theorem seq_consumes (c : Cursor) :
    Consumes (fun s => SExpr.tokensOf s.items) c (seq c) := by
  have hhead := consumption.of_sexpr c
  match hx : sexpr c with
  | (.error e, d) =>
      rw [hx] at hhead
      rw [seq_of_error hx]
      exact hhead
  | (.ok x, d) =>
      rw [hx] at hhead
      have hitems : Consumes SExpr.tokensOf c (consed x (items d)) :=
        (consumption.of_items d).consed hhead
      rw [seq_of_ok hx]
      generalize items d = r at hitems ⊢
      rcases r with ⟨result, d'⟩
      cases result <;> exact hitems

end Parser

namespace Nonterminal

/-- What a nonterminal asks for where it fails. -/
def wanted : Nonterminal → String
  | atom => "an atom"
  | program | sexpr | list | seq => "`(`"

/-- What a run of a nonterminal from `c` may do: consume the tokens of its node, or consume
some tokens and report the one after them. -/
def Answers (n : Nonterminal) (c : Cursor) : Except ParseError Node × Cursor → Prop
  | (.ok m, d) => c.Passes m.tokens d
  | (.error e, d) => e = d.unexpected n.wanted ∧ ∃ ts, c.Passes ts d

theorem Answers.of_consumes {n : Nonterminal} {c : Cursor} {r : Except ParseError Node × Cursor}
    (hn : n.wanted = "`(`") (h : Parser.Consumes Node.tokens c r) : n.Answers c r := by
  match r, h with
  | (.ok m, d), h => exact h
  | (.error e, d), h =>
      show e = d.unexpected n.wanted ∧ _
      rw [hn]
      exact h

theorem answers (n : Nonterminal) (c : Cursor) : n.Answers c (n.parser c) := by
  cases n with
  | program =>
      apply Answers.of_consumes rfl
      rw [parser, Parser.map_apply]
      exact (Parser.program_consumes c).map Node.program fun _ => rfl
  | sexpr =>
      apply Answers.of_consumes rfl
      rw [parser, Parser.map_apply]
      exact (Parser.consumption.of_sexpr c).map Node.sexpr fun _ => rfl
  | list =>
      apply Answers.of_consumes rfl
      rw [parser, Parser.map_apply]
      exact (Parser.consumption.of_list c).map SExpr.production SExpr.tokens_production
  | seq =>
      apply Answers.of_consumes rfl
      rw [parser, Parser.map_apply]
      exact (Parser.seq_consumes c).map Node.seq fun _ => rfl
  | atom =>
      rw [parser, Parser.map_apply, Parser.atom_apply]
      by_cases ha : c.peekAtom = true
      · rw [if_pos ha]
        exact Cursor.Passes.advance (Cursor.rest_ne_nil_of_peekAtom ha)
      · rw [if_neg ha]
        exact ⟨rfl, [], .refl c⟩

end Nonterminal
end Sexpr
