/-
Steppers do what parsers do.

The steppers of the nonterminals are put together as the procedures over cursors are, and
call one another in the same way.  So with the same bound on the depth of calls they do the
same, token by token: if a procedure has an answer, the stepper has it as well, and stands at
the place where the cursor does.

The procedures have an answer as soon as calls may nest three times as deep as there are
tokens, and that is the answer of the parser.
-/
import Sexpr.Parser.Stepper
import Sexpr.Proofs.Parsing.Procedure

namespace Sexpr
namespace Stepper

open Sexpr.Parser (Recorded)
open Position (Shows)

variable {α β : Type} {s t : Stepper α} {p q : Recorded α} {c : Cursor} {ts : List Token}
  {i : Nat}

theorem runFrom_bind (s : Stepper α) (f : α → Stepper β) (p : Position) :
    (s >>= f).runFrom p = (s.runFrom p).bind fun
      | (.ok a, q) => (f a).runFrom q
      | (.error e, q) => some (.error e, q) := by
  show Option.bind _ _ = Option.bind _ _
  congr 1
  funext r
  rcases r with ⟨_ | _, _⟩ <;> rfl

/-- What asking for a terminal does at a place of a buffer. -/
theorem take_runFrom (terminal : Terminal) (hc : c.At ts i) :
    (take terminal).runFrom ((Buffer.ofTokens ts).position i) =
      some (if terminal.accepts c.token then
        (.ok c.token, (Buffer.ofTokens ts).position (if i = ts.length then i else i + 1))
        else (.error (c.unexpected terminal.name), (Buffer.ofTokens ts).position i)) := by
  show Option.bind (Option.bind _ _) _ = _
  rw [hc.take_position]
  by_cases h : terminal.accepts c.token = true
  · rw [if_pos h, if_pos h]
    rfl
  · rw [if_neg h, if_neg h]
    show Option.bind (Option.bind (Position.unexpected _ _) _) _ = _
    rw [hc.unexpected_position]
    rfl

/-! ## Steppers and procedures -/

/-- Whether `s` does what `p` does, from every place of every buffer: where `p` has an answer
`s` has the same, and it stands then at the place where `p` stands, which is not before the
one it came from. -/
def Simulates (s : Stepper α) (p : Recorded α) : Prop :=
  ∀ c r taken, p c = some (r, taken) → ∀ ts i, c.At ts i →
    ∃ j, i ≤ j ∧ r.2.At ts j ∧
      s.runFrom ((Buffer.ofTokens ts).position i) = some (r.1, (Buffer.ofTokens ts).position j)

namespace Simulates

theorem none (s : Stepper α) : Simulates s fun _ => Option.none := by
  intro c r taken h
  exact nomatch h

theorem pure (a : α) : Simulates (Pure.pure a) (Pure.pure a) := by
  intro c r taken h ts i hc
  obtain ⟨rfl, -⟩ := Prod.mk.inj (Option.some.inj h)
  exact ⟨i, Nat.le_refl i, hc, rfl⟩

theorem bind {f : α → Stepper β} {g : α → Recorded β} (hs : Simulates s p)
    (hf : ∀ a, Simulates (f a) (g a)) : Simulates (s >>= f) (p >>= g) := by
  intro c r taken h ts i hc
  rw [Parser.Recorded.bind_apply] at h
  match hp : p c, h with
  | some ((.error e, d), us), h =>
      obtain ⟨rfl, -⟩ := Prod.mk.inj (Option.some.inj h)
      obtain ⟨j, hij, hd, hrun⟩ := hs c _ us hp ts i hc
      refine ⟨j, hij, hd, ?_⟩
      rw [runFrom_bind, hrun]
      rfl
  | some ((.ok a, d), us), h =>
      obtain ⟨⟨r', vs⟩, hg, hr⟩ := Option.map_eq_some_iff.1 h
      obtain ⟨rfl, -⟩ := Prod.mk.inj hr
      obtain ⟨j, hij, hd, hsrun⟩ := hs c _ us hp ts i hc
      obtain ⟨k, hjk, hr, hfrun⟩ := hf a d _ vs hg ts j hd
      refine ⟨k, Nat.le_trans hij hjk, hr, ?_⟩
      rw [runFrom_bind, hsrun]
      exact hfrun

theorem map (f : α → β) (hs : Simulates s p) : Simulates (f <$> s) (f <$> p) :=
  hs.bind fun a => .pure (f a)

/-- Both go on in one of two ways, by what they see. -/
theorem choose {question : Position → Option Bool} {test : Cursor → Bool}
    (hq : Shows question test) (hs : Simulates s p) (ht : Simulates t q) :
    Simulates (do if ← look question then s else t) (Parser.Recorded.choose test p q) := by
  intro c r taken h ts i hc
  have hlook : (look question).runFrom ((Buffer.ofTokens ts).position i) =
      some (.ok (test c), (Buffer.ofTokens ts).position i) := by
    show (question _).bind _ = _
    rw [hq c ts i hc]
    rfl
  rw [runFrom_bind, hlook]
  unfold Parser.Recorded.choose at h
  by_cases htest : test c = true
  · rw [htest] at h ⊢
    exact hs c r taken h ts i hc
  · rw [Bool.not_eq_true] at htest
    rw [htest] at h ⊢
    exact ht c r taken h ts i hc

/-- A stepper and a parser that take the same terminal. -/
theorem take {terminal : Terminal} {p : Parser Token}
    (hp : ∀ c, p c = if terminal.accepts c.token then (.ok c.token, c.advance)
      else (.error (c.unexpected terminal.name), c)) :
    Simulates (Stepper.take terminal) (Parser.Recorded.take p) := by
  intro c r taken h ts i hc
  have hr : p c = r := by
    unfold Parser.Recorded.take at h
    split at h
    · rename_i hp
      rw [hp, (Prod.mk.inj (Option.some.inj h)).1]
    · rename_i hp
      rw [hp, (Prod.mk.inj (Option.some.inj h)).1]
  rw [take_runFrom terminal hc, ← hr, hp c]
  by_cases h : terminal.accepts c.token = true
  · rw [if_pos h, if_pos h]
    exact ⟨_, Position.le_next _ _, hc.advance, rfl⟩
  · rw [if_neg h, if_neg h]
    exact ⟨i, Nat.le_refl i, hc, rfl⟩

theorem literal (text : String) :
    Simulates (Stepper.take (.literal text)) (Parser.Recorded.take (Parser.literal text)) := by
  apply take
  intro c
  simp only [Terminal.accepts, beq_iff_eq]
  exact Parser.literal_apply text c

theorem atom : Simulates (Stepper.take .atom) (Parser.Recorded.take Parser.atom) :=
  take Parser.atom_apply

end Simulates
end Stepper

namespace Steppers

open Sexpr.Parser (Procedures)
open Sexpr.Stepper.Simulates (literal)
open Position

/-- Whether all steppers do what the procedures do. -/
structure Simulates (s : Steppers) (p : Procedures) : Prop where
  program : Stepper.Simulates s.program p.program
  sexpr : Stepper.Simulates s.sexpr p.sexpr
  list : Stepper.Simulates s.list p.list
  seq : Stepper.Simulates s.seq p.seq
  atom : Stepper.Simulates s.atom p.atom

theorem Simulates.body {s : Steppers} {p : Procedures} (h : Simulates s p) :
    Simulates s.body p.body where
  program := .choose shows_isEnd (.pure _)
    (h.sexpr.bind fun x => h.program.bind fun p => .pure (Program.mk (x :: p.exprs)))
  sexpr := .choose shows_peekAtom (h.atom.map SExpr.atom) h.list
  list := (literal "(").bind fun opening => .choose (shows_peekLiteral _)
    ((literal ")").bind fun closing => .pure (SExpr.list opening [] closing))
    ((h.seq.map Sequence.items).bind fun items =>
      (literal ")").bind fun closing => .pure (SExpr.list opening items closing))
  seq := h.sexpr.bind fun head => .choose (shows_peekLiteral _) (.pure _)
    ((h.seq.map Sequence.items).bind fun tail => .pure (Sequence.mk head tail))
  atom := .atom

theorem simulates_nested (depth : Nat) :
    Simulates (Steppers.nested depth) (Procedures.nested depth) := by
  induction depth with
  | zero => exact ⟨.none _, .none _, .none _, .none _, .none _⟩
  | succ depth ih => exact ih.body

theorem Simulates.node {s : Steppers} {p : Procedures} (h : Simulates s p) (n : Nonterminal) :
    Stepper.Simulates (s.node n) (p.node n) := by
  cases n with
  | program => exact h.program.map Node.program
  | sexpr => exact h.sexpr.map Node.sexpr
  | list => exact h.list.map SExpr.production
  | seq => exact h.seq.map Node.seq
  | atom => exact h.atom.map Node.atom

variable {depth : Nat} {ts : List Token}

/-- From a place of a buffer a stepper always comes to an answer, that of the parser, if calls
may nest three times as deep as there are tokens, the end marker included. -/
theorem node_runFrom (n : Nonterminal) {c : Cursor} {i : Nat} (hc : c.At ts i) :
    ∃ j, i ≤ j ∧ (n.parser c).2.At ts j ∧ ∀ depth, 3 * (ts.length + 1) ≤ depth →
      ((nested depth).node n).runFrom ((Buffer.ofTokens ts).position i) =
        some ((n.parser c).1, (Buffer.ofTokens ts).position j) := by
  obtain ⟨taken, hpass, -, hrun⟩ := n.finishes c
  have hd := hc.passes hpass
  have := hd.le_length
  refine ⟨i + taken.length, Nat.le_add_right _ _, hd, ?_⟩
  intro depth hdepth
  obtain ⟨j, -, hj, hsteps⟩ :=
    (simulates_nested depth).node n c _ taken (hrun depth (by omega)) ts i hc
  rw [hj.unique hd] at hsteps
  exact hsteps

/-- Reading a buffer by its indices comes to what the parser comes to. -/
theorem parse_nested (hdepth : 3 * (ts.length + 1) ≤ depth) :
    (nested depth).parse ts = some (Sexpr.parse ts) := by
  obtain ⟨taken, hpass, -, hrun⟩ := Parser.program_finishes (Cursor.ofTokens ts)
  have := ((Cursor.At.start ts).passes hpass).le_length
  obtain ⟨j, -, -, hsteps⟩ := (simulates_nested depth).program _ _ taken
    (hrun depth (by omega)) ts 0 (.start ts)
  show Option.map _ ((nested depth).program.runFrom _) = _
  rw [Buffer.start, hsteps]
  rfl

end Steppers
end Sexpr
