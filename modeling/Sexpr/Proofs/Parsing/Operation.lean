/-
Parsers driven from outside.

Whoever holds a parser may ask it for anything in any order, and go on after a failure.  The
index is then always one of the buffer, so there is a current token, and it never goes back.

A caller may also bring a function of its own for the parser to go by.  Such a function has
positions to work with, which it may keep and come back to, and no other way to get a new one
than taking a terminal.  So all the positions it ever has are inside the buffer and not
before the one it began with, and it is enough that one more step leads to another such.
-/
import Sexpr.Proofs.Parsing.Stepping

namespace Sexpr

namespace Position

/-- Whether `p` is a position in the buffer of `ts`, at place `i` or behind it.  The end
marker, at place `ts.length`, is the last. -/
structure Within (ts : List Token) (i : Nat) (p : Position) : Prop where
  tokens : p.tokens = (Buffer.ofTokens ts).tokens
  le_index : i ≤ p.index
  index_le : p.index ≤ ts.length

namespace Within

variable {ts : List Token} {i j : Nat} {p q : Position}

theorem start (ts : List Token) : Within ts 0 (Buffer.ofTokens ts).start :=
  ⟨rfl, Nat.le_refl 0, Nat.zero_le _⟩

theorem refl (h : Within ts i p) : Within ts p.index p := ⟨h.tokens, Nat.le_refl _, h.index_le⟩

theorem weaken (h : Within ts j p) (hij : i ≤ j) : Within ts i p :=
  ⟨h.tokens, Nat.le_trans hij h.le_index, h.index_le⟩

theorem eq_position (h : Within ts i p) : p = (Buffer.ofTokens ts).position p.index := by
  obtain ⟨tokens, index⟩ := p
  obtain rfl := h.tokens
  rfl

/-- At every position of a buffer there stands a cursor. -/
theorem exists_cursor (h : Within ts i p) : ∃ c : Cursor, c.At ts p.index :=
  ⟨_, .of_le h.index_le⟩

theorem token (h : Within ts i p) : ∃ t, p.token = some t := by
  obtain ⟨c, hc⟩ := h.exists_cursor
  rw [h.eq_position]
  exact ⟨_, hc.token_position⟩

theorem take (h : Within ts i p) (terminal : Terminal) :
    ∃ r, p.take terminal = some r ∧ ∀ t q, r = some (t, q) → Within ts i q := by
  obtain ⟨c, hc⟩ := h.exists_cursor
  rw [h.eq_position, hc.take_position]
  refine ⟨_, rfl, ?_⟩
  intro t q hq
  split at hq
  · obtain ⟨-, rfl⟩ := Prod.mk.inj (Option.some.inj hq)
    exact ⟨rfl, Nat.le_trans h.le_index (Position.le_next _ _), hc.advance.le_length⟩
  · exact nomatch hq

end Within
end Position

open Position

/-- What a caller can do with positions.  It has `held` of them, the first it began with, and
may look at the token of any, and take a terminal from any, which gives it the position
behind in addition.  It ends with an answer and one of its positions, or with an error. -/
inductive Walk (α : Type) : Nat → Type where
  | answer {held : Nat} (a : α) (place : Fin held) : Walk α held
  | giveUp {held : Nat} (e : ParseError) : Walk α held
  | look {held : Nat} (place : Fin held) (next : Token → Walk α held) : Walk α held
  | take {held : Nat} (place : Fin held) (terminal : Terminal)
      (taken : Token → Walk α (held + 1)) (refused : Walk α held) : Walk α held

namespace Walk

variable {α : Type} {held : Nat}

def run {held : Nat} : Walk α held → Vector Position held →
    Option (Except ParseError (α × Position))
  | answer a place, ps => some (.ok (a, ps.get place))
  | giveUp e, _ => some (.error e)
  | look place next, ps => do (next (← (ps.get place).token)).run ps
  | take place terminal taken refused, ps => do
      match ← (ps.get place).take terminal with
      | some (t, p) => (taken t).run (ps.push p)
      | none => refused.run ps

def runFrom (w : Walk α 1) (p : Position) : Option (Except ParseError (α × Position)) :=
  w.run #v[p]

theorem get_push {ps : Vector Position held} {p : Position} {P : Position → Prop}
    (hps : ∀ k, P (ps.get k)) (hp : P p) (k : Fin (held + 1)) : P ((ps.push p).get k) := by
  show P (ps.push p)[k.1]
  rw [Vector.getElem_push]
  split
  · exact hps ⟨k.1, _⟩
  · exact hp

theorem run_within {ts : List Token} {i : Nat} (w : Walk α held) {ps : Vector Position held}
    (hps : ∀ k, Within ts i (ps.get k)) :
    ∃ r, w.run ps = some r ∧ ∀ a q, r = .ok (a, q) → Within ts i q := by
  induction w with
  | answer a place =>
      refine ⟨_, rfl, ?_⟩
      intro b q hq
      obtain ⟨-, rfl⟩ := Prod.mk.inj (Except.ok.inj hq)
      exact hps place
  | giveUp e => exact ⟨_, rfl, nofun⟩
  | look place next ih =>
      obtain ⟨t, ht⟩ := (hps place).token
      obtain ⟨r, hrun, hr⟩ := ih t hps
      refine ⟨r, ?_, hr⟩
      rw [run, ht]
      exact hrun
  | take place terminal taken refused ihTaken ihRefused =>
      obtain ⟨_ | ⟨t, p⟩, htake, hp⟩ := (hps place).take terminal
      · obtain ⟨r, hrun, hr⟩ := ihRefused hps
        refine ⟨r, ?_, hr⟩
        rw [run, htake]
        exact hrun
      · obtain ⟨r, hrun, hr⟩ := ihTaken t (get_push hps (hp t p rfl))
        refine ⟨r, ?_, hr⟩
        rw [run, htake]
        exact hrun

theorem runFrom_within {ts : List Token} {i : Nat} {p : Position} (w : Walk α 1)
    (hp : Within ts i p) :
    ∃ r, w.runFrom p = some r ∧ ∀ a q, r = .ok (a, q) → Within ts p.index q := by
  apply w.run_within
  intro k
  obtain rfl := Subsingleton.elim k 0
  exact hp.refl

end Walk

namespace Stepper

variable {α : Type} {ts : List Token} {i : Nat} {p q : Position}

theorem step_of_error {f : Position → Option (Except ParseError (α × Position))} {e : ParseError}
    (h : (step f).runFrom p = some (.error e, q)) : q = p := by
  change (f p).bind _ = _ at h
  obtain ⟨r, hr, h⟩ := Option.bind_eq_some_iff.1 h
  match r with
  | .ok (a, p') => exact nomatch (Prod.mk.inj (Option.some.inj h)).1
  | .error e' => exact (Prod.mk.inj (Option.some.inj h)).2.symm

/-- Taking a terminal moves on by one, but for the end marker. -/
theorem eq_of_take_ok {terminal : Terminal} {t : Token} (hp : Within ts i p)
    (h : (take terminal).runFrom p = some (.ok t, q)) :
    q = { p with index := if p.index = ts.length then p.index else p.index + 1 } := by
  obtain ⟨c, hc⟩ := hp.exists_cursor
  rw [hp.eq_position, take_runFrom terminal hc] at h
  split at h
  · rw [← (Prod.mk.inj (Option.some.inj h)).2]
    exact congrArg (Position.mk · _) hp.tokens.symm
  · exact nomatch (Prod.mk.inj (Option.some.inj h)).1

/-- Where a stepper stands in the end. -/
def stop (s : Stepper α) (p : Position) : Option Position := (s.runFrom p).map (·.2)

/-- Whether a run of `s` from a position in the buffer of `ts` comes to an answer, at a position
of this buffer that is not before it, as soon as calls may nest deep enough. -/
def StaysWithin (ts : List Token) (s : Nat → Stepper α) : Prop :=
  ∀ i p, Within ts i p → ∃ r q, Within ts p.index q ∧
    ∀ depth, 3 * (ts.length + 1) ≤ depth → (s depth).runFrom p = some (r, q)

namespace StaysWithin

theorem take (terminal : Terminal) : StaysWithin ts fun _ => Stepper.take terminal := by
  intro i p hp
  obtain ⟨c, hc⟩ := hp.exists_cursor
  have hrun := take_runFrom terminal hc
  rw [← hp.eq_position] at hrun
  split at hrun
  · exact ⟨_, _, ⟨rfl, Position.le_next _ _, hc.advance.le_length⟩, fun _ _ => hrun⟩
  · exact ⟨_, _, hp.refl, fun _ _ => hrun⟩

theorem node (n : Nonterminal) : StaysWithin ts fun depth => (Steppers.nested depth).node n := by
  intro i p hp
  obtain ⟨c, hc⟩ := hp.exists_cursor
  obtain ⟨j, hij, hd, hrun⟩ := Steppers.node_runFrom n hc
  rw [← hp.eq_position] at hrun
  exact ⟨_, _, ⟨rfl, hij, hd.le_length⟩, hrun⟩

theorem look {question : Position → Option α}
    (h : ∀ i p, Within ts i p → ∃ a, question p = some a) :
    StaysWithin ts fun _ => Stepper.look question := by
  intro i p hp
  obtain ⟨a, ha⟩ := h i p hp
  refine ⟨.ok a, p, hp.refl, fun _ _ => ?_⟩
  show (question p).bind _ = _
  rw [ha]
  rfl

theorem of_token (question : Token → α) :
    StaysWithin ts fun _ => Stepper.look fun p => p.token.map question := by
  apply look
  intro i p hp
  obtain ⟨t, ht⟩ := hp.token
  exact ⟨question t, by rw [ht, Option.map_some]⟩

theorem unexpected (expected : String) :
    StaysWithin ts fun _ => Stepper.look (·.unexpected expected) := by
  apply look
  intro i p hp
  obtain ⟨c, hc⟩ := hp.exists_cursor
  rw [hp.eq_position]
  exact ⟨_, hc.unexpected_position expected⟩

theorem peek (w : Walk α 1) : StaysWithin ts fun _ => Stepper.look w.runFrom := by
  apply look
  intro i p hp
  obtain ⟨r, hrun, -⟩ := w.runFrom_within hp
  exact ⟨r, hrun⟩

theorem step (w : Walk α 1) : StaysWithin ts fun _ => Stepper.step w.runFrom := by
  intro i p hp
  obtain ⟨r, hrun, hr⟩ := w.runFrom_within hp
  match r, hrun, hr with
  | .ok (a, q), hrun, hr =>
      refine ⟨.ok a, q, hr a q rfl, fun _ _ => ?_⟩
      show (w.runFrom p).bind _ = _
      rw [hrun]
      rfl
  | .error e, hrun, _ =>
      refine ⟨.error e, p, hp.refl, fun _ _ => ?_⟩
      show (w.runFrom p).bind _ = _
      rw [hrun]
      rfl

theorem stop {s : Nat → Stepper α} (h : StaysWithin ts s) (hp : Within ts i p) :
    ∃ q, Within ts p.index q ∧
      ∀ depth, 3 * (ts.length + 1) ≤ depth → (s depth).stop p = some q := by
  obtain ⟨r, q, hq, hrun⟩ := h i p hp
  refine ⟨q, hq, ?_⟩
  intro depth hdepth
  rw [Stepper.stop, hrun depth hdepth]
  rfl

end StaysWithin
end Stepper

/-- What a parser can be asked to do.  To peek is to look at what can be seen from a copy of
the position, however far that looks ahead. -/
inductive Operation where
  | take (terminal : Terminal)
  | step {α : Type} (w : Walk α 1)
  | nonterminal (n : Nonterminal)
  | isEnd
  | peekLiteral (text : String)
  | peekAtom
  | unexpected (expected : String)
  | peek {α : Type} (w : Walk α 1)

namespace Operation

/-- Where a parser stands after an operation, whether this succeeds or fails, if calls may
nest `depth` times. -/
def after (depth : Nat) (p : Position) : Operation → Option Position
  | take terminal => (Stepper.take terminal).stop p
  | step w => (Stepper.step w.runFrom).stop p
  | nonterminal n => ((Steppers.nested depth).node n).stop p
  | isEnd => (Stepper.look (·.isEnd)).stop p
  | peekLiteral text => (Stepper.look (·.peekLiteral text)).stop p
  | peekAtom => (Stepper.look (·.peekAtom)).stop p
  | unexpected expected => (Stepper.look (·.unexpected expected)).stop p
  | peek w => (Stepper.look w.runFrom).stop p

def run (depth : Nat) (p : Position) (os : List Operation) : Option Position :=
  os.foldlM (after depth) p

variable {ts : List Token} {i : Nat} {p : Position}

theorem after_within (hp : Within ts i p) (o : Operation) :
    ∃ q, Within ts p.index q ∧
      ∀ depth, 3 * (ts.length + 1) ≤ depth → after depth p o = some q := by
  cases o with
  | take terminal => exact (Stepper.StaysWithin.take terminal).stop hp
  | step w => exact (Stepper.StaysWithin.step w).stop hp
  | nonterminal n => exact (Stepper.StaysWithin.node n).stop hp
  | isEnd => exact (Stepper.StaysWithin.of_token (·.kind == .endMark)).stop hp
  | peekLiteral text => exact (Stepper.StaysWithin.of_token (·.isLiteral text)).stop hp
  | peekAtom => exact (Stepper.StaysWithin.of_token (·.kind.isAtom)).stop hp
  | unexpected expected => exact (Stepper.StaysWithin.unexpected expected).stop hp
  | peek w => exact (Stepper.StaysWithin.peek w).stop hp

theorem run_within (hp : Within ts i p) (os : List Operation) :
    ∃ q, Within ts p.index q ∧
      ∀ depth, 3 * (ts.length + 1) ≤ depth → run depth p os = some q := by
  induction os generalizing p i with
  | nil => exact ⟨p, hp.refl, fun _ _ => rfl⟩
  | cons o os ih =>
      obtain ⟨q, hq, hafter⟩ := after_within hp o
      obtain ⟨e, he, hrun⟩ := ih hq
      refine ⟨e, he.weaken hq.le_index, ?_⟩
      intro depth hdepth
      rw [run, List.foldlM_cons, hafter depth hdepth]
      exact hrun depth hdepth

end Operation

/-- However a parser is driven, its index is one of the buffer, so there is a current token,
and never decreases.  Taking a terminal moves it on by one, except that it stays at the end
marker, and where nothing is taken the parser is left as it was. -/
theorem cursor_stays_in_buffer (ts : List Token) (os : List Operation) :
    let buffer := Buffer.ofTokens ts
    let stop := (ts.getLast?.map (·.span.stop)).getD 0
    buffer.tokens.toList = ts ++ [Token.endAt stop] ∧
    ∃ p, (∀ depth, 3 * (ts.length + 1) ≤ depth → Operation.run depth buffer.start os = some p) ∧
      p.tokens = buffer.tokens ∧ p.index ≤ ts.length ∧ (∃ t, p.token = some t) ∧
      (∀ more, ∃ q, p.index ≤ q.index ∧
        ∀ depth, 3 * (ts.length + 1) ≤ depth → Operation.run depth p more = some q) ∧
      (∀ terminal t q, (Stepper.take terminal).runFrom p = some (.ok t, q) →
        q = { p with index := if p.index = ts.length then p.index else p.index + 1 }) ∧
      (∀ terminal e q, (Stepper.take terminal).runFrom p = some (.error e, q) → q = p) ∧
      ∀ {α : Type} (w : Walk α 1) e q,
        (Stepper.step w.runFrom).runFrom p = some (.error e, q) → q = p := by
  intro buffer stop
  have hbuffer : buffer.tokens.toList = ts ++ [Token.endAt stop] := by
    rw [Buffer.tokens_ofTokens]
    rfl
  obtain ⟨p, hp, hrun⟩ := Operation.run_within (.start ts) os
  refine ⟨hbuffer, p, hrun, hp.tokens, hp.index_le, hp.token, ?_, ?_, ?_, ?_⟩
  · intro more
    obtain ⟨q, hq, hmore⟩ := Operation.run_within hp more
    exact ⟨q, hq.le_index, hmore⟩
  · intro terminal t q h
    exact Stepper.eq_of_take_ok hp h
  · intro terminal e q h
    exact Stepper.step_of_error h
  · intro α w e q h
    exact Stepper.step_of_error h

/- Runs over one parenthesis.  A step that fails at its second token gives the first back, a list
that fails there does not, and after the last token the literal without a text can be taken for
ever. -/
example :
    let p := (Buffer.ofTokens [⟨.literal, "(", ⟨0, 1⟩⟩]).start
    let error : ParseError := ⟨"", .endMark, "a list", ⟨1, 1⟩⟩
    let pair : Walk Token 1 := .take 0 (.literal "(")
      (fun _ => .take 1 (.literal ")") (fun t => .answer t 2) (.giveUp error)) (.giveUp error)
    Operation.run 6 p [.step pair] = some p ∧
    Operation.run 6 p [.nonterminal .list] = some { p with index := 1 } ∧
    Operation.run 6 p [.take .atom, .take (.literal "("), .take .atom, .take (.literal ""),
      .isEnd, .take (.literal "")] = some { p with index := 1 } := by
  decide +kernel

end Sexpr
