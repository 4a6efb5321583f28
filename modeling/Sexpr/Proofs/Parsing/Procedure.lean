/-
The grammar as procedures that call one another.

Every nonterminal has a procedure, which takes tokens and calls the procedures of others or
itself.  The texts of the procedures do not show that the calls come to an end.  So they are
run here with a bound on how deep calls may nest, where a run that would go deeper has no
answer, and every run writes down the tokens it takes.

The bound is never reached if it is a little more than three times the number of tokens that
are taken: before a call leads back to its own nonterminal, or a loop begins anew, a token is
gone, and three procedures at most stand at one place.  The answer is then that of the
parser, and the tokens written down are those it passes, so they are tokens of the list and
the end marker is not one of them.
-/
import Sexpr.Proofs.Parsing.Buffer
import Sexpr.Proofs.Parsing.Nonterminals
import Sexpr.Proofs.Printing.Walks

namespace Sexpr
namespace Parser

/-- A parser that writes down the tokens it takes, and that may be cut short and then has no
answer. -/
def Recorded (α : Type) := Cursor → Option ((Except ParseError α × Cursor) × List Token)

namespace Recorded

variable {α β : Type}

instance : Monad Recorded where
  pure a c := some ((.ok a, c), [])
  bind p f c :=
    match p c with
    | none => none
    | some ((.error e, d), ts) => some ((.error e, d), ts)
    | some ((.ok a, d), ts) => (f a d).map fun (r, us) => (r, ts ++ us)

/-- Writes down the token that `p` takes, if it takes one. -/
def take (p : Parser Token) : Recorded Token := fun c =>
  match p c with
  | (.ok t, d) => some ((.ok t, d), [t])
  | (.error e, d) => some ((.error e, d), [])

/-- Goes on in one of two ways, without taking anything. -/
def choose (test : Cursor → Bool) (p q : Recorded α) : Recorded α := fun c =>
  if test c then p c else q c

variable {p : Recorded α} {c d : Cursor} {a : α} {e : ParseError} {ts us : List Token}

theorem bind_apply (p : Recorded α) (f : α → Recorded β) (c : Cursor) :
    (p >>= f) c =
      match p c with
      | none => none
      | some ((.error e, d), ts) => some ((.error e, d), ts)
      | some ((.ok a, d), ts) => (f a d).map fun (r, us) => (r, ts ++ us) := rfl

theorem bind_of_ok {f : α → Recorded β} {r : Except ParseError β × Cursor}
    (hp : p c = some ((.ok a, d), ts)) (hf : f a d = some (r, us)) :
    (p >>= f) c = some (r, ts ++ us) := by
  rw [bind_apply, hp]
  show (f a d).map _ = _
  rw [hf, Option.map_some]

theorem bind_of_error {f : α → Recorded β} (hp : p c = some ((.error e, d), ts)) :
    (p >>= f) c = some ((.error e, d), ts) := by
  rw [bind_apply, hp]

theorem take_of_ok {p : Parser Token} {t : Token} (h : p c = (.ok t, d)) :
    take p c = some ((.ok t, d), [t]) := by
  rw [take, h]

theorem take_of_error {p : Parser Token} (h : p c = (.error e, d)) :
    take p c = some ((.error e, d), []) := by
  rw [take, h]

end Recorded

open Recorded

/-- A procedure for each nonterminal. -/
structure Procedures where
  program : Recorded Program
  sexpr : Recorded SExpr
  list : Recorded SExpr
  seq : Recorded Sequence
  atom : Recorded Token

namespace Procedures

/-- What each nonterminal does, if `call` is what it calls.  The loop of a program goes on by a
call of its own. -/
def body (call : Procedures) : Procedures where
  program :=
    choose Cursor.isEnd (return { exprs := [] }) do
      let x ← call.sexpr
      let p ← call.program
      return { exprs := x :: p.exprs }
  sexpr := choose Cursor.peekAtom (SExpr.atom <$> call.atom) call.list
  list := do
    let opening ← take (literal "(")
    choose (·.peekLiteral ")")
      (do
        let closing ← take (literal ")")
        return .list opening [] closing)
      (do
        let items ← Sequence.items <$> call.seq
        let closing ← take (literal ")")
        return .list opening items closing)
  seq := do
    let head ← call.sexpr
    choose (·.peekLiteral ")") (return { head := head, tail := [] }) do
      let tail ← Sequence.items <$> call.seq
      return { head := head, tail := tail }
  atom := take Parser.atom

/-- The procedures with no more than `depth` calls inside one another. -/
def nested : Nat → Procedures
  | 0 => ⟨fun _ => none, fun _ => none, fun _ => none, fun _ => none, fun _ => none⟩
  | depth + 1 => body (nested depth)

def node (call : Procedures) : Nonterminal → Recorded Node
  | .program => Node.program <$> call.program
  | .sexpr => Node.sexpr <$> call.sexpr
  | .list => SExpr.production <$> call.list
  | .seq => Node.seq <$> call.seq
  | .atom => Node.atom <$> call.atom

end Procedures

/-! ## How deep calls nest -/

/-- Whether `p` comes from `c` to `r` as soon as calls may nest deep enough, which is `base` and
three more for every token taken.  A success takes `least` tokens or more. -/
def Finishes {α : Type} (least base : Nat) (p : Nat → Recorded α) (c : Cursor)
    (r : Except ParseError α × Cursor) : Prop :=
  ∃ ts, c.Passes ts r.2 ∧ (∀ a, r.1 = .ok a → least ≤ ts.length) ∧
    ∀ depth, 3 * ts.length + base ≤ depth → p depth c = some (r, ts)

namespace Finishes

variable {α β : Type} {least base least' base' : Nat} {p q : Nat → Recorded α} {c d : Cursor}
  {r : Except ParseError α × Cursor}

theorem weaken (h : Finishes least base p c r) (hl : least' ≤ least) (hb : base ≤ base') :
    Finishes least' base' p c r := by
  obtain ⟨ts, hpass, hleast, hrun⟩ := h
  refine ⟨ts, hpass, fun a ha => Nat.le_trans hl (hleast a ha), ?_⟩
  intro depth hdepth
  exact hrun depth (by omega)

theorem pure (a : α) (c : Cursor) : Finishes 0 0 (fun _ => Pure.pure a) c (.ok a, c) :=
  ⟨[], .refl c, fun _ _ => Nat.le_refl 0, fun _ _ => rfl⟩

/-- What comes second may need to go deeper, by as much as the tokens taken first allow. -/
theorem bind {f : Nat → α → Recorded β} {a : α} {r : Except ParseError β × Cursor}
    (hp : Finishes least base p c (.ok a, d)) (hf : Finishes least' base' (f · a) d r)
    (hb : base' ≤ 3 * least + base) : Finishes least base (fun k => p k >>= f k) c r := by
  obtain ⟨ts, hts, hleast, hprun⟩ := hp
  obtain ⟨us, hus, -, hfrun⟩ := hf
  have htaken : least ≤ ts.length := hleast a rfl
  have hlength : (ts ++ us).length = ts.length + us.length := List.length_append
  refine ⟨ts ++ us, hts.trans hus, fun _ _ => by omega, ?_⟩
  intro depth hdepth
  exact bind_of_ok (hprun depth (by omega)) (hfrun depth (by omega))

theorem bind_error {f : Nat → α → Recorded β} {e : ParseError}
    (hp : Finishes least base p c (.error e, d)) :
    Finishes least base (fun k => p k >>= f k) c (.error e, d) := by
  obtain ⟨ts, hts, -, hrun⟩ := hp
  refine ⟨ts, hts, nofun, ?_⟩
  intro depth hdepth
  exact bind_of_error (hrun depth hdepth)

theorem map (f : α → β) (hp : Finishes least base p c r) :
    Finishes least base (fun k => f <$> p k) c (r.1.map f, r.2) := by
  match r, hp with
  | (.ok a, d), hp => exact hp.bind (.pure (f a) d) (Nat.zero_le _)
  | (.error e, d), hp => exact hp.bind_error

theorem choose_true {test : Cursor → Bool} (h : test c = true) (hp : Finishes least base p c r) :
    Finishes least base (fun k => choose test (p k) (q k)) c r := by
  obtain ⟨ts, hts, hleast, hrun⟩ := hp
  refine ⟨ts, hts, hleast, ?_⟩
  intro depth hdepth
  exact (if_pos h).trans (hrun depth hdepth)

theorem choose_false {test : Cursor → Bool} (h : test c = false)
    (hq : Finishes least base q c r) :
    Finishes least base (fun k => choose test (p k) (q k)) c r := by
  obtain ⟨ts, hts, hleast, hrun⟩ := hq
  refine ⟨ts, hts, hleast, ?_⟩
  intro depth hdepth
  exact (if_neg (Bool.eq_false_iff.1 h)).trans (hrun depth hdepth)

/-- A call is one level above what it does. -/
theorem call (procedure : Procedures → Recorded α)
    (h : Finishes least base (fun k => procedure (Procedures.body (Procedures.nested k))) c r) :
    Finishes least (base + 1) (fun k => procedure (Procedures.nested k)) c r := by
  obtain ⟨ts, hts, hleast, hrun⟩ := h
  refine ⟨ts, hts, hleast, ?_⟩
  intro depth hdepth
  cases depth with
  | zero => omega
  | succ k => exact hrun k (by omega)

theorem take_ok {p : Parser Token} (hne : c.rest ≠ []) (h : p c = (.ok c.token, c.advance)) :
    Finishes 1 0 (fun _ => take p) c (.ok c.token, c.advance) :=
  ⟨[c.token], .advance hne, fun _ _ => Nat.le_refl 1, fun _ _ => take_of_ok h⟩

theorem take_error {p : Parser Token} {e : ParseError} (h : p c = (.error e, c)) :
    Finishes 1 0 (fun _ => take p) c (.error e, c) :=
  ⟨[], .refl c, nofun, fun _ _ => take_of_error h⟩

end Finishes

theorem literal_finishes {text : String} {c : Cursor} (h : c.token.text = text) (hne : text ≠ "") :
    Finishes 1 0 (fun _ => take (literal text)) c (.ok c.token, c.advance) :=
  .take_ok (Cursor.rest_ne_nil_of_text (h ▸ hne)) (literal_of_text h)

theorem atom_finishes (c : Cursor) :
    Finishes 1 1 (fun k => (Procedures.nested k).atom) c (atom c) := by
  apply Finishes.call Procedures.atom
  rw [atom_apply]
  by_cases h : c.peekAtom = true
  · rw [if_pos h]
    exact .take_ok (Cursor.rest_ne_nil_of_peekAtom h) (atom_of_peek h)
  · rw [if_neg h]
    exact .take_error (by rw [atom_apply, if_neg h])

/-- The items of a list are those of a sequence, except that no sequence is read where there
are none. -/
def ItemsFinish (c : Cursor) (r : Except ParseError (List SExpr) × Cursor) : Prop :=
  (c.token.Closes ∧ r = (.ok [], c)) ∨
    ¬c.token.Closes ∧
      Finishes 1 3 (fun k => Sequence.items <$> (Procedures.nested k).seq) c r

variable {c d : Cursor}

/-- A sequence calls itself only after its head took a token. -/
theorem seq_finishes_ok {x : SExpr} {r : Except ParseError (List SExpr) × Cursor}
    (hs : Finishes 1 2 (fun k => (Procedures.nested k).sexpr) c (.ok x, d))
    (hi : ItemsFinish d r) :
    Finishes 1 3 (fun k => (Procedures.nested k).seq) c (r.1.map (Sequence.mk x), r.2) := by
  apply Finishes.call Procedures.seq
  rcases hi with ⟨hclose, rfl⟩ | ⟨hclose, htail⟩
  · exact hs.bind (.choose_true (Cursor.peekLiteral_eq_true.2 hclose) (.pure _ d)) (by decide)
  · exact hs.bind
      (.choose_false (Cursor.peekLiteral_eq_false.2 hclose) (htail.map (Sequence.mk x))) (by decide)

theorem seq_finishes_error {e : ParseError}
    (hs : Finishes 1 2 (fun k => (Procedures.nested k).sexpr) c (.error e, d)) :
    Finishes 1 3 (fun k => (Procedures.nested k).seq) c (.error e, d) :=
  .call Procedures.seq hs.bind_error

theorem termination :
    Descent (Finishes 1 2 fun k => (Procedures.nested k).sexpr)
      (Finishes 1 1 fun k => (Procedures.nested k).list) ItemsFinish
      (fun c r => Finishes 0 3 (fun k => (Procedures.nested k).program) c
        (r.1.map Program.mk, r.2)) where
  atom c ha := by
    have hatom := atom_finishes c
    rw [atom_of_peek ha] at hatom
    exact .call Procedures.sexpr (.choose_true ha (hatom.map SExpr.atom))
  list c r ha hl := .call Procedures.sexpr (.choose_false ha hl)
  unopened c ho := .call Procedures.list (Finishes.take_error (literal_of_ne ho)).bind_error
  broken c e d ho hi := by
    apply Finishes.call Procedures.list
    rcases hi with ⟨-, hend⟩ | ⟨hclose, hseq⟩
    · exact nomatch (Prod.mk.inj hend).1
    · exact (literal_finishes ho (by decide)).bind
        (.choose_false (Cursor.peekLiteral_eq_false.2 hclose) hseq.bind_error) (by decide)
  closed c xs d ho hd hi := by
    apply Finishes.call Procedures.list
    have hclosing := literal_finishes hd.2 (by decide)
    rcases hi with ⟨hclose, hend⟩ | ⟨hclose, hseq⟩
    · obtain ⟨hxs, rfl⟩ := Prod.mk.inj hend
      obtain rfl := Except.ok.inj hxs
      exact (literal_finishes ho (by decide)).bind
        (.choose_true (Cursor.peekLiteral_eq_true.2 hclose)
          (hclosing.bind (.pure _ _) (by decide))) (by decide)
    · exact (literal_finishes ho (by decide)).bind
        (.choose_false (Cursor.peekLiteral_eq_false.2 hclose)
          (hseq.bind (hclosing.bind (.pure _ _) (by decide)) (by decide))) (by decide)
  none c hc := .inl ⟨hc, rfl⟩
  bad c e d hc hs := .inr ⟨hc, (seq_finishes_error hs).map Sequence.items⟩
  more c x d r hc hs hi := by
    have hseq := (seq_finishes_ok hs hi).map Sequence.items
    refine .inr ⟨hc, ?_⟩
    rcases r with ⟨result, e⟩
    cases result <;> exact hseq
  finished c hc := by
    have hend : c.isEnd = true := beq_iff_eq.2 hc
    apply Finishes.call Procedures.program
    exact (Finishes.choose_true hend (.pure _ c)).weaken (Nat.le_refl 0) (Nat.zero_le 2)
  badTop c e d hc hs := by
    have hend : c.isEnd = false := beq_eq_false_iff_ne.2 hc
    apply Finishes.call Procedures.program
    exact (Finishes.choose_false hend hs.bind_error).weaken (Nat.zero_le 1) (Nat.le_refl 2)
  moreTop c x d r hc hs hp := by
    have hend : c.isEnd = false := beq_eq_false_iff_ne.2 hc
    have hrest := hp.map fun p => Program.mk (x :: p.exprs)
    apply Finishes.call Procedures.program
    rcases r with ⟨result, e⟩
    cases result <;>
      exact (Finishes.choose_false hend (hs.bind hrest (by decide))).weaken (Nat.zero_le 1)
        (Nat.le_refl 2)

theorem program_finishes (c : Cursor) :
    Finishes 0 3 (fun k => (Procedures.nested k).program) c (program c) := by
  rw [program_apply]
  exact termination.of_exprs c

theorem seq_finishes (c : Cursor) :
    Finishes 1 3 (fun k => (Procedures.nested k).seq) c (seq c) := by
  have hhead := termination.of_sexpr c
  match hx : sexpr c with
  | (.error e, d) =>
      rw [hx] at hhead
      rw [seq_of_error hx]
      exact seq_finishes_error hhead
  | (.ok x, d) =>
      rw [hx] at hhead
      rw [seq_of_ok hx]
      exact seq_finishes_ok hhead (termination.of_items d)

end Parser

namespace Nonterminal

/-- A program may have no expressions.  Everything else has a token. -/
def leastTokens : Nonterminal → Nat
  | program => 0
  | sexpr | list | seq | atom => 1

theorem finishes (n : Nonterminal) (c : Cursor) :
    Parser.Finishes n.leastTokens 3 (fun depth => (Parser.Procedures.nested depth).node n) c
      (n.parser c) := by
  cases n with
  | program =>
      rw [parser, Parser.map_apply]
      exact (Parser.program_finishes c).map Node.program
  | sexpr =>
      rw [parser, Parser.map_apply]
      exact ((Parser.termination.of_sexpr c).map Node.sexpr).weaken (Nat.le_refl 1) (by decide)
  | list =>
      rw [parser, Parser.map_apply]
      exact ((Parser.termination.of_list c).map SExpr.production).weaken (Nat.le_refl 1) (by decide)
  | seq =>
      rw [parser, Parser.map_apply]
      exact (Parser.seq_finishes c).map Node.seq
  | atom =>
      rw [parser, Parser.map_apply]
      exact ((Parser.atom_finishes c).map Node.atom).weaken (Nat.le_refl 1) (by decide)

end Nonterminal

/-- What a nonterminal takes are the tokens between its old place and its new one.  If it
succeeds, they are the leaves of its node in order; if it fails, it reports the token at the
new place. -/
theorem nonterminal_takes_leaves (n : Nonterminal) {ts : List Token} {c : Cursor} {i : Nat}
    (hc : c.At ts i) :
    let buffer := ts ++ [Token.endAt (Cursor.ofTokens ts).stop]
    ∃ j taken, (n.parser c).2.At ts j ∧ i ≤ j ∧ j ≤ ts.length ∧
      taken = (buffer.drop i).take (j - i) ∧
      (∃ depth, (Parser.Procedures.nested depth).node n c = some (n.parser c, taken)) ∧
      (∀ m, (n.parser c).1 = .ok m → m.leaves = taken.map .leaf) ∧
      ∀ e, (n.parser c).1 = .error e → ∃ t, buffer[j]? = some t ∧
        e = { found := t.text, kind := t.kind, expected := n.wanted, span := t.span } := by
  intro buffer
  obtain ⟨taken, hpass, -, hrun⟩ := n.finishes c
  have hanswers := n.answers c
  have hd := hc.passes hpass
  refine ⟨i + taken.length, taken, hd, Nat.le_add_right _ _, hd.le_length, ?_,
    ⟨_, hrun _ (Nat.le_refl _)⟩, ?_, ?_⟩
  · have hbetween := hpass.unique (hc.passes_between hd (Nat.le_add_right _ _))
    have hi := hc.le_length
    have hj := hd.le_length
    rw [List.drop_append_of_le_length hi, List.take_append_of_le_length]
    · exact hbetween
    · rw [List.length_drop]
      omega
  · intro m hm
    generalize n.parser c = r at hm hanswers hpass
    obtain ⟨_, d⟩ := r
    obtain rfl := hm
    rw [m.leaves_eq, hpass.unique hanswers]
  · intro e he
    refine ⟨(n.parser c).2.token, hd.getElem?_buffer, ?_⟩
    generalize n.parser c = r at he hanswers
    obtain ⟨_, d⟩ := r
    obtain rfl := he
    exact hanswers.1

/-- A sequence that gets stuck at a token of kind end, and the list inside it. -/
theorem nonterminal_takes_leaves_up_to_end_token :
    let ts : List Token := [⟨.literal, "(", ⟨0, 1⟩⟩, ⟨.id, "a", ⟨1, 2⟩⟩, ⟨.endMark, "(", ⟨2, 3⟩⟩,
      ⟨.literal, ")", ⟨3, 4⟩⟩, ⟨.endMark, "b", ⟨4, 5⟩⟩]
    (∃ depth, (Parser.Procedures.nested depth).node .seq ⟨ts.drop 1, 5⟩ =
      some ((.error ⟨"b", .endMark, "`(`", ⟨4, 5⟩⟩, ⟨ts.drop 4, 5⟩), (ts.drop 1).take 3)) ∧
    ∃ m, (Nonterminal.list.parser ⟨ts.drop 2, 5⟩).1 = .ok m ∧
      m.leaves = [.leaf ⟨.endMark, "(", ⟨2, 3⟩⟩, .leaf ⟨.literal, ")", ⟨3, 4⟩⟩] := by
  intro ts
  have hplace (i : Nat) (hi : i ≤ ts.length) : (Cursor.mk (ts.drop i) 5).At ts i := ⟨hi, rfl, rfl⟩
  constructor
  · have hseq : Nonterminal.seq.parser ⟨ts.drop 1, 5⟩ =
        (.error ⟨"b", .endMark, "`(`", ⟨4, 5⟩⟩, ⟨ts.drop 4, 5⟩) := by decide +kernel
    obtain ⟨j, taken, hd, -, -, rfl, hdepth, -⟩ :=
      nonterminal_takes_leaves .seq (hplace 1 (by decide))
    rw [hseq] at hd hdepth
    obtain rfl := hd.unique (hplace 4 (by decide))
    exact hdepth
  · have hlist : Nonterminal.list.parser ⟨ts.drop 2, 5⟩ =
        (.ok (.list ⟨.endMark, "(", ⟨2, 3⟩⟩ [] ⟨.literal, ")", ⟨3, 4⟩⟩), ⟨ts.drop 4, 5⟩) := by
      decide +kernel
    obtain ⟨j, taken, hd, -, -, rfl, -, hleaves, -⟩ :=
      nonterminal_takes_leaves .list (hplace 2 (by decide))
    rw [hlist] at hd hleaves
    obtain rfl := hd.unique (hplace 4 (by decide))
    rw [hlist]
    exact ⟨_, rfl, hleaves _ rfl⟩

/-- Parsing terminates, from every place of every buffer: calls nest no deeper than three times
the number of tokens taken and three, and no more tokens are taken than there are before the
end marker.  The tokens taken are those between the old place and the new one, so the end
marker is never taken, and on success everything but a program has moved on. -/
theorem parsing_terminates (n : Nonterminal) {ts : List Token} {c : Cursor} {i : Nat}
    (hc : c.At ts i) :
    ∃ j taken, (n.parser c).2.At ts j ∧ i ≤ j ∧ j ≤ ts.length ∧
      (n ≠ .program → ∀ m, (n.parser c).1 = .ok m → i < j) ∧
      taken = (ts.drop i).take (j - i) ∧ taken.length ≤ ts.length - i ∧
      ∀ depth, 3 * taken.length + 3 ≤ depth →
        (Parser.Procedures.nested depth).node n c = some (n.parser c, taken) := by
  obtain ⟨taken, hpass, hleast, hrun⟩ := n.finishes c
  have hd := hc.passes hpass
  have hj := hd.le_length
  refine ⟨i + taken.length, taken, hd, Nat.le_add_right _ _, hj, ?_, ?_, by omega, hrun⟩
  · intro hn m hm
    have htaken := hleast m hm
    cases n with
    | program => exact absurd rfl hn
    | sexpr | list | seq | atom => exact Nat.lt_add_of_pos_right htaken
  · exact hpass.unique (hc.passes_between hd (Nat.le_add_right _ _))

/-- A list that a token of kind end opens, and that ends at a token like the end marker. -/
theorem parsing_terminates_at_end_token :
    let ts : List Token := [⟨.id, "a", ⟨0, 1⟩⟩, ⟨.endMark, "(", ⟨1, 2⟩⟩, ⟨.literal, "(", ⟨2, 3⟩⟩,
      ⟨.literal, ")", ⟨3, 4⟩⟩, ⟨.endMark, "", ⟨4, 4⟩⟩, ⟨.literal, ")", ⟨4, 5⟩⟩]
    let c : Cursor := ⟨ts.drop 1, 5⟩
    c.At ts 1 ∧ ∃ j, (Nonterminal.list.parser c).2.At ts j ∧
      ∀ depth, 3 * (j - 1) + 3 ≤ depth → (Parser.Procedures.nested depth).node .list c =
        some (Nonterminal.list.parser c, (ts.drop 1).take (j - 1)) := by
  intro ts c
  have hc : c.At ts 1 := ⟨by decide, rfl, rfl⟩
  obtain ⟨j, taken, hd, hij, hj, -, rfl, -, hrun⟩ := parsing_terminates .list hc
  refine ⟨hc, j, hd, ?_⟩
  intro depth hdepth
  exact hrun depth (by rw [List.length_take, List.length_drop]; omega)

end Sexpr
