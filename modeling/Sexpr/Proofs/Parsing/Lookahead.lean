/-
One token of lookahead.

A run of a nonterminal looks at the tokens it takes and at the one it stops before.  What
comes after these has no say in it: not in the tree, not in the error, and not in how far it
gets.  So two buffers that agree up to where a run on one of them stops give the same run,
even if there one of them ends and the other does not.

Every way of putting parsers together keeps this, because the token that the first of two
stops before is the one that the second begins with.
-/
import Mathlib.Control.Monad.Basic
import Sexpr.Proofs.Parsing.Buffer
import Sexpr.Proofs.Parsing.Nonterminals

namespace Sexpr

namespace Cursor

theorem toList_ofTokens (ts : List Token) :
    (ofTokens ts).toList = ts ++ [Token.endAt (ofTokens ts).stop] := rfl

namespace Passes

variable {c d e c' d' : Cursor} {ts us : List Token}

theorem split (h : c.Passes (ts ++ us) e) : ∃ d, c.Passes ts d ∧ d.Passes us e := by
  refine ⟨⟨us ++ e.rest, e.stop⟩, ⟨?_, h.stop⟩, rfl, rfl⟩
  rw [h.rest, List.append_assoc]

theorem eq_of_nil (h : c.Passes [] d) : c = d := by
  obtain ⟨rest, stop⟩ := c
  obtain ⟨rfl, rfl⟩ := h
  rfl

/-- Who takes the same tokens and then stands before the same one began with the same. -/
theorem token_eq (h : c.Passes ts d) (h' : c'.Passes ts d') (ht : d'.token = d.token) :
    c'.token = c.token := by
  cases ts with
  | nil =>
      rw [h.eq_of_nil, h'.eq_of_nil]
      exact ht
  | cons t ts =>
      unfold Cursor.token
      rw [h.rest, h'.rest]
      rfl

end Passes

end Cursor

namespace Parser

variable {α β : Type} {p q : Parser α} {c d : Cursor}

/-- Whether a run of `p` from `c` that came to `r` is settled by the tokens it took and the
one it stopped before: `p` comes to the same wherever these are the next ones. -/
def Settled (p : Parser α) (c : Cursor) (r : Except ParseError α × Cursor) : Prop :=
  ∃ ts, c.Passes ts r.2 ∧
    ∀ c' d' : Cursor, c'.Passes ts d' → d'.token = r.2.token → p c' = (r.1, d')

namespace Settled

theorem pure (a : α) (c : Cursor) : Settled (Pure.pure a) c (.ok a, c) := by
  refine ⟨[], .refl c, ?_⟩
  intro c' d' hpass _
  rw [hpass.eq_of_nil]
  rfl

theorem bind {f : α → Parser β} {a : α} {r : Except ParseError β × Cursor}
    (hp : Settled p c (.ok a, d)) (hf : Settled (f a) d r) : Settled (p >>= f) c r := by
  obtain ⟨ts, hts, hpsame⟩ := hp
  obtain ⟨us, hus, hfsame⟩ := hf
  refine ⟨ts ++ us, hts.trans hus, ?_⟩
  intro c' e' hpass htoken
  obtain ⟨d', hts', hus'⟩ := hpass.split
  have hd : d'.token = d.token := hus.token_eq hus' htoken
  rw [bind_ok (hpsame c' d' hts' hd)]
  exact hfsame d' e' hus' htoken

theorem bind_error {f : α → Parser β} {e : ParseError} (hp : Settled p c (.error e, d)) :
    Settled (p >>= f) c (.error e, d) := by
  obtain ⟨ts, hts, hsame⟩ := hp
  refine ⟨ts, hts, ?_⟩
  intro c' d' hpass htoken
  exact Parser.bind_error (hsame c' d' hpass htoken)

/-- A parser that chooses what to do by the current token. -/
theorem of_choice {r : Except ParseError α × Cursor}
    (h : ∀ c' : Cursor, c'.token = c.token → p c' = q c') (hq : Settled q c r) :
    Settled p c r := by
  obtain ⟨ts, hts, hsame⟩ := hq
  refine ⟨ts, hts, ?_⟩
  intro c' d' hpass htoken
  rw [h c' (hts.token_eq hpass htoken)]
  exact hsame c' d' hpass htoken

/-- A parser that fails at once, with an error that only the current token decides. -/
theorem of_refused {e : ParseError}
    (h : ∀ c' : Cursor, c'.token = c.token → p c' = (.error e, c')) :
    Settled p c (.error e, c) := by
  refine ⟨[], .refl c, ?_⟩
  intro c' d' hpass htoken
  obtain rfl := hpass.eq_of_nil
  exact h c' htoken

/-- A parser that takes the current token, if that is one of the list. -/
theorem of_taken {a : α} (hne : c.rest ≠ [])
    (h : ∀ c' : Cursor, c'.token = c.token → p c' = (.ok a, c'.advance)) :
    Settled p c (.ok a, c.advance) := by
  refine ⟨[c.token], .advance hne, ?_⟩
  intro c' d' hpass _
  obtain ⟨rest, stop⟩ := c'
  obtain ⟨rfl, rfl⟩ := hpass
  exact h _ rfl

theorem map {r : Except ParseError α × Cursor} (f : α → β) (hp : Settled p c r) :
    Settled (f <$> p) c (r.1.map f, r.2) := by
  match r, hp with
  | (.ok a, d), hp => exact hp.bind (.pure (f a) d)
  | (.error e, d), hp => exact hp.bind_error

end Settled

theorem unexpected_congr {c c' : Cursor} (h : c'.token = c.token) (expected : String) :
    c'.unexpected expected = c.unexpected expected := by
  rw [Cursor.unexpected, h]
  rfl

theorem settled_literal (text : String) (hne : text ≠ "") (c : Cursor) :
    Settled (literal text) c (literal text c) := by
  by_cases h : c.token.text = text
  · rw [literal_of_text h]
    refine .of_taken (Cursor.rest_ne_nil_of_text (h ▸ hne)) ?_
    intro c' hc'
    rw [literal_of_text (hc' ▸ h), hc']
  · rw [literal_of_ne h]
    refine .of_refused ?_
    intro c' hc'
    rw [literal_of_ne (hc' ▸ h), unexpected_congr hc']

theorem settled_atom (c : Cursor) : Settled atom c (atom c) := by
  rw [atom_apply]
  by_cases h : c.peekAtom = true
  · rw [if_pos h]
    refine .of_taken (Cursor.rest_ne_nil_of_peekAtom h) ?_
    intro c' hc'
    have h' : c'.peekAtom = true := by rwa [Cursor.peekAtom, hc']
    rw [atom_of_peek h', hc']
  · rw [if_neg h]
    refine .of_refused ?_
    intro c' hc'
    have h' : ¬c'.peekAtom = true := by rwa [Cursor.peekAtom, hc']
    rw [atom_apply, if_neg h', unexpected_congr hc']

/-- The items of a list and the expressions of a program go on in the same way. -/
theorem Settled.consed {p : Parser (List SExpr)} {x : SExpr}
    {r : Except ParseError (List SExpr) × Cursor} (hx : Settled sexpr c (.ok x, d))
    (hr : Settled p d r) :
    Settled (do let x ← sexpr; let xs ← p; return x :: xs) c (Parser.consed x r) :=
  hx.bind (hr.map (x :: ·))

theorem Settled.failed {p : Parser (List SExpr)} {e : ParseError}
    (hx : Settled sexpr c (.error e, d)) :
    Settled (do let x ← sexpr; let xs ← p; return x :: xs) c (.error e, d) :=
  hx.bind_error

theorem settlement :
    Descent (Settled sexpr) (Settled list) (Settled items) (Settled exprs) where
  atom c ha := by
    refine .of_taken (Cursor.rest_ne_nil_of_peekAtom ha) ?_
    intro c' hc'
    have ha' : c'.peekAtom = true := by rwa [Cursor.peekAtom, hc']
    rw [sexpr_of_atom ha', hc']
  list c r ha hl := by
    refine .of_choice ?_ hl
    intro c' hc'
    have ha' : c'.peekAtom = false := by rwa [Cursor.peekAtom, hc']
    exact sexpr_of_not_atom ha'
  unopened c ho := by
    refine .of_refused ?_
    intro c' hc'
    rw [list_of_unopened (hc' ▸ ho), unexpected_congr hc']
  broken c e d ho hi := by
    have hopen := settled_literal "(" (by decide) c
    rw [literal_of_text ho] at hopen
    rw [list_eq]
    exact hopen.bind hi.bind_error
  closed c xs d ho hd hi := by
    have hopen := settled_literal "(" (by decide) c
    have hclose := settled_literal ")" (by decide) d
    rw [literal_of_text ho] at hopen
    rw [literal_of_text hd.2] at hclose
    rw [list_eq]
    exact hopen.bind (hi.bind (hclose.bind (.pure _ _)))
  none c hc := by
    refine .of_choice ?_ (.pure [] c)
    intro c' hc'
    exact items_of_closes (hc' ▸ hc)
  bad c e d hc hs := by
    refine .of_choice ?_ (hs.failed (p := items))
    intro c' hc'
    exact items_of_not_closes (hc' ▸ hc)
  more c x d r hc hs hi := by
    refine .of_choice ?_ (hs.consed hi)
    intro c' hc'
    exact items_of_not_closes (hc' ▸ hc)
  finished c hc := by
    refine .of_choice ?_ (.pure [] c)
    intro c' hc'
    exact exprs_of_end (beq_iff_eq.2 (hc' ▸ hc))
  badTop c e d hc hs := by
    refine .of_choice ?_ (hs.failed (p := exprs))
    intro c' hc'
    exact exprs_of_not_end (beq_eq_false_iff_ne.2 (hc' ▸ hc))
  moreTop c x d r hc hs hp := by
    refine .of_choice ?_ (hs.consed hp)
    intro c' hc'
    exact exprs_of_not_end (beq_eq_false_iff_ne.2 (hc' ▸ hc))

theorem settled_seq (c : Cursor) : Settled seq c (seq c) := by
  have hhead := settlement.of_sexpr c
  match hx : sexpr c with
  | (.error e, d) =>
      rw [hx] at hhead
      rw [seq_of_error hx]
      exact hhead.bind_error
  | (.ok x, d) =>
      rw [hx] at hhead
      rw [seq_of_ok hx]
      exact hhead.bind ((settlement.of_items d).map (Sequence.mk x))

end Parser

theorem Nonterminal.settled (n : Nonterminal) (c : Cursor) :
    Parser.Settled n.parser c (n.parser c) := by
  cases n with
  | program =>
      rw [parser, Parser.map_apply, Parser.program_apply]
      exact ((Parser.settlement.of_exprs c).map Program.mk).map Node.program
  | sexpr =>
      rw [parser, Parser.map_apply]
      exact (Parser.settlement.of_sexpr c).map Node.sexpr
  | list =>
      rw [parser, Parser.map_apply]
      exact (Parser.settlement.of_list c).map SExpr.production
  | seq =>
      rw [parser, Parser.map_apply]
      exact (Parser.settled_seq c).map Node.seq
  | atom =>
      rw [parser, Parser.map_apply]
      exact (Parser.settled_atom c).map Node.atom

/-- Buffers that agree up to a place agree there in the tokens before it as well as in the
token that stands at it. -/
theorem Cursor.At.passes_of_agree {ts us : List Token} {d c' : Cursor} {i k : Nat}
    (hd : d.At ts k) (hc' : c'.At us i) (hik : i ≤ k)
    (hagree : ∀ m ≤ k, (Cursor.ofTokens ts).toList[m]? = (Cursor.ofTokens us).toList[m]?) :
    ∃ d' : Cursor, d'.At us k ∧ c'.Passes ((ts.drop i).take (k - i)) d' ∧ d'.token = d.token := by
  have hlast : (Cursor.ofTokens us).toList[k]? = some d.token :=
    (hagree k (Nat.le_refl k)).symm.trans hd.getElem?_buffer
  have hk : k ≤ us.length := by
    have hlt := (List.getElem?_eq_some_iff.1 hlast).1
    rw [Cursor.toList, List.length_append] at hlt
    exact Nat.lt_succ_iff.1 hlt
  have htake : ts.take k = us.take k := by
    refine List.ext_getElem? fun m => ?_
    by_cases hm : m < k
    · have h := hagree m (Nat.le_of_lt hm)
      rw [Cursor.toList_ofTokens, Cursor.toList_ofTokens,
        List.getElem?_append_left (Nat.lt_of_lt_of_le hm hd.le_length),
        List.getElem?_append_left (Nat.lt_of_lt_of_le hm hk)] at h
      rw [List.getElem?_take_of_lt hm, List.getElem?_take_of_lt hm]
      exact h
    · rw [List.getElem?_take_eq_none (Nat.not_lt.1 hm),
        List.getElem?_take_eq_none (Nat.not_lt.1 hm)]
  let d' : Cursor := ⟨us.drop k, (Cursor.ofTokens us).stop⟩
  have hd' : d'.At us k := ⟨hk, rfl, rfl⟩
  refine ⟨d', hd', ?_, ?_⟩
  · rw [← List.drop_take, htake, List.drop_take]
    exact hc'.passes_between hd' hik
  · exact Option.some.inj (hd'.getElem?_buffer.symm.trans hlast)

/-- One token of lookahead suffices.  If two buffers agree up to and including the place
where a nonterminal stops on the first, it comes to the same on the second, tree or error,
and stops at the same place. -/
theorem runs_agree_up_to_lookahead (n : Nonterminal) {ts us : List Token} {c c' d : Cursor}
    {i k : Nat} {r : Except ParseError Node} (hc : c.At ts i) (hc' : c'.At us i)
    (hrun : n.parser c = (r, d)) (hd : d.At ts k)
    (hagree : ∀ m ≤ k, (Cursor.ofTokens ts).toList[m]? = (Cursor.ofTokens us).toList[m]?) :
    ∃ d', n.parser c' = (r, d') ∧ d'.At us k := by
  obtain ⟨vs, hvs, hsame⟩ := n.settled c
  rw [hrun] at hvs hsame
  have hik : i ≤ k := by
    have := (hc.passes hvs).unique hd
    omega
  obtain ⟨d', hd', hpass, htoken⟩ := hd.passes_of_agree hc' hik hagree
  rw [← hvs.unique (hc.passes_between hd hik)] at hpass
  exact ⟨d', hsame c' d' hpass htoken, hd'⟩

/-- A list that is never closed, where the input ends and where it goes on behind a token
that is like the end marker. -/
theorem runs_agree_up_to_end_token :
    let ts : List Token := [⟨.literal, "(", ⟨0, 1⟩⟩, ⟨.id, "a", ⟨1, 2⟩⟩]
    let us : List Token := ts ++ [⟨.endMark, "", ⟨2, 2⟩⟩, ⟨.literal, ")", ⟨2, 3⟩⟩]
    let error : ParseError := ⟨"", .endMark, "`(`", ⟨2, 2⟩⟩
    Nonterminal.sexpr.parser (Cursor.ofTokens ts) = (.error error, ⟨[], 2⟩) ∧
      ∃ d, Nonterminal.sexpr.parser (Cursor.ofTokens us) = (.error error, d) ∧ d.At us 2 := by
  intro ts us error
  have hrun : Nonterminal.sexpr.parser (Cursor.ofTokens ts) = (.error error, ⟨[], 2⟩) := by
    decide +kernel
  refine ⟨hrun, runs_agree_up_to_lookahead .sexpr (.start ts) (.start us) hrun ⟨?_, rfl, rfl⟩ ?_⟩
  · decide
  · decide

end Sexpr
