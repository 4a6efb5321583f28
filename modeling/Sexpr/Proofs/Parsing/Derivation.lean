/-
The parser accepts the grammar and returns the derivation.

A run that succeeds returns a tree of the grammar, and on the tokens of a tree of
the grammar the parser returns that tree, whatever comes after.  The second half
needs to know only the token after the tree: what ends the items of a list closes
it, and what ends a program is of kind end.
-/
import Sexpr.Proofs.Parsing.Consumption

namespace Sexpr

namespace Parser

/-! ## What is returned is of the grammar -/

/-- An s-expression of the grammar, read from the current token on. -/
def ShapedAt (c : Cursor) (r : Except ParseError SExpr × Cursor) : Prop :=
  ∀ x, r.1 = .ok x → x.Shaped ∧ x.leading = c.token

/-- S-expressions of the grammar up to the end of the input. -/
def ShapedTop (r : Except ParseError (List SExpr) × Cursor) : Prop :=
  ∀ xs, r.1 = .ok xs →
    SExpr.AllShaped xs ∧ (∀ x ∈ xs, x.leading.kind ≠ .endMark) ∧ r.2.token.kind = .endMark

theorem consed_eq_ok {x : SExpr} {r : Except ParseError (List SExpr) × Cursor} {ys : List SExpr}
    (h : (consed x r).1 = .ok ys) : ∃ xs, r.1 = .ok xs ∧ ys = x :: xs := by
  match r, h with
  | (.ok xs, d), h => exact ⟨xs, rfl, (Except.ok.inj h).symm⟩

/- The motive for a list says nothing where the current token is an atom.  A list
is then read all the same if the token has the text of a parenthesis, but an
s-expression never asks for it. -/
theorem shape :
    Descent ShapedAt (fun c r => c.token.kind.isAtom = false → ShapedAt c r)
      (fun _ r => ∀ xs, r.1 = .ok xs → SExpr.AllShaped xs) (fun _ r => ShapedTop r) where
  atom c ha x hx := by
    cases hx
    exact ⟨ha, rfl⟩
  list c r ha hl := hl ha
  unopened c _ _ x hx := nomatch hx
  broken c e d _ _ _ x hx := nomatch hx
  closed c xs d ho hd hi ha x hx := by
    cases hx
    exact ⟨⟨⟨ha, ho⟩, hi xs rfl, hd⟩, rfl⟩
  none c _ xs hxs := by
    cases hxs
    exact SExpr.allShaped_nil
  bad c e d _ _ xs hxs := nomatch hxs
  more c x d r _ hs hi ys hys := by
    obtain ⟨xs, hxs, rfl⟩ := consed_eq_ok hys
    exact ⟨(hs x rfl).1, hi xs hxs⟩
  finished c hc xs hxs := by
    cases hxs
    exact ⟨SExpr.allShaped_nil, nofun, hc⟩
  badTop c e d _ _ xs hxs := nomatch hxs
  moreTop c x d r hc hs hp ys hys := by
    obtain ⟨xs, hxs, rfl⟩ := consed_eq_ok hys
    obtain ⟨hshaped, hstarted, hend⟩ := hp xs hxs
    obtain ⟨hx, hlead⟩ := hs x rfl
    refine ⟨⟨hx, hshaped⟩, fun y hy => ?_, hend⟩
    rcases List.mem_cons.1 hy with rfl | hy
    · rw [hlead]
      exact hc
    · exact hstarted y hy

/-! ## What is of the grammar is returned -/

mutual
theorem sexpr_tokens {x : SExpr} (h : x.Shaped) (rest : List Token) (stop : Nat) :
    sexpr ⟨x.tokens ++ rest, stop⟩ = (.ok x, ⟨rest, stop⟩) := by
  cases x with
  | atom t => exact sexpr_of_atom h
  | list o xs c =>
      obtain ⟨ho, hxs, hc⟩ := h
      have hitems := items_tokens hxs hc rest stop
      have hsplit : (SExpr.list o xs c).tokens ++ rest = o :: (SExpr.tokensOf xs ++ c :: rest) := by
        rw [SExpr.tokens_list, List.append_assoc]
        rfl
      let start : Cursor := ⟨o :: (SExpr.tokensOf xs ++ c :: rest), stop⟩
      have hlist : list start = (.ok (.list o xs c), ⟨rest, stop⟩) :=
        list_of_items_ok (c := start) ho.2 hitems hc
      rw [hsplit]
      exact (sexpr_of_not_atom (c := start) ho.1).trans hlist

theorem items_tokens {xs : List SExpr} (h : SExpr.AllShaped xs) {t : Token} (ht : t.Closes)
    (rest : List Token) (stop : Nat) :
    items ⟨SExpr.tokensOf xs ++ t :: rest, stop⟩ = (.ok xs, ⟨t :: rest, stop⟩) := by
  cases xs with
  | nil => exact items_of_closes ht
  | cons x xs =>
      have hx := sexpr_tokens h.1 (SExpr.tokensOf xs ++ t :: rest) stop
      have hxs := items_tokens h.2 ht rest stop
      obtain ⟨ts, hts⟩ := x.tokens_eq_leading_cons
      let start : Cursor := ⟨x.tokens ++ (SExpr.tokensOf xs ++ t :: rest), stop⟩
      have hlead : ¬start.token.Closes := by
        simp only [start, hts]
        exact h.1.not_closes_leading
      rw [SExpr.tokensOf_cons, List.append_assoc, items_of_not_closes hlead, bind_ok hx,
        bind_consed, hxs]
      rfl
end

/-- At top level s-expressions of the grammar are read whatever comes after them. -/
theorem exprs_append {xs : List SExpr} (h : SExpr.AllShaped xs)
    (hs : ∀ x ∈ xs, x.leading.kind ≠ .endMark) (c : Cursor) :
    exprs ⟨SExpr.tokensOf xs ++ c.rest, c.stop⟩ = ((exprs c).1.map (xs ++ ·), (exprs c).2) := by
  induction xs with
  | nil =>
      show exprs c = ((exprs c).1.map fun ys => ys, (exprs c).2)
      rcases exprs c with ⟨result, d⟩
      cases result <;> rfl
  | cons x xs ih =>
      have hx := sexpr_tokens h.1 (SExpr.tokensOf xs ++ c.rest) c.stop
      obtain ⟨ts, hts⟩ := x.tokens_eq_leading_cons
      have hend : (Cursor.mk (x.tokens ++ (SExpr.tokensOf xs ++ c.rest)) c.stop).isEnd = false := by
        rw [hts]
        exact beq_eq_false_iff_ne.2 (hs x List.mem_cons_self)
      rw [SExpr.tokensOf_cons, List.append_assoc, exprs_of_not_end hend, bind_ok hx, bind_consed,
        ih h.2 fun y hy => hs y (List.mem_cons_of_mem x hy)]
      rcases exprs c with ⟨result, d⟩
      cases result <;> rfl

/-- The next token has to end the program, whether it is the end marker or a token of
the list. -/
theorem exprs_tokens {xs : List SExpr} (h : SExpr.AllShaped xs)
    (hs : ∀ x ∈ xs, x.leading.kind ≠ .endMark) {c : Cursor} (hc : c.token.kind = .endMark) :
    exprs ⟨SExpr.tokensOf xs ++ c.rest, c.stop⟩ = (.ok xs, c) := by
  rw [exprs_append h hs, exprs_of_end (beq_iff_eq.2 hc)]
  show (Except.ok (xs ++ []), c) = _
  rw [List.append_nil]

/-! ## Whole programs -/

theorem parse_eq (tokens : List Token) :
    parse tokens = (exprs (Cursor.ofTokens tokens)).1.map Program.mk := by
  rcases h : exprs (Cursor.ofTokens tokens) with ⟨result, d⟩
  cases result with
  | ok xs => exact parse_of_exprs_ok h
  | error e => exact parse_of_exprs_error h

theorem parse_eq_ok {tokens : List Token} {p : Program} :
    parse tokens = .ok p ↔ (exprs (Cursor.ofTokens tokens)).1 = .ok p.exprs := by
  rw [parse_eq]
  cases (exprs (Cursor.ofTokens tokens)).1 with
  | ok xs =>
      constructor
      · rintro ⟨⟩
        rfl
      · rintro ⟨⟩
        rfl
  | error e =>
      constructor
      · rintro ⟨⟩
      · rintro ⟨⟩

theorem derived_of_parse {ts : List Token} {p : Program} (h : parse ts = .ok p) :
    p.Shaped ∧ p.Started ∧
      ∃ e rest, ts ++ [Token.endAt (Cursor.ofTokens ts).stop] = p.tokens ++ e :: rest ∧
        e.kind = .endMark := by
  have hok := parse_eq_ok.1 h
  obtain ⟨hshaped, hstarted, hend⟩ := shape.of_exprs (Cursor.ofTokens ts) _ hok
  have hread := consumption.of_exprs (Cursor.ofTokens ts)
  generalize exprs (Cursor.ofTokens ts) = r at hok hend hread
  obtain ⟨_, d⟩ := r
  cases hok
  obtain ⟨rest, hrest⟩ := d.toList_eq_token_cons
  exact ⟨hshaped, hstarted, d.token, rest, hrest ▸ hread.toList, hend⟩

/-- The tokens of a program of the grammar parse as that program, also when more
tokens follow, if the next one is of kind end. -/
theorem parse_tokens {p : Program} (hp : p.Shaped) (hs : p.Started) (rest : List Token)
    (hr : ∀ t ∈ rest.head?, t.kind = .endMark) : parse (p.tokens ++ rest) = .ok p := by
  let c : Cursor := ⟨rest, (Cursor.ofTokens (p.tokens ++ rest)).stop⟩
  have hc : c.token.kind = .endMark := by
    cases rest with
    | nil => rfl
    | cons t ts => exact hr t rfl
  exact parse_eq_ok.2 (congrArg Prod.fst (exprs_tokens hp hs hc))

/-- The first token of kind end in a buffer without others is the end marker. -/
theorem eq_of_append_endMark {ts us rest : List Token} {e m : Token}
    (hts : ∀ t ∈ ts, t.kind ≠ .endMark) (he : e.kind = .endMark)
    (h : ts ++ [m] = us ++ e :: rest) : us = ts := by
  rcases List.append_eq_append_iff.1 h with ⟨as, rfl, has⟩ | ⟨bs, rfl, hbs⟩
  · cases as with
    | nil => exact List.append_nil ts
    | cons a as =>
        have hl := congrArg List.length has
        simp only [List.length_append, List.length_cons, List.length_nil] at hl
        omega
  · cases bs with
    | nil => exact (List.append_nil us).symm
    | cons b bs =>
        obtain ⟨rfl, -⟩ := List.cons.inj hbs
        exact absurd he (hts e (List.mem_append_right us List.mem_cons_self))

theorem started_of_tokens {p : Program} (h : ∀ t ∈ p.tokens, t.kind ≠ .endMark) : p.Started := by
  intro x hx
  obtain ⟨ts, hts⟩ := x.tokens_eq_leading_cons
  refine h x.leading (SExpr.mem_tokensOf hx ?_)
  rw [hts]
  exact List.mem_cons_self

theorem parse_eq_ok_of_no_endMark {ts : List Token} (h : ∀ t ∈ ts, t.kind ≠ .endMark)
    (p : Program) : parse ts = .ok p ↔ p.Shaped ∧ p.tokens = ts := by
  constructor
  · intro hp
    obtain ⟨hshaped, -, e, rest, hbuffer, he⟩ := derived_of_parse hp
    exact ⟨hshaped, eq_of_append_endMark h he hbuffer⟩
  · rintro ⟨hp, rfl⟩
    have := parse_tokens hp (started_of_tokens h) [] nofun
    rwa [List.append_nil] at this

end Parser

/-- The parser accepts exactly the grammar, and returns the derivation.  On a
list without tokens of kind end the program is the only one of the grammar with
these tokens. -/
theorem parse_iff_derivation (ts : List Token) (p : Program) :
    (parse ts = .ok p → p.Shaped ∧ p.Started ∧
      ∃ e rest, ts ++ [Token.endAt (Cursor.ofTokens ts).stop] = p.tokens ++ e :: rest ∧
        e.kind = .endMark) ∧
    (p.Shaped → p.Started → ∀ rest : List Token, (∀ t ∈ rest.head?, t.kind = .endMark) →
      parse (p.tokens ++ rest) = .ok p) ∧
    ((∀ t ∈ ts, t.kind ≠ .endMark) →
      (parse ts = .ok p ↔ p.Shaped ∧ p.tokens = ts) ∧
      ∀ q : Program, p.Shaped → p.tokens = ts → q.Shaped → q.tokens = ts → p = q) := by
  refine ⟨Parser.derived_of_parse, Parser.parse_tokens, fun h => ?_⟩
  refine ⟨Parser.parse_eq_ok_of_no_endMark h p, fun q hp hpt hq hqt => ?_⟩
  have hparse := (Parser.parse_eq_ok_of_no_endMark h p).2 ⟨hp, hpt⟩
  rw [(Parser.parse_eq_ok_of_no_endMark h q).2 ⟨hq, hqt⟩] at hparse
  exact (Except.ok.inj hparse).symm

end Sexpr
