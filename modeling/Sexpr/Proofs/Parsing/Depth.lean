/-
The parser as a count of open lists.

A row of tokens is a program exactly if a flat scan accepts it that only keeps
the number of open lists.  The scan also finds the token of the error: where it
rejects, the parser has got to the same token, and reports it as the place where
a `(` was expected.  It cannot have got stuck in another way, for at every token
that is refused an s-expression could start.

On the tokens of a source the count is that of the parentheses, and the error is
at the first `)` too many or else at the end.
-/
import Mathlib.Algebra.Ring.Int.Defs
import Sexpr.Proofs.Lexing.Rules
import Sexpr.Proofs.Parsing.Consumption

namespace Sexpr
namespace Depth

/-- How a scan ends. -/
inductive Verdict where
  | accepted
  | rejected (t : Token)

/-- Scans a row of tokens with `depth` open lists.  The row should hold a token
that ends the scan, as every buffer does with its end marker. -/
def scan : Nat → List Token → Option Verdict
  | _, [] => none
  | depth, t :: ts =>
    if depth = 0 ∧ t.kind = .endMark then some .accepted
    else if t.kind.isAtom then scan depth ts
    else if t.text = "(" then scan (depth + 1) ts
    else if 0 < depth ∧ t.kind = .literal ∧ t.text = ")" then scan (depth - 1) ts
    else some (.rejected t)

variable {depth : Nat} {t : Token} {ts : List Token}

theorem scan_endMark (h : t.kind = .endMark) : scan 0 (t :: ts) = some .accepted := by
  rw [scan, if_pos ⟨rfl, h⟩]

theorem scan_atom (h : t.kind.isAtom = true) : scan depth (t :: ts) = scan depth ts := by
  have hk : t.kind ≠ .endMark := by
    intro hk
    rw [hk] at h
    exact Bool.noConfusion h
  rw [scan, if_neg (fun he => hk he.2), if_pos h]

theorem scan_opens (h : t.Opens) (hk : depth = 0 → t.kind ≠ .endMark) :
    scan depth (t :: ts) = scan (depth + 1) ts := by
  rw [scan, if_neg (fun he => hk he.1 he.2), if_neg (Bool.eq_false_iff.1 h.1), if_pos h.2]

theorem scan_closes (h : t.Closes) : scan (depth + 1) (t :: ts) = scan depth ts := by
  have ho : t.text ≠ "(" := fun ho => absurd (ho.symm.trans h.2) (by decide)
  rw [scan, if_neg (fun he => Nat.succ_ne_zero depth he.1), if_neg (Bool.eq_false_iff.1 h.isAtom),
    if_neg ho, if_pos ⟨Nat.zero_lt_succ depth, h⟩]
  rfl

/-- A token is rejected if it is no atom, opens no list, and neither ends the
input at depth zero nor a list at another depth. -/
theorem scan_rejects (ha : t.kind.isAtom = false) (ho : t.text ≠ "(")
    (hk : depth = 0 → t.kind ≠ .endMark) (hc : 0 < depth → ¬t.Closes) :
    scan depth (t :: ts) = some (.rejected t) := by
  rw [scan, if_neg (fun he => hk he.1 he.2), if_neg (Bool.eq_false_iff.1 ha), if_neg ho,
    if_neg (fun he => hc he.1 he.2)]

/-! ## The scan along a run of the parser -/

/-- What the scan has to do from where a run starts: pass over what the run
consumes, or stop at the token at which the run fails. -/
def Follows {α : Type} (depth : Nat) (c : Cursor) : Except ParseError α × Cursor → Prop
  | (.ok _, d) => scan depth c.toList = scan depth d.toList
  | (.error _, d) => scan depth c.toList = some (.rejected d.token)

theorem Follows.consed {c d : Cursor} {x : SExpr} {r : Except ParseError (List SExpr) × Cursor}
    (hx : scan depth c.toList = scan depth d.toList) (hr : Follows depth d r) :
    Follows depth c (Parser.consed x r) := by
  match r, hr with
  | (.ok _, _), hr => exact hx.trans hr
  | (.error _, _), hr => exact hx.trans hr

/-- Where an s-expression is wanted, the scan has not come to an end. -/
def Wanted (depth : Nat) (c : Cursor) : Prop :=
  (depth = 0 → c.token.kind ≠ .endMark) ∧ (0 < depth → ¬c.token.Closes)

theorem toList_of_text {c : Cursor} {text : String} (h : c.token.text = text) (hne : text ≠ "") :
    c.toList = c.token :: c.advance.toList :=
  (Cursor.Passes.of_text h hne).toList

/-- The top level is scanned to the end: a program is accepted where it ends. -/
def FollowsTop (c : Cursor) : Except ParseError (List SExpr) × Cursor → Prop
  | (.ok _, _) => scan 0 c.toList = some .accepted
  | (.error _, d) => scan 0 c.toList = some (.rejected d.token)

theorem follows :
    Parser.Descent (fun c r => ∀ depth, Wanted depth c → Follows depth c r)
      (fun c r => c.token.kind.isAtom = false → ∀ depth, Wanted depth c → Follows depth c r)
      (fun c r => ∀ depth, Follows (depth + 1) c r) FollowsTop where
  atom c ha depth _ := by
    have hc : c.toList = c.token :: c.advance.toList :=
      (Cursor.Passes.advance (Cursor.rest_ne_nil_of_peekAtom ha)).toList
    show scan depth c.toList = scan depth c.advance.toList
    rw [hc, scan_atom ha]
  list c r ha hl := hl ha
  unopened c ho ha depth hw := by
    obtain ⟨ts, hts⟩ := c.toList_eq_token_cons
    show scan depth c.toList = some (.rejected c.token)
    rw [hts, scan_rejects ha ho hw.1 hw.2]
  broken c e d ho hi ha depth hw := by
    show scan depth c.toList = some (.rejected d.token)
    rw [toList_of_text ho (by decide), scan_opens ⟨ha, ho⟩ hw.1]
    exact hi depth
  closed c xs d ho hd hi ha depth hw := by
    have hitems : scan (depth + 1) c.advance.toList = scan (depth + 1) d.toList := hi depth
    show scan depth c.toList = scan depth d.advance.toList
    rw [toList_of_text ho (by decide), scan_opens ⟨ha, ho⟩ hw.1, hitems,
      toList_of_text hd.2 (by decide), scan_closes hd]
  none c _ depth := rfl
  bad c e d hc hs depth := hs (depth + 1) ⟨nofun, fun _ => hc⟩
  more c x d r hc hs hi depth :=
    Follows.consed (hs (depth + 1) ⟨nofun, fun _ => hc⟩) (hi depth)
  finished c hc := by
    obtain ⟨ts, hts⟩ := c.toList_eq_token_cons
    show scan 0 c.toList = some .accepted
    rw [hts, scan_endMark hc]
  badTop c e d hc hs := hs 0 ⟨fun _ => hc, fun h => absurd h (Nat.lt_irrefl 0)⟩
  moreTop c x d r hc hs hp := by
    have hx : scan 0 c.toList = scan 0 d.toList :=
      hs 0 ⟨fun _ => hc, fun h => absurd h (Nat.lt_irrefl 0)⟩
    match r, hp with
    | (.ok _, _), hp => exact hx.trans hp
    | (.error _, _), hp => exact hx.trans hp

def refusal (t : Token) : ParseError :=
  { found := t.text, kind := t.kind, expected := "`(`", span := t.span }

def buffer (ts : List Token) : List Token := ts ++ [Token.endAt (Cursor.ofTokens ts).stop]

/-- A row of tokens is either accepted and parsed, or rejected and refused at the
same token. -/
theorem scan_buffer (ts : List Token) :
    (scan 0 (buffer ts) = some .accepted ∧ ∃ p, parse ts = .ok p) ∨
      ∃ t, scan 0 (buffer ts) = some (.rejected t) ∧ parse ts = .error (refusal t) := by
  have hf := follows.of_exprs (Cursor.ofTokens ts)
  have hc := Parser.consumption.of_exprs (Cursor.ofTokens ts)
  rcases hr : Parser.exprs (Cursor.ofTokens ts) with ⟨result, d⟩
  cases result with
  | ok xs =>
      rw [hr] at hf
      exact .inl ⟨hf, ⟨xs⟩, Parser.parse_of_exprs_ok hr⟩
  | error e =>
      rw [hr] at hf hc
      refine .inr ⟨d.token, hf, ?_⟩
      rw [Parser.parse_of_exprs_error hr, hc.1]
      rfl

/-! ## Counting parentheses -/

/-- What a token adds to the depth. -/
def weight (t : Token) : Int :=
  if t.isLiteral "(" then 1 else if t.isLiteral ")" then -1 else 0

/-- Opening parentheses less closing ones. -/
def balance (ts : List Token) : Int := (ts.map weight).sum

/-- Whether the depth never falls below zero on the way along `ts`. -/
def NonNegative (depth : Int) (ts : List Token) : Prop :=
  ∀ us, us <+: ts → 0 ≤ depth + balance us

theorem balance_nil : balance [] = 0 := rfl

theorem balance_cons (t : Token) (ts : List Token) :
    balance (t :: ts) = weight t + balance ts := by
  rw [balance, List.map_cons, List.sum_cons]
  rfl

theorem balance_append (ts us : List Token) : balance (ts ++ us) = balance ts + balance us := by
  rw [balance, List.map_append, List.sum_append]
  rfl

theorem nonNegative_nil {depth : Nat} : NonNegative depth [] := by
  intro us hus
  rw [List.prefix_nil.1 hus, balance_nil]
  omega

theorem nonNegative_cons {depth : Nat} (h : NonNegative (depth + weight t) ts) :
    NonNegative depth (t :: ts) := by
  intro us hus
  rcases List.prefix_cons_iff.1 hus with rfl | ⟨vs, rfl, hvs⟩
  · rw [balance_nil]
    omega
  · have := h vs hvs
    rw [balance_cons]
    omega

theorem weight_of_isAtom (h : t.kind.isAtom = true) : weight t = 0 := by
  have hl (text : String) : t.isLiteral text ≠ true := by
    intro hl
    rw [(Token.isLiteral_iff.1 hl).1] at h
    exact Bool.noConfusion h
  rw [weight, if_neg (hl _), if_neg (hl _)]

theorem weight_of_opening (hk : t.kind = .literal) (ht : t.text = "(") : weight t = 1 := by
  rw [weight, if_pos (Token.isLiteral_iff.2 ⟨hk, ht⟩)]

theorem weight_of_closes (h : t.Closes) : weight t = -1 := by
  have ho : t.isLiteral "(" ≠ true := by
    intro ho
    exact absurd ((Token.isLiteral_iff.1 ho).2.symm.trans h.2) (by decide)
  rw [weight, if_neg ho, if_pos (Token.isLiteral_iff.2 h)]

/-- Along plain tokens the scan keeps the balance, up to the first token that
would bring it below zero. -/
theorem scan_plain (depth : Nat) (h : ∀ t ∈ ts, t.Plain) (rest : List Token) :
    (NonNegative depth ts ∧
      ∃ k : Nat, k = depth + balance ts ∧ scan depth (ts ++ rest) = scan k rest) ∨
    ∃ us t vs, ts = us ++ t :: vs ∧ NonNegative depth us ∧ depth + balance us = 0 ∧ t.Closes ∧
      scan depth (ts ++ rest) = some (.rejected t) := by
  induction ts generalizing depth with
  | nil => exact .inl ⟨nonNegative_nil, depth, by rw [balance_nil, Int.add_zero], rfl⟩
  | cons t ts ih =>
      -- One step from `depth` to `next`, wherever that is not below zero.
      have step (next : Nat) (hw : (next : Int) = depth + weight t)
          (hs : scan depth (t :: (ts ++ rest)) = scan next (ts ++ rest)) :
          (NonNegative depth (t :: ts) ∧
            ∃ k : Nat, k = depth + balance (t :: ts) ∧
              scan depth (t :: ts ++ rest) = scan k rest) ∨
          ∃ us u vs, t :: ts = us ++ u :: vs ∧ NonNegative depth us ∧ depth + balance us = 0 ∧
            u.Closes ∧ scan depth (t :: ts ++ rest) = some (.rejected u) := by
        rw [List.cons_append, hs, balance_cons]
        have hts : ∀ u ∈ ts, u.Plain := fun u hu => h u (List.mem_cons_of_mem t hu)
        rcases ih next hts with ⟨hn, k, hk, hscan⟩ | ⟨us, u, vs, rfl, hn, hz, hu, hscan⟩
        · exact .inl ⟨nonNegative_cons (hw ▸ hn), k, by omega, hscan⟩
        · refine .inr ⟨t :: us, u, vs, rfl, nonNegative_cons (hw ▸ hn), ?_, hu, hscan⟩
          rw [balance_cons]
          omega
      rcases h t List.mem_cons_self with ha | ⟨hk, ht | ht⟩
      · exact step depth (by rw [weight_of_isAtom ha, Int.add_zero]) (scan_atom ha)
      · have ho : t.Opens := ⟨by rw [hk]; rfl, ht⟩
        have hne : t.kind ≠ .endMark := by
          rw [hk]
          exact nofun
        exact step (depth + 1) (by rw [weight_of_opening hk ht]; rfl) (scan_opens ho fun _ => hne)
      · have hc : t.Closes := ⟨hk, ht⟩
        cases depth with
        | zero =>
            have ho : t.text ≠ "(" := fun ho => absurd (ho.symm.trans ht) (by decide)
            have hne : t.kind ≠ .endMark := by
              rw [hk]
              exact nofun
            exact .inr ⟨[], t, ts, rfl, nonNegative_nil, rfl, hc,
              scan_rejects hc.isAtom ho (fun _ => hne) fun h => absurd h (Nat.lt_irrefl 0)⟩
        | succ depth =>
            exact step depth (by rw [weight_of_closes hc]; omega) (scan_closes hc)

/-- Plain tokens parse exactly if their parentheses are balanced.  Otherwise the
error is at the first `)` too many, or at the end if none is. -/
theorem parse_plain (h : ∀ t ∈ ts, t.Plain) :
    ((∃ p, parse ts = .ok p) ↔ NonNegative 0 ts ∧ balance ts = 0) ∧
    ∀ e, parse ts = .error e →
      (∃ us t vs, ts = us ++ t :: vs ∧ NonNegative 0 us ∧ balance us = 0 ∧ t.Closes ∧
        e = refusal t) ∨
      NonNegative 0 ts ∧ 0 < balance ts ∧ e = refusal (Token.endAt (Cursor.ofTokens ts).stop) := by
  let marker := Token.endAt (Cursor.ofTokens ts).stop
  have hbuffer := scan_buffer ts
  rcases scan_plain 0 h [marker] with ⟨hn, k, hk, hs⟩ | ⟨us, t, vs, hts, hn, hz, ht, hs⟩
  · rw [Int.ofNat_zero, Int.zero_add] at hk
    cases k with
    | zero =>
        have haccept : scan 0 (buffer ts) = some .accepted := hs.trans (scan_endMark rfl)
        rcases hbuffer with ⟨-, p, hp⟩ | ⟨t, ht, -⟩
        · refine ⟨⟨fun _ => ⟨hn, hk.symm⟩, fun _ => ⟨p, hp⟩⟩, fun e he => ?_⟩
          rw [hp] at he
          exact nomatch he
        · rw [haccept] at ht
          exact nomatch ht
    | succ k =>
        have hreject : scan 0 (buffer ts) = some (.rejected marker) :=
          hs.trans (scan_rejects rfl (fun ho => Token.not_opens_endAt _ ⟨rfl, ho⟩) nofun
            fun _ => Token.not_closes_endAt _)
        rcases hbuffer with ⟨ha, -⟩ | ⟨t, ht, hp⟩
        · rw [hreject] at ha
          exact nomatch ha
        · rw [hreject] at ht
          cases ht
          refine ⟨⟨?_, ?_⟩, fun e he => .inr ⟨hn, by omega, ?_⟩⟩
          · rintro ⟨q, hq⟩
            rw [hp] at hq
            exact nomatch hq
          · rintro ⟨-, hb⟩
            omega
          · rw [hp] at he
            exact (Except.error.inj he).symm
  · rw [Int.ofNat_zero, Int.zero_add] at hz
    rcases hbuffer with ⟨ha, -⟩ | ⟨u, hu, hp⟩
    · exact nomatch hs.symm.trans ha
    · cases hs.symm.trans hu
      refine ⟨⟨?_, ?_⟩, fun e he => .inl ⟨us, t, vs, hts, hn, hz, ht, ?_⟩⟩
      · rintro ⟨q, hq⟩
        rw [hp] at hq
        exact nomatch hq
      · rintro ⟨hpos, -⟩
        have hprefix : us ++ [t] <+: ts := ⟨vs, by rw [hts, List.append_assoc]; rfl⟩
        have := hpos _ hprefix
        rw [balance_append, balance_cons, balance_nil, weight_of_closes ht] at this
        omega
      · rw [hp] at he
        exact (Except.error.inj he).symm

end Depth

open Depth in
/-- The parser agrees with the scan, errors included.  Of the ways to fail, two
are never taken: the closing parenthesis after the items of a list is always
there, and an s-expression that has seen an atom reads one. -/
theorem parse_agrees_with_scan (ts : List Token) :
    ((∃ p, parse ts = .ok p) ↔ scan 0 (buffer ts) = some .accepted) ∧
    (∀ t, scan 0 (buffer ts) = some (.rejected t) → parse ts = .error (refusal t)) ∧
    scan 0 (buffer ts) ≠ none ∧
    (∀ c d xs, Parser.items c = (.ok xs, d) →
      Parser.literal ")" d = (.ok d.token, d.advance)) ∧
    (∀ c d s, Parser.seq c = (.ok s, d) → Parser.literal ")" d = (.ok d.token, d.advance)) ∧
    (∀ c : Cursor, c.peekAtom = true → Parser.atom c = (.ok c.token, c.advance)) ∧
    ∀ source, tokenize source = .ok ts →
      ((∃ p, parse ts = .ok p) ↔ NonNegative 0 ts ∧ balance ts = 0) ∧
      ∀ e, parse ts = .error e →
        (∃ us t vs, ts = us ++ t :: vs ∧ NonNegative 0 us ∧ balance us = 0 ∧ t.Closes ∧
          e = refusal t) ∨
        NonNegative 0 ts ∧ 0 < balance ts ∧
          e = refusal (Token.endAt (Cursor.ofTokens ts).stop) := by
  have hclose {c d : Cursor} {xs : List SExpr} (h : Parser.items c = (.ok xs, d)) :
      Parser.literal ")" d = (.ok d.token, d.advance) :=
    Parser.literal_of_text (Parser.closes_of_items h).2
  have hseq {c d : Cursor} {s : Sequence} (h : Parser.seq c = (.ok s, d)) :
      ∃ c' xs, Parser.items c' = (.ok xs, d) := Parser.items_of_seq h
  refine ⟨?_, ?_, ?_, fun _ _ _ => hclose, fun _ _ _ h => ?_, fun _ => Parser.atom_of_peek,
    fun source h => parse_plain fun t => plain_of_tokenize h⟩
  · rcases scan_buffer ts with ⟨hs, hp⟩ | ⟨t, hs, hp⟩
    · exact ⟨fun _ => hs, fun _ => hp⟩
    · rw [hs, hp]
      exact ⟨fun ⟨_, h⟩ => (nomatch h), fun h => (nomatch h)⟩
  · intro t ht
    rcases scan_buffer ts with ⟨hs, -⟩ | ⟨u, hs, hp⟩
    · exact nomatch hs.symm.trans ht
    · cases hs.symm.trans ht
      exact hp
  · rcases scan_buffer ts with ⟨hs, -⟩ | ⟨t, hs, -⟩ <;> rw [hs] <;> exact nofun
  · obtain ⟨c', xs, hi⟩ := hseq h
    exact hclose hi

end Sexpr
