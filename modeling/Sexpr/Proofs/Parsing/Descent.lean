/-
Induction over the runs of the parser.

The nonterminals call one another on ever shorter inputs.  `Descent` lists what
a run can do: one field for each way in which a nonterminal succeeds or fails,
with what is known about the runs it calls.  A property that has these fields
holds of every run.

Two ways are missing because no run takes them.  A list whose items were read
stands before a token that closes it, and an s-expression that saw an atom reads
one, so neither of these two steps has a failure.
-/
import Sexpr.Parser.Grammar
import Sexpr.Proofs.Parsing.Shape

namespace Sexpr

namespace Cursor

theorem peekLiteral_eq_true {c : Cursor} : c.peekLiteral ")" = true ↔ c.token.Closes :=
  Token.isLiteral_iff

theorem peekLiteral_eq_false {c : Cursor} : c.peekLiteral ")" = false ↔ ¬c.token.Closes := by
  rw [← peekLiteral_eq_true, Bool.not_eq_true]

end Cursor

namespace Parser

theorem literal_apply (text : String) (c : Cursor) :
    literal text c =
      if c.token.text = text then (.ok c.token, c.advance)
      else (.error (c.unexpected (quoted text)), c) := by
  simp only [literal, ofStep, Cursor.literal]
  split <;> split <;> simp_all

theorem atom_apply (c : Cursor) :
    atom c =
      if c.peekAtom then (.ok c.token, c.advance)
      else (.error (c.unexpected "an atom"), c) := by
  simp only [atom, ofStep, Cursor.atom]
  split <;> split <;> simp_all

theorem bind_ok {α β : Type} {p : Parser α} {f : α → Parser β} {c d : Cursor} {a : α}
    (h : p c = (.ok a, d)) : (p >>= f) c = f a d := by
  rw [bind_apply, h]

theorem bind_error {α β : Type} {p : Parser α} {f : α → Parser β} {c d : Cursor} {e : ParseError}
    (h : p c = (.error e, d)) : (p >>= f) c = (.error e, d) := by
  rw [bind_apply, h]

/-! ## The nonterminals, one way at a time -/

theorem literal_of_text {text : String} {c : Cursor} (h : c.token.text = text) :
    literal text c = (.ok c.token, c.advance) := by
  rw [literal_apply, if_pos h]

theorem literal_of_ne {text : String} {c : Cursor} (h : c.token.text ≠ text) :
    literal text c = (.error (c.unexpected (quoted text)), c) := by
  rw [literal_apply, if_neg h]

theorem atom_of_peek {c : Cursor} (h : c.peekAtom = true) :
    atom c = (.ok c.token, c.advance) := by
  rw [atom_apply, if_pos h]

theorem sexpr_of_atom {c : Cursor} (h : c.peekAtom = true) :
    sexpr c = (.ok (.atom c.token), c.advance) := by
  rw [sexpr_eq, if_pos h]
  show (atom >>= fun t => pure (SExpr.atom t)) c = _
  rw [bind_ok (atom_of_peek h)]
  rfl

theorem sexpr_of_not_atom {c : Cursor} (h : c.peekAtom = false) : sexpr c = list c := by
  rw [sexpr_eq, h]
  rfl

theorem list_of_unopened {c : Cursor} (h : c.token.text ≠ "(") :
    list c = (.error (c.unexpected "`(`"), c) := by
  rw [list_eq, bind_error (literal_of_ne h)]
  rfl

theorem list_of_items_error {c d : Cursor} {e : ParseError} (h : c.token.text = "(")
    (hi : items c.advance = (.error e, d)) : list c = (.error e, d) := by
  rw [list_eq, bind_ok (literal_of_text h), bind_error hi]

theorem list_of_items_ok {c d : Cursor} {xs : List SExpr} (h : c.token.text = "(")
    (hi : items c.advance = (.ok xs, d)) (hd : d.token.Closes) :
    list c = (.ok (.list c.token xs d.token), d.advance) := by
  rw [list_eq, bind_ok (literal_of_text h), bind_ok hi, bind_ok (literal_of_text hd.2)]
  rfl

theorem items_of_closes {c : Cursor} (h : c.token.Closes) : items c = (.ok [], c) := by
  rw [items_eq, if_pos (Cursor.peekLiteral_eq_true.2 h)]

theorem items_of_not_closes {c : Cursor} (h : ¬c.token.Closes) :
    items c = (do let x ← sexpr; let xs ← items; return x :: xs : Parser (List SExpr)) c := by
  rw [items_eq, Cursor.peekLiteral_eq_false.2 h]
  rfl

theorem items_of_seq {c d : Cursor} {s : Sequence} (h : seq c = (.ok s, d)) :
    ∃ c' xs, items c' = (.ok xs, d) := by
  unfold seq at h
  match hx : sexpr c with
  | (.error e, c') =>
      rw [bind_error hx] at h
      exact nomatch (Prod.mk.inj h).1
  | (.ok x, c') =>
      rw [bind_ok hx] at h
      match hxs : items c' with
      | (.error e, d') =>
          rw [bind_error hxs] at h
          exact nomatch (Prod.mk.inj h).1
      | (.ok xs, d') =>
          rw [bind_ok hxs] at h
          obtain ⟨-, rfl⟩ := Prod.mk.inj h
          exact ⟨c', xs, hxs⟩

theorem exprs_of_end {c : Cursor} (h : c.isEnd = true) : exprs c = (.ok [], c) := by
  rw [exprs_eq, if_pos h]

theorem exprs_of_not_end {c : Cursor} (h : c.isEnd = false) :
    exprs c = (do let x ← sexpr; let xs ← exprs; return x :: xs : Parser (List SExpr)) c := by
  rw [exprs_eq, h]
  rfl

theorem parse_of_exprs_ok {ts : List Token} {xs : List SExpr} {d : Cursor}
    (h : exprs (Cursor.ofTokens ts) = (.ok xs, d)) : parse ts = .ok ⟨xs⟩ := by
  show ((exprs >>= fun xs => pure (Program.mk xs)) (Cursor.ofTokens ts)).1 = _
  rw [bind_ok h]
  rfl

theorem parse_of_exprs_error {ts : List Token} {e : ParseError} {d : Cursor}
    (h : exprs (Cursor.ofTokens ts) = (.error e, d)) : parse ts = .error e := by
  show ((exprs >>= fun xs => pure (Program.mk xs)) (Cursor.ofTokens ts)).1 = _
  rw [bind_error h]

def consed (x : SExpr) (r : Except ParseError (List SExpr) × Cursor) :
    Except ParseError (List SExpr) × Cursor :=
  (r.1.map (x :: ·), r.2)

theorem bind_consed {p : Parser (List SExpr)} (x : SExpr) (c : Cursor) :
    (do let xs ← p; return x :: xs : Parser (List SExpr)) c = consed x (p c) := by
  match h : p c with
  | (.ok xs, d) => rw [bind_ok h]; rfl
  | (.error e, d) => rw [bind_error h]; rfl

theorem sexpr_took (c : Cursor) : Took 1 c (sexpr c) := (sexprFrom c).took

theorem length_lt_of_sexpr {c d : Cursor} {x : SExpr} (h : sexpr c = (.ok x, d)) :
    d.rest.length < c.rest.length := by
  have ht := (sexpr_took c).2 x (by rw [h])
  rw [h] at ht
  exact ht

theorem length_lt_of_opened {c : Cursor} (h : c.token.text = "(") :
    c.advance.rest.length < c.rest.length := by
  have hne : c.token.text ≠ "" := by
    rw [h]
    decide
  have := Cursor.length_advance (Cursor.rest_ne_nil_of_text hne)
  omega

/-- The items of a list are read up to a token that closes it. -/
theorem closes_of_items {c d : Cursor} {xs : List SExpr} (h : items c = (.ok xs, d)) :
    d.token.Closes := by
  by_cases hc : c.token.Closes
  · rw [items_of_closes hc] at h
    obtain ⟨-, rfl⟩ := Prod.mk.inj h
    exact hc
  · rw [items_of_not_closes hc] at h
    match hx : sexpr c with
    | (.error e, c') =>
        rw [bind_error hx] at h
        exact nomatch (Prod.mk.inj h).1
    | (.ok x, c') =>
        have := length_lt_of_sexpr hx
        rw [bind_ok hx, bind_consed] at h
        match hxs : items c' with
        | (.error e, d') =>
            rw [hxs] at h
            exact nomatch (Prod.mk.inj h).1
        | (.ok ys, d') =>
            rw [hxs] at h
            obtain ⟨-, rfl⟩ := Prod.mk.inj h
            exact closes_of_items hxs
termination_by c.rest.length

/-! ## The induction -/

/-- What a property of runs has to satisfy: `S`, `L`, `I` and `P` are about the
runs of an s-expression, of a list, of the items of a list, and of the
s-expressions at top level. -/
structure Descent (S L : Cursor → Except ParseError SExpr × Cursor → Prop)
    (I P : Cursor → Except ParseError (List SExpr) × Cursor → Prop) : Prop where
  atom : ∀ c, c.token.kind.isAtom = true → S c (.ok (.atom c.token), c.advance)
  list : ∀ c r, c.token.kind.isAtom = false → L c r → S c r
  unopened : ∀ c, c.token.text ≠ "(" → L c (.error (c.unexpected "`(`"), c)
  broken : ∀ c e d, c.token.text = "(" → I c.advance (.error e, d) → L c (.error e, d)
  closed : ∀ c xs d, c.token.text = "(" → d.token.Closes → I c.advance (.ok xs, d) →
    L c (.ok (.list c.token xs d.token), d.advance)
  none : ∀ c, c.token.Closes → I c (.ok [], c)
  bad : ∀ c e d, ¬c.token.Closes → S c (.error e, d) → I c (.error e, d)
  more : ∀ c x d r, ¬c.token.Closes → S c (.ok x, d) → I d r → I c (consed x r)
  finished : ∀ c, c.token.kind = .endMark → P c (.ok [], c)
  badTop : ∀ c e d, c.token.kind ≠ .endMark → S c (.error e, d) → P c (.error e, d)
  moreTop : ∀ c x d r, c.token.kind ≠ .endMark → S c (.ok x, d) → P d r → P c (consed x r)

namespace Descent

variable {S L : Cursor → Except ParseError SExpr × Cursor → Prop}
  {I P : Cursor → Except ParseError (List SExpr) × Cursor → Prop}

/- The recursion is on the number of tokens to go, and at one position from the
items to the s-expression to the list, which is the order in which the
nonterminals call one another before a token is consumed. -/
mutual
theorem of_sexpr (h : Descent S L I P) (c : Cursor) : S c (Parser.sexpr c) := by
  by_cases ha : c.peekAtom = true
  · rw [sexpr_of_atom ha]
    exact h.atom c ha
  · rw [Bool.not_eq_true] at ha
    rw [sexpr_of_not_atom ha]
    exact h.list c _ ha (h.of_list c)
termination_by 3 * c.rest.length + 1

theorem of_list (h : Descent S L I P) (c : Cursor) : L c (Parser.list c) := by
  by_cases ho : c.token.text = "("
  · have hlt := length_lt_of_opened ho
    have hi := h.of_items c.advance
    match hr : Parser.items c.advance with
    | (.ok xs, d) =>
        have hd := closes_of_items hr
        rw [hr] at hi
        rw [list_of_items_ok ho hr hd]
        exact h.closed c xs d ho hd hi
    | (.error e, d) =>
        rw [hr] at hi
        rw [list_of_items_error ho hr]
        exact h.broken c e d ho hi
  · rw [list_of_unopened ho]
    exact h.unopened c ho
termination_by 3 * c.rest.length

theorem of_items (h : Descent S L I P) (c : Cursor) : I c (Parser.items c) := by
  by_cases hc : c.token.Closes
  · rw [items_of_closes hc]
    exact h.none c hc
  · have hs := h.of_sexpr c
    rw [items_of_not_closes hc]
    match hx : Parser.sexpr c with
    | (.ok x, d) =>
        have hlt := length_lt_of_sexpr hx
        rw [hx] at hs
        rw [bind_ok hx, bind_consed]
        exact h.more c x d _ hc hs (h.of_items d)
    | (.error e, d) =>
        rw [hx] at hs
        rw [bind_error hx]
        exact h.bad c e d hc hs
termination_by 3 * c.rest.length + 2
end

theorem of_exprs (h : Descent S L I P) (c : Cursor) : P c (Parser.exprs c) := by
  by_cases hc : c.isEnd = true
  · rw [exprs_of_end hc]
    exact h.finished c (beq_iff_eq.1 hc)
  · have hs := h.of_sexpr c
    have hk : c.token.kind ≠ .endMark := fun hk => hc (beq_iff_eq.2 hk)
    rw [Bool.not_eq_true] at hc
    rw [exprs_of_not_end hc]
    match hx : Parser.sexpr c with
    | (.ok x, d) =>
        have hlt := length_lt_of_sexpr hx
        rw [hx] at hs
        rw [bind_ok hx, bind_consed]
        exact h.moreTop c x d _ hk hs (h.of_exprs d)
    | (.error e, d) =>
        rw [hx] at hs
        rw [bind_error hx]
        exact h.badTop c e d hk hs
termination_by c.rest.length

end Descent
end Parser
end Sexpr
