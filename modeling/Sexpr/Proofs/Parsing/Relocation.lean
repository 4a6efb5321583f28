/-
Parsing tokens that were moved.

The parser tests kinds and texts and copies spans.  So if all tokens of a row are moved
alike, the end marker with them, every nonterminal goes the same way, and what it
answers is moved with the tokens: the tree, or the error, and the place where it stops.
A run on one row is in this way a run on every row with the same labels.
-/
import Sexpr.Proofs.Parsing.Places

namespace Sexpr

def ParseError.mapSpan (g : Span → Span) (e : ParseError) : ParseError := { e with span := g e.span }

namespace Cursor

theorem stop_ofTokens {ts : List Token} {t : Token} (h : ts.getLast? = some t) :
    (ofTokens ts).stop = t.span.stop := by
  rw [ofTokens, h]
  rfl

/-- Whether `d` has the tokens of `c`, end marker included, each moved by `g`. -/
structure MovedTo (g : Span → Span) (c d : Cursor) : Prop where
  rest : d.rest = c.rest.map (·.mapSpan g)
  marker : Token.endAt d.stop = (Token.endAt c.stop).mapSpan g

namespace MovedTo

variable {g : Span → Span} {c d : Cursor}

theorem token (h : c.MovedTo g d) : d.token = c.token.mapSpan g := by
  obtain ⟨rest, stop⟩ := c
  obtain ⟨_, stop'⟩ := d
  obtain ⟨rfl, hmarker⟩ := h
  cases rest with
  | nil => exact hmarker
  | cons t ts => rfl

theorem advance (h : c.MovedTo g d) : c.advance.MovedTo g d.advance where
  rest := by
    show d.rest.tail = c.rest.tail.map _
    rw [h.rest, List.map_tail]
  marker := h.marker

theorem unexpected (h : c.MovedTo g d) (expected : String) :
    d.unexpected expected = (c.unexpected expected).mapSpan g := by
  rw [Cursor.unexpected, h.token]
  rfl

theorem kind (h : c.MovedTo g d) : d.token.kind = c.token.kind := by
  rw [h.token]
  rfl

theorem text (h : c.MovedTo g d) : d.token.text = c.token.text := by
  rw [h.token]
  rfl

theorem closes (h : c.MovedTo g d) : d.token.Closes ↔ c.token.Closes := by
  rw [Token.Closes, h.kind, h.text]
  rfl

/-- The end marker of a row moves with its last token, whatever stands before the row. -/
theorem ofTokens {ts : List Token} (hne : ts ≠ []) (us : List Token)
    (hg : ∀ s : Span, g ⟨s.stop, s.stop⟩ = ⟨(g s).stop, (g s).stop⟩) :
    (Cursor.ofTokens ts).MovedTo g
      ⟨ts.map (·.mapSpan g), (Cursor.ofTokens (us ++ ts.map (·.mapSpan g))).stop⟩ where
  rest := rfl
  marker := by
    have hlast := List.getLast?_eq_some_getLast hne
    have hlast' : (us ++ ts.map (·.mapSpan g)).getLast? = some ((ts.getLast hne).mapSpan g) := by
      rw [List.getLast?_append, List.getLast?_map, hlast]
      rfl
    show Token.endAt (Cursor.ofTokens (us ++ ts.map (·.mapSpan g))).stop = _
    rw [stop_ofTokens hlast', stop_ofTokens hlast]
    exact congrArg (Token.mk .endMark "") (hg (ts.getLast hne).span).symm

end MovedTo
end Cursor

namespace Parser

/-- Whether a run of `p` from `c` that came to `r` comes to the same, moved, from wherever
`c` is moved to. -/
def Equivariant {α : Type} (g : Span → Span) (move : α → α) (p : Parser α) (c : Cursor)
    (r : Except ParseError α × Cursor) : Prop :=
  ∀ d, c.MovedTo g d →
    ∃ e, p d = ((r.1.mapError (·.mapSpan g)).map move, e) ∧ r.2.MovedTo g e

variable {g : Span → Span}

theorem Equivariant.consed {p : Parser (List SExpr)} {c d : Cursor} {x : SExpr}
    {r : Except ParseError (List SExpr) × Cursor}
    (hx : Equivariant g (·.mapTokens (·.mapSpan g)) sexpr c (.ok x, d))
    (hr : Equivariant g (SExpr.mapAll (·.mapSpan g)) p d r) :
    Equivariant g (SExpr.mapAll (·.mapSpan g))
      (do let x ← sexpr; let xs ← p; return x :: xs) c (consed x r) := by
  intro c' hc
  obtain ⟨d', hsexpr, hd⟩ := hx c' hc
  obtain ⟨e', hp, he⟩ := hr d' hd
  refine ⟨e', ?_, he⟩
  rw [bind_ok hsexpr, bind_consed, hp]
  obtain ⟨result, e⟩ := r
  cases result <;> rfl

theorem Equivariant.failed {p : Parser (List SExpr)} {c d : Cursor} {e : ParseError}
    (hx : Equivariant g (·.mapTokens (·.mapSpan g)) sexpr c (.error e, d)) :
    Equivariant g (SExpr.mapAll (·.mapSpan g))
      (do let x ← sexpr; let xs ← p; return x :: xs) c (.error e, d) := by
  intro c' hc
  obtain ⟨d', hsexpr, hd⟩ := hx c' hc
  exact ⟨d', bind_error hsexpr, hd⟩

theorem equivariance (g : Span → Span) :
    Descent (Equivariant g (·.mapTokens (·.mapSpan g)) sexpr)
      (Equivariant g (·.mapTokens (·.mapSpan g)) list)
      (Equivariant g (SExpr.mapAll (·.mapSpan g)) items)
      (Equivariant g (SExpr.mapAll (·.mapSpan g)) exprs) where
  atom c ha d h := by
    have hd : d.peekAtom = true := by rwa [Cursor.peekAtom, h.kind]
    refine ⟨d.advance, ?_, h.advance⟩
    rw [sexpr_of_atom hd, h.token]
    rfl
  list c r ha hl d h := by
    have hd : d.peekAtom = false := by rwa [Cursor.peekAtom, h.kind]
    rw [sexpr_of_not_atom hd]
    exact hl d h
  unopened c ho d h := by
    have ho' : d.token.text ≠ "(" := by rwa [h.text]
    refine ⟨d, ?_, h⟩
    rw [list_of_unopened ho', h.unexpected]
    rfl
  broken c e d ho hi c' h := by
    obtain ⟨d', hitems, hd⟩ := hi c'.advance h.advance
    exact ⟨d', list_of_items_error (h.text.trans ho) hitems, hd⟩
  closed c xs d ho hc hi c' h := by
    obtain ⟨d', hitems, hd⟩ := hi c'.advance h.advance
    refine ⟨d'.advance, ?_, hd.advance⟩
    rw [list_of_items_ok (h.text.trans ho) hitems (hd.closes.2 hc), h.token, hd.token]
    rfl
  none c hc d h := ⟨d, items_of_closes (h.closes.2 hc), h⟩
  bad c e d hc hs c' h := by
    rw [items_of_not_closes (fun hc' => hc (h.closes.1 hc'))]
    exact hs.failed c' h
  more c x d r hc hs hi c' h := by
    rw [items_of_not_closes (fun hc' => hc (h.closes.1 hc'))]
    exact hs.consed hi c' h
  finished c hc d h := ⟨d, exprs_of_end (beq_iff_eq.2 (h.kind.trans hc)), h⟩
  badTop c e d hc hs c' h := by
    have hend : c'.isEnd = false := by rwa [Cursor.isEnd, h.kind, beq_eq_false_iff_ne]
    rw [exprs_of_not_end hend]
    exact hs.failed c' h
  moreTop c x d r hc hs hp c' h := by
    have hend : c'.isEnd = false := by rwa [Cursor.isEnd, h.kind, beq_eq_false_iff_ne]
    rw [exprs_of_not_end hend]
    exact hs.consed hp c' h

theorem exprs_of_movedTo {c d : Cursor} (h : c.MovedTo g d) :
    (exprs d).1 =
      ((exprs c).1.mapError (·.mapSpan g)).map (SExpr.mapAll (·.mapSpan g)) := by
  obtain ⟨e, hexprs, -⟩ := (equivariance g).of_exprs c d h
  rw [hexprs]

end Parser

/-- The s-expressions of one program and then those of another. -/
instance : Append Program := ⟨fun p q => { exprs := p.exprs ++ q.exprs }⟩

/-- Behind a program of the grammar tokens parse as they do alone and anywhere else: as
the same expressions or with the same error, moved with the tokens. -/
theorem parse_append_mapSpan {p : Program} (hp : p.Shaped) (hs : p.Started) {g : Span → Span}
    (hg : ∀ s : Span, g ⟨s.stop, s.stop⟩ = ⟨(g s).stop, (g s).stop⟩) {ts : List Token}
    (hne : ts ≠ []) :
    parse (p.tokens ++ ts.map (·.mapSpan g)) =
      ((parse ts).mapError (·.mapSpan g)).map (p ++ ·.mapSpan g) := by
  let moved := ts.map (·.mapSpan g)
  let c : Cursor := ⟨moved, (Cursor.ofTokens (p.tokens ++ moved)).stop⟩
  have happend : Parser.exprs (Cursor.ofTokens (p.tokens ++ moved)) =
      ((Parser.exprs c).1.map (p.exprs ++ ·), (Parser.exprs c).2) := Parser.exprs_append hp hs c
  have hmoved : (Parser.exprs c).1 = _ :=
    Parser.exprs_of_movedTo (Cursor.MovedTo.ofTokens hne p.tokens hg)
  rw [Parser.parse_eq, Parser.parse_eq, happend, hmoved]
  cases (Parser.exprs (Cursor.ofTokens ts)).1 <;> rfl

end Sexpr
