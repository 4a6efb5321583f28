/-
What a run of the parser consumes.

A nonterminal that succeeds has consumed the tokens of its tree and no others.
One that fails has consumed some tokens and reports the one after them.  It can
only have wanted a `(`: wherever a token is refused, an s-expression could start.
-/
import Sexpr.Proofs.Parsing.Descent

namespace Sexpr

namespace Cursor

/-- From `c` to `d` exactly the tokens `ts` are consumed.  The end marker is not
one of them. -/
structure Passes (c : Cursor) (ts : List Token) (d : Cursor) : Prop where
  rest : c.rest = ts ++ d.rest
  stop : c.stop = d.stop

namespace Passes

theorem refl (c : Cursor) : c.Passes [] c := ⟨rfl, rfl⟩

theorem trans {c d e : Cursor} {ts us : List Token} (h : c.Passes ts d) (k : d.Passes us e) :
    c.Passes (ts ++ us) e :=
  ⟨by rw [h.rest, k.rest, List.append_assoc], h.stop.trans k.stop⟩

theorem advance {c : Cursor} (h : c.rest ≠ []) : c.Passes [c.token] c.advance := by
  obtain ⟨rest, stop⟩ := c
  cases rest with
  | nil => exact absurd rfl h
  | cons t ts => exact ⟨rfl, rfl⟩

theorem of_text {c : Cursor} {text : String} (h : c.token.text = text) (hne : text ≠ "") :
    c.Passes [c.token] c.advance :=
  advance (rest_ne_nil_of_text (h ▸ hne))

theorem unique {c d : Cursor} {ts us : List Token} (h : c.Passes ts d) (k : c.Passes us d) :
    ts = us :=
  List.append_cancel_right (h.rest.symm.trans k.rest)

theorem toList {c d : Cursor} {ts : List Token} (h : c.Passes ts d) :
    c.toList = ts ++ d.toList := by
  rw [Cursor.toList, Cursor.toList, h.rest, h.stop, List.append_assoc]

end Passes

theorem toList_eq_token_cons (c : Cursor) : ∃ ts, c.toList = c.token :: ts := by
  obtain ⟨rest, stop⟩ := c
  cases rest with
  | nil => exact ⟨[], rfl⟩
  | cons t ts => exact ⟨ts ++ [Token.endAt stop], rfl⟩

end Cursor

namespace Parser

/-- What a run from `c` may do: consume the tokens of its answer, or fail at the
token where it stops. -/
def Consumes {α : Type} (tokens : α → List Token) (c : Cursor) :
    Except ParseError α × Cursor → Prop
  | (.ok a, d) => c.Passes (tokens a) d
  | (.error e, d) => e = d.unexpected "`(`" ∧ ∃ ts, c.Passes ts d

theorem Consumes.consed {c d : Cursor} {x : SExpr} {r : Except ParseError (List SExpr) × Cursor}
    (hx : c.Passes x.tokens d) (hr : Consumes SExpr.tokensOf d r) :
    Consumes SExpr.tokensOf c (consed x r) := by
  match r, hr with
  | (.ok xs, e), hr => exact hx.trans hr
  | (.error _, _), ⟨he, ts, hr⟩ => exact ⟨he, x.tokens ++ ts, hx.trans hr⟩

theorem consumption :
    Descent (Consumes SExpr.tokens) (Consumes SExpr.tokens) (Consumes SExpr.tokensOf)
      (Consumes SExpr.tokensOf) where
  atom c ha := Cursor.Passes.advance (Cursor.rest_ne_nil_of_peekAtom ha)
  list _ _ _ hl := hl
  unopened c _ := ⟨rfl, [], .refl c⟩
  broken c e d ho hi := by
    obtain ⟨he, ts, hd⟩ := hi
    exact ⟨he, [c.token] ++ ts, (Cursor.Passes.of_text ho (by decide)).trans hd⟩
  closed c xs d ho hd hi := by
    have hopen : c.Passes [c.token] c.advance := .of_text ho (by decide)
    have hclose : d.Passes [d.token] d.advance := .of_text hd.2 (by decide)
    exact (hopen.trans hi).trans hclose
  none c _ := .refl c
  bad _ _ _ _ hs := hs
  more _ _ _ _ _ hs hi := hi.consed hs
  finished c _ := .refl c
  badTop _ _ _ _ hs := hs
  moreTop _ _ _ _ _ hs hp := hp.consed hs

end Parser
end Sexpr
