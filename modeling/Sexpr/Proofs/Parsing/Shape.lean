/-
The trees of the grammar.

A tree keeps the tokens it was read from, so all the grammar asks of it is which
tokens stand where: an atom is a token of an atom kind, and a list stands between
a token that opens it and one that closes it.  The two parentheses are not
tested alike.  The opening one is known by its text, and only has to be no atom;
the closing one is known by its kind and its text.
-/
import Sexpr.Tree

namespace Sexpr

namespace Token

/-- Whether a list may start with a token. -/
def Opens (t : Token) : Prop := t.kind.isAtom = false ∧ t.text = "("

/-- Whether a list may end with a token. -/
def Closes (t : Token) : Prop := t.kind = .literal ∧ t.text = ")"

instance (t : Token) : Decidable t.Opens := inferInstanceAs (Decidable (_ ∧ _))

instance (t : Token) : Decidable t.Closes := inferInstanceAs (Decidable (_ ∧ _))

theorem isLiteral_iff {t : Token} {text : String} :
    t.isLiteral text = true ↔ t.kind = .literal ∧ t.text = text := by
  simp only [isLiteral, Bool.and_eq_true, beq_iff_eq]

theorem Closes.isAtom {t : Token} (h : t.Closes) : t.kind.isAtom = false := by
  rw [h.1]
  rfl

theorem Opens.not_closes {t : Token} (h : t.Opens) : ¬t.Closes := by
  intro hc
  exact absurd (h.2.symm.trans hc.2) (by decide)

theorem not_closes_of_isAtom {t : Token} (h : t.kind.isAtom = true) : ¬t.Closes := by
  intro hc
  rw [hc.isAtom] at h
  exact Bool.false_ne_true h

/-- The end marker has no text, so it neither opens nor closes a list. -/
theorem not_opens_endAt (offset : Nat) : ¬(endAt offset).Opens := by
  intro h
  exact absurd h.2 (by simp [endAt])

theorem not_closes_endAt (offset : Nat) : ¬(endAt offset).Closes := by
  intro h
  exact absurd h.2 (by simp [endAt])

end Token

namespace SExpr

mutual
/-- Whether every token of a tree is one the grammar allows in its place. -/
def Shaped : SExpr → Prop
  | atom t => t.kind.isAtom = true
  | list opening items closing => opening.Opens ∧ AllShaped items ∧ closing.Closes

def AllShaped : List SExpr → Prop
  | [] => True
  | x :: xs => Shaped x ∧ AllShaped xs
end

@[simp]
theorem shaped_atom (t : Token) : (atom t).Shaped ↔ t.kind.isAtom = true := Iff.rfl

@[simp]
theorem shaped_list (o c : Token) (xs : List SExpr) :
    (list o xs c).Shaped ↔ o.Opens ∧ AllShaped xs ∧ c.Closes := Iff.rfl

@[simp]
theorem allShaped_nil : AllShaped [] := trivial

@[simp]
theorem allShaped_cons (x : SExpr) (xs : List SExpr) :
    AllShaped (x :: xs) ↔ x.Shaped ∧ AllShaped xs := Iff.rfl

def leading : SExpr → Token
  | atom t => t
  | list opening _ _ => opening

theorem tokens_eq_leading_cons (x : SExpr) : ∃ ts, x.tokens = x.leading :: ts := by
  cases x with
  | atom t => exact ⟨[], rfl⟩
  | list o xs c => exact ⟨tokensOf xs ++ [c], rfl⟩

theorem mem_tokensOf {x : SExpr} {xs : List SExpr} (hx : x ∈ xs) {t : Token} (ht : t ∈ x.tokens) :
    t ∈ tokensOf xs := by
  obtain ⟨as, bs, rfl⟩ := List.append_of_mem hx
  rw [tokensOf_append, tokensOf_cons]
  exact List.mem_append_right _ (List.mem_append_left _ ht)

/-- No s-expression starts with a token that ends a list, so one token decides
whether a list goes on. -/
theorem Shaped.not_closes_leading {x : SExpr} (h : x.Shaped) : ¬x.leading.Closes := by
  cases x with
  | atom t => exact Token.not_closes_of_isAtom h
  | list o xs c => exact h.1.not_closes

end SExpr

namespace Program

def Shaped (p : Program) : Prop := SExpr.AllShaped p.exprs

/-- Whether no s-expression at top level starts with a token of kind end.  An
opening token may have that kind, and is then taken for the end of the input. -/
def Started (p : Program) : Prop := ∀ x ∈ p.exprs, x.leading.kind ≠ .endMark

end Program
end Sexpr
