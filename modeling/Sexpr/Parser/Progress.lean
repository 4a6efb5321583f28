import Sexpr.Parser.Basic

namespace Sexpr
namespace Parser

/-- An answer reached from `c`, known to have taken at least `k` tokens.  The
nonterminals of the grammar call one another through this type, which is what
makes their recursion well founded. -/
structure Progress (k : Nat) (α : Type) (c : Cursor) where
  answer : Except ParseError α × Cursor
  took : Took k c answer

namespace Progress

variable {α β : Type} {j k : Nat} {c : Cursor}

/-- Goes on from where the first answer was reached, unless that is a failure.
The continuation is told how many tokens are gone. -/
def bind : Progress j α c →
    (α → (d : Cursor) → d.rest.length + j ≤ c.rest.length → Progress k β d) →
    Progress (j + k) β c
  | ⟨(.ok a, d), h⟩, f =>
    have hd : d.rest.length + j ≤ c.rest.length := h.2 a rfl
    let r := f a d hd
    { answer := r.answer
      took := by
        have hr := r.took
        refine ⟨Nat.le_trans hr.1 (by omega), fun b hb => ?_⟩
        have := hr.2 b hb
        omega }
  | ⟨(.error e, d), h⟩, _ => { answer := (.error e, d), took := ⟨h.1, nofun⟩ }

/-- The same answer, claiming less about it. -/
def weaken (p : Progress k α c) (h : j ≤ k) : Progress j α c where
  answer := p.answer
  took := ⟨p.took.1, fun a ha => by have := p.took.2 a ha; omega⟩

def pure (a : α) (c : Cursor) : Progress 0 α c where
  answer := (.ok a, c)
  took := ⟨Nat.le_refl _, fun _ _ => Nat.le_refl _⟩

def ofAtom (c : Cursor) : Progress 1 Token c where
  answer := atom c
  took := atom_took c

def ofLiteral (text : String) (h : text ≠ "") (c : Cursor) : Progress 1 Token c where
  answer := literal text c
  took := literal_took h c

/-- Forgetting the bookkeeping, `bind` is the one of `Parser`. -/
theorem answer_bind (p : Progress j α c)
    (f : α → (d : Cursor) → d.rest.length + j ≤ c.rest.length → Progress k β d)
    {q : Parser α} {g : α → Parser β} (hq : p.answer = q c)
    (hg : ∀ a d h, (f a d h).answer = g a d) : (p.bind f).answer = (q >>= g) c := by
  rw [bind_apply, ← hq]
  obtain ⟨⟨result, d⟩, h⟩ := p
  cases result with
  | ok a => exact hg a d _
  | error e => rfl

end Progress
end Parser
end Sexpr
