/-
Trees up to the places of their tokens.

The parser looks at kinds and texts.  Tokens that have those of a tree's tokens
are therefore the tokens of a tree that differs from it in nothing but spans.
-/
import Sexpr.Proofs.Parsing.Derivation

namespace Sexpr

/-- The same stretch of a text that has `n` more bytes in front. -/
def Span.shift (n : Nat) (s : Span) : Span := { start := n + s.start, stop := n + s.stop }

namespace Token

def label (t : Token) : Kind × String := (t.kind, t.text)

/-- A token with nothing said about its place. -/
def unplaced (t : Token) : Token := { t with span := { start := 0, stop := 0 } }

/-- A token moved to another place. -/
def mapSpan (g : Span → Span) (t : Token) : Token := { t with span := g t.span }

variable {t u : Token}

theorem unplaced_eq_iff : t.unplaced = u.unplaced ↔ t.label = u.label := by
  simp only [unplaced, label, Token.mk.injEq, Prod.mk.injEq, and_true]

theorem isAtom_of_label (h : t.label = u.label) : t.kind.isAtom = u.kind.isAtom := by
  rw [(Prod.mk.inj h).1]

theorem opens_of_label (h : t.label = u.label) : t.Opens ↔ u.Opens := by
  obtain ⟨hkind, htext⟩ := Prod.mk.inj h
  rw [Opens, Opens, hkind, htext]

theorem closes_of_label (h : t.label = u.label) : t.Closes ↔ u.Closes := by
  obtain ⟨hkind, htext⟩ := Prod.mk.inj h
  rw [Closes, Closes, hkind, htext]

end Token

namespace SExpr

mutual
def mapTokens (f : Token → Token) : SExpr → SExpr
  | atom t => atom (f t)
  | list opening items closing => list (f opening) (mapAll f items) (f closing)

def mapAll (f : Token → Token) : List SExpr → List SExpr
  | [] => []
  | x :: xs => mapTokens f x :: mapAll f xs
end

def unplaced (x : SExpr) : SExpr := x.mapTokens Token.unplaced

variable {f : Token → Token}

mutual
theorem shaped_mapTokens (hf : ∀ t, (f t).label = t.label) (x : SExpr) :
    (x.mapTokens f).Shaped ↔ x.Shaped := by
  cases x with
  | atom t =>
      rw [mapTokens, shaped_atom, shaped_atom, Token.isAtom_of_label (hf t)]
  | list o xs c =>
      rw [mapTokens, shaped_list, shaped_list, Token.opens_of_label (hf o),
        Token.closes_of_label (hf c), allShaped_mapAll hf xs]

theorem allShaped_mapAll (hf : ∀ t, (f t).label = t.label) (xs : List SExpr) :
    AllShaped (mapAll f xs) ↔ AllShaped xs := by
  cases xs with
  | nil => exact Iff.rfl
  | cons x xs =>
      rw [mapAll, allShaped_cons, allShaped_cons, shaped_mapTokens hf x, allShaped_mapAll hf xs]
end

mutual
theorem exists_placed (x : SExpr) {ts : List Token}
    (h : ts.map Token.label = x.tokens.map Token.label) :
    ∃ y : SExpr, y.tokens = ts ∧ y.unplaced = x.unplaced := by
  cases x with
  | atom t =>
      obtain ⟨u, rfl, hu⟩ := List.map_eq_singleton_iff.1 h
      refine ⟨atom u, rfl, ?_⟩
      rw [unplaced, unplaced, mapTokens, mapTokens, Token.unplaced_eq_iff.2 hu]
  | list o xs c =>
      rw [tokens_list, List.map_append, List.map_cons] at h
      obtain ⟨as, cs, rfl, has, hcs⟩ := List.map_eq_append_iff.1 h
      obtain ⟨o', bs, rfl, ho, hbs⟩ := List.map_eq_cons_iff.1 has
      obtain ⟨c', rfl, hc⟩ := List.map_eq_singleton_iff.1 hcs
      obtain ⟨ys, rfl, hys⟩ := exists_allPlaced xs hbs
      refine ⟨list o' ys c', rfl, ?_⟩
      rw [unplaced, unplaced, mapTokens, mapTokens, Token.unplaced_eq_iff.2 ho,
        Token.unplaced_eq_iff.2 hc, hys]

theorem exists_allPlaced (xs : List SExpr) {ts : List Token}
    (h : ts.map Token.label = (tokensOf xs).map Token.label) :
    ∃ ys, tokensOf ys = ts ∧ mapAll Token.unplaced ys = mapAll Token.unplaced xs := by
  cases xs with
  | nil =>
      obtain rfl := List.map_eq_nil_iff.1 h
      exact ⟨[], rfl, rfl⟩
  | cons x xs =>
      rw [tokensOf_cons, List.map_append] at h
      obtain ⟨as, bs, rfl, has, hbs⟩ := List.map_eq_append_iff.1 h
      obtain ⟨y, rfl, hy⟩ := exists_placed x has
      obtain ⟨ys, rfl, hys⟩ := exists_allPlaced xs hbs
      refine ⟨y :: ys, rfl, ?_⟩
      rw [mapAll, mapAll, hys, ← unplaced, ← unplaced, hy]
end

mutual
theorem mapTokens_mapTokens (f g : Token → Token) (x : SExpr) :
    (x.mapTokens f).mapTokens g = x.mapTokens (g ∘ f) := by
  cases x with
  | atom t => rfl
  | list o xs c => rw [mapTokens, mapTokens, mapTokens, mapAll_mapAll f g xs]; rfl

theorem mapAll_mapAll (f g : Token → Token) (xs : List SExpr) :
    mapAll g (mapAll f xs) = mapAll (g ∘ f) xs := by
  cases xs with
  | nil => rfl
  | cons x xs => rw [mapAll, mapAll, mapAll, mapTokens_mapTokens f g x, mapAll_mapAll f g xs]
end

mutual
theorem tokens_mapTokens (f : Token → Token) (x : SExpr) :
    (x.mapTokens f).tokens = x.tokens.map f := by
  cases x with
  | atom t => rfl
  | list o xs c =>
      rw [mapTokens, tokens_list, tokens_list, tokensOf_mapAll f xs, List.map_append, List.map_cons]
      rfl

theorem tokensOf_mapAll (f : Token → Token) (xs : List SExpr) :
    tokensOf (mapAll f xs) = (tokensOf xs).map f := by
  cases xs with
  | nil => rfl
  | cons x xs =>
      rw [mapAll, tokensOf_cons, tokensOf_cons, tokens_mapTokens f x, tokensOf_mapAll f xs,
        List.map_append]
end

theorem mapAll_eq_map (f : Token → Token) (xs : List SExpr) :
    mapAll f xs = xs.map (mapTokens f) := by
  induction xs with
  | nil => rfl
  | cons x xs ih => rw [mapAll, ih, List.map_cons]

theorem unplaced_mapTokens_mapSpan (g : Span → Span) (x : SExpr) :
    (x.mapTokens (Token.mapSpan g)).unplaced = x.unplaced := by
  rw [unplaced, unplaced, mapTokens_mapTokens]
  rfl

end SExpr

namespace Program

def unplaced (p : Program) : Program := { exprs := SExpr.mapAll Token.unplaced p.exprs }

def mapSpan (g : Span → Span) (p : Program) : Program :=
  { exprs := SExpr.mapAll (Token.mapSpan g) p.exprs }

theorem shaped_of_unplaced {p q : Program} (h : q.unplaced = p.unplaced) (hp : p.Shaped) :
    q.Shaped := by
  have hlabel : ∀ t : Token, t.unplaced.label = t.label := fun t => rfl
  have hall := Program.mk.inj h
  rw [Shaped, ← SExpr.allShaped_mapAll hlabel, hall, SExpr.allShaped_mapAll hlabel]
  exact hp

theorem size_of_unplaced {p q : Program} (h : q.unplaced = p.unplaced) : q.size = p.size := by
  have hlength := congrArg List.length (Program.mk.inj h)
  rwa [SExpr.mapAll_eq_map, SExpr.mapAll_eq_map, List.length_map, List.length_map] at hlength

end Program

/-- Tokens with the labels of a program's tokens parse as this program, up to
places. -/
theorem parse_of_labels {p : Program} (hp : p.Shaped) {ts : List Token}
    (h : ts.map Token.label = p.tokens.map Token.label)
    (hts : ∀ t ∈ ts, t.kind ≠ .endMark) : ∃ q, parse ts = .ok q ∧ q.unplaced = p.unplaced := by
  obtain ⟨ys, hys, hplaced⟩ := SExpr.exists_allPlaced p.exprs h
  let q : Program := ⟨ys⟩
  have hq : q.unplaced = p.unplaced := congrArg Program.mk hplaced
  have hshaped := Program.shaped_of_unplaced hq hp
  exact ⟨q, (Parser.parse_eq_ok_of_no_endMark hts q).2 ⟨hshaped, hys⟩, hq⟩

end Sexpr
