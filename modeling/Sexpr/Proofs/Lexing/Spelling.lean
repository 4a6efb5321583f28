/-
Texts that spell a list of tokens.

What the lexer makes of a text does not depend on where the text stands, except
for the spans.  So kinds and texts can be told apart from spans: a text spells
tokens if these are the ones found in it, whatever their spans.
-/
import Sexpr.Proofs.Lexing.Boundary
import Sexpr.Proofs.Parsing.Places

namespace Sexpr

open Text

namespace Token

/-- Whether the lexer makes such a token, of some source and anywhere in it. -/
def Lexed (t : Token) : Prop :=
  ∃ source ts, tokenize source = .ok ts ∧ ∃ u ∈ ts, u.label = t.label

end Token

/-- Whether the tokens found in a text have the kinds and texts of `ts`. -/
def Spells (cs : List Char) (ts : List Token) : Prop :=
  ∀ offset, ∃ us, Lexer.scan offset cs = .ok us ∧ us.map Token.label = ts.map Token.label

/-- Whether a text separates tokens and means nothing else. -/
def Gap (cs : List Char) : Prop := cs ≠ [] ∧ ∀ c ∈ cs, isBlank c = true

namespace Spells

variable {a b : List Char} {ts us : List Token}

theorem nil : Spells [] [] := fun offset => ⟨[], Lexer.scan_nil offset, rfl⟩

theorem append (ha : Spells a ts) (hb : Spells b us) (h : Boundary a b) :
    Spells (a ++ b) (ts ++ us) := by
  intro offset
  obtain ⟨ts', hts, hlabels⟩ := ha offset
  obtain ⟨us', hus, hlabels'⟩ := hb (offset + byteLength a)
  refine ⟨ts' ++ us', ?_, ?_⟩
  · rw [Lexer.scan_append hts h, hus]
    rfl
  · rw [List.map_append, List.map_append, hlabels, hlabels']

theorem blank (h : ∀ c ∈ a, isBlank c = true) : Spells a [] := by
  intro offset
  have hscan := Lexer.scan_blanks h offset []
  rw [List.append_nil, Lexer.scan_nil] at hscan
  exact ⟨[], hscan, rfl⟩

theorem gap (h : Gap a) : Spells a [] := blank h.2

/-- The parentheses of a list keep away from whatever stands next to them. -/
theorem parenthesized {o c : Token} (ho : Spells ['('] [o]) (hc : Spells [')'] [c])
    (h : Spells a ts) : Spells ('(' :: (a ++ [')'])) (o :: ts ++ [c]) := by
  have hinner := h.append hc (Boundary.of_head (by decide) [])
  have hleft : Boundary ['('] (a ++ [')']) := Boundary.of_last (by decide) []
  have houter := ho.append hinner hleft
  rwa [← List.append_assoc] at houter

end Spells

theorem Gap.boundary_left {a g : List Char} (h : Gap g) : Boundary a g := by
  obtain ⟨c, r, rfl⟩ := List.exists_cons_of_ne_nil h.1
  exact Boundary.of_head (Rule.isWordChar_of_blank (h.2 c List.mem_cons_self)) r

theorem Gap.boundary_right {a b g : List Char} (h : Gap g) : Boundary (a ++ g) b := by
  have hlast := List.dropLast_append_getLast h.1
  rw [← hlast, ← List.append_assoc]
  exact Boundary.of_last (Rule.isWordChar_of_blank (h.2 _ (List.getLast_mem h.1))) _

theorem Spells.separated {a b g : List Char} {ts us : List Token} (ha : Spells a ts)
    (hg : Gap g) (hb : Spells b us) : Spells (a ++ g ++ b) (ts ++ us) := by
  have hleft := ha.append (Spells.gap hg) hg.boundary_left
  rw [List.append_nil] at hleft
  exact hleft.append hb hg.boundary_right

namespace Token

variable {t : Token}

/-- The text of a token is, alone, one token of its kind. -/
theorem Lexed.first (h : t.Lexed) : ∃ c r, t.text.toList = c :: r ∧ isBlank c = false ∧
    Rule.first (c :: r) = some (t.kind, (c :: r).length) := by
  obtain ⟨source, ts, hts, u, hu, hlabel⟩ := h
  obtain ⟨start, c, r, kind, n, hc, hf, rfl⟩ := Lexer.mem_scan hts hu
  obtain ⟨hkind, htext⟩ := Prod.mk.inj hlabel
  obtain ⟨hpos, hn⟩ := Rule.first_bounds hf
  have htake : (c :: r).take n = c :: r.take (n - 1) := by
    rw [← List.take_succ_cons, Nat.sub_add_cancel hpos]
  obtain ⟨l, hl, hmem⟩ := Pattern.mem_of_first hf
  refine ⟨c, r.take (n - 1), ?_, hc, ?_⟩
  · rw [← htake, ← htext]
    exact String.toList_ofList
  · rw [← htake, ← hkind]
    exact Pattern.first_of_mem hl hmem

/-- What one rule takes as a whole is one token. -/
theorem scan_of_first (h : Rule.first t.text.toList = some (t.kind, t.text.toList.length))
    (offset : Nat) :
    Lexer.scan offset t.text.toList =
      .ok [{ t with span := { start := offset, stop := offset + t.text.utf8ByteSize } }] := by
  have htoken : Lexer.tokenAt t.kind t.text.toList offset =
      { t with span := { start := offset, stop := offset + t.text.utf8ByteSize } } := by
    rw [Lexer.tokenAt, String.ofList_toList, byteLength_toList]
  obtain ⟨c, r, htext⟩ := List.exists_cons_of_length_pos (Rule.first_bounds h).1
  rw [htext] at h htoken ⊢
  rw [Lexer.scan_token (Rule.isBlank_of_first h) h, List.take_length, List.drop_length,
    Lexer.scan_nil, htoken]
  rfl

theorem Lexed.scan_text (h : t.Lexed) (offset : Nat) :
    Lexer.scan offset t.text.toList =
      .ok [{ t with span := { start := offset, stop := offset + t.text.utf8ByteSize } }] := by
  obtain ⟨c, r, htext, -, hf⟩ := h.first
  rw [← htext] at hf
  exact scan_of_first hf offset

theorem Lexed.spells (h : t.Lexed) : Spells t.text.toList [t] :=
  fun offset => ⟨_, h.scan_text offset, rfl⟩

theorem Lexed.plain (h : t.Lexed) : t.Plain := by
  obtain ⟨source, ts, hts, u, hu, hlabel⟩ := h
  have hplain := plain_of_tokenize hts hu
  obtain ⟨hkind, htext⟩ := Prod.mk.inj hlabel
  rwa [Plain, hkind, htext] at hplain

theorem lexed_of_tokenize {source : String} {ts : List Token} (h : tokenize source = .ok ts)
    (ht : t ∈ ts) : t.Lexed := ⟨source, ts, h, t, ht, rfl⟩

end Token

theorem Spells.tokenize {source : String} {ts : List Token} (h : Spells source.toList ts) :
    ∃ us, tokenize source = .ok us ∧ us.map Token.label = ts.map Token.label := h 0

end Sexpr
