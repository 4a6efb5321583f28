/-
Tokens with gaps.

A text may hold any blank text before, between and after its tokens.  Between two
tokens it may hold nothing at all where one of them is a parenthesis, because no
word runs into a parenthesis or out of one.  The lexer finds the tokens of such a
text again, each of them one that it would also find alone.
-/
import Mathlib.Data.List.Chain
import Sexpr.Proofs.Lexing.Spelling

namespace Sexpr

open Text

def Blank (s : String) : Prop := ∀ c ∈ s.toList, isBlank c = true

instance (s : String) : Decidable (Blank s) := List.decidableBAll (isBlank · = true) s.toList

/-- The text of tokens in a row, each after a text of its own, and of what stands
behind the last. -/
def spaced : List (String × Token) → String → String
  | [], last => last
  | (gap, t) :: row, last => gap ++ t.text ++ spaced row last

namespace Token

def IsParenthesis (t : Token) : Prop := t.text = "(" ∨ t.text = ")"

instance (t : Token) : Decidable t.IsParenthesis := inferInstanceAs (Decidable (_ ∨ _))

/-- Whether the text of a token, alone, is that token and nothing else. -/
def Lexable (t : Token) : Prop :=
  tokenize t.text = .ok [{ t with span := { start := 0, stop := t.text.utf8ByteSize } }]

/-- What the lexer finds in some surroundings is what it finds alone. -/
theorem lexable_iff_lexed {t : Token} : t.Lexable ↔ t.Lexed := by
  constructor
  · intro h
    exact ⟨t.text, _, h, _, List.mem_singleton_self _, rfl⟩
  · intro h
    have hscan := h.scan_text 0
    rw [Nat.zero_add] at hscan
    exact hscan

/-- A text that one pattern matches as a whole is one token. -/
theorem lexable_of_mem {t : Token} {l : Language Char} (hl : (some t.kind, l) ∈ Pattern.patterns)
    (ht : t.text.toList ∈ l) : t.Lexable := by
  have hscan := scan_of_first (Pattern.first_of_mem hl ht) 0
  rw [Nat.zero_add] at hscan
  exact hscan

theorem IsParenthesis.boundary_left {t : Token} (h : t.IsParenthesis) (a : List Char) :
    Boundary a t.text.toList := by
  rcases h with h | h <;> rw [h] <;> exact Boundary.of_head (by decide) []

theorem IsParenthesis.boundary_right {t : Token} (h : t.IsParenthesis) (b : List Char) :
    Boundary t.text.toList b := by
  rcases h with h | h <;> rw [h] <;> exact Boundary.of_last (by decide) []

end Token

/-- Which gaps may stand around the tokens of a row. -/
structure LegalSpacing (row : List (String × Token)) (last : String) : Prop where
  blank : ∀ p ∈ row, Blank p.1
  blank_last : Blank last
  apart : row.IsChain fun p q => q.1 = "" → p.2.IsParenthesis ∨ q.2.IsParenthesis

instance (row : List (String × Token)) (last : String) : Decidable (LegalSpacing row last) :=
  decidable_of_iff ((∀ p ∈ row, Blank p.1) ∧ Blank last ∧
      row.IsChain fun p q => q.1 = "" → p.2.IsParenthesis ∨ q.2.IsParenthesis)
    ⟨fun ⟨hblank, hlast, hapart⟩ => ⟨hblank, hlast, hapart⟩,
      fun h => ⟨h.blank, h.blank_last, h.apart⟩⟩

/- Numbers have to be kept apart, a parenthesis does not. -/
example : LegalSpacing [("", ⟨.real, "1.2", ⟨0, 3⟩⟩), (" ", ⟨.real, ".3", ⟨0, 2⟩⟩),
    ("", ⟨.literal, ")", ⟨0, 1⟩⟩)] "\n" := by decide

theorem Blank.boundary_left {a : List Char} {s : String} (h : Blank s) : Boundary a s.toList := by
  intro c _ d hd _
  exact Rule.isWordChar_of_blank (h d (List.mem_of_mem_head? hd))

theorem Blank.boundary_right {s : String} (h : Blank s) (b : List Char) :
    Boundary s.toList b := by
  intro c hc d _ hword
  rw [Rule.isWordChar_of_blank (h c (List.mem_of_getLast? hc))] at hword
  exact Bool.noConfusion hword

theorem Boundary.append_right {a b : List Char} (h : Boundary a b) (hb : b ≠ [])
    (r : List Char) : Boundary a (b ++ r) := by
  intro c hc d hd
  rw [List.head?_append_of_ne_nil b hb] at hd
  exact h c hc d hd

namespace LegalSpacing

variable {row : List (String × Token)} {gap last : String} {t : Token}

theorem tail (h : LegalSpacing ((gap, t) :: row) last) : LegalSpacing row last where
  blank p hp := h.blank p (List.mem_cons_of_mem _ hp)
  blank_last := h.blank_last
  apart := h.apart.of_cons

/-- No word runs from a token into what follows it. -/
theorem boundary (h : LegalSpacing ((gap, t) :: row) last) :
    Boundary t.text.toList (spaced row last).toList := by
  cases row with
  | nil => exact h.blank_last.boundary_left
  | cons p row =>
      obtain ⟨gap', u⟩ := p
      have hapart := (List.isChain_cons_cons.1 h.apart).1
      have hblank : Blank gap' := h.blank (gap', u) (by simp)
      rw [spaced, String.append_assoc, String.toList_append]
      by_cases hgap : gap' = ""
      · rcases hapart hgap with ht | hu
        · exact ht.boundary_right _
        · rw [hgap, String.toList_append]
          refine (hu.boundary_left _).append_right ?_ _
          rcases hu with hu | hu <;> rw [hu] <;> exact List.cons_ne_nil _ []
      · refine hblank.boundary_left.append_right ?_ _
        rwa [Ne, String.toList_eq_nil_iff]

theorem spells (h : LegalSpacing row last) (hrow : ∀ p ∈ row, p.2.Lexed) :
    Spells (spaced row last).toList (row.map (·.2)) := by
  induction row with
  | nil => exact Spells.blank h.blank_last
  | cons p row ih =>
      obtain ⟨gap, t⟩ := p
      have hgap : Blank gap := h.blank (gap, t) List.mem_cons_self
      have ht : t.Lexed := hrow (gap, t) List.mem_cons_self
      have hrest := ih h.tail fun p hp => hrow p (List.mem_cons_of_mem _ hp)
      have htoken := ht.spells.append hrest h.boundary
      have hall := (Spells.blank hgap).append htoken (hgap.boundary_right _)
      rw [spaced, String.append_assoc, String.toList_append, String.toList_append]
      exact hall

end LegalSpacing

/-! ## Tokens joined by one gap -/

/-- Tokens with the same gap between all neighbours. -/
def joined (gap : String) : List Token → List (String × Token)
  | [] => []
  | t :: ts => ("", t) :: ts.map (gap, ·)

theorem map_joined (gap : String) (ts : List Token) : (joined gap ts).map (·.2) = ts := by
  cases ts with
  | nil => rfl
  | cons t ts =>
      show t :: (ts.map (gap, ·)).map (·.2) = t :: ts
      rw [List.map_map]
      exact congrArg (t :: ·) (List.map_id ts)

/-- What stands in front is carried along, because the gap comes before each token but
the first. -/
theorem append_spaced (gap front : String) (ts : List Token) :
    front ++ spaced (ts.map (gap, ·)) "" = gap.intercalate (front :: ts.map Token.text) := by
  induction ts generalizing front with
  | nil => rw [List.map_nil, List.map_nil, spaced, String.append_empty, String.intercalate_singleton]
  | cons t ts ih =>
      rw [List.map_cons, List.map_cons, String.intercalate_cons_cons, ← ih, spaced]
      simp only [String.append_assoc]

theorem spaced_joined (gap : String) (ts : List Token) :
    spaced (joined gap ts) "" = gap.intercalate (ts.map Token.text) := by
  cases ts with
  | nil => exact String.intercalate_nil.symm
  | cons t ts =>
      show "" ++ t.text ++ spaced (ts.map (gap, ·)) "" = _
      rw [String.empty_append, append_spaced]
      rfl

theorem legal_joined {gap : String} (hblank : Blank gap) (hne : gap ≠ "") (ts : List Token) :
    LegalSpacing (joined gap ts) "" where
  blank := by
    intro p hp
    cases ts with
    | nil => exact absurd hp List.not_mem_nil
    | cons t ts =>
        rcases List.mem_cons.1 hp with rfl | hp
        · exact fun c hc => absurd hc List.not_mem_nil
        · obtain ⟨u, -, rfl⟩ := List.mem_map.1 hp
          exact hblank
  blank_last := fun c hc => absurd hc List.not_mem_nil
  apart := by
    cases ts with
    | nil => exact .nil
    | cons t ts =>
        refine List.Pairwise.isChain (List.pairwise_cons.2 ⟨?_, ?_⟩)
        · intro q hq hgap
          obtain ⟨u, -, rfl⟩ := List.mem_map.1 hq
          exact absurd hgap hne
        · exact List.pairwise_map.2 (List.pairwise_of_forall fun _ _ hgap => absurd hgap hne)

end Sexpr
