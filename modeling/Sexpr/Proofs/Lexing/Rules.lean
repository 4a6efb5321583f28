/-
The rules by the first character.

A character that is not blank is a parenthesis, a quote or a word character, and
each sort of them is met by rules of its own: a parenthesis is a literal, a quote
starts a string, and reals, integers and identifiers are made of word characters.
-/
import Sexpr.Proofs.Lexing.Scan

namespace Sexpr
namespace Rule

open Text

variable {c : Char} {r : List Char}

/-! ## Word characters -/

theorem isWordChar_iff :
    isWordChar c = true ↔ isBlank c = false ∧ isParenthesis c = false ∧ c ≠ '"' := by
  simp only [isWordChar, Bool.and_eq_true, Bool.not_eq_true', beq_eq_false_iff_ne, and_assoc]

theorem isWordChar_of_blank (h : isBlank c = true) : isWordChar c = false := by
  simp [isWordChar, h]

theorem isWordChar_quote : isWordChar '"' = false := by decide

theorem isWordChar_dot : isWordChar '.' = true := by decide

theorem isSign_iff : isSign c = true ↔ c = '+' ∨ c = '-' := by
  simp only [isSign, Bool.or_eq_true, beq_iff_eq]

theorem isParenthesis_iff : isParenthesis c = true ↔ c = '(' ∨ c = ')' := by
  simp only [isParenthesis, Bool.or_eq_true, beq_iff_eq]

theorem isWordChar_of_isSign (h : isSign c = true) : isWordChar c = true := by
  rcases isSign_iff.1 h with rfl | rfl <;> decide

theorem isDigit_toNat (h : c.isDigit = true) : 48 ≤ c.toNat ∧ c.toNat ≤ 57 := by
  simp only [Char.isDigit, Bool.and_eq_true, decide_eq_true_eq, UInt32.le_iff_toNat_le] at h
  exact h

/-- No character below the point 128 but the usual six is blank, so no digit is. -/
theorem isBlank_of_isDigit (h : c.isDigit = true) : isBlank c = false := by
  have hn := isDigit_toNat h
  rw [Bool.eq_false_iff]
  intro hb
  simp only [isBlank, inRanges, blankRanges, List.any_cons, List.any_nil, Bool.or_false,
    Bool.or_eq_true, Bool.and_eq_true, decide_eq_true_eq] at hb
  omega

theorem ne_of_isDigit {d : Char} (h : c.isDigit = true) (hd : d.isDigit = false) : c ≠ d := by
  rintro rfl
  rw [h] at hd
  exact Bool.noConfusion hd

theorem isWordChar_of_isDigit (h : c.isDigit = true) : isWordChar c = true := by
  refine isWordChar_iff.2 ⟨isBlank_of_isDigit h, ?_, ne_of_isDigit h (by decide)⟩
  rw [Bool.eq_false_iff]
  intro hp
  rcases isParenthesis_iff.1 hp with rfl | rfl <;> exact absurd h (by decide)

theorem isSign_of_isDigit (h : c.isDigit = true) : isSign c = false := by
  rw [Bool.eq_false_iff]
  intro hs
  rcases isSign_iff.1 hs with rfl | rfl <;> exact absurd h (by decide)

/-- The three sorts of characters a token can start with. -/
theorem start_cases (h : isBlank c = false) :
    isParenthesis c = true ∨ c = '"' ∨ isWordChar c = true := by
  by_cases hp : isParenthesis c = true
  · exact .inl hp
  · by_cases hq : c = '"'
    · exact .inr (.inl hq)
    · rw [Bool.not_eq_true] at hp
      exact .inr (.inr (isWordChar_iff.2 ⟨h, hp, hq⟩))

/-! ## Which rules meet a character -/

theorem first_eq (cs : List Char) :
    first cs = ((literal cs).map (Kind.literal, ·)).or (((real cs).map (Kind.real, ·)).or
      (((integer cs).map (Kind.int, ·)).or (((string cs).map (Kind.string, ·)).or
        ((identifier cs).map (Kind.id, ·))))) := by
  simp only [first, ordered, List.findSome?_cons, List.findSome?_nil]
  cases literal cs <;> cases real cs <;> cases integer cs <;> cases string cs <;>
    cases identifier cs <;> rfl

theorem literal_eq_none (h : isParenthesis c = false) : literal (c :: r) = none := by
  simp only [literal, h]
  rfl

theorem string_eq_none (h : c ≠ '"') : string (c :: r) = none := by
  simp only [string, h, if_false]

theorem sign_cons_of_not (h : isSign c = false) : sign (c :: r) = 0 := by
  simp only [sign, h]
  rfl

theorem run_cons_of_not {p : Char → Bool} (h : p c = false) : run p (c :: r) = 0 := by
  simp only [run, List.takeWhile_cons, h]
  rfl

theorem run_cons_of {p : Char → Bool} (h : p c = true) : run p (c :: r) = run p r + 1 := by
  simp only [run, List.takeWhile_cons, h]
  rfl

/-- The sign and the digits in front are made of word characters, so no other
character takes part in them. -/
theorem signedDigits_of_not_word (h : isWordChar c = false) : signedDigits (c :: r) = 0 := by
  have hs : isSign c = false := by
    rw [Bool.eq_false_iff]
    intro hs
    rw [isWordChar_of_isSign hs] at h
    exact Bool.noConfusion h
  have hd : c.isDigit = false := by
    rw [Bool.eq_false_iff]
    intro hd
    rw [isWordChar_of_isDigit hd] at h
    exact Bool.noConfusion h
  rw [signedDigits, sign_cons_of_not hs, List.drop_zero, run_cons_of_not hd]

theorem real_of_not_word (h : isWordChar c = false) : real (c :: r) = none := by
  have hdot : c ≠ '.' := by
    rintro rfl
    rw [isWordChar_dot] at h
    exact Bool.noConfusion h
  simp only [real, signedDigits_of_not_word h, List.drop_zero, hdot, false_and, if_false]

theorem integer_of_not_word (h : isWordChar c = false) : integer (c :: r) = none := by
  simp only [integer, signedDigits_of_not_word h, Nat.not_lt_zero, if_false]

theorem identifier_of_not_word (h : isWordChar c = false) : identifier (c :: r) = none := by
  simp only [identifier, run_cons_of_not h]
  rfl

theorem first_of_parenthesis (h : isParenthesis c = true) :
    first (c :: r) = some (.literal, 1) := by
  simp only [first_eq, literal, h]
  rfl

theorem first_of_quote (r : List Char) :
    first ('"' :: r) = (closing r).map fun n => (.string, n + 1) := by
  rw [first_eq, literal_eq_none (by decide), real_of_not_word isWordChar_quote,
    integer_of_not_word isWordChar_quote, identifier_of_not_word isWordChar_quote]
  simp only [string, if_true]
  cases closing r <;> rfl

theorem first_of_word (h : isWordChar c = true) :
    first (c :: r) = ((real (c :: r)).map (Kind.real, ·)).or
      (((integer (c :: r)).map (Kind.int, ·)).or ((identifier (c :: r)).map (Kind.id, ·))) := by
  obtain ⟨-, hp, hq⟩ := isWordChar_iff.1 h
  rw [first_eq, literal_eq_none hp, string_eq_none hq]
  rfl

theorem first_of_blank (h : isBlank c = true) : first (c :: r) = none := by
  have hw := isWordChar_of_blank h
  have hp : isParenthesis c = false := by
    rw [Bool.eq_false_iff]
    intro hp
    rcases isParenthesis_iff.1 hp with rfl | rfl <;> exact absurd h (by decide)
  have hq : c ≠ '"' := by
    rintro rfl
    exact absurd h (by decide)
  rw [first_eq, literal_eq_none hp, real_of_not_word hw, integer_of_not_word hw,
    string_eq_none hq, identifier_of_not_word hw]
  rfl

theorem isBlank_of_first {f : Kind × Nat} (h : first (c :: r) = some f) : isBlank c = false := by
  rw [Bool.eq_false_iff]
  intro hc
  rw [first_of_blank hc] at h
  exact nomatch h

theorem first_of_real {cs : List Char} {n : Nat} (h : real cs = some n) :
    first cs = some (.real, n) := by
  cases cs with
  | nil => exact nomatch h
  | cons c r =>
      have hw : isWordChar c = true := by
        rw [← Bool.not_eq_false]
        intro hw
        rw [real_of_not_word hw] at h
        exact nomatch h
      rw [first_of_word hw, h]
      rfl

theorem first_of_integer {cs : List Char} {n : Nat} (hr : real cs = none)
    (h : integer cs = some n) : first cs = some (.int, n) := by
  cases cs with
  | nil => exact nomatch h
  | cons c r =>
      have hw : isWordChar c = true := by
        rw [← Bool.not_eq_false]
        intro hw
        rw [integer_of_not_word hw] at h
        exact nomatch h
      rw [first_of_word hw, hr, h]
      rfl

theorem first_of_string {cs : List Char} {n : Nat} (h : string cs = some n) :
    first cs = some (.string, n) := by
  cases cs with
  | nil => cases h
  | cons c r =>
      by_cases hq : c = '"'
      · subst hq
        simp only [string, if_true] at h
        obtain ⟨m, hm, rfl⟩ := Option.map_eq_some_iff.1 h
        rw [first_of_quote, hm]
        rfl
      · rw [string_eq_none hq] at h
        cases h

/-- Only an open string has no rule. -/
theorem first_of_word_ne_none (h : isWordChar c = true) : first (c :: r) ≠ none := by
  have hid : identifier (c :: r) = some (run isWordChar r + 1) := by
    simp only [identifier, run_cons_of h, Nat.zero_lt_succ, if_true]
  rw [first_of_word h, hid]
  cases real (c :: r) <;> cases integer (c :: r) <;> exact Option.some_ne_none _

/-- A token is an atom or one parenthesis. -/
theorem kind_of_first {kind : Kind} {n : Nat} (hc : isBlank c = false)
    (h : first (c :: r) = some (kind, n)) :
    kind.isAtom = true ∨ kind = .literal ∧ n = 1 ∧ isParenthesis c = true := by
  rcases start_cases hc with hp | rfl | hw
  · rw [first_of_parenthesis hp] at h
    obtain ⟨rfl, rfl⟩ := Prod.mk.inj (Option.some.inj h)
    exact .inr ⟨rfl, rfl, hp⟩
  · rw [first_of_quote] at h
    obtain ⟨m, -, h⟩ := Option.map_eq_some_iff.1 h
    obtain ⟨rfl, -⟩ := Prod.mk.inj h
    exact .inl rfl
  · rw [first_of_word hw] at h
    left
    cases hr : real (c :: r) <;> cases hi : integer (c :: r) <;>
      cases hd : identifier (c :: r) <;> simp [hr, hi, hd] at h <;> rw [← h.1] <;> rfl

end Rule

namespace Token

/-- Whether a token is an atom or a parenthesis of kind literal. -/
def Plain (t : Token) : Prop :=
  t.kind.isAtom = true ∨ t.kind = .literal ∧ (t.text = "(" ∨ t.text = ")")

theorem Plain.kind_ne {t : Token} (h : t.Plain) : t.kind ≠ .endMark := by
  intro hk
  rcases h with h | ⟨h, -⟩
  · rw [hk] at h
    exact Bool.noConfusion h
  · rw [hk] at h
    exact nomatch h

end Token

/-- All tokens of a source are plain. -/
theorem plain_of_tokenize {source : String} {ts : List Token} (h : tokenize source = .ok ts)
    {t : Token} (ht : t ∈ ts) : t.Plain := by
  obtain ⟨start, c, r, kind, n, hc, hf, rfl⟩ := Lexer.mem_scan h ht
  rcases Rule.kind_of_first hc hf with ha | ⟨rfl, rfl, hp⟩
  · exact .inl ha
  · rcases Rule.isParenthesis_iff.1 hp with rfl | rfl
    · exact .inr ⟨rfl, .inl rfl⟩
    · exact .inr ⟨rfl, .inr rfl⟩

/-- The mark for the end is no token of a source. -/
theorem kind_ne_endMark_of_tokenize {source : String} {ts : List Token}
    (h : tokenize source = .ok ts) : ∀ t ∈ ts, t.kind ≠ .endMark :=
  fun _ ht => (plain_of_tokenize h ht).kind_ne

end Sexpr
