/-
Identifiers keep clear of numbers.

Three patterns share the identifiers out by how they start: with neither a sign
nor a point, with a sign, or with a point that a sign may precede.  Together they
match the words at whose front no number starts, so a text that is an identifier
is never the front part of a number as well.
-/
import Sexpr.Proofs.Lexing.Pattern

namespace Sexpr
namespace Rule

variable {cs : List Char}

def startsDigit (cs : List Char) : Bool := cs.head?.any Char.isDigit

/-- Whether a number starts here: a digit comes next, after an optional sign and
an optional point. -/
def startsNumber (cs : List Char) : Bool :=
  let rest := cs.drop (sign cs)
  startsDigit rest || (rest.head? == some '.' && startsDigit rest.tail)

theorem run_isDigit_pos : 0 < run Char.isDigit cs ↔ startsDigit cs = true := by
  cases cs with
  | nil => exact ⟨fun h => absurd h (Nat.lt_irrefl 0), fun h => Bool.noConfusion h⟩
  | cons c r =>
      by_cases hc : c.isDigit = true
      · rw [run_cons_of hc]
        exact ⟨fun _ => hc, fun _ => Nat.succ_pos _⟩
      · rw [run_cons_of_not (Bool.eq_false_iff.2 hc)]
        exact ⟨fun h => absurd h (Nat.lt_irrefl 0), fun h => absurd h hc⟩

theorem integer_eq_none : integer cs = none ↔ startsDigit (cs.drop (sign cs)) = false := by
  have hpos := @run_isDigit_pos (cs.drop (sign cs))
  rw [← Bool.not_eq_true, ← hpos, integer, signedDigits]
  split
  · simp only [reduceCtorEq, false_iff]
    omega
  · simp only [true_iff]
    omega

/-- Where no digit follows the sign, only a point can still start a number. -/
theorem real_eq_none (h : startsDigit (cs.drop (sign cs)) = false) :
    real cs = none ↔
      ((cs.drop (sign cs)).head? == some '.' && startsDigit (cs.drop (sign cs)).tail) = false := by
  have hrun : run Char.isDigit (cs.drop (sign cs)) = 0 := by
    rw [← Nat.le_zero, ← Nat.not_lt, run_isDigit_pos, h]
    exact Bool.noConfusion
  simp only [real, signedDigits, hrun, Nat.add_zero]
  cases cs.drop (sign cs) with
  | nil => simp
  | cons c r =>
      by_cases hc : c = '.'
      · simp [hc, run_isDigit_pos]
      · simp [hc]

theorem number_eq_none_iff :
    real cs = none ∧ integer cs = none ↔ startsNumber cs = false := by
  rw [integer_eq_none, startsNumber, Bool.or_eq_false_iff, and_comm]
  constructor
  · rintro ⟨hi, hr⟩
    exact ⟨hi, (real_eq_none hi).1 hr⟩
  · rintro ⟨hi, hr⟩
    exact ⟨hi, (real_eq_none hi).2 hr⟩

theorem rules_of_first_eq_id {n : Nat} (h : first cs = some (.id, n)) :
    real cs = none ∧ integer cs = none ∧ identifier cs = some n := by
  rw [first_eq] at h
  simp only [Option.or_eq_some_iff, Option.map_eq_some_iff, Option.map_eq_none_iff,
    Prod.mk.injEq, reduceCtorEq, false_and, and_false, exists_false, false_or, true_and,
    exists_eq_right] at h
  obtain ⟨-, hreal, hint, -, hid⟩ := h
  exact ⟨hreal, hint, hid⟩

end Rule

namespace Pattern

open scoped Computability
open Rule

/-- A word whose first character satisfies `q`. -/
def wordFrom (q : Char → Bool) : Language Char :=
  oneOf (fun c => isWordChar c && q c) * (oneOf isWordChar)∗

/-- `[^\s"()+\-.0-9][^\s"()]*` -/
def plainWord : Language Char := wordFrom fun c => !isSign c && c != '.' && !c.isDigit

/-- `[+\-]([^\s"().0-9][^\s"()]*)?` -/
def signWord : Language Char := sign * optional (wordFrom fun c => c != '.' && !c.isDigit)

/-- `[+\-]?\.([^\s"()0-9][^\s"()]*)?` -/
def pointWord : Language Char :=
  optional sign * (point * optional (wordFrom fun c => !c.isDigit))

variable {q : Char → Bool} {c : Char} {r w : List Char} {l m : Language Char}

theorem cons_mem_wordFrom :
    c :: r ∈ wordFrom q ↔ (∀ d ∈ c :: r, isWordChar d = true) ∧ q c = true := by
  rw [wordFrom, cons_mem_oneOf_mul, mem_oneOf_kstar, Bool.and_eq_true, List.forall_mem_cons]
  constructor
  · rintro ⟨⟨hc, hq⟩, hr⟩
    exact ⟨⟨hc, hr⟩, hq⟩
  · rintro ⟨⟨hc, hr⟩, hq⟩
    exact ⟨⟨hc, hq⟩, hr⟩

theorem mem_optional_wordFrom :
    w ∈ optional (wordFrom q) ↔ (∀ d ∈ w, isWordChar d = true) ∧ w.head?.all q = true := by
  rw [mem_optional]
  cases w with
  | nil => simp
  | cons c r => simp [cons_mem_wordFrom]

theorem cons_mem_optional_sign_mul :
    c :: r ∈ optional sign * l ↔ c :: r ∈ l ∨ isSign c = true ∧ r ∈ l := by
  rw [optional, add_mul, one_mul, Language.mem_add, sign, cons_mem_oneOf_mul]

theorem mem_point_mul : w ∈ point * l ↔ ∃ r, w = '.' :: r ∧ r ∈ l := by
  cases w with
  | nil => exact ⟨fun h => absurd h nil_not_mem_oneOf_mul, fun ⟨r, h, _⟩ => nomatch h⟩
  | cons c r => simp [point, cons_mem_oneOf_mul]

theorem startsNumber_of_not_sign (h : isSign c = false) :
    startsNumber (c :: r) = (c.isDigit || (c == '.' && startsDigit r)) := by
  simp only [startsNumber, sign_cons_of_not h, List.drop_zero, startsDigit, List.head?_cons,
    List.tail_cons, Option.any_some]
  rfl

theorem startsNumber_of_sign (h : isSign c = true) :
    startsNumber (c :: r) = (startsDigit r || (r.head? == some '.' && startsDigit r.tail)) := by
  have hsign : Rule.sign (c :: r) = 1 := by simp only [Rule.sign, h, if_true]
  simp only [startsNumber, hsign, List.drop_succ_cons, List.drop_zero]

theorem head_all_not_isDigit : (w.head?.all fun c => !c.isDigit) = !startsDigit w := by
  cases w <;> rfl

theorem mem_identifier_of_sign (h : isSign c = true) :
    (c :: r ∈ signWord ∨ c :: r ∈ pointWord) ↔
      (∀ d ∈ r, isWordChar d = true) ∧ startsNumber (c :: r) = false := by
  have hc : ¬ c = '.' := by
    rintro rfl
    exact absurd h (by decide)
  have hpoint : c :: r ∈ pointWord ↔
      ∃ r', r = '.' :: r' ∧ r' ∈ optional (wordFrom fun c => !c.isDigit) := by
    rw [pointWord, cons_mem_optional_sign_mul, mem_point_mul, mem_point_mul]
    constructor
    · rintro (⟨r', hr, -⟩ | ⟨-, hr⟩)
      · exact absurd (List.cons.inj hr).1 hc
      · exact hr
    · intro hr
      exact .inr ⟨h, hr⟩
  rw [hpoint, signWord, sign, cons_mem_oneOf_mul, mem_optional_wordFrom, startsNumber_of_sign h]
  simp only [mem_optional_wordFrom, head_all_not_isDigit, h, true_and]
  -- A point here leaves only the second pattern, anything else only the first.
  cases r with
  | nil => simp [startsDigit]
  | cons d r =>
      by_cases hd : d = '.'
      · subst hd
        simp [startsDigit, isWordChar_dot]
      · simp [startsDigit, hd]

theorem mem_identifier_of_not_sign (h : isSign c = false) :
    (c :: r ∈ plainWord ∨ c :: r ∈ pointWord) ↔
      (∀ d ∈ c :: r, isWordChar d = true) ∧ startsNumber (c :: r) = false := by
  rw [plainWord, cons_mem_wordFrom, pointWord, cons_mem_optional_sign_mul, mem_point_mul,
    startsNumber_of_not_sign h]
  simp only [mem_optional_wordFrom, head_all_not_isDigit, h]
  by_cases hc : c = '.'
  · subst hc
    simp [isWordChar_dot]
  · simp [hc]

/-- The three patterns match exactly the words at whose front no number starts. -/
theorem mem_identifier :
    (w ∈ plainWord ∨ w ∈ signWord ∨ w ∈ pointWord) ↔
      w ≠ [] ∧ (∀ c ∈ w, isWordChar c = true) ∧ startsNumber w = false := by
  cases w with
  | nil =>
      have hplain : [] ∉ plainWord := nil_not_mem_oneOf_mul
      have hsign : [] ∉ signWord := nil_not_mem_oneOf_mul
      have hpoint : [] ∉ pointWord := by
        rw [pointWord, optional, add_mul, one_mul, Language.mem_add]
        rintro (h | h)
        · exact nil_not_mem_oneOf_mul h
        · exact nil_not_mem_oneOf_mul h
      simp [hplain, hsign, hpoint]
  | cons c r =>
      by_cases hc : isSign c = true
      · have hplain : c :: r ∉ plainWord := by
          rw [plainWord, cons_mem_wordFrom, hc]
          rintro ⟨-, h⟩
          exact Bool.noConfusion h
        have hword := isWordChar_of_isSign hc
        simp [hplain, mem_identifier_of_sign hc, hword]
      · rw [Bool.not_eq_true] at hc
        have hsign : c :: r ∉ signWord := by
          rw [signWord, sign, cons_mem_oneOf_mul, hc]
          rintro ⟨h, -⟩
          exact Bool.noConfusion h
        have hother := @mem_identifier_of_not_sign c r hc
        simp only [hsign, false_or, hother, ne_eq, reduceCtorEq, not_false_eq_true, true_and]

theorem first_of_mem_identifier (h : w ∈ plainWord ∨ w ∈ signWord ∨ w ∈ pointWord) :
    first w = some (.id, w.length) := by
  obtain ⟨hne, hword, hstart⟩ := mem_identifier.1 h
  obtain ⟨hreal, hint⟩ := number_eq_none_iff.2 hstart
  have hrun := run_append_of_pos hword []
  rw [List.append_nil, show run isWordChar [] = 0 from rfl, Nat.add_zero] at hrun
  have hpos := List.length_pos_iff.2 hne
  obtain ⟨c, r, rfl⟩ := List.exists_cons_of_ne_nil hne
  rw [first_of_word (hword c List.mem_cons_self), hreal, hint, identifier, hrun, if_pos hpos]
  rfl

theorem mem_identifier_of_first {n : Nat} (h : first cs = some (.id, n)) :
    cs.take n ∈ plainWord ∨ cs.take n ∈ signWord ∨ cs.take n ∈ pointWord := by
  obtain ⟨hreal, hint, hid⟩ := rules_of_first_eq_id h
  obtain ⟨hne, hword⟩ := mem_atLeastOne.1 (computes_identifier.sound hid)
  have hcs := List.take_prefix n cs
  have hnumber := number_eq_none_iff.1
    ⟨computes_real.none_of_front hreal hcs, computes_integer.none_of_front hint hcs⟩
  exact mem_identifier.2 ⟨hne, hword, hnumber⟩

end Pattern
end Sexpr
