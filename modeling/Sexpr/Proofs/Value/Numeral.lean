/-
Numerals.

An integer is written by a sign that may be missing and decimal digits, the most significant
first.  Which integer that is, is said here by the digits and the sign alone.  Reading finds
it wherever there is one, and in 64 bits it is kept if and only if it lies between the two
limits, of which the lower one has no opposite.
-/
import Mathlib.Data.Nat.Digits.Defs
import Sexpr.Value
import Sexpr.Proofs.Lexing.Rules

namespace Sexpr

namespace Text

/-- Whether the digits `cs` write the number `n` in base ten. -/
def WritesDecimal (cs : List Char) (n : Nat) : Prop :=
  ∃ ds : List Nat, (∀ d ∈ ds, d < 10) ∧ cs = ds.map Nat.digitChar ∧
    n = Nat.ofDigits 10 ds.reverse

/-- Whether `cs` writes the integer `m`. -/
inductive WritesInteger : List Char → Int → Prop where
  | bare {cs : List Char} {n : Nat} : cs ≠ [] → WritesDecimal cs n → WritesInteger cs n
  | plus {cs : List Char} {n : Nat} : cs ≠ [] → WritesDecimal cs n → WritesInteger ('+' :: cs) n
  | minus {cs : List Char} {n : Nat} : cs ≠ [] → WritesDecimal cs n →
      WritesInteger ('-' :: cs) (-n)

variable {cs : List Char} {n : Nat} {m k : Int}

/-! ## Digits -/

/-- Summing up digits from the left gives what the row of their values stands for. -/
theorem ofDigits_eq (base : Nat) (cs : List Char) :
    ofDigits base cs = Nat.ofDigits base (cs.map digitValue).reverse := by
  rw [Nat.ofDigits_eq_foldr, ← List.map_reverse, List.foldr_map, ofDigits,
    List.foldl_eq_foldr_reverse]
  refine congrArg (fun f => List.foldr f 0 cs.reverse) ?_
  funext c n
  rw [Nat.mul_comm, Nat.add_comm]
  rfl

theorem digitValue_digitChar {d : Nat} (h : d < 10) :
    d.digitChar.isDigit = true ∧ digitValue d.digitChar = d := by
  have hall : ∀ d < 10, d.digitChar.isDigit = true ∧ digitValue d.digitChar = d := by decide
  exact hall d h

theorem digitChar_digitValue {c : Char} (h : c.isDigit = true) :
    digitValue c < 10 ∧ (digitValue c).digitChar = c := by
  have hall : ∀ n < 58, (Char.ofNat n).isDigit = true → digitValue (Char.ofNat n) < 10 ∧
      (digitValue (Char.ofNat n)).digitChar = Char.ofNat n := by decide
  have hn := Rule.isDigit_toNat h
  have hc := hall c.toNat (by omega)
  rw [Char.ofNat_toNat] at hc
  exact hc h

theorem writesDecimal_iff :
    WritesDecimal cs n ↔ (∀ c ∈ cs, c.isDigit = true) ∧ ofDigits 10 cs = n := by
  rw [ofDigits_eq]
  constructor
  · rintro ⟨ds, hds, rfl, rfl⟩
    have hdigits : ∀ c ∈ ds.map Nat.digitChar, c.isDigit = true := by
      intro c hc
      obtain ⟨d, hd, rfl⟩ := List.mem_map.1 hc
      exact (digitValue_digitChar (hds d hd)).1
    have hvalues : (ds.map Nat.digitChar).map digitValue = ds := by
      rw [List.map_map]
      conv_rhs => rw [← List.map_id ds]
      exact List.map_congr_left fun d hd => (digitValue_digitChar (hds d hd)).2
    exact ⟨hdigits, by rw [hvalues]⟩
  · rintro ⟨hcs, rfl⟩
    have hvalues : cs = (cs.map digitValue).map Nat.digitChar := by
      rw [List.map_map]
      conv_lhs => rw [← List.map_id cs]
      exact List.map_congr_left fun c hc => (digitChar_digitValue (hcs c hc)).2.symm
    refine ⟨cs.map digitValue, ?_, hvalues, rfl⟩
    intro d hd
    obtain ⟨c, hc, rfl⟩ := List.mem_map.1 hd
    exact (digitChar_digitValue (hcs c hc)).1

theorem natural?_eq_some_iff : natural? cs = some n ↔ cs ≠ [] ∧ WritesDecimal cs n := by
  have hall : (!cs.isEmpty && cs.all Char.isDigit) = true ↔
      cs ≠ [] ∧ ∀ c ∈ cs, c.isDigit = true := by
    simp only [Bool.and_eq_true, Bool.not_eq_true', List.isEmpty_eq_false_iff, List.all_eq_true]
  rw [writesDecimal_iff, ← and_assoc, ← hall]
  by_cases h : (!cs.isEmpty && cs.all Char.isDigit) = true
  · simp only [natural?, h, if_true, Option.some.injEq, true_and]
  · simp only [natural?, h, if_false, reduceCtorEq, false_and, Bool.false_eq_true]

/-! ## Signs -/

theorem integer?_minus (r : List Char) :
    integer? ('-' :: r) = (natural? r).map fun n : Nat => -(n : Int) := by
  have hcast (x : Option Nat) :
      (x.map fun n => -(n : Int)) = x.map fun n : Nat => -(n : Int) := by cases x <;> rfl
  exact hcast (natural? r)

theorem integer?_plus (r : List Char) :
    integer? ('+' :: r) = (natural? r).map fun n : Nat => (n : Int) := by
  have hcast (x : Option Nat) :
      (x.map fun n => (n : Int)) = x.map fun n : Nat => (n : Int) := by cases x <;> rfl
  exact hcast (natural? r)

/-- No sign is looked for behind anything else, so the whole text must be digits. -/
theorem integer?_unsigned (hminus : cs.head? ≠ some '-') (hplus : cs.head? ≠ some '+') :
    integer? cs = (natural? cs).map fun n : Nat => (n : Int) := by
  have hnatural : unsigned? cs = natural? cs := by
    unfold unsigned?
    split
    · exact absurd rfl hplus
    · rfl
  unfold integer?
  split
  · exact absurd rfl hminus
  · rw [hnatural]
    cases natural? cs <;> rfl

theorem head?_ne_of_isDigit {c : Char} (h : ∀ c ∈ cs, c.isDigit = true) (hc : c.isDigit = false) :
    cs.head? ≠ some c := by
  intro hhead
  obtain ⟨r, rfl⟩ := List.head?_eq_some_iff.1 hhead
  rw [h c List.mem_cons_self] at hc
  exact Bool.noConfusion hc

/-- Digits in front of which there is no sign. -/
theorem integer?_of_isDigit (h : ∀ c ∈ cs, c.isDigit = true) :
    integer? cs = (natural? cs).map fun n : Nat => (n : Int) :=
  integer?_unsigned (head?_ne_of_isDigit h (by decide)) (head?_ne_of_isDigit h (by decide))

theorem integer?_of_writes (h : WritesInteger cs m) : integer? cs = some m := by
  cases h with
  | bare hne hn =>
      rw [integer?_of_isDigit (writesDecimal_iff.1 hn).1, natural?_eq_some_iff.2 ⟨hne, hn⟩]
      rfl
  | plus hne hn =>
      rw [integer?_plus, natural?_eq_some_iff.2 ⟨hne, hn⟩]
      rfl
  | minus hne hn =>
      rw [integer?_minus, natural?_eq_some_iff.2 ⟨hne, hn⟩]
      rfl

theorem writes_of_integer? (h : integer? cs = some m) : WritesInteger cs m := by
  by_cases hminus : cs.head? = some '-'
  · obtain ⟨r, rfl⟩ := List.head?_eq_some_iff.1 hminus
    rw [integer?_minus] at h
    obtain ⟨n, hn, rfl⟩ := Option.map_eq_some_iff.1 h
    obtain ⟨hne, hn⟩ := natural?_eq_some_iff.1 hn
    exact .minus hne hn
  by_cases hplus : cs.head? = some '+'
  · obtain ⟨r, rfl⟩ := List.head?_eq_some_iff.1 hplus
    rw [integer?_plus] at h
    obtain ⟨n, hn, rfl⟩ := Option.map_eq_some_iff.1 h
    obtain ⟨hne, hn⟩ := natural?_eq_some_iff.1 hn
    exact .plus hne hn
  · rw [integer?_unsigned hminus hplus] at h
    obtain ⟨n, hn, rfl⟩ := Option.map_eq_some_iff.1 h
    obtain ⟨hne, hn⟩ := natural?_eq_some_iff.1 hn
    exact .bare hne hn

theorem integer?_eq_some_iff : integer? cs = some m ↔ WritesInteger cs m :=
  ⟨writes_of_integer?, integer?_of_writes⟩

/-- A text writes one integer at most. -/
theorem WritesInteger.unique (hm : WritesInteger cs m) (hk : WritesInteger cs k) : m = k :=
  Option.some.inj ((integer?_eq_some_iff.2 hm).symm.trans (integer?_eq_some_iff.2 hk))

end Text

namespace Value

open Text

/-- Whether an integer can be held in 64 bits. -/
def FitsInt64 (m : Int) : Prop := -2 ^ 63 ≤ m ∧ m ≤ 2 ^ 63 - 1

variable {text : String} {m : Int}

theorem fitsInt64_toInt (n : Int64) : FitsInt64 n.toInt := by
  refine ⟨n.le_toInt, ?_⟩
  rw [← Int64.toInt_maxValue]
  exact n.toInt_le

theorem toInt_ofInt_of_fits (h : FitsInt64 m) : (Int64.ofInt m).toInt = m := by
  obtain ⟨hlow, hhigh⟩ := h
  exact Int64.toInt_ofInt_of_le hlow (by omega)

theorem int64?_of_writes (h : WritesInteger text.toList m) (hm : FitsInt64 m) :
    int64? text = some (Int64.ofInt m) := by
  have hlimits : Int64.minValue.toInt ≤ m ∧ m ≤ Int64.maxValue.toInt := by
    rw [Int64.toInt_minValue, Int64.toInt_maxValue]
    exact hm
  simp only [int64?, integer?_eq_some_iff.2 h, hlimits, and_self, if_true]

/-- What is read has not wrapped. -/
theorem writes_of_int64? {n : Int64} (h : int64? text = some n) :
    WritesInteger text.toList n.toInt := by
  unfold int64? at h
  split at h
  · exact nomatch h
  · rename_i m hm
    split at h
    · rename_i hlimits
      rw [Int64.toInt_minValue, Int64.toInt_maxValue] at hlimits
      obtain rfl := Option.some.inj h
      rw [toInt_ofInt_of_fits hlimits]
      exact integer?_eq_some_iff.1 hm
    · exact nomatch h

theorem int64?_eq_some_iff {n : Int64} :
    int64? text = some n ↔ ∃ m, WritesInteger text.toList m ∧ FitsInt64 m ∧ n.toInt = m := by
  constructor
  · intro h
    exact ⟨n.toInt, writes_of_int64? h, fitsInt64_toInt n, rfl⟩
  · rintro ⟨m, hwrites, hfits, rfl⟩
    rw [int64?_of_writes hwrites hfits, Int64.ofInt_toInt]

theorem int64?_eq_none_iff :
    int64? text = none ↔ ¬∃ m, WritesInteger text.toList m ∧ FitsInt64 m := by
  rw [Option.eq_none_iff_forall_ne_some]
  constructor
  · rintro h ⟨m, hwrites, hfits⟩
    exact h _ (int64?_of_writes hwrites hfits)
  · intro h n hn
    exact h ⟨n.toInt, writes_of_int64? hn, fitsInt64_toInt n⟩

theorem ofToken_int_of_some {span : Span} {n : Int64} (h : int64? text = some n) :
    ofToken ⟨.int, text, span⟩ = .ok (.int n) := by
  simp only [ofToken, h]

theorem ofToken_int_of_none {span : Span} (h : int64? text = none) :
    ofToken ⟨.int, text, span⟩ = .error (.intOutOfRange text) := by
  simp only [ofToken, h]

theorem ofToken_int_eq_ok_iff {span : Span} {n : Int64} :
    ofToken ⟨.int, text, span⟩ = .ok (.int n) ↔ int64? text = some n := by
  cases h : int64? text with
  | none => simp [ofToken_int_of_none h]
  | some k => simp [ofToken_int_of_some h]

theorem ofToken_int_eq_error_iff {span : Span} :
    ofToken ⟨.int, text, span⟩ = .error (.intOutOfRange text) ↔ int64? text = none := by
  cases h : int64? text with
  | none => simp [ofToken_int_of_none h]
  | some k => simp [ofToken_int_of_some h]

end Value

/-- A token of kind integer denotes the integer that its text writes, if the text writes one
and this fits in 64 bits.  In all other cases it is reported with its text.  A text never
writes two integers, so there is no other answer that would be right. -/
theorem integers_decode_exactly (text : String) (span : Span) :
    (∀ n : Int64, Value.ofToken ⟨.int, text, span⟩ = .ok (.int n) ↔
      ∃ m, Text.WritesInteger text.toList m ∧ Value.FitsInt64 m ∧ n.toInt = m) ∧
    ((∃ n : Int64, Value.ofToken ⟨.int, text, span⟩ = .ok (.int n)) ↔
      ∃ m, Text.WritesInteger text.toList m ∧ Value.FitsInt64 m) ∧
    (Value.ofToken ⟨.int, text, span⟩ = .error (.intOutOfRange text) ↔
      ¬∃ m, Text.WritesInteger text.toList m ∧ Value.FitsInt64 m) ∧
    ∀ m k, Text.WritesInteger text.toList m → Text.WritesInteger text.toList k → m = k := by
  refine ⟨?_, ⟨?_, ?_⟩, ?_, fun _ _ => Text.WritesInteger.unique⟩
  · intro n
    rw [Value.ofToken_int_eq_ok_iff, Value.int64?_eq_some_iff]
  · rintro ⟨n, hn⟩
    obtain ⟨m, hwrites, hfits, -⟩ := Value.int64?_eq_some_iff.1 (Value.ofToken_int_eq_ok_iff.1 hn)
    exact ⟨m, hwrites, hfits⟩
  · rintro ⟨m, hwrites, hfits⟩
    exact ⟨_, Value.ofToken_int_of_some (Value.int64?_of_writes hwrites hfits)⟩
  · rw [Value.ofToken_int_eq_error_iff, Value.int64?_eq_none_iff]

/- The least integer behind zeros, the one past the greatest, and a sign without digits. -/
example :
    Value.int64? "-0009223372036854775808" = some Int64.minValue ∧
      Value.int64? "+9223372036854775808" = none ∧ Value.int64? "-" = none := by
  decide +kernel

end Sexpr
