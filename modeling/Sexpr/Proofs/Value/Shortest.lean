/-
The shortest decimal of a double.

The reals that round to a double form an interval, and the intervals of two doubles have at most
an end in common.  A grid finer than half of the last place has a point in the interval, and the
search comes to one that fine, so it finds a decimal and this lies in the interval.  The place of
the decimal point then is a matter of comparing doubles: the decimal has not reached a power of
ten if and only if the double lies below the one that this power of ten rounds to.
-/
import Mathlib.Algebra.Order.Field.Power
import Mathlib.Algebra.Order.Ring.Rat
import Mathlib.Data.Nat.Log
import Mathlib.Data.Rat.Cast.Order
import Mathlib.Tactic.NormNum
import Mathlib.Tactic.Positivity
import Sexpr.Decimal.Display

namespace Sexpr

/-! ## Powers of ten and of two -/

/-- Powers of ten are compared with powers of two by `10 ^ 3 < 2 ^ 10` from one on, and by
`2 ^ 93 < 10 ^ 28` below. -/
theorem ten_zpow_lt_two_zpow {k n : Int} (h : 0 ≤ k ∧ 10 * k < 3 * n ∨ k ≤ 0 ∧ 93 * k < 28 * n) :
    (10 : ℚ) ^ k < 2 ^ n := by
  have hten : (0 : ℚ) ≤ 10 ^ k := by positivity
  have htwo : (0 : ℚ) ≤ 2 ^ n := by positivity
  rcases h with ⟨hk, h⟩ | ⟨hk, h⟩
  · refine lt_of_pow_lt_pow_left₀ 3 htwo ?_
    obtain ⟨m, rfl⟩ := Int.eq_ofNat_of_zero_le hk
    calc ((10 : ℚ) ^ (m : Int)) ^ 3 = ((10 : ℚ) ^ 3) ^ m := by
          rw [zpow_natCast, ← pow_mul, ← pow_mul, Nat.mul_comm]
      _ ≤ ((2 : ℚ) ^ 10) ^ m := pow_le_pow_left₀ (by norm_num) (by norm_num) m
      _ = 2 ^ (10 * (m : Int)) := by rw [zpow_mul, zpow_natCast]; norm_num
      _ < 2 ^ (3 * n) := zpow_lt_zpow_right₀ (by norm_num) h
      _ = ((2 : ℚ) ^ n) ^ 3 := by rw [← zpow_natCast, ← zpow_mul, Int.mul_comm]; rfl
  · refine lt_of_pow_lt_pow_left₀ 28 htwo ?_
    obtain ⟨m, hm⟩ := Int.eq_ofNat_of_zero_le (Int.neg_nonneg_of_nonpos hk)
    obtain rfl : k = -(m : Int) := by omega
    calc ((10 : ℚ) ^ (-(m : Int))) ^ 28 = (((10 : ℚ) ^ 28) ^ m)⁻¹ := by
          rw [zpow_neg, zpow_natCast, inv_pow, ← pow_mul, ← pow_mul, Nat.mul_comm]
      _ ≤ (((2 : ℚ) ^ 93) ^ m)⁻¹ :=
          inv_anti₀ (by positivity) (pow_le_pow_left₀ (by norm_num) (by norm_num) m)
      _ = 2 ^ (93 * -(m : Int)) := by rw [zpow_mul, zpow_neg, zpow_natCast]; norm_num
      _ < 2 ^ (28 * n) := zpow_lt_zpow_right₀ (by norm_num) h
      _ = ((2 : ℚ) ^ n) ^ 28 := by rw [← zpow_natCast, ← zpow_mul, Int.mul_comm]; rfl

namespace Decimal

variable {d : Decimal}

/-- The number a decimal stands for. -/
def value (d : Decimal) : ℚ := d.digits * 10 ^ d.exponent

theorem zpow_point (d : Decimal) :
    (10 : ℚ) ^ d.point = 10 ^ d.digitChars.length * 10 ^ d.exponent := by
  rw [point, zpow_add₀ (by norm_num), zpow_natCast]

theorem value_lt_zpow_point (d : Decimal) : d.value < 10 ^ d.point := by
  have hdigits : d.digits < 10 ^ d.digitChars.length :=
    (Nat.length_toDigits_le_iff (by decide) Nat.length_toDigits_pos).1 (Nat.le_refl _)
  rw [value, zpow_point]
  exact mul_lt_mul_of_pos_right (by exact_mod_cast hdigits) (by positivity)

theorem zpow_point_le_value (h : 0 < d.digits) : (10 : ℚ) ^ (d.point - 1) ≤ d.value := by
  have hpos : 0 < d.digitChars.length := Nat.length_toDigits_pos
  have hdigits : 10 ^ (d.digitChars.length - 1) ≤ d.digits := by
    by_cases hone : d.digitChars.length = 1
    · rw [hone]
      exact h
    · refine Nat.le_of_not_lt fun hlt => ?_
      have hle : d.digitChars.length ≤ d.digitChars.length - 1 :=
        (Nat.length_toDigits_le_iff (by decide) (by omega)).2 hlt
      omega
  have hpoint : d.point - 1 = ((d.digitChars.length - 1 : Nat) : Int) + d.exponent := by
    rw [point]
    omega
  rw [hpoint, zpow_add₀ (by norm_num), zpow_natCast, value]
  exact mul_le_mul_of_nonneg_right (by exact_mod_cast hdigits) (by positivity)

/-- The point of a decimal other than zero says which powers of ten it lies below. -/
theorem point_le_iff (h : 0 < d.digits) {k : Int} : d.point ≤ k ↔ d.value < 10 ^ k := by
  constructor
  · intro hk
    exact d.value_lt_zpow_point.trans_le (zpow_le_zpow_right₀ (by norm_num) hk)
  · intro hk
    by_contra hlt
    have hpow : (10 : ℚ) ^ k ≤ 10 ^ (d.point - 1) := zpow_le_zpow_right₀ (by norm_num) (by omega)
    exact absurd (hpow.trans (zpow_point_le_value h)) (not_le.2 hk)

end Decimal

namespace Binary

/-- What the binary number of a double is like.  Only the least exponent has significands with
fewer than 53 digits, and the doubles lie closer below a power of two with another exponent. -/
structure IsDouble (b : Binary) : Prop where
  pos : 0 < b.significand
  bound : b.significand < 2 ^ 53
  least : -1074 ≤ b.exponent
  greatest : b.exponent ≤ 971
  normal : b.exponent = -1074 ∨ 2 ^ 52 ≤ b.significand
  close : b.closeBelow = true ↔ b.significand = 2 ^ 52 ∧ -1074 < b.exponent

/-- The order of the numbers of doubles. -/
def Below (a b : Binary) : Prop :=
  a.exponent < b.exponent ∨ a.exponent = b.exponent ∧ a.significand < b.significand

variable {a b : Binary} {k : Int} {n : Nat}

theorem IsDouble.eq_of_not_below (ha : a.IsDouble) (hb : b.IsDouble) (hab : ¬a.Below b)
    (hba : ¬b.Below a) : a = b := by
  unfold Below at hab hba
  have hexponent : a.exponent = b.exponent := by omega
  have hsignificand : a.significand = b.significand := by omega
  have hclose : a.closeBelow = b.closeBelow := by
    rw [Bool.eq_iff_iff, ha.close, hb.close, hexponent, hsignificand]
  cases a
  cases b
  simp_all

/-! ## The interval -/

/-- A quarter of the last place. -/
def quarter (b : Binary) : ℚ := 2 ^ (b.exponent - 2)

theorem quarter_pos (b : Binary) : 0 < b.quarter := by
  rw [quarter]
  positivity

/-- The interval of a double ends where the one of a greater double starts, or before. -/
theorem Below.high_le_low (ha : a.IsDouble) (hb : b.IsDouble) (h : a.Below b) :
    a.high * a.quarter ≤ b.low * b.quarter := by
  have hbound := ha.bound
  have hclose := hb.close
  rcases h with hexponent | ⟨hexponent, hsignificand⟩
  · have hnormal := hb.normal
    have hleast := ha.least
    have hends : a.high ≤ b.low * 2 := by
      unfold high low
      by_cases hc : b.closeBelow = true
      · rw [if_pos hc, (hclose.1 hc).1]
        omega
      · have hother : ¬(b.significand = 2 ^ 52 ∧ -1074 < b.exponent) := mt hclose.2 hc
        rw [if_neg hc]
        omega
    have hquarter : 2 * a.quarter ≤ b.quarter := by
      rw [quarter, quarter, ← zpow_one_add₀ (by norm_num)]
      exact zpow_le_zpow_right₀ (by norm_num) (by omega)
    calc (a.high : ℚ) * a.quarter ≤ ((b.low * 2 : Nat) : ℚ) * a.quarter :=
          mul_le_mul_of_nonneg_right (by exact_mod_cast hends) a.quarter_pos.le
      _ = b.low * (2 * a.quarter) := by rw [Nat.cast_mul, Nat.cast_two, mul_assoc]
      _ ≤ b.low * b.quarter := mul_le_mul_of_nonneg_left hquarter (Nat.cast_nonneg _)
  · have hends : a.high ≤ b.low := by
      unfold high low
      split <;> omega
    have hquarter : a.quarter = b.quarter := by rw [quarter, quarter, hexponent]
    rw [hquarter]
    exact mul_le_mul_of_nonneg_right (by exact_mod_cast hends) b.quarter_pos.le

/-- The factors of a grid bring a power of ten and a quarter of the last place to one scale. -/
theorem exists_scale (b : Binary) (k : Int) :
    ∃ s : ℚ, 0 < s ∧ ((b.scales k).1 : ℚ) = 10 ^ k * s ∧ ((b.scales k).2 : ℚ) = b.quarter * s := by
  have hten : (10 : ℚ) ^ k * 10 ^ (-k).toNat = 10 ^ k.toNat := by
    rw [← zpow_natCast, ← zpow_natCast, ← zpow_add₀ (by norm_num)]
    congr 1
    omega
  have htwo : b.quarter * 2 ^ (2 - b.exponent).toNat = 2 ^ (b.exponent - 2).toNat := by
    rw [quarter, ← zpow_natCast, ← zpow_natCast, ← zpow_add₀ (by norm_num)]
    congr 1
    omega
  refine ⟨10 ^ (-k).toNat * 2 ^ (2 - b.exponent).toNat, by positivity, ?_, ?_⟩
  · have hscale : (b.scales k).1 = 10 ^ k.toNat * 2 ^ (2 - b.exponent).toNat := rfl
    rw [hscale, ← mul_assoc, hten]
    norm_cast
  · have hscale : (b.scales k).2 = 10 ^ (-k).toNat * 2 ^ (b.exponent - 2).toNat := rfl
    rw [hscale, mul_left_comm, htwo]
    norm_cast

theorem contains_eq (b : Binary) (k : Int) (n : Nat) :
    b.contains k n =
      if b.significand % 2 = 0 then
        b.low * (b.scales k).2 ≤ n * (b.scales k).1 &&
          n * (b.scales k).1 ≤ b.high * (b.scales k).2
      else
        b.low * (b.scales k).2 < n * (b.scales k).1 &&
          n * (b.scales k).1 < b.high * (b.scales k).2 :=
  rfl

/-- A point of a grid that the double contains lies between the ends of its interval. -/
theorem bounds_of_contains (h : b.contains k n = true) :
    b.low * b.quarter ≤ n * 10 ^ k ∧ (n : ℚ) * 10 ^ k ≤ b.high * b.quarter := by
  obtain ⟨s, hs, htens, hquarters⟩ := b.exists_scale k
  have hends : b.low * (b.scales k).2 ≤ n * (b.scales k).1 ∧
      n * (b.scales k).1 ≤ b.high * (b.scales k).2 := by
    rw [contains_eq] at h
    split at h
    all_goals
      simp only [Bool.and_eq_true, decide_eq_true_eq] at h
      omega
  have hcast {p q : Nat} {x y : ℚ} (hpq : p ≤ q) (hp : (p : ℚ) = x * s) (hq : (q : ℚ) = y * s) :
      x ≤ y := by
    have hcast : (p : ℚ) ≤ q := by exact_mod_cast hpq
    rw [hp, hq] at hcast
    exact le_of_mul_le_mul_right hcast hs
  have hlow : ((b.low * (b.scales k).2 : Nat) : ℚ) = b.low * b.quarter * s := by
    rw [Nat.cast_mul, hquarters, mul_assoc]
  have hpoint : ((n * (b.scales k).1 : Nat) : ℚ) = n * 10 ^ k * s := by
    rw [Nat.cast_mul, htens, mul_assoc]
  have hhigh : ((b.high * (b.scales k).2 : Nat) : ℚ) = b.high * b.quarter * s := by
    rw [Nat.cast_mul, hquarters, mul_assoc]
  exact ⟨hcast hends.1 hlow hpoint, hcast hends.2 hpoint hhigh⟩

/-! ## The search -/

theorem contains_of_nearest? {d : Decimal} (h : b.nearest? k = some d) :
    d.exponent = k ∧ b.contains k d.digits = true := by
  unfold nearest? at h
  simp only at h
  split at h
  · rename_i hbelow habove
    split at h <;> cases h
    · exact ⟨rfl, habove⟩
    · exact ⟨rfl, hbelow⟩
  · rename_i hbelow _
    cases h
    exact ⟨rfl, hbelow⟩
  · rename_i _ habove
    cases h
    exact ⟨rfl, habove⟩
  · cases h

theorem scales_pos (b : Binary) (k : Int) : 0 < (b.scales k).1 ∧ 0 < (b.scales k).2 := by
  obtain ⟨s, hs, htens, hquarters⟩ := b.exists_scale k
  have htens_pos : (0 : ℚ) < (b.scales k).1 := by
    rw [htens]
    positivity
  have hquarters_pos : (0 : ℚ) < (b.scales k).2 := by
    rw [hquarters]
    exact mul_pos b.quarter_pos hs
  exact ⟨by exact_mod_cast htens_pos, by exact_mod_cast hquarters_pos⟩

theorem scales_fine (h : (10 : ℚ) ^ k < 2 ^ (b.exponent - 1)) :
    (b.scales k).1 < 2 * (b.scales k).2 := by
  obtain ⟨s, hs, htens, hquarters⟩ := b.exists_scale k
  have hhalf : (2 : ℚ) ^ (b.exponent - 1) = 2 * b.quarter := by
    rw [quarter, ← zpow_one_add₀ (by norm_num)]
    congr 1
    omega
  have hcast : ((b.scales k).1 : ℚ) < 2 * (b.scales k).2 := by
    rw [htens, hquarters, ← mul_assoc, ← hhalf]
    exact mul_lt_mul_of_pos_right h hs
  exact_mod_cast hcast

/-- The point above a double is in its interval on a grid finer than half of the last place. -/
theorem contains_above (h : (10 : ℚ) ^ k < 2 ^ (b.exponent - 1)) :
    b.contains k (4 * b.significand * (b.scales k).2 / (b.scales k).1 + 1) = true := by
  obtain ⟨htens, hquarters⟩ := b.scales_pos k
  have hfine := scales_fine h
  let centre := 4 * b.significand * (b.scales k).2
  let below := centre / (b.scales k).1
  have hfloor : below * (b.scales k).1 ≤ centre := Nat.div_mul_le_self _ _
  have hreach : centre < (below + 1) * (b.scales k).1 :=
    Nat.lt_mul_of_div_lt (Nat.lt_succ_self _) htens
  have hsucc : (below + 1) * (b.scales k).1 = below * (b.scales k).1 + (b.scales k).1 :=
    Nat.succ_mul _ _
  have hlow : b.low * (b.scales k).2 ≤ centre := Nat.mul_le_mul_right _ (Nat.sub_le _ _)
  have hhigh : b.high * (b.scales k).2 = centre + 2 * (b.scales k).2 := Nat.add_mul _ _ _
  show b.contains k (below + 1) = true
  rw [contains_eq]
  split
  all_goals
    simp only [Bool.and_eq_true, decide_eq_true_eq]
    omega

theorem exists_nearest? (h : (10 : ℚ) ^ k < 2 ^ (b.exponent - 1)) :
    ∃ d, b.nearest? k = some d := by
  have habove := contains_above h
  unfold nearest?
  simp only
  split
  · split <;> exact ⟨_, rfl⟩
  · exact ⟨_, rfl⟩
  · exact ⟨_, rfl⟩
  · rename_i hnone
    exact absurd (habove.symm.trans hnone) nofun

/-- The finest grid of the search is finer than half of the last place. -/
theorem topExponent_fine (hb : b.IsDouble) :
    (10 : ℚ) ^ (b.topExponent - 23) < 2 ^ (b.exponent - 1) := by
  have hdigits : b.significand.log2 < 53 := (Nat.log2_lt hb.pos.ne').2 hb.bound
  have hleast := hb.least
  have hgreatest := hb.greatest
  refine ten_zpow_lt_two_zpow ?_
  rw [topExponent, Int.fdiv_eq_ediv_of_nonneg _ (by decide)]
  omega

theorem exists_nearest?_shortest (hb : b.IsDouble) : ∃ k, b.nearest? k = some b.shortest := by
  let grid (i : Nat) : Option Decimal := b.nearest? (b.topExponent - i)
  obtain ⟨d, hd⟩ := exists_nearest? (topExponent_fine hb)
  have hfound : ((List.range 24).findSome? grid).isSome = true := by
    rw [List.findSome?_isSome_iff]
    exact ⟨23, by decide, by rw [show grid 23 = some d from hd]; rfl⟩
  obtain ⟨d', hd'⟩ := Option.isSome_iff_exists.1 hfound
  have hshortest : b.shortest = d' := by
    show ((List.range 24).findSome? grid).getD ⟨0, 0⟩ = d'
    rw [hd']
    rfl
  obtain ⟨i, -, hi⟩ := List.exists_of_findSome?_eq_some hd'
  exact ⟨_, hshortest ▸ hi⟩

/-- The shortest decimal lies in the interval of its double. -/
theorem value_shortest_bounds (hb : b.IsDouble) :
    b.low * b.quarter ≤ b.shortest.value ∧ b.shortest.value ≤ b.high * b.quarter := by
  obtain ⟨k, hk⟩ := exists_nearest?_shortest hb
  obtain ⟨rfl, hcontains⟩ := contains_of_nearest? hk
  exact bounds_of_contains hcontains

theorem shortest_digits_pos (hb : b.IsDouble) : 0 < b.shortest.digits := by
  have hlow : 0 < b.low := by
    have hpos := hb.pos
    unfold low
    split <;> omega
  have hend : (0 : ℚ) < b.low * b.quarter := mul_pos (by exact_mod_cast hlow) b.quarter_pos
  have hvalue := hend.trans_le (value_shortest_bounds hb).1
  refine Nat.pos_of_ne_zero fun hzero => ?_
  rw [Decimal.value, hzero, Nat.cast_zero, zero_mul] at hvalue
  exact absurd hvalue (lt_irrefl 0)

/-- If a number rounds to the double `a` and is not above the shortest decimal of `a`, then the
shortest decimals below it are those of the doubles below `a`. -/
theorem value_shortest_lt_iff {q : ℚ} (ha : a.IsDouble) (hb : b.IsDouble)
    (hlow : a.low * a.quarter < q) (hhigh : q ≤ a.high * a.quarter) (hq : q ≤ a.shortest.value) :
    b.shortest.value < q ↔ b.Below a := by
  constructor
  · intro hvalue
    by_contra hba
    by_cases hab : a.Below b
    · have hstart := hhigh.trans (hab.high_le_low ha hb)
      exact absurd (hstart.trans (value_shortest_bounds hb).1) (not_le.2 hvalue)
    · obtain rfl := ha.eq_of_not_below hb hab hba
      exact absurd hq (not_le.2 hvalue)
  · intro hba
    exact ((value_shortest_bounds hb).2.trans (hba.high_le_low hb ha)).trans_lt hlow

end Binary
end Sexpr
