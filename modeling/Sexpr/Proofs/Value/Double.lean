/-
Doubles and their bits.

The bits of a double are read in two ways: by the operations on doubles, which unpack them, and by
the printer, which takes from them what a double is apart from its sign.  Both come to the same
significand and exponent, and doubles are compared by these.

The lemmas on packed doubles belong to no single file of Mathlib, so the whole of it is
imported.
-/
import Mathlib
import Sexpr.Proofs.Value.Shortest

namespace Sexpr

open Float.Model (UnpackedFloat Format)
open Float.Model.UnpackedFloat

namespace Magnitude

variable {bits : UInt64} {b : Binary}

/-! ## Fields -/

theorem toNat_unpackExponent (bits : UInt64) :
    (@unpackExponent .binary64 bits.toBitVec).toNat = bits.toNat / 2 ^ 52 % 2 ^ 11 := by
  rw [← UInt64.toNat_toBitVec]
  simp [unpackExponent, BitVec.extractLsb, BitVec.extractLsb'_toNat, Nat.shiftRight_eq_div_pow]

theorem toNat_unpackMantissa (bits : UInt64) :
    (@unpackMantissa .binary64 bits.toBitVec).toNat = bits.toNat % 2 ^ 52 := by
  rw [← UInt64.toNat_toBitVec]
  simp [unpackMantissa, BitVec.extractLsb, BitVec.extractLsb'_toNat, Nat.shiftRight_eq_div_pow]

theorem unpackExponent_eq_iff {e : BitVec 11} :
    @unpackExponent .binary64 bits.toBitVec = e ↔ bits.toNat / 2 ^ 52 % 2 ^ 11 = e.toNat := by
  rw [← toNat_unpackExponent]
  exact BitVec.toNat_inj.symm

theorem unpackMantissa_eq_iff {m : BitVec 52} :
    @unpackMantissa .binary64 bits.toBitVec = m ↔ bits.toNat % 2 ^ 52 = m.toNat := by
  rw [← toNat_unpackMantissa]
  exact BitVec.toNat_inj.symm

/-- The significand of a double that is not subnormal has one more digit in front. -/
theorem toNat_implicit (bits : UInt64) :
    (1#1 ++ @unpackMantissa .binary64 bits.toBitVec).toNat = 2 ^ 52 + bits.toNat % 2 ^ 52 := by
  have hlt := (@unpackMantissa .binary64 bits.toBitVec).isLt
  rw [BitVec.toNat_append, ← Nat.shiftLeft_add_eq_or_of_lt hlt, Nat.shiftLeft_eq,
    toNat_unpackMantissa]
  rfl

/-- What an unpacked double is apart from its sign. -/
def ofUnpacked : UnpackedFloat → Magnitude
  | .notANumber => undefined
  | .infinity _ => infinite
  | .zero _ => zero
  | .finite _ m e _ =>
    finite { significand := m, exponent := e, closeBelow := m = 2 ^ 52 && -1074 < e }

theorem ofBits_eq_ofUnpacked (bits : UInt64) :
    ofBits bits = ofUnpacked (unpack .binary64 bits.toBitVec) := by
  have hones : @unpackExponent .binary64 bits.toBitVec = -1#_ ↔
      bits.toNat / 2 ^ 52 % 2 ^ 11 = 2047 := unpackExponent_eq_iff
  have hsubnormal : @unpackExponent .binary64 bits.toBitVec = 0#_ ↔
      bits.toNat / 2 ^ 52 % 2 ^ 11 = 0 := unpackExponent_eq_iff
  have hzero : @unpackMantissa .binary64 bits.toBitVec = 0#_ ↔
      bits.toNat % 2 ^ 52 = 0 := unpackMantissa_eq_iff
  have hbias : (Format.binary64.exponentBias + Format.binary64.mantissaBitsWithoutImplicit : Int) =
      1075 := rfl
  have hpow : Nat.pow 2 52 = 2 ^ 52 ∧ Nat.pow 2 11 = 2 ^ 11 := ⟨rfl, rfl⟩
  simp only [ofBits, unpack, hpow]
  by_cases hlast : bits.toNat / 2 ^ 52 % 2 ^ 11 = 2047
  · rw [if_pos hlast, if_pos (hones.2 hlast)]
    by_cases hfraction : bits.toNat % 2 ^ 52 = 0
    · rw [if_pos hfraction, if_pos (hzero.2 hfraction)]
      rfl
    · rw [if_neg hfraction, if_neg (mt hzero.1 hfraction)]
      rfl
  · rw [if_neg hlast, if_neg (mt hones.1 hlast)]
    by_cases hleast : bits.toNat / 2 ^ 52 % 2 ^ 11 = 0
    · rw [if_pos hleast, if_pos (hsubnormal.2 hleast)]
      by_cases hfraction : bits.toNat % 2 ^ 52 = 0
      · rw [if_pos hfraction, dif_pos (hzero.2 hfraction)]
        rfl
      · rw [if_neg hfraction, dif_neg (mt hzero.1 hfraction)]
        refine congrArg finite
          ((Binary.mk.injEq ..).mpr ⟨(toNat_unpackMantissa bits).symm, ?_, ?_⟩)
        · rw [toNat_unpackExponent, hbias]
          omega
        · rw [toNat_unpackMantissa, decide_eq_false (by omega), Bool.false_and]
    · rw [if_neg hleast, if_neg (mt hsubnormal.1 hleast)]
      refine congrArg finite ((Binary.mk.injEq ..).mpr ⟨(toNat_implicit bits).symm, ?_, ?_⟩)
      · rw [toNat_unpackExponent, hbias]
      · rw [toNat_implicit, toNat_unpackExponent, hbias]
        congr 1
        all_goals
          rw [decide_eq_decide]
          omega

/-- The bits of a double give the number of a double. -/
theorem isDouble_of_ofBits (h : ofBits bits = finite b) : b.IsDouble := by
  have hbits : bits.toNat % 2 ^ 52 < 2 ^ 52 := Nat.mod_lt _ (by decide)
  have hbiased : bits.toNat / 2 ^ 52 % 2 ^ 11 < 2 ^ 11 := Nat.mod_lt _ (by decide)
  have hpow : Nat.pow 2 52 = 2 ^ 52 ∧ Nat.pow 2 11 = 2 ^ 11 := ⟨rfl, rfl⟩
  simp only [ofBits, hpow] at h
  split at h
  · split at h <;> cases h
  · split at h
    · split at h
      · cases h
      · cases h
        constructor <;> simp <;> omega
    · cases h
      constructor <;> simp <;> omega

end Magnitude

/-! ## Comparisons -/

namespace Real

open Magnitude

/-- Packing loses nothing of what has been unpacked. -/
theorem unpack_pack_unpack (v : BitVec 64) :
    unpack .binary64 (pack .binary64 (unpack .binary64 v)) = unpack .binary64 v := by
  rw [pack_unpack]
  split
  · rename_i hnan
    obtain ⟨hexponent, hmantissa⟩ := of_decide_eq_true hnan
    rw [unpack_packedNaN, unpack, if_pos hexponent, if_neg hmantissa]
  · rfl

theorem unpack_abs (x : Float) : x.abs.toModel.unpack = x.toModel.unpack.abs := by
  let v := x.toModel.toBits.toBitVec
  let w := packComponents .binary64 .positive (@unpackExponent .binary64 v) (unpackMantissa v)
  have hunpack : (unpack .binary64 v).abs = unpack .binary64 w := by
    simp only [unpack, w, unpackExponent_packComponents, unpackMantissa_packComponents,
      unpackSign_packComponents, Sign.ofBitVec_toBitVec]
    split
    · split <;> rfl
    · split
      · split <;> rfl
      · rfl
  show unpack .binary64 (pack .binary64 (unpack .binary64 v).abs) = (unpack .binary64 v).abs
  rw [hunpack, unpack_pack_unpack]

theorem le_iff (x y : Float) : x ≤ y ↔ x.toModel.unpack.le y.toModel.unpack = true :=
  decide_eq_true_iff.trans Iff.rfl

theorem lt_iff (x y : Float) : x < y ↔ x.toModel.unpack.lt y.toModel.unpack = true :=
  decide_eq_true_iff.trans Iff.rfl

section Positive

variable {a b : Binary} {ha : 0 < a.significand} {hb : 0 < b.significand}

/-- The unpacked double with a number. -/
def positive (b : Binary) (h : 0 < b.significand) : UnpackedFloat :=
  .finite .positive b.significand b.exponent h

theorem lt_positive : (positive a ha).lt (positive b hb) = true ↔ a.Below b := by
  have hcompare : (positive a ha).compare (positive b hb) =
      some ((compare a.exponent b.exponent).then (compare a.significand b.significand)) := rfl
  rw [UnpackedFloat.lt, hcompare, beq_iff_eq, Option.some_inj, Ordering.then_eq_lt,
    Int.compare_eq_lt, Int.compare_eq_eq, Nat.compare_eq_lt]
  exact Iff.rfl

theorem le_positive : (positive a ha).le (positive b hb) = true ↔ ¬b.Below a := by
  have hcompare : (positive a ha).compare (positive b hb) =
      some ((compare a.exponent b.exponent).then (compare a.significand b.significand)) := rfl
  rw [UnpackedFloat.le, hcompare, Option.any_some, ← Bool.not_eq_false, Ordering.isLE_eq_false,
    Ordering.then_eq_gt, Int.compare_eq_gt, Int.compare_eq_eq, Nat.compare_eq_gt]
  unfold Binary.Below
  omega

end Positive

/-- Whether a double is zero or lies between the bounds inside which positions are used. -/
def IsPlain (x : Float) : Prop := (x == 0.0) = true ∨ 1e-4 ≤ x.abs ∧ x.abs < 1e16

instance (x : Float) : Decidable (IsPlain x) := inferInstanceAs (Decidable (_ ∨ _))

/-- The double next to ten to the minus fourth. -/
def lower : Binary := { significand := 7378697629483821, exponent := -66, closeBelow := false }

/-- The double of ten to the sixteenth. -/
def upper : Binary := { significand := 5000000000000000, exponent := 1, closeBelow := false }

theorem unpack_lower : (1e-4 : Float).toModel.unpack = positive lower (by decide) := rfl

theorem unpack_upper : (1e16 : Float).toModel.unpack = positive upper (by decide) := rfl

theorem isPlain_iff (x : Float) :
    IsPlain x ↔ Magnitude.ofBits x.toBits = .zero ∨
      ∃ b, Magnitude.ofBits x.toBits = .finite b ∧ ¬b.Below lower ∧ b.Below upper := by
  have hbits : Magnitude.ofBits x.toBits = ofUnpacked x.toModel.unpack :=
    ofBits_eq_ofUnpacked x.toBits
  have hzero : (x == 0.0) = x.toModel.unpack.beq (.zero .positive) := rfl
  rw [IsPlain, le_iff, lt_iff, unpack_abs, unpack_lower, unpack_upper, hbits, hzero]
  cases x.toModel.unpack with
  | notANumber =>
      refine iff_of_false ?_ ?_
      · rintro (h | ⟨-, h⟩) <;> exact Bool.noConfusion h
      · rintro (h | ⟨b, h, -⟩) <;> exact nomatch h
  | infinity s =>
      refine iff_of_false ?_ ?_
      · rintro (h | ⟨-, h⟩)
        · cases s <;> exact Bool.noConfusion h
        · exact Bool.noConfusion h
      · rintro (h | ⟨b, h, -⟩) <;> exact nomatch h
  | zero s =>
      refine iff_of_true (.inl ?_) (.inl rfl)
      cases s <;> rfl
  | finite s m e h =>
      let b : Binary := { significand := m, exponent := e, closeBelow := m = 2 ^ 52 && -1074 < e }
      have hnonzero : (UnpackedFloat.finite s m e h).beq (.zero .positive) = false := by
        cases s <;> rfl
      have habs : (UnpackedFloat.finite s m e h).abs = positive b h := rfl
      rw [hnonzero, habs, le_positive, lt_positive]
      constructor
      · rintro (hzero | hbounds)
        · exact Bool.noConfusion hzero
        · exact .inr ⟨b, rfl, hbounds⟩
      · rintro (hzero | ⟨b', hb', hbounds⟩)
        · exact nomatch hzero
        · obtain rfl : b = b' := Magnitude.finite.inj hb'
          exact .inr hbounds

end Real
end Sexpr
