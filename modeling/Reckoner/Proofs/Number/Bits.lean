import Mathlib
import Reckoner.Proofs.Number.Rounding

namespace Reckoner.Binary64

/-!
# What the bits of a double stand for

The core library computes with doubles by unpacking their bits into a sign, a
significand and an exponent, and by packing the result into bits again. `Denotes` says
which unpacked value belongs to a sign and a bit pattern. Both directions are tied to
it here, so that later proofs know the operations on doubles without their bits.
-/

open Float.Model (Format UnpackedFloat)
open Float.Model.UnpackedFloat
  (Sign packComponents unpackMantissa unpackMantissa_def unpackExponent
    unpackExponent_def unpackSign unpackSign_def)

/-- The sign that a sign bit stands for. -/
def signOf : Bool → Sign
  | true => .negative
  | false => .positive

/-- The sign bit among all bits. -/
def signBits
    (negative : Bool) :
    Nat :=
  if negative then 2 ^ 63 else 0

/-- The double with the bits of an unpacked value. -/
def packed
    (value : UnpackedFloat) :
    Float :=
  .ofModel (Float.Model.pack value)

/-- The unpacked value of a sign and a bit pattern. -/
inductive Denotes
    (negative : Bool)
    (bits : Nat) :
    UnpackedFloat →
    Prop where
  | zero
      (isZero : bits = 0) :
      Denotes negative bits (.zero (signOf negative))
  | finite
      (below : bits < infinityPattern)
      (positive : 0 < (Magnitude.ofPattern bits).significand) :
      Denotes negative bits
        (.finite (signOf negative) (Magnitude.ofPattern bits).significand
          ((Magnitude.ofPattern bits).shift - 1074) positive)
  | infinite
      (isInfinity : bits = infinityPattern) :
      Denotes negative bits (.infinity (signOf negative))
  | notANumber
      (beyond : infinityPattern < bits) :
      Denotes negative bits .notANumber

/-- A pattern stands for the magnitude it is read as. -/
theorem Denotes.ofMagnitude
    {negative : Bool}
    {bits significand : Nat}
    {exponent : Int}
    {positive : 0 < significand}
    (below : bits < infinityPattern)
    (read : (Magnitude.ofPattern bits).significand = significand)
    (shifted : ((Magnitude.ofPattern bits).shift - 1074 : Int) = exponent) :
    Denotes negative bits
      (.finite (signOf negative) significand exponent positive) := by
  subst read shifted
  exact .finite below positive

/-- The pattern of a finite value is that of a zero, or of a positive significand. -/
theorem Denotes.zero_or_finite
    {negative : Bool}
    {bits : Nat}
    {value : UnpackedFloat}
    (denotes : Denotes negative bits value)
    (below : bits < infinityPattern) :
    bits = 0 ∧ value = .zero (signOf negative) ∨
      ∃ positive,
        value =
          .finite (signOf negative) (Magnitude.ofPattern bits).significand
            ((Magnitude.ofPattern bits).shift - 1074) positive := by
  cases denotes with
  | zero isZero => exact .inl ⟨isZero, rfl⟩
  | finite _ positive => exact .inr ⟨positive, rfl⟩
  | infinite isInfinity => exact absurd isInfinity (Nat.ne_of_lt below)
  | notANumber beyond => exact absurd beyond (Nat.lt_asymm below)

/-- The significand of a pattern fits, and a shift needs a significand of 53 bits. -/
theorem significand_ofPattern
    (bits : Nat) :
    (Magnitude.ofPattern bits).significand < 2 ^ 53 ∧
      (2 ^ 52 ≤ (Magnitude.ofPattern bits).significand ∨
        (Magnitude.ofPattern bits).shift = 0) := by
  unfold Magnitude.ofPattern
  simp only [Nat.pow_eq]
  split
  · dsimp only
    omega
  · dsimp only
    omega

/-- A pattern is made of its shift and its significand. -/
theorem pattern_ofPattern_eq
    (bits : Nat) :
    (Magnitude.ofPattern bits).shift * 2 ^ 52 +
      (Magnitude.ofPattern bits).significand = bits := by
  unfold Magnitude.ofPattern
  simp only [Nat.pow_eq]
  split
  · dsimp only
    omega
  · dsimp only
    omega

section Unpacking

variable (bits : BitVec Format.binary64.numBits)

/-- The fraction of a double is in its lower bits. -/
theorem toNat_unpackMantissa :
    (unpackMantissa bits).toNat = bits.toNat % 2 ^ 52 := by
  rw [unpackMantissa_def, BitVec.extractLsb'_toNat, Nat.shiftRight_zero]

/-- The exponent of a double is in the bits above its fraction. -/
theorem toNat_unpackExponent :
    (unpackExponent bits).toNat = bits.toNat / 2 ^ 52 % 2 ^ 11 := by
  rw [unpackExponent_def, BitVec.extractLsb'_toNat,
    Nat.shiftRight_eq_div_pow]

/-- The sign of a double is in its highest bit. -/
theorem ofBitVec_unpackSign :
    Sign.ofBitVec (unpackSign bits) =
      signOf (decide (2 ^ 63 ≤ bits.toNat)) := by
  have all : bits.toNat < 2 ^ 64 := bits.isLt
  have highest : (unpackSign bits).toNat = bits.toNat / 2 ^ 63 := by
    rw [unpackSign_def, BitVec.extractLsb'_toNat, Nat.shiftRight_eq_div_pow]
    exact Nat.mod_eq_of_lt (Nat.div_lt_of_lt_mul all)
  unfold Sign.ofBitVec
  by_cases negative : 2 ^ 63 ≤ bits.toNat
  · have isSet : unpackSign bits ≠ 0#1 := by
      intro isZero
      rw [isZero] at highest
      change 0 = _ at highest
      omega
    rw [if_neg isSet, decide_eq_true negative]
    rfl
  · have isZero : unpackSign bits = 0#1 := by
      apply BitVec.eq_of_toNat_eq
      rw [highest]
      change _ = 0
      omega
    rw [if_pos isZero, decide_eq_false negative]
    rfl

/-- The leading bit of a significand is put before its fraction. -/
theorem toNat_leading
    (fraction : BitVec 52) :
    (1#1 ++ fraction).toNat = 2 ^ 52 + fraction.toNat := by
  rw [BitVec.toNat_append, ← Nat.shiftLeft_add_eq_or_of_lt fraction.isLt]
  rfl

/-- The bits of a double stand for what they are unpacked to. -/
theorem denotes_unpack :
    Denotes (decide (2 ^ 63 ≤ bits.toNat)) (bits.toNat % 2 ^ 63)
      (UnpackedFloat.unpack .binary64 bits) := by
  have fraction := toNat_unpackMantissa bits
  have exponent := toNat_unpackExponent bits
  have parts :
      bits.toNat % 2 ^ 63 =
        (unpackExponent bits).toNat * 2 ^ 52 +
          (unpackMantissa bits).toNat := by
    omega
  have exponentLt : (unpackExponent bits).toNat < 2 ^ 11 := BitVec.isLt _
  have fractionLt : (unpackMantissa bits).toNat < 2 ^ 52 := BitVec.isLt _
  have limit : infinityPattern = 2047 * 2 ^ 52 := rfl
  unfold UnpackedFloat.unpack
  simp only [ofBitVec_unpackSign bits]
  rw [parts]
  split
  case isTrue largest =>
    have all : (unpackExponent bits).toNat = 2047 :=
      congrArg BitVec.toNat largest
    -- The largest exponent belongs to the infinities and to what is no number.
    split
    case isTrue noFraction =>
      have nothing : (unpackMantissa bits).toNat = 0 :=
        congrArg BitVec.toNat noFraction
      exact .infinite (by omega)
    case isFalse hasFraction =>
      have something : (unpackMantissa bits).toNat ≠ 0 :=
        fun nothing => hasFraction (BitVec.eq_of_toNat_eq nothing)
      exact .notANumber (by omega)
  case isFalse notLargest =>
    have notAll : (unpackExponent bits).toNat ≠ 2047 :=
      fun all => notLargest (BitVec.eq_of_toNat_eq all)
    split
    case isTrue least =>
      have none : (unpackExponent bits).toNat = 0 :=
        congrArg BitVec.toNat least
      split
      case isTrue noFraction =>
        have nothing : (unpackMantissa bits).toNat = 0 :=
          congrArg BitVec.toNat noFraction
        exact .zero (by omega)
      case isFalse hasFraction =>
        rw [none, Nat.zero_mul, Nat.zero_add]
        have magnitude :
            Magnitude.ofPattern (unpackMantissa bits).toNat =
              ⟨(unpackMantissa bits).toNat, 0⟩ :=
          ofPattern_of_lt (by omega)
        refine .ofMagnitude (by omega) (by rw [magnitude]) ?_
        rw [magnitude]
        rfl
    case isFalse notLeast =>
      have notNone : (unpackExponent bits).toNat ≠ 0 :=
        fun none => notLeast (BitVec.eq_of_toNat_eq none)
      have magnitude :=
        ofPattern_of_exponent (Nat.pos_of_ne_zero notNone) fractionLt
      refine .ofMagnitude (by omega) ?_ ?_
      · rw [magnitude, toNat_leading]
      · rw [magnitude]
        change
          (((unpackExponent bits).toNat - 1 : Nat) - 1074 : Int) =
            (unpackExponent bits).toNat - (1023 + 52)
        omega

end Unpacking

/-- Bits are put together from a sign, an exponent and a fraction. -/
theorem toNat_packComponents
    (negative : Bool)
    (exponent : BitVec 11)
    (mantissa : BitVec 52) :
    (packComponents .binary64 (signOf negative) exponent mantissa).toNat =
      signBits negative + (exponent.toNat * 2 ^ 52 + mantissa.toNat) := by
  unfold packComponents
  rw [BitVec.toNat_append, BitVec.toNat_append,
    ← Nat.shiftLeft_add_eq_or_of_lt mantissa.isLt,
    ← Nat.shiftLeft_add_eq_or_of_lt exponent.isLt, Nat.shiftLeft_eq,
    Nat.shiftLeft_eq]
  cases negative with
  | true =>
      change (1 * 2 ^ 11 + _) * 2 ^ 52 + _ = 2 ^ 63 + _
      omega
  | false =>
      change (0 * 2 ^ 11 + _) * 2 ^ 52 + _ = 0 + _
      omega

/-- A finite value is packed into its pattern, or that of an infinity beyond all. -/
theorem toNat_pack_finite
    (negative : Bool)
    {significand : Nat}
    (fits : significand < 2 ^ 53)
    (positive : 0 < significand)
    {shift : Nat}
    (normal : 2 ^ 52 ≤ significand ∨ shift = 0) :
    (UnpackedFloat.pack .binary64
      (.finite (signOf negative) significand (shift - 1074) positive)).toNat =
        signBits negative +
          min infinityPattern (shift * 2 ^ 52 + significand) := by
  have limit : infinityPattern = 2047 * 2 ^ 52 := rfl
  have biased :
      ((shift : Int) - 1074 + Format.binary64.exponentBias +
        Format.binary64.mantissaBitsWithoutImplicit).toNat = shift + 1 := by
    change ((shift : Int) - 1074 + 1023 + 52).toNat = shift + 1
    omega
  have bits : Format.binary64.mantissaBits = 53 := rfl
  unfold UnpackedFloat.pack
  simp only [biased, bits]
  split
  case isTrue large =>
    change 2 ^ 11 ≤ _ at large
    rw [Float.Model.UnpackedFloat.packedInfinity, toNat_packComponents,
      min_eq_left (by omega)]
    rfl
  case isFalse notLarge =>
    change ¬ 2 ^ 11 ≤ _ at notLarge
    split
    case isTrue leading =>
      have enough : 2 ^ 52 ≤ significand :=
        (Nat.le_log2 positive.ne').1 (by omega)
      rw [toNat_packComponents, BitVec.toNat_ofNat, BitVec.toNat_ofNat,
        min_eq_right (by omega)]
      change _ + ((shift + 1) % 2 ^ 11 * 2 ^ 52 + significand % 2 ^ 52) = _
      omega
    case isFalse notLeading =>
      have few : significand < 2 ^ 52 := by
        have bits : significand.log2 < 53 := (Nat.log2_lt positive.ne').2 fits
        exact (Nat.log2_lt positive.ne').1 (by omega)
      rw [toNat_packComponents, BitVec.toNat_ofNat, min_eq_right (by omega)]
      change _ + (0 * 2 ^ 52 + significand % 2 ^ 52) = _
      omega

/-- A sign and a pattern are read off all bits. -/
theorem parts_of_bits
    (negative : Bool)
    {bits : Nat}
    (below : bits < 2 ^ 63) :
    decide (2 ^ 63 ≤ signBits negative + bits) = negative ∧
      (signBits negative + bits) % 2 ^ 63 = bits := by
  unfold signBits
  cases negative with
  | true =>
      refine ⟨by simp, ?_⟩
      rw [if_pos rfl]
      omega
  | false => simpa using below

/-- A sign and a pattern are read off the bits of a packed value. -/
theorem bits_packed
    {value : UnpackedFloat}
    {negative : Bool}
    {bits : Nat}
    (made :
      (UnpackedFloat.pack .binary64 value).toNat =
        signBits negative + bits)
    (below : bits < 2 ^ 63) :
    isNegative (packed value) = negative ∧ pattern (packed value) = bits := by
  have all : (packed value).toBits.toNat = signBits negative + bits := made
  rw [isNegative, pattern, all]
  exact parts_of_bits negative below

/-- A finite value has the sign and the pattern that it is packed into. -/
theorem bits_packed_finite
    (negative : Bool)
    {significand : Nat}
    (fits : significand < 2 ^ 53)
    (positive : 0 < significand)
    {shift : Nat}
    (normal : 2 ^ 52 ≤ significand ∨ shift = 0) :
    let value : UnpackedFloat :=
      .finite (signOf negative) significand (shift - 1074) positive
    isNegative (packed value) = negative ∧
      pattern (packed value) =
        min infinityPattern (shift * 2 ^ 52 + significand) :=
  bits_packed (toNat_pack_finite negative fits positive normal)
    (Nat.lt_of_le_of_lt (min_le_left _ _) (by decide))

/-- A double is packed again from what it is unpacked to. -/
theorem packed_unpack
    (x : Float) :
    packed x.toModel.unpack = x :=
  Float.ofBits_toBits x

/-- The bits of a double stand for what it is unpacked to. -/
theorem denotes_double
    (x : Float) :
    Denotes (isNegative x) (pattern x) x.toModel.unpack :=
  denotes_unpack x.toBits.toBitVec

/-- A double that is made from bits has them, unless they stand for no number. -/
theorem toNat_toBits_ofBits
    {word : UInt64}
    (isNumber : word.toNat % 2 ^ 63 ≤ infinityPattern) :
    (Float.ofBits word).toBits.toNat = word.toNat := by
  obtain ⟨bits, isWord⟩ :
      ∃ bits : BitVec Format.binary64.numBits, word.toBitVec = bits :=
    ⟨_, rfl⟩
  have same : word.toNat = bits.toNat := congrArg BitVec.toNat isWord
  have made :
      (Float.ofBits word).toBits.toBitVec =
        UnpackedFloat.pack .binary64 (UnpackedFloat.unpack .binary64 bits) :=
    congrArg
      (fun bits =>
        UnpackedFloat.pack .binary64 (UnpackedFloat.unpack .binary64 bits))
      isWord
  have number : UnpackedFloat.isNaNBits bits = false := by
    refine decide_eq_false ?_
    rintro ⟨largest, hasFraction⟩
    have exponent : (unpackExponent bits).toNat = 2047 :=
      congrArg BitVec.toNat largest
    have something : (unpackMantissa bits).toNat ≠ 0 :=
      fun nothing => hasFraction (BitVec.eq_of_toNat_eq nothing)
    have limit : infinityPattern = 2047 * 2 ^ 52 := rfl
    rw [toNat_unpackExponent] at exponent
    rw [toNat_unpackMantissa] at something
    omega
  rw [UnpackedFloat.pack_unpack, number] at made
  exact (congrArg BitVec.toNat made).trans same.symm

/-- A double that is made from a sign and a pattern has them. -/
theorem bits_ofPattern
    (negative : Bool)
    {bits : Nat}
    (isNumber : bits ≤ infinityPattern) :
    isNegative (ofPattern negative bits) = negative ∧
      pattern (ofPattern negative bits) = bits := by
  have below : bits < 2 ^ 63 := Nat.lt_of_le_of_lt isNumber (by decide)
  generalize made :
    UInt64.ofNat (if negative then Nat.pow 2 63 + bits else bits) = word
  have all : word.toNat = signBits negative + bits := by
    rw [← made, UInt64.toNat_ofNat']
    cases negative with
    | true =>
        change (2 ^ 63 + bits) % 2 ^ 64 = 2 ^ 63 + bits
        omega
    | false =>
        change bits % 2 ^ 64 = 0 + bits
        omega
  obtain ⟨sign, rest⟩ := parts_of_bits negative below
  have same : (Float.ofBits word).toBits.toNat = word.toNat := by
    refine toNat_toBits_ofBits ?_
    rw [all, rest]
    exact isNumber
  rw [ofPattern, made, isNegative, pattern, same, all]
  exact ⟨sign, rest⟩

end Reckoner.Binary64
