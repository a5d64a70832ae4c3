import Arcade.Number.Basic
import Arcade.Proofs.Number.Bits

/-!
# Numbers without a minus sign

Adding zero leaves every double as it is but one: zero with a minus sign becomes zero without it.
Sums that start from zero never come to that double as long as nothing negative is added, since the
sum of doubles without a minus sign has none. Double by double this is seen on the sign, mantissa
and exponent that a double is unpacked as before the addition.
-/

namespace Arcade

namespace Double

open Float.Model Float.Model.UnpackedFloat

/-- What a double without a minus sign is unpacked as. -/
def HasPlus : UnpackedFloat → Prop
  | .notANumber => True
  | .infinity s | .zero s | .finite s _ _ _ => s = .positive

/-- A double without a minus sign: a positive one, zero, or not a number. -/
def Unsigned (x : Float) : Prop := x.toBits.toNat < 2 ^ 63

theorem unpackSign_eq_zero {b : BitVec Format.binary64.numBits} (h : b.toNat < 2 ^ 63) :
    unpackSign b = 0#1 := by
  apply BitVec.eq_of_toNat_eq
  have hlt : b.toNat < 2 ^ 63 := h
  rw [unpackSign, BitVec.toNat_cast, BitVec.extractLsb_toNat, Nat.shiftRight_eq_div_pow]
  have : b.toNat / 2 ^ 63 = 0 := Nat.div_eq_of_lt hlt
  change b.toNat / 2 ^ 63 % _ = _
  rw [this]
  rfl

theorem hasPlus_unpack {b : BitVec Format.binary64.numBits} (h : b.toNat < 2 ^ 63) :
    HasPlus (UnpackedFloat.unpack Format.binary64 b) := by
  have hsign : Sign.ofBitVec (unpackSign b) = .positive := by
    rw [unpackSign_eq_zero h]
    rfl
  unfold UnpackedFloat.unpack
  simp only [hsign]
  split
  · split <;> trivial
  · split
    · split <;> rfl
    · rfl

theorem packComponents_lt (e : BitVec Format.binary64.exponentBits)
    (m : BitVec Format.binary64.mantissaBitsWithoutImplicit) :
    (packComponents Format.binary64 .positive e m).toNat < 2 ^ 63 := by
  have hhigh : (Sign.positive.toBitVec ++ e).toNat < 2 ^ 11 := by
    rw [BitVec.toNat_append]
    simpa [Sign.toBitVec] using e.isLt
  have hlow : m.toNat < 2 ^ 52 := m.isLt
  rw [packComponents, BitVec.toNat_append, ← Nat.shiftLeft_add_eq_or_of_lt hlow,
    Nat.shiftLeft_eq]
  omega

theorem pack_lt {u : UnpackedFloat} (h : HasPlus u) :
    (UnpackedFloat.pack Format.binary64 u).toNat < 2 ^ 63 := by
  cases u with
  | notANumber => decide
  | infinity s => cases h; decide
  | zero s => cases h; decide
  | finite s m e hm =>
    cases h
    unfold UnpackedFloat.pack
    dsimp only
    split
    · decide
    · split <;> exact packComponents_lt _ _

theorem hasPlus_roundWithAccuracy (mantissa : Nat) (exponent : Int) (a : Accuracy) :
    HasPlus (roundWithAccuracy Format.binary64 .positive mantissa exponent a) := by
  unfold roundWithAccuracy
  dsimp only
  split <;> rfl

/-- A sum is not negative if its parts are not. -/
theorem hasPlus_normalize (mantissa : Nat) (exponent : Int) :
    HasPlus (UnpackedFloat.normalize Format.binary64 mantissa exponent .positive) := by
  unfold UnpackedFloat.normalize
  split
  · rename_i hneg
    rw [Int.compare_eq_lt] at hneg
    omega
  · rfl
  · exact hasPlus_roundWithAccuracy _ _ _

theorem hasPlus_add {u v : UnpackedFloat} (hu : HasPlus u) (hv : HasPlus v) :
    HasPlus (UnpackedFloat.add Format.binary64 u v) := by
  cases u with
  | notANumber => trivial
  | infinity s =>
    cases hu
    cases v with
    | infinity t => cases hv; rfl
    | _ => trivial
  | zero s =>
    cases hu
    cases v with
    | zero t => cases hv; rfl
    | _ => exact hv
  | finite s m e hm =>
    cases hu
    cases v with
    | notANumber => trivial
    | infinity t => exact hv
    | zero t => rfl
    | finite t m' e' hm' =>
      cases hv
      exact hasPlus_normalize _ _

/-- A quotient is not negative if its parts are not. -/
theorem hasPlus_div {u v : UnpackedFloat} (hu : HasPlus u) (hv : HasPlus v) :
    HasPlus (UnpackedFloat.div Format.binary64 u v) := by
  cases u <;> cases v <;> try trivial
  all_goals cases hu; cases hv
  case finite.finite => exact hasPlus_roundWithAccuracy _ _ _
  all_goals rfl

/-- Adding zero to what is not negative changes nothing. -/
theorem add_zero_unpacked {u : UnpackedFloat} (hu : HasPlus u) :
    UnpackedFloat.add Format.binary64 u (.zero .positive) = u := by
  cases u with
  | zero s => cases hu; rfl
  | _ => rfl

variable {x y : Float}

/-- A double is packed from what it is unpacked as. -/
theorem pack_unpack (x : Float) : Float.ofModel (Float.Model.pack x.toModel.unpack) = x :=
  Float.ofBits_toBits x

theorem Unsigned.add (hx : Unsigned x) (hy : Unsigned y) : Unsigned (x + y) :=
  pack_lt (hasPlus_add (hasPlus_unpack hx) (hasPlus_unpack hy))

theorem Unsigned.div (hx : Unsigned x) (hy : Unsigned y) : Unsigned (x / y) :=
  pack_lt (hasPlus_div (hasPlus_unpack hx) (hasPlus_unpack hy))

theorem Unsigned.add_zero (hx : Unsigned x) : x + ofBits false 0 = x := by
  have hzero : (ofBits false 0).toModel.unpack = .zero .positive := by rfl
  have hadded : UnpackedFloat.add Format.binary64 x.toModel.unpack
      (ofBits false 0).toModel.unpack = x.toModel.unpack := by
    rw [hzero]
    exact add_zero_unpacked (hasPlus_unpack hx)
  exact (congrArg (fun u => Float.ofModel (Float.Model.pack u)) hadded).trans (pack_unpack x)

theorem unsigned_ofBits {bits : Nat} (h : bits < 2 ^ 63) : Unsigned (ofBits false bits) := by
  have hbits : (UInt64.ofNat bits).toBitVec.toNat < 2 ^ 63 := by
    change bits % 2 ^ 64 < 2 ^ 63
    omega
  exact pack_lt (hasPlus_unpack hbits)

theorem lt_iff_compare : x < y ↔ x.toModel.unpack.compare y.toModel.unpack = some .lt := by
  change decide _ = true ↔ _
  rw [decide_eq_true_iff]
  exact beq_iff_eq

theorem beq_iff_compare :
    (x == y) = true ↔ x.toModel.unpack.compare y.toModel.unpack = some .eq := by
  change (x.toModel.unpack.compare y.toModel.unpack == some .eq) = true ↔ _
  exact beq_iff_eq

/-- Infinity is above every other double that it compares with. -/
theorem compare_infinity (hy : y ≠ infinity) :
    infinity.toModel.unpack.compare y.toModel.unpack = none ∨
      infinity.toModel.unpack.compare y.toModel.unpack = some .gt := by
  have hunpack : infinity.toModel.unpack = .infinity .positive := by rfl
  have hpacked := pack_unpack y
  rw [hunpack]
  cases h : y.toModel.unpack with
  | notANumber => exact .inl rfl
  | infinity s =>
    cases s with
    | negative => exact .inr rfl
    | positive =>
      rw [h, ← hunpack, pack_unpack] at hpacked
      exact absurd hpacked.symm hy
  | zero s => exact .inr rfl
  | finite s m e hm => exact .inr rfl

theorem nearestBits?_lt {num den bits : Nat} (h : nearestBits? num den = some bits) :
    bits < infinityBits := by
  unfold nearestBits? at h
  split at h
  · obtain rfl := Option.some.inj h
    decide
  · dsimp only at h
    split at h
    · rename_i hlt
      obtain rfl := Option.some.inj h
      exact hlt
    · cases h

theorem unsigned_ofInt? {n : Int} (hn : 0 ≤ n) (h : ofInt? n = some x) : Unsigned x := by
  obtain ⟨bits, hbits, rfl⟩ := Option.map_eq_some_iff.1 h
  have hinfinity : infinityBits < 2 ^ 63 := by decide
  rw [decide_eq_false (Int.not_lt.2 hn)]
  exact unsigned_ofBits ((nearestBits?_lt hbits).trans hinfinity)

end Double

namespace Number

/-- An integer that is not negative, or a double without a minus sign. -/
def Unsigned : Number → Prop
  | .int n => 0 ≤ n
  | .float x => Double.Unsigned x

variable {m n k : Number}

theorem Unsigned.toDouble (h : n.Unsigned) {x : Float} (hx : n.toDouble = .ok x) :
    Double.Unsigned x := by
  cases n with
  | int i =>
    rw [Number.toDouble, doubleOfInt] at hx
    cases hi : Double.ofInt? i with
    | none =>
      rw [hi] at hx
      cases hx
    | some y =>
      rw [hi] at hx
      obtain rfl := Except.ok.inj hx
      exact Double.unsigned_ofInt? h hi
  | float y =>
    obtain rfl := Except.ok.inj hx
    exact h

theorem Unsigned.add (hm : m.Unsigned) (hn : n.Unsigned) (h : m.add n = .ok k) : k.Unsigned := by
  have rounded {x y : Float} (hx : m.toDouble = .ok x) (hy : n.toDouble = .ok y) :
      Unsigned (.float (x + y)) := (hm.toDouble hx).add (hn.toDouble hy)
  unfold Number.add at h
  split at h
  · obtain rfl := Except.ok.inj h
    exact Int.add_nonneg hm hn
  · obtain ⟨x, hx, h⟩ := bind_eq_ok.1 h
    obtain ⟨y, hy, h⟩ := bind_eq_ok.1 h
    obtain rfl := Except.ok.inj h
    exact rounded hx hy

theorem Unsigned.div (hm : m.Unsigned) (hn : n.Unsigned) {x : Float} (h : m.div n = .ok x) :
    Double.Unsigned x := by
  unfold Number.div at h
  split at h
  · rename_i i j
    have hi : ¬ i < 0 := Int.not_lt.2 hm
    have hj : ¬ j < 0 := Int.not_lt.2 hn
    have hinfinity : Double.infinityBits < 2 ^ 63 := by decide
    rw [decide_eq_false hi, decide_eq_false hj] at h
    split at h
    · rename_i hx
      obtain rfl := Except.ok.inj h
      obtain ⟨bits, hbits, rfl⟩ := Option.map_eq_some_iff.1 hx
      exact Double.unsigned_ofBits ((Double.nearestBits?_lt hbits).trans hinfinity)
    · cases h
  · obtain ⟨x, hx, h⟩ := bind_eq_ok.1 h
    obtain ⟨y, hy, h⟩ := bind_eq_ok.1 h
    obtain rfl := Except.ok.inj h
    exact (hm.toDouble hx).div (hn.toDouble hy)

/-- Adding nothing to a sum that is not negative leaves it as it is. -/
theorem Unsigned.add_zero (h : n.Unsigned) : n.add 0 = .ok n := by
  cases n with
  | int i => exact congrArg (fun i => Except.ok (Number.int i)) (Int.add_zero i)
  | float x => exact congrArg (fun x => Except.ok (Number.float x)) (Double.Unsigned.add_zero h)

/-- Infinity is above every other number that it compares with. -/
theorem compare?_infinity (hn : n ≠ .float Double.infinity) :
    compare? (.float Double.infinity) n = none ∨
      compare? (.float Double.infinity) n = some .gt := by
  cases n with
  | int i => exact .inr rfl
  | float y =>
    have hcompare := Double.compare_infinity fun hy => hn (congrArg Number.float hy)
    have hlt : ¬ Double.infinity < y := fun h => by
      rcases hcompare with hc | hc <;> rw [Double.lt_iff_compare, hc] at h <;> cases h
    have hbeq : ¬ (Double.infinity == y) = true := fun h => by
      rcases hcompare with hc | hc <;> rw [Double.beq_iff_compare, hc] at h <;> cases h
    rw [compare?.eq_def]
    dsimp only
    rw [if_neg hlt, if_neg hbeq]
    split
    · exact .inr rfl
    · exact .inl rfl

end Number


end Arcade
