import SpriteStage.Proofs.Number.Rounding

/-!
# Doubles as bits

A double is stored as a sign, an exponent and a mantissa in 64 bits.  Finite doubles are taken apart
into canonical mantissas and exponents, every canonical pair is that of a double, and a double is
determined by its parts.
-/

namespace SpriteStage

open Float.Model (Format UnpackedFloat)
open Float.Model.UnpackedFloat

/-- The mantissa of a normal double has one more bit, which is not stored. -/
theorem toNat_one_append (mantissa : BitVec 52) :
    (1#1 ++ mantissa).toNat = 2 ^ 52 + mantissa.toNat := by
  rw [BitVec.toNat_append, ← Nat.shiftLeft_add_eq_or_of_lt mantissa.isLt]
  rfl

/-! ## Unpacking -/

theorem Canonical.of_unpack {f : Float.Model} {s : Sign} {m : ℕ} {e : ℤ} {hm : 0 < m}
    (h : f.unpack = .finite s m e hm) : Canonical m e := by
  revert h
  rw [Float.Model.unpack, UnpackedFloat.unpack]
  obtain ⟨exponent, hexponent⟩ :
    ∃ exponent : BitVec 11, exponent = @unpackExponent .binary64 f.toBits.toBitVec := ⟨_, rfl⟩
  obtain ⟨mantissa, hmantissa⟩ :
    ∃ mantissa : BitVec 52, mantissa = @unpackMantissa .binary64 f.toBits.toBitVec := ⟨_, rfl⟩
  simp only [← hexponent, ← hmantissa]
  have hmlt := mantissa.isLt
  have helt := exponent.isLt
  have hbias : ((Format.binary64.exponentBias : ℕ) : ℤ) = 1023 := rfl
  -- Doubles with all bits of the exponent set are infinite or no numbers.
  split
  · split <;> intro h <;> cases h
  · rename_i hfull
    split
    · rename_i hzero
      split
      · intro h
        cases h
      · intro h
        injection h with _ hm' he'
        simp only [hzero, hbias] at he'
        simp at he'
        exact ⟨hm, by omega, by omega, by omega, .inr (by omega)⟩
    · rename_i hzero
      intro h
      injection h with _ hm' he'
      rw [toNat_one_append] at hm'
      have hfull' : exponent.toNat ≠ 2047 := fun h => hfull (BitVec.eq_of_toNat_eq h)
      have hzero' : exponent.toNat ≠ 0 := fun h => hzero (BitVec.eq_of_toNat_eq h)
      simp only [hbias] at he'
      push_cast at he'
      exact ⟨hm, by omega, by omega, by omega, .inl (by omega)⟩

/-- Packing a canonical mantissa and exponent loses nothing. -/
theorem Canonical.unpack_pack {m : ℕ} {e : ℤ} (hc : Canonical m e) (s : Sign) :
    (Float.Model.pack (.finite s m e hc.pos)).unpack = .finite s m e hc.pos := by
  have hlt := hc.lt
  have hge := hc.exponent_ge
  have hle := hc.exponent_le
  have hbias : ((Format.binary64.exponentBias : ℕ) : ℤ) = 1023 := rfl
  have hlarge : ¬ 2 ^ 11 ≤ (e + 1023 + 52).toNat + 1 := by omega
  have hlog : m.log2 < 53 := (Nat.log2_lt hc.pos.ne').2 hlt
  show UnpackedFloat.unpack .binary64
    (UnpackedFloat.pack .binary64 (.finite s m e hc.pos)) = .finite s m e hc.pos
  simp only [UnpackedFloat.pack, hbias, Nat.cast_ofNat, if_neg hlarge]
  -- The first bit of the mantissa of a normal double is not stored, and its exponent is; a
  -- subnormal double is stored with the exponent zero.
  by_cases hnormal : 2 ^ 52 ≤ m
  · have hbits : m.log2 + 1 = Format.binary64.mantissaBits := by
      have := (Nat.le_log2 hc.pos.ne').2 hnormal
      show m.log2 + 1 = 53
      omega
    rw [if_pos hbits]
    obtain ⟨E, hE⟩ : ∃ E, E = BitVec.ofNat 11 (e + 1023 + 52).toNat := ⟨_, rfl⟩
    have hEnat : E.toNat = (e + 1023 + 52).toNat := by
      rw [hE, BitVec.toNat_ofNat, Nat.mod_eq_of_lt (by omega)]
    -- The exponent that is stored is neither of the two that mean something else.
    have hfull : E ≠ -1#11 := fun h => by
      have : E.toNat = 2047 := by rw [h]; rfl
      omega
    have hzero : E ≠ 0#11 := fun h => by
      have : E.toNat = 0 := by rw [h]; rfl
      omega
    have hmantissa : (1#1 ++ BitVec.ofNat 52 m).toNat = m := by
      rw [toNat_one_append, BitVec.toNat_ofNat]
      omega
    have hexponent : (E.toNat : ℤ) - (1023 + 52) = e := by omega
    rw [← hE]
    simp only [UnpackedFloat.unpack, unpackMantissa_packComponents, unpackExponent_packComponents,
      unpackSign_packComponents, Sign.ofBitVec_toBitVec, if_neg hfull, if_neg hzero, hmantissa, hbias,
      Nat.cast_ofNat, hexponent]
  · have hbits : ¬ m.log2 + 1 = Format.binary64.mantissaBits := by
      have := (Nat.log2_lt hc.pos.ne').2 (Nat.lt_of_not_le hnormal)
      show ¬ m.log2 + 1 = 53
      omega
    rw [if_neg hbits]
    have hexponent := hc.normal.resolve_left hnormal
    have hmantissa : (BitVec.ofNat 52 m).toNat = m := by
      rw [BitVec.toNat_ofNat, Nat.mod_eq_of_lt (by omega)]
    have hne : BitVec.ofNat 52 m ≠ 0#52 := fun h => by
      have : (BitVec.ofNat 52 m).toNat = 0 := by rw [h]; rfl
      have := hc.pos
      omega
    simp only [UnpackedFloat.unpack, unpackMantissa_packComponents, unpackExponent_packComponents,
      unpackSign_packComponents, Sign.ofBitVec_toBitVec]
    simp [hne, hmantissa, hbias, hexponent]

/-- A double is determined by its parts. -/
theorem pack_unpack_model (f : Float.Model) : Float.Model.pack f.unpack = f := by
  obtain ⟨⟨b⟩, hvalid⟩ := f
  simp only [Float.Model.pack, Float.Model.unpack, pack_unpack_of_valid hvalid]

/-- Parts with an exponent past that of the largest doubles are packed to an infinity. -/
theorem pack_of_large {m : ℕ} {e : ℤ} (he : 972 ≤ e) (s : Sign) (hm : 0 < m) :
    Float.Model.pack (.finite s m e hm) = .pack (.infinity s) := by
  have hpack : UnpackedFloat.pack .binary64 (.finite s m e hm) = packedInfinity .binary64 s := by
    rw [UnpackedFloat.pack]
    refine if_pos ?_
    show 2 ^ 11 ≤ (e + 1023 + 52).toNat + 1
    omega
  rw [Float.Model.pack, Float.Model.pack]
  simp only [hpack]
  rfl

end SpriteStage
