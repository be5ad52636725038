/-!
# Saturating words

Arithmetic on machine words that stops at the ends of the range instead of wrapping. Times are
64-bit milliseconds and counters are 32-bit, so a deadline too far away stays in the future and a
counter that is full stays full.

Each operation is the exact one on `Nat`, cut to the range: `UInt64.toNat_addSat`,
`UInt64.toNat_subSat` and `UInt64.toNat_mulSat` say so, and the 32-bit lemmas are the same.
-/

/-! ## 64 bits -/

namespace UInt64

/-- Adds, stopping at the greatest word. -/
def addSat (a b : UInt64) : UInt64 := ofNatClamp (a.toNat + b.toNat)

/-- Subtracts, stopping at zero. -/
def subSat (a b : UInt64) : UInt64 := ofNatClamp (a.toNat - b.toNat)

/-- Multiplies, stopping at the greatest word. -/
def mulSat (a b : UInt64) : UInt64 := ofNatClamp (a.toNat * b.toNat)

theorem toNat_clamp (n : Nat) : (ofNatClamp n).toNat = min n 0xFFFFFFFFFFFFFFFF := by
  by_cases h : n < UInt64.size
  · rw [toNat_ofNatClamp_of_lt h]
    simp only [UInt64.size] at h
    omega
  · rw [toNat_ofNatClamp_of_le (by omega)]
    simp only [UInt64.size] at h ⊢
    omega

theorem toNat_addSat (a b : UInt64) :
    (a.addSat b).toNat = min (a.toNat + b.toNat) 0xFFFFFFFFFFFFFFFF :=
  toNat_clamp _

theorem toNat_subSat (a b : UInt64) : (a.subSat b).toNat = a.toNat - b.toNat := by
  have := a.toNat_lt
  rw [subSat, toNat_clamp]
  omega

theorem toNat_mulSat (a b : UInt64) :
    (a.mulSat b).toNat = min (a.toNat * b.toNat) 0xFFFFFFFFFFFFFFFF :=
  toNat_clamp _

end UInt64

/-! ## 32 bits -/

namespace UInt32

/-- Adds, stopping at the greatest word. -/
def addSat (a b : UInt32) : UInt32 := ofNatClamp (a.toNat + b.toNat)

/-- Subtracts, stopping at zero. -/
def subSat (a b : UInt32) : UInt32 := ofNatClamp (a.toNat - b.toNat)

theorem toNat_clamp (n : Nat) : (ofNatClamp n).toNat = min n 0xFFFFFFFF := by
  by_cases h : n < UInt32.size
  · rw [toNat_ofNatClamp_of_lt h]
    simp only [UInt32.size] at h
    omega
  · rw [toNat_ofNatClamp_of_le (by omega)]
    simp only [UInt32.size] at h ⊢
    omega

theorem toNat_addSat (a b : UInt32) : (a.addSat b).toNat = min (a.toNat + b.toNat) 0xFFFFFFFF :=
  toNat_clamp _

theorem toNat_subSat (a b : UInt32) : (a.subSat b).toNat = a.toNat - b.toNat := by
  have := a.toNat_lt
  rw [subSat, toNat_clamp]
  omega

end UInt32
