/-
C++ integers as the IME adapter uses them.

`int` is 32 bits, two's complement.  `size_t` is as wide as a pointer: `w` bits, with
`32 ≤ w` on every platform the adapter is built for.  Where an expression mixes the two, the
usual arithmetic conversions turn the `int` into a `size_t`, which wraps a negative value
modulo `2^w`; storing a `size_t` back into an `int` keeps its low 32 bits.

So every such result, read as an integer, is the exact integer the expression denotes,
reduced by `Int.bmod` into the range of `int`.  `toInt_toCInt` is that fact for one narrowing;
the lemmas before it are what lets a whole expression be reduced at once, since reduction
modulo `2^w` is invisible modulo `2^32`.
-/
import Mathlib.Data.Int.ModEq
import Mathlib.Data.BitVec

namespace BrowserInput.Ime

/-- A C++ `int`. -/
abbrev CInt := BitVec 32

/-- A C++ `size_t` on a platform with `w`-bit words. -/
abbrev SizeT (w : Nat) := BitVec w

/-- The conversion of an `int` operand to `size_t`: sign extension, so modulo `2^w`. -/
def CInt.toSizeT (w : Nat) (x : CInt) : SizeT w := x.signExtend w

/-- A `size_t` stored into an `int`: its low 32 bits. -/
def SizeT.toCInt {w : Nat} (x : SizeT w) : CInt := x.setWidth 32

/-- Values that an `int` holds exactly. -/
def FitsCInt (x : Int) : Prop := -2 ^ 31 ≤ x ∧ x < 2 ^ 31

instance (x : Int) : Decidable (FitsCInt x) := inferInstanceAs (Decidable (_ ∧ _))

theorem bmod_modEq (a : Int) (n : Nat) : Int.bmod a n ≡ a [ZMOD n] := Int.bmod_emod

theorem bmod_congr {a b : Int} {n : Nat} (h : a ≡ b [ZMOD n]) : Int.bmod a n = Int.bmod b n := by
  rw [Int.bmod_def, Int.bmod_def, h]

/-- `Int.bmod` leaves a value an `int` holds alone. -/
theorem bmod_of_fits {x : Int} (h : FitsCInt x) : Int.bmod x (2 ^ 32) = x := by
  obtain ⟨h1, h2⟩ := h
  rw [Int.bmod_def]
  split <;> omega

theorem bmod_fits (x : Int) : FitsCInt (Int.bmod x (2 ^ 32)) := by
  rw [Int.bmod_def]
  constructor <;> split <;> omega

/-- Reduction modulo `2^w` is invisible modulo `2^32`. -/
theorem modEq_of_wide {a b : Int} {w : Nat} (hw : 32 ≤ w) (h : a ≡ b [ZMOD (2 ^ w : Nat)]) :
    a ≡ b [ZMOD (2 ^ 32 : Nat)] :=
  Int.ModEq.of_dvd (Int.natCast_dvd_natCast.mpr (Nat.pow_dvd_pow 2 hw)) h

/-- **Storing a `size_t` into an `int` reduces its signed value into the range of `int`.** -/
theorem toInt_toCInt {w : Nat} (hw : 32 ≤ w) (x : SizeT w) :
    (SizeT.toCInt x).toInt = Int.bmod x.toInt (2 ^ 32) := by
  rw [SizeT.toCInt, BitVec.toInt_eq_toNat_bmod, BitVec.toNat_setWidth, BitVec.toInt_eq_toNat_bmod]
  refine bmod_congr ?_
  have hlow : ((x.toNat % 2 ^ 32 : Nat) : Int) ≡ x.toNat [ZMOD (2 ^ 32 : Nat)] := by
    simp [Int.ModEq, Int.emod_emod_of_dvd]
  exact hlow.trans (modEq_of_wide hw (bmod_modEq _ _)).symm

/-- A sign-extended `int` is the same integer modulo `2^w`. -/
theorem toInt_toSizeT (w : Nat) (x : CInt) :
    (x.toSizeT w).toInt ≡ x.toInt [ZMOD (2 ^ w : Nat)] := by
  rw [CInt.toSizeT, BitVec.signExtend, BitVec.toInt_ofInt]
  exact bmod_modEq _ _

/-- Every `int` holds its own value. -/
theorem toInt_fits (x : CInt) : FitsCInt x.toInt := by
  rw [BitVec.toInt_eq_toNat_bmod]
  exact bmod_fits _

theorem toInt_add_modEq {w : Nat} (x y : BitVec w) :
    (x + y).toInt ≡ x.toInt + y.toInt [ZMOD (2 ^ w : Nat)] := by
  rw [BitVec.toInt_add]
  exact bmod_modEq _ _

theorem toInt_sub_modEq {w : Nat} (x y : BitVec w) :
    (x - y).toInt ≡ x.toInt - y.toInt [ZMOD (2 ^ w : Nat)] := by
  rw [BitVec.toInt_sub]
  exact bmod_modEq _ _

theorem toInt_ofNat_modEq (w n : Nat) : (BitVec.ofNat w n).toInt ≡ n [ZMOD (2 ^ w : Nat)] := by
  rw [BitVec.toInt_ofNat]
  exact bmod_modEq _ _

end BrowserInput.Ime
