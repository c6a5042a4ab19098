import Mathlib.Data.List.Basic
import Mathlib.Tactic.Ring

/-! Little-endian encoding of bounded numbers as byte lists.
The reader is total: it takes every byte list as the number it spells.
-/
namespace Fantuan.Lib.Bytes

def le : Nat → Nat → List UInt8
  | 0, _ => []
  | width + 1, n => UInt8.ofNat n :: le width (n / 256)

def ofLe : List UInt8 → Nat
  | [] => 0
  | byte :: bytes => byte.toNat + 256 * ofLe bytes

@[simp] theorem length_le (width n : Nat) : (le width n).length = width := by
  induction width generalizing n with
  | zero => rfl
  | succ width ih => simp [le,ih]

theorem ofLe_lt (bytes : List UInt8) : ofLe bytes < 256 ^ bytes.length := by
  induction bytes with
  | nil => simp [ofLe]
  | cons byte bytes ih =>
    have bound := byte.toNat_lt
    simp only [ofLe,List.length_cons,pow_succ]
    omega

theorem ofLe_le (width n : Nat) (bound : n < 256 ^ width) : ofLe (le width n) = n := by
  induction width generalizing n with
  | zero =>
    have zero : n = 0 := by simpa using bound
    simp [le,ofLe,zero]
  | succ width ih =>
    have smaller : n / 256 < 256 ^ width := by
      apply Nat.div_lt_of_lt_mul
      rw [pow_succ] at bound
      omega
    simp only [le,ofLe,ih _ smaller,UInt8.toNat_ofNat']
    omega

/-- The number spelled by `width` bytes from `offset` on. -/
def field (offset width : Nat) (bytes : List UInt8) : Nat := ofLe ((bytes.drop offset).take width)

theorem field_append (offset width : Nat) (bytes more : List UInt8)
    (inside : offset + width ≤ bytes.length) :
    field offset width (bytes ++ more) = field offset width bytes := by
  have rest : width ≤ (bytes.drop offset).length := by
    simp only [List.length_drop]
    omega
  rw [field,List.drop_append_of_le_length (by omega),List.take_append_of_le_length rest,field]

theorem field_lt (offset width : Nat) (bytes : List UInt8) : field offset width bytes < 256 ^ width := by
  calc field offset width bytes
      < 256 ^ ((bytes.drop offset).take width).length := ofLe_lt _
    _ ≤ 256 ^ width := Nat.pow_le_pow_right (by omega) (by simp)

theorem field_le (before after : List UInt8) (width n : Nat) (bound : n < 256 ^ width) :
    field before.length width (before ++ (le width n ++ after)) = n := by
  have first : (le width n ++ after).take width = le width n :=
    List.take_left' (length_le width n)
  rw [field,List.drop_left,first,ofLe_le width n bound]

end Fantuan.Lib.Bytes
