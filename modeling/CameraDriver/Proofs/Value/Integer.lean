/-
Integer values, whatever their width.

Eight of the kinds of values are integers, with a sign or without one, of 8 to 64 bits.
What the rest of the development has to say of them it says once, of the integer that
the value holds (`integer?`) and of the range of its kind (`Kind.range?`): a value of a
kind holds an integer of its range, and for each integer of the range there is such a
value. The canonical text is that of the integer, so the width cannot be told from it.
-/
import CameraDriver.Value.Wire
import Mathlib.Algebra.Group.Int.Defs

namespace CameraDriver.Value

open Number

variable {v : Value} {k : Kind} {n lo hi : Int}

/-- The integer that an integer value holds. -/
def integer? : Value → Option Int
  | .i8 n => some n.toInt
  | .i16 n => some n.toInt
  | .i32 n => some n.toInt
  | .i64 n => some n.toInt
  | .u8 n => some n.toNat
  | .u16 n => some n.toNat
  | .u32 n => some n.toNat
  | .u64 n => some n.toNat
  | _ => none

/-- The least and the greatest integer that a kind of integers has room for. -/
def Kind.range? : Kind → Option (Int × Int)
  | .i8 => some (-2 ^ 7, 2 ^ 7 - 1)
  | .i16 => some (-2 ^ 15, 2 ^ 15 - 1)
  | .i32 => some (-2 ^ 31, 2 ^ 31 - 1)
  | .i64 => some (-2 ^ 63, 2 ^ 63 - 1)
  | .u8 => some (0, 2 ^ 8 - 1)
  | .u16 => some (0, 2 ^ 16 - 1)
  | .u32 => some (0, 2 ^ 32 - 1)
  | .u64 => some (0, 2 ^ 64 - 1)
  | _ => none

/-- An integer value holds an integer of the range of its kind. -/
theorem exists_range (h : v.integer? = some n) :
    ∃ lo hi, v.kind.range? = some (lo, hi) ∧ lo ≤ n ∧ n ≤ hi := by
  cases v with
  | i8 m | i16 m | i32 m | i64 m =>
      obtain rfl := Option.some.inj h
      exact ⟨_, _, rfl, m.le_toInt, Int.le_sub_one_of_lt m.toInt_lt⟩
  | u8 m | u16 m | u32 m | u64 m =>
      obtain rfl := Option.some.inj h
      have := m.toNat_lt
      exact ⟨_, _, rfl, by omega, by omega⟩
  | _ => cases h

/-- Each integer of the range of a kind is held by a value of the kind. -/
theorem exists_integer (hk : k.range? = some (lo, hi)) (hlo : lo ≤ n) (hhi : n ≤ hi) :
    ∃ v : Value, v.kind = k ∧ v.integer? = some n := by
  have hnat : 0 ≤ n → ∃ m : Nat, n = m := fun h => ⟨n.toNat, (Int.toNat_of_nonneg h).symm⟩
  cases k with
  | i8 =>
      obtain ⟨rfl, rfl⟩ := Prod.mk.inj (Option.some.inj hk)
      exact ⟨.i8 (.ofInt n), rfl, congrArg some (Int8.toInt_ofInt_of_le hlo (by omega))⟩
  | i16 =>
      obtain ⟨rfl, rfl⟩ := Prod.mk.inj (Option.some.inj hk)
      exact ⟨.i16 (.ofInt n), rfl, congrArg some (Int16.toInt_ofInt_of_le hlo (by omega))⟩
  | i32 =>
      obtain ⟨rfl, rfl⟩ := Prod.mk.inj (Option.some.inj hk)
      exact ⟨.i32 (.ofInt n), rfl, congrArg some (Int32.toInt_ofInt_of_le hlo (by omega))⟩
  | i64 =>
      obtain ⟨rfl, rfl⟩ := Prod.mk.inj (Option.some.inj hk)
      exact ⟨.i64 (.ofInt n), rfl, congrArg some (Int64.toInt_ofInt_of_le hlo (by omega))⟩
  | u8 =>
      obtain ⟨rfl, rfl⟩ := Prod.mk.inj (Option.some.inj hk)
      obtain ⟨m, rfl⟩ := hnat hlo
      exact ⟨.u8 (.ofNat m), rfl, congrArg (some ∘ Nat.cast) (UInt8.toNat_ofNat_of_lt' (by
        show m < 2 ^ 8
        omega))⟩
  | u16 =>
      obtain ⟨rfl, rfl⟩ := Prod.mk.inj (Option.some.inj hk)
      obtain ⟨m, rfl⟩ := hnat hlo
      exact ⟨.u16 (.ofNat m), rfl, congrArg (some ∘ Nat.cast) (UInt16.toNat_ofNat_of_lt' (by
        show m < 2 ^ 16
        omega))⟩
  | u32 =>
      obtain ⟨rfl, rfl⟩ := Prod.mk.inj (Option.some.inj hk)
      obtain ⟨m, rfl⟩ := hnat hlo
      exact ⟨.u32 (.ofNat m), rfl, congrArg (some ∘ Nat.cast) (UInt32.toNat_ofNat_of_lt' (by
        show m < 2 ^ 32
        omega))⟩
  | u64 =>
      obtain ⟨rfl, rfl⟩ := Prod.mk.inj (Option.some.inj hk)
      obtain ⟨m, rfl⟩ := hnat hlo
      exact ⟨.u64 (.ofNat m), rfl, congrArg (some ∘ Nat.cast) (UInt64.toNat_ofNat_of_lt' (by
        show m < 2 ^ 64
        omega))⟩
  | _ => cases hk

/-- The canonical text of an integer value is the text of the integer. -/
theorem wire_of_integer (h : v.integer? = some n) : v.wire = .ok (integerText n) := by
  cases v <;> first | cases h; done | exact congrArg (Except.ok ∘ integerText) (Option.some.inj h)

end CameraDriver.Value
