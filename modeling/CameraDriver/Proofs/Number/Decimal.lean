/-
What readers of numbers make of the decimal digits of a natural number.

The digits are those that a number is written with (`digitsOf`): no sign, no blanks, no
zeros in front. A reader of integers gives the number back if it is within the bounds of
the reader, and a reader of floating-point numbers gives the number nearest to it.
-/
import CameraDriver.Number.Layout
import CameraDriver.Number.Numeral
import CameraDriver.Text.Hex
import CameraDriver.Text.Lower
import Mathlib.Data.List.TakeWhile
import Mathlib.Data.Nat.Digits.Defs

namespace CameraDriver.Number

variable {n : Nat} {c : Char} {cs : List Char}

/-- The text of a natural number. -/
def decimal (n : Nat) : String := String.ofList (digitsOf n)

-- ================================================================== digits

theorem isDigit_iff : isDigit c = true ↔ c.isDigit = true := by
  unfold isDigit Char.isDigit
  simp only [Bool.and_eq_true, decide_eq_true_eq]
  rfl

/-- A property of the ten digits is one of every character that is a digit. -/
theorem forall_isDigit {P : Char → Prop} (h : ∀ i < 10, P (Nat.digitChar i))
    (hc : isDigit c = true) : P c := by
  have hval : 48 ≤ c.toNat ∧ c.toNat ≤ 57 := by
    unfold isDigit at hc
    rw [Bool.and_eq_true, decide_eq_true_eq, decide_eq_true_eq] at hc
    exact ⟨hc.1, hc.2⟩
  have hchar : Nat.digitChar (c.toNat - 48) = c := by
    refine Char.toNat_inj.mp ?_
    rw [Nat.toNat_digitChar_of_lt_ten (by omega)]
    omega
  rw [← hchar]
  exact h _ (by omega)

theorem isDigit_of_mem (h : c ∈ digitsOf n) : isDigit c = true :=
  isDigit_iff.mpr (Nat.isDigit_of_mem_toDigits (by decide) (by decide) h)

/-- A property of the ten digits is one of all digits of a number. -/
theorem forall_digitsOf {P : Char → Prop} (h : ∀ i < 10, P (Nat.digitChar i)) :
    ∀ c ∈ digitsOf n, P c :=
  fun _ hc => forall_isDigit h (isDigit_of_mem hc)

theorem digitsOf_ne_nil : digitsOf n ≠ [] := Nat.toDigits_ne_nil

theorem exists_digitsOf_cons (n : Nat) :
    ∃ c rest, digitsOf n = c :: rest ∧ isDigit c = true := by
  obtain ⟨c, rest, h⟩ := List.exists_cons_of_ne_nil (digitsOf_ne_nil (n := n))
  exact ⟨c, rest, h, isDigit_of_mem (h ▸ List.mem_cons_self)⟩

/-- A number that begins with a zero is zero. -/
theorem digitsOf_of_zero {rest : List Char} (h : digitsOf n = '0' :: rest) : n = 0 ∧ rest = [] := by
  induction n using Nat.strongRecOn generalizing rest with
  | ind n ih =>
      unfold digitsOf at h
      rw [Nat.toDigits_eq_if (by decide)] at h
      split at h
      case isTrue hlt =>
        obtain ⟨hzero, hrest⟩ := List.cons.inj h
        exact ⟨Nat.digitChar_eq_zero.mp hzero, hrest.symm⟩
      case isFalse hge =>
        -- the first digit is that of the tenth part, which is no zero
        obtain ⟨c, more, hcons⟩ := List.exists_cons_of_ne_nil (digitsOf_ne_nil (n := n / 10))
        have hcons' : Nat.toDigits 10 (n / 10) = c :: more := hcons
        rw [hcons', List.cons_append] at h
        obtain ⟨rfl, -⟩ := List.cons.inj h
        have hzero := (ih (n / 10) (by omega) hcons).1
        omega

/-- The number that digits denote behind `acc`. -/
def digitsFrom (acc : Nat) (cs : List Char) : Nat :=
  cs.foldl (fun acc c => acc * 10 + (c.toNat - '0'.toNat)) acc

theorem digitsFrom_cons (acc : Nat) (c : Char) (rest : List Char) :
    digitsFrom acc (c :: rest) = digitsFrom (acc * 10 + (c.toNat - '0'.toNat)) rest := by
  unfold digitsFrom
  rw [List.foldl_cons]

/-- More digits do not make less. -/
theorem le_digitsFrom (acc : Nat) (cs : List Char) : acc ≤ digitsFrom acc cs := by
  induction cs generalizing acc with
  | nil => exact le_rfl
  | cons c rest ih =>
      have hstep : acc ≤ acc * 10 + (c.toNat - '0'.toNat) := by omega
      exact hstep.trans (ih _)

/-- The digits of a number read from zero make the number. -/
theorem digitsFrom_digitsOf (n : Nat) : digitsFrom 0 (digitsOf n) = n := by
  have hvalue := Nat.ofDigitChars_ten_toDigits (n := n)
  rw [Nat.ofDigitChars_eq_foldl] at hvalue
  unfold digitsFrom digitsOf
  refine Eq.trans (congrArg (fun f => List.foldl f 0 _) ?_) hvalue
  funext acc c
  rw [Nat.mul_comm]

/-- The digits of a number have its value. -/
theorem digitsValue_digitsOf (n : Nat) : digitsValue (digitsOf n) = n := digitsFrom_digitsOf n

/-- The digits of a number are read as the number. -/
theorem digits?_digitsOf (n : Nat) : digits? (digitsOf n) = some n := by
  have hall : (digitsOf n).all isDigit = true := List.all_eq_true.mpr fun c => isDigit_of_mem
  have hnil : (digitsOf n).isEmpty = false := List.isEmpty_eq_false_iff.mpr digitsOf_ne_nil
  unfold digits?
  rw [hall, hnil, digitsValue_digitsOf]
  rfl

/-- All of a decimal is digits. -/
theorem takeWhile_digitsOf (n : Nat) : (digitsOf n).takeWhile isDigit = digitsOf n :=
  List.takeWhile_eq_self_iff.mpr fun _ => isDigit_of_mem

/-- Nothing of a decimal is left behind its digits. -/
theorem dropWhile_digitsOf (n : Nat) : (digitsOf n).dropWhile isDigit = [] :=
  List.dropWhile_eq_nil_iff.mpr fun _ => isDigit_of_mem

-- ================================================================= readers

/-- No text of digits has another character in front. -/
theorem digitsOf_ne_cons (h : isDigit c = false) : digitsOf n ≠ c :: cs := by
  intro heq
  rw [isDigit_of_mem (heq ▸ List.mem_cons_self)] at h
  cases h

/-- A decimal is read as an integer if it is within the bounds. -/
theorem integer?_decimal (min max : Int) (n : Nat) :
    integer? min max (decimal n) = (some (n : Int)).filter fun n => min ≤ n && n ≤ max := by
  unfold integer? decimal
  rw [String.toList_ofList]
  split
  next rest h => exact absurd h (digitsOf_ne_cons (by decide))
  next rest h => exact absurd h (digitsOf_ne_cons (by decide))
  next =>
    rw [digits?_digitsOf]
    rfl

/-- A decimal is read as a count if it is within the limit. -/
theorem natural?_decimal (max n : Nat) :
    natural? max (decimal n) = (some n).filter (· ≤ max) := by
  unfold natural? decimal
  rw [String.toList_ofList]
  split
  next rest h => exact absurd h (digitsOf_ne_cons (by decide))
  next =>
    rw [← digits?_digitsOf n]

/-- A decimal is in lower case. -/
theorem map_toLower_digitsOf (n : Nat) : (digitsOf n).map Char.toLower = digitsOf n :=
  (List.map_congr_left (forall_digitsOf (by decide))).trans (List.map_id _)

/-- Digits are no word. -/
theorem isWord_digitsOf (cs : List Char) (h : isDigit c = false) :
    isWord (String.ofList (c :: cs)) (digitsOf n) = false := by
  unfold isWord
  rw [map_toLower_digitsOf]
  refine beq_false_of_ne fun heq => ?_
  exact digitsOf_ne_cons h (String.ofList_inj.mp heq)

/-- An exponent of zero leaves the number. -/
theorem ofDecimal_zero (n : Nat) : Binary64.ofDecimal false n 0 = .ofNat n := by
  unfold Binary64.ofDecimal Binary64.ofNat
  dsimp only
  by_cases hn : n = 0
  · rw [if_pos hn, hn]
  · rw [if_neg hn, if_neg (by decide), if_neg (by omega), if_pos (by decide)]
    show Binary64.round false (n * 10 ^ 0) 1 = _
    rw [Nat.pow_zero, Nat.mul_one]

/-- Digits read as the floating-point number that is nearest. -/
theorem ofText?_decimal (n : Nat) : Binary64.ofText? (decimal n) = some (.ofNat n) := by
  have hminus (rest : List Char) : digitsOf n ≠ '-' :: rest := digitsOf_ne_cons (by decide)
  have hplus (rest : List Char) : digitsOf n ≠ '+' :: rest := digitsOf_ne_cons (by decide)
  have hinf : isWord "inf" (digitsOf n) = false := isWord_digitsOf ['n', 'f'] (by decide)
  have hinfinity : isWord "infinity" (digitsOf n) = false :=
    isWord_digitsOf ['n', 'f', 'i', 'n', 'i', 't', 'y'] (by decide)
  have hnan : isWord "nan" (digitsOf n) = false := isWord_digitsOf ['a', 'n'] (by decide)
  have hnil : (digitsOf n).isEmpty = false := List.isEmpty_eq_false_iff.mpr digitsOf_ne_nil
  unfold Binary64.ofText? decimal
  rw [String.toList_ofList]
  split
  next negative body hbody =>
    have hbody : (negative, body) = (false, digitsOf n) := by
      rw [← hbody]
      split
      next rest h => exact absurd h (hminus rest)
      next rest h => exact absurd h (hplus rest)
      next => rfl
    cases hbody
    dsimp only
    rw [hinf, hinfinity, hnan, takeWhile_digitsOf, dropWhile_digitsOf, hnil]
    show some (Binary64.ofDecimal false (digitsValue (digitsOf n ++ [])) 0) = _
    rw [List.append_nil, digitsValue_digitsOf, ofDecimal_zero]

end CameraDriver.Number
