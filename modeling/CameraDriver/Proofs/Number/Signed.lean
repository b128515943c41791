/-
The numerals of an integer, and the shortest one of them.

A numeral is a row of digits with zeros in front, as many as one likes, and before it a sign
or nothing (`Signed`). Without the zeros a row of digits is the one that its number is
written with (`exists_zeros`), and what is before it makes it longer. So the text of an
integer is shorter than every other numeral of the integer (`shortest_integerText`).

The reader of integers takes the numerals and nothing else, up to its bounds
(`integer?_eq_some`); so it gives an integer back from its text.
-/
import CameraDriver.Proofs.Number.Numeral

namespace CameraDriver.Number

variable {m : Nat} {n lo hi : Int} {cs digits : List Char}

-- ================================================================== digits

/-- Digits that denote a natural number, with zeros in front or without. -/
def Denotes (m : Nat) (digits : List Char) : Prop :=
  digits ≠ [] ∧ (∀ c ∈ digits, c.isDigit = true) ∧ Nat.ofDigitChars 10 digits 0 = m

/-- A decimal denotes its number. -/
theorem denotes_digitsOf (m : Nat) : Denotes m (digitsOf m) :=
  digits?_eq_some.mp (digits?_digitsOf m)

/-- A digit is one of ten. -/
theorem exists_digitChar {c : Char} (h : c.isDigit = true) : ∃ i < 10, c = Nat.digitChar i :=
  forall_isDigit (P := fun c => ∃ i < 10, c = Nat.digitChar i) (fun i hi => ⟨i, hi, rfl⟩)
    (isDigit_iff.mpr h)

/-- Digits behind those of a number that is not zero. -/
theorem digitsOf_append (hm : 0 < m) (hdigits : ∀ c ∈ digits, c.isDigit = true) :
    digitsOf m ++ digits = digitsOf (Nat.ofDigitChars 10 digits m) := by
  induction digits generalizing m with
  | nil => rw [List.append_nil, Nat.ofDigitChars_nil]
  | cons c rest ih =>
      obtain ⟨hc, hrest⟩ := List.forall_mem_cons.mp hdigits
      obtain ⟨i, hi, rfl⟩ := exists_digitChar hc
      have hstep : digitsOf m ++ [i.digitChar] = digitsOf (10 * m + i) := by
        rw [← Nat.toDigits_of_lt_base (b := 10) hi]
        exact Nat.toDigits_append_toDigits (by decide) hm hi
      rw [Nat.ofDigitChars_cons_digitChar_of_lt_ten hi, ← ih (by omega) hrest, ← hstep,
        List.append_assoc]
      rfl

/-- Digits are those that their number is written with, behind zeros. -/
theorem exists_zeros (h : Denotes m digits) :
    ∃ k, digits = List.replicate k '0' ++ digitsOf m := by
  obtain ⟨hne, hdigits, rfl⟩ := h
  induction digits with
  | nil => exact absurd rfl hne
  | cons c rest ih =>
      obtain ⟨hc, hrest⟩ := List.forall_mem_cons.mp hdigits
      obtain ⟨i, hi, rfl⟩ := exists_digitChar hc
      rw [Nat.ofDigitChars_cons_digitChar_of_lt_ten hi]
      rcases Nat.eq_zero_or_pos i with rfl | hpos
      · by_cases hnil : rest = []
        · subst hnil
          exact ⟨0, rfl⟩
        · obtain ⟨k, hk⟩ := ih hnil hrest
          exact ⟨k + 1, congrArg ('0' :: ·) hk⟩
      · -- a first digit that is no zero is the first of the number
        refine ⟨0, ?_⟩
        rw [Nat.mul_zero, Nat.zero_add, ← digitsOf_append hpos hrest]
        unfold digitsOf
        rw [Nat.toDigits_of_lt_base hi]
        rfl

/-- Digits that denote a number are its decimal, or longer. -/
theorem shortest_digitsOf (h : Denotes m digits) :
    digits = digitsOf m ∨ (digitsOf m).length < digits.length := by
  obtain ⟨k, rfl⟩ := exists_zeros h
  rw [List.length_append, List.length_replicate]
  cases k with
  | zero => exact .inl rfl
  | succ k => exact .inr (by omega)

-- ================================================================ numerals

/-- An integer in decimal: digits, and before them a sign or nothing. -/
inductive Signed : Int → List Char → Prop
  | bare {m : Nat} {digits : List Char} (h : Denotes m digits) : Signed m digits
  | plus {m : Nat} {digits : List Char} (h : Denotes m digits) : Signed m ('+' :: digits)
  | minus {m : Nat} {digits : List Char} (h : Denotes m digits) : Signed (-m) ('-' :: digits)

/-- The characters of an integer's text. -/
theorem toList_integerText (n : Int) :
    (integerText n).toList = if n < 0 then '-' :: digitsOf n.natAbs else digitsOf n.natAbs := by
  cases n with
  | ofNat k =>
      have hpos : ¬ Int.ofNat k < 0 := Int.not_lt.mpr (Int.natCast_nonneg k)
      rw [if_neg hpos]
      exact String.toList_ofList
  | negSucc k =>
      rw [if_pos (Int.negSucc_lt_zero k)]
      exact String.toList_ofList

/-- The text of an integer denotes it. -/
theorem signed_integerText (n : Int) : Signed n (integerText n).toList := by
  have hdigits := denotes_digitsOf n.natAbs
  rw [toList_integerText]
  split
  case isTrue hneg =>
    have h := Signed.minus hdigits
    rwa [show -(n.natAbs : Int) = n by omega] at h
  case isFalse hpos =>
    have h := Signed.bare hdigits
    rwa [show (n.natAbs : Int) = n by omega] at h

/-- Every other numeral of an integer is longer than its text. -/
theorem shortest_integerText (h : Signed n cs) :
    cs = (integerText n).toList ∨ (integerText n).toList.length < cs.length := by
  rw [toList_integerText]
  cases h with
  | @bare m _ h =>
      rw [if_neg (by omega)]
      exact shortest_digitsOf h
  | @plus m digits h =>
      rw [if_neg (by omega)]
      right
      rcases shortest_digitsOf h with rfl | hlt
      · exact Nat.lt_succ_self _
      · exact Nat.lt_succ_of_lt hlt
  | @minus m digits h =>
      have habs : (-(m : Int)).natAbs = m := by omega
      rw [habs]
      rcases Nat.eq_zero_or_pos m with rfl | hpos
      · -- zero has no minus in its text
        right
        rcases shortest_digitsOf h with rfl | hlt
        · exact Nat.lt_succ_self _
        · exact Nat.lt_succ_of_lt hlt
      · rw [if_pos (by omega)]
        rcases shortest_digitsOf h with rfl | hlt
        · exact .inl rfl
        · exact .inr (Nat.succ_lt_succ hlt)

/-- A minus stands before negative integers only. -/
theorem minus_mem_integerText : '-' ∈ (integerText n).toList ↔ n < 0 := by
  have hdigits : '-' ∉ digitsOf n.natAbs := fun h => absurd (isDigit_of_mem h) (by decide)
  rw [toList_integerText]
  split
  case isTrue hneg => exact ⟨fun _ => hneg, fun _ => List.mem_cons_self⟩
  case isFalse hpos => exact ⟨fun h => absurd h hdigits, fun h => absurd h hpos⟩

/-- The first digit is a zero in the text of zero only. -/
theorem zero_of_integerText {rest : List Char}
    (h : (integerText n).toList = '0' :: rest ∨ (integerText n).toList = '-' :: '0' :: rest) :
    n = 0 := by
  rw [toList_integerText] at h
  split at h
  case isTrue hneg =>
    rcases h with h | h
    · cases (List.cons.inj h).1
    · have := (digitsOf_of_zero (List.cons.inj h).2).1
      omega
  case isFalse hpos =>
    rcases h with h | h
    · have := (digitsOf_of_zero h).1
      omega
    · exact absurd h (digitsOf_ne_cons (by decide))

/-- The decimal form of an integer: a numeral of it, shorter than every other one, that has no
zero in front and a minus only below zero. -/
structure DecimalForm (n : Int) (text : String) : Prop where
  signed : Signed n text.toList
  shortest : ∀ cs, Signed n cs → cs = text.toList ∨ text.toList.length < cs.length
  no_zero : ∀ rest, text.toList = '0' :: rest → text = "0"
  no_zero_behind : ∀ rest, text.toList ≠ '-' :: '0' :: rest
  minus : '-' ∈ text.toList ↔ n < 0

/-- The text of an integer is its shortest decimal. -/
theorem decimalForm_integerText (n : Int) : DecimalForm n (integerText n) where
  signed := signed_integerText n
  shortest _ h := shortest_integerText h
  no_zero rest h := by
    rw [zero_of_integerText (.inl h)]
    decide
  no_zero_behind rest h := by
    rw [zero_of_integerText (.inr h)] at h
    exact absurd (List.cons.inj h).1 (by decide)
  minus := minus_mem_integerText

-- ================================================================= reading

/-- An integer that is read off digits is made of their number. -/
theorem map_digits?_eq_some {f : Int → Int} :
    Option.map f (do let m ← digits? digits; pure (m : Int)) = some n
      ↔ ∃ m : Nat, Denotes m digits ∧ f m = n := by
  rw [Option.map_eq_some_iff]
  constructor
  · rintro ⟨i, hi, rfl⟩
    obtain ⟨m, hm, hi⟩ := Option.bind_eq_some_iff.mp hi
    exact ⟨m, digits?_eq_some.mp hm, by rw [Option.some.inj hi]⟩
  · rintro ⟨m, hm, rfl⟩
    exact ⟨m, by rw [digits?_eq_some.mpr hm]; rfl, rfl⟩

/-- The reader of integers takes numerals. -/
theorem integer?_eq_some {s : String} :
    integer? lo hi s = some n ↔ Signed n s.toList ∧ lo ≤ n ∧ n ≤ hi := by
  unfold integer?
  dsimp only
  rw [Option.filter_eq_some_iff, Bool.and_eq_true, decide_eq_true_eq, decide_eq_true_eq]
  refine and_congr_left fun _ => ⟨fun h => ?_, fun h => ?_⟩
  · split at h
    next rest hs =>
      obtain ⟨m, hm, rfl⟩ := map_digits?_eq_some.mp h
      exact hs ▸ .minus hm
    next rest hs =>
      obtain ⟨m, hm, rfl⟩ := map_digits?_eq_some.mp h
      exact hs ▸ .plus hm
    next =>
      obtain ⟨m, hm, rfl⟩ := map_digits?_eq_some.mp h
      exact .bare hm
  · generalize s.toList = cs at h
    cases h with
    | minus h => exact map_digits?_eq_some.mpr ⟨_, h, rfl⟩
    | plus h => exact map_digits?_eq_some.mpr ⟨_, h, rfl⟩
    | bare h =>
      -- digits alone do not begin with a sign
      have hsign {c : Char} (hc : c.isDigit = false) (rest : List Char) : cs ≠ c :: rest := by
        rintro rfl
        rw [h.2.1 c List.mem_cons_self] at hc
        cases hc
      split
      next rest => exact absurd rfl (hsign (by decide) rest)
      next rest => exact absurd rfl (hsign (by decide) rest)
      next => exact map_digits?_eq_some.mpr ⟨_, h, rfl⟩

/-- An integer comes back from its text. -/
theorem integer?_integerText (hlo : lo ≤ n) (hhi : n ≤ hi) :
    integer? lo hi (integerText n) = some n :=
  integer?_eq_some.mpr ⟨signed_integerText n, hlo, hhi⟩

/-- One that is not negative also comes back where no minus is read. -/
theorem natural?_integerText (hpos : 0 ≤ n) (hhi : n ≤ hi) :
    natural? hi.toNat (integerText n) = some n.toNat := by
  have hdigits := denotes_digitsOf n.natAbs
  have habs : n.natAbs = n.toNat := by omega
  rw [natural?_eq_some, toList_integerText, if_neg (Int.not_lt.mpr hpos)]
  exact ⟨⟨[], _, rfl, .inl rfl, habs ▸ hdigits⟩, Int.toNat_le_toNat hhi⟩

/-- No two integers have the same text. -/
theorem integerText_inj {i : Int} (h : integerText i = integerText n) : i = n := by
  have hread := integer?_integerText (Int.min_le_left i n) (Int.le_max_left i n)
  rw [h, integer?_integerText (Int.min_le_right i n) (Int.le_max_right i n)] at hread
  exact (Option.some.inj hread).symm

end CameraDriver.Number
