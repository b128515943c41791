/-
The numerals that are read as a natural number.

A numeral is digits, as many zeros in front as one likes, and before them a `+` or
nothing (`Numeral`); the number is what the digits denote. White space may stand at both
ends (`Spaced`). The reader takes these texts and no other ones, up to its bound
(`natural?_trim_iff`): what it removes first is the white space at the ends and not more,
and a numeral has none at its own.
-/
import CameraDriver.Proofs.Number.Decimal
import CameraDriver.Proofs.Url.Ends
import CameraDriver.Text.Blank

namespace CameraDriver

-- ============================================================ white space

namespace Text

variable {p : Char → Bool} {cs : List Char}

/-- What is taken off the ends is all that `p` holds of, and the rest is kept. -/
theorem stripChars_append {lead trail : List Char} (hlead : ∀ c ∈ lead, p c = true)
    (htrail : ∀ c ∈ trail, p c = true) (hne : cs ≠ []) (first : ∀ c ∈ cs.head?, p c = false)
    (last : ∀ c ∈ cs.getLast?, p c = false) : stripChars p (lead ++ (cs ++ trail)) = cs := by
  have hfront : (lead ++ (cs ++ trail)).dropWhile p = cs ++ trail := by
    rw [dropWhile_of_all hlead, dropWhile_of_head]
    rwa [List.head?_append_of_ne_nil _ hne]
  rw [← List.head?_reverse] at last
  unfold stripChars dropRight
  rw [hfront, List.reverse_append, dropWhile_of_all (by simpa using htrail),
    dropWhile_of_head last, List.reverse_reverse]

/-- What is stripped off a text stood at its ends, and was to be stripped off. -/
theorem exists_stripChars (p : Char → Bool) (cs : List Char) :
    ∃ lead trail, cs = lead ++ (stripChars p cs ++ trail) ∧ (∀ c ∈ lead, p c = true)
      ∧ ∀ c ∈ trail, p c = true := by
  refine ⟨cs.takeWhile p, ((cs.dropWhile p).reverse.takeWhile p).reverse, ?_, ?_, ?_⟩
  · unfold stripChars dropRight
    rw [← List.reverse_append, List.takeWhile_append_dropWhile, List.reverse_reverse,
      List.takeWhile_append_dropWhile]
  · exact fun c hc => List.mem_takeWhile_imp hc
  · exact fun c hc => List.mem_takeWhile_imp (List.mem_reverse.mp hc)

/-- At neither end of the rest is anything left that `p` holds of. -/
theorem head?_stripChars : ∀ c ∈ (stripChars p cs).head?, p c = false := by
  intro c hc
  have hkept : stripChars p cs <+: cs.dropWhile p := by
    unfold stripChars dropRight
    rw [← List.reverse_suffix, List.reverse_reverse]
    exact List.dropWhile_suffix p
  obtain ⟨trail, heq⟩ := hkept
  have hne : stripChars p cs ≠ [] := List.ne_nil_of_mem (List.mem_of_head? hc)
  have hhead := List.head?_dropWhile_not p cs
  rw [← heq, List.head?_append_of_ne_nil _ hne, Option.mem_def.mp hc] at hhead
  exact hhead

/-- A stripped text does not end in what is stripped off. -/
theorem getLast?_stripChars : ∀ c ∈ (stripChars p cs).getLast?, p c = false := by
  intro c hc
  have hhead := List.head?_dropWhile_not p (cs.dropWhile p).reverse
  unfold stripChars dropRight at hc
  rw [List.getLast?_reverse] at hc
  rw [Option.mem_def.mp hc] at hhead
  exact hhead

end Text

namespace Number

variable {n max : Nat} {cs : List Char}

-- ================================================================ numerals

/-- A natural number in decimal: digits, and before them a `+` or nothing. -/
structure Numeral (n : Nat) (cs : List Char) : Prop where
  exists_digits : ∃ sign digits, cs = sign ++ digits ∧ (sign = [] ∨ sign = ['+']) ∧ digits ≠ []
    ∧ (∀ c ∈ digits, c.isDigit = true) ∧ Nat.ofDigitChars 10 digits 0 = n

/-- A numeral with white space at its ends, or without. -/
def Spaced (n : Nat) (cs : List Char) : Prop :=
  ∃ lead core trail, cs = lead ++ (core ++ trail) ∧ (∀ c ∈ lead, Text.isBlank c = true)
    ∧ (∀ c ∈ trail, Text.isBlank c = true) ∧ Numeral n core

/-- Digits have the value that the library gives them. -/
theorem digitsValue_eq (cs : List Char) : digitsValue cs = Nat.ofDigitChars 10 cs 0 := by
  rw [Nat.ofDigitChars_eq_foldl]
  unfold digitsValue
  refine congrArg (fun f => List.foldl f 0 cs) ?_
  funext acc c
  rw [Nat.mul_comm]

/-- A count is read off digits, at least one, and is their value. -/
theorem digits?_eq_some : digits? cs = some n
    ↔ cs ≠ [] ∧ (∀ c ∈ cs, c.isDigit = true) ∧ Nat.ofDigitChars 10 cs 0 = n := by
  have hall : cs.all isDigit = true ↔ ∀ c ∈ cs, c.isDigit = true := by
    rw [List.all_eq_true]
    exact forall₂_congr fun c _ => isDigit_iff
  unfold digits?
  rw [digitsValue_eq, ← hall]
  by_cases hnil : cs = []
  · simp [hnil]
  · by_cases hdigits : cs.all isDigit = true <;> simp [hnil, hdigits]

/-- Digits behind a sign or none are a numeral. -/
theorem Numeral.of_digits {sign digits : List Char} (hsign : sign = [] ∨ sign = ['+'])
    (h : digits? digits = some n) : Numeral n (sign ++ digits) :=
  have ⟨hne, hdigits, hvalue⟩ := digits?_eq_some.mp h
  ⟨sign, digits, rfl, hsign, hne, hdigits, hvalue⟩

/-- A text is read as a count exactly if it is a numeral of it, and the count is within the
limit. -/
theorem natural?_eq_some {s : String} :
    natural? max s = some n ↔ Numeral n s.toList ∧ n ≤ max := by
  unfold natural?
  rw [Option.filter_eq_some_iff, decide_eq_true_eq]
  refine and_congr_left fun _ => ⟨fun h => ?_, fun ⟨sign, digits, hs, hsign, hdigits⟩ => ?_⟩
  · split at h
    next rest hs => exact hs ▸ Numeral.of_digits (.inr rfl) h
    next => exact Numeral.of_digits (.inl rfl) h
  · rw [hs]
    rcases hsign with rfl | rfl
    · -- digits alone do not begin with a sign
      split
      next rest heq =>
        have hplus : '+' ∈ [] ++ digits := heq ▸ List.mem_cons_self
        exact absurd (hdigits.2.1 '+' hplus) (by decide)
      next => exact digits?_eq_some.mpr hdigits
    · exact digits?_eq_some.mpr hdigits

-- ============================================================= white space

/-- What a numeral is made of: nothing else can be in it. -/
theorem Numeral.of_mem (h : Numeral n cs) {c : Char} (hc : c ∈ cs) :
    c = '+' ∨ c.isDigit = true := by
  obtain ⟨sign, digits, rfl, hsign, -, hdigits, -⟩ := h
  rcases List.mem_append.mp hc with hc | hc
  · rcases hsign with rfl | rfl
    · cases hc
    · exact .inl (List.mem_singleton.mp hc)
  · exact .inr (hdigits c hc)

/-- A numeral has no blanks. -/
theorem Numeral.graphic (h : Numeral n cs) {c : Char} (hc : c ∈ cs) : Text.Graphic c := by
  rcases h.of_mem hc with rfl | hdigit
  · decide
  · exact forall_isDigit (by decide) (isDigit_iff.mpr hdigit)

/-- A numeral is not empty. -/
theorem Numeral.ne_nil (h : Numeral n cs) : cs ≠ [] := by
  obtain ⟨sign, digits, rfl, -, hne, -⟩ := h
  exact List.append_ne_nil_of_right_ne_nil _ hne

/-- A text read without the white space at its ends. -/
theorem natural?_trim_iff {s : String} :
    natural? max (Text.trim s) = some n ↔ Spaced n s.toList ∧ n ≤ max := by
  rw [natural?_eq_some]
  refine and_congr_left fun _ => ?_
  unfold Text.trim
  rw [String.toList_ofList]
  constructor
  · intro h
    obtain ⟨lead, trail, heq, hlead, htrail⟩ := Text.exists_stripChars Text.isBlank s.toList
    exact ⟨lead, _, trail, heq, hlead, htrail, h⟩
  · rintro ⟨lead, core, trail, heq, hlead, htrail, hcore⟩
    have hgraphic (c : Char) (hc : c ∈ core) : Text.isBlank c = false := (hcore.graphic hc).isBlank
    rw [heq, Text.stripChars_append hlead htrail hcore.ne_nil
      (fun c hc => hgraphic c (List.mem_of_head? hc))
      (fun c hc => hgraphic c (List.mem_of_getLast? hc))]
    exact hcore

/-- A character that is neither blank nor part of a numeral is in no such text. -/
theorem Spaced.not_mem (h : Spaced n cs) {c : Char} (hblank : Text.isBlank c = false)
    (hplus : c ≠ '+') (hdigit : c.isDigit = false) : c ∉ cs := by
  obtain ⟨lead, core, trail, rfl, hlead, htrail, hcore⟩ := h
  intro hc
  rcases List.mem_append.mp hc with hc | hc
  · exact absurd (hlead c hc) (by rw [hblank]; decide)
  rcases List.mem_append.mp hc with hc | hc
  · rcases hcore.of_mem hc with rfl | h
    · exact hplus rfl
    · exact absurd h (by rw [hdigit]; decide)
  · exact absurd (htrail c hc) (by rw [hblank]; decide)

end Number

end CameraDriver
