/-
What the sources of settings make of a natural number in decimal.

Every source has its own reader: an environment variable and each of the three file
formats. As long as 64 bits with a sign hold the number, all of them read it as that
integer. Of a greater one TOML makes a fault; the others make the floating-point number
nearest to it, JSON only below `2 ^ 64` (`Written.scalar`).
-/
import CameraDriver.Proofs.Number.Decimal
import CameraDriver.Settings.Environment
import CameraDriver.Settings.File

namespace CameraDriver.Settings

open Number

variable {n : Nat} {c : Char} {cs : List Char}

-- ================================================================ integers

theorem ofInt_natCast (n : Nat) : Binary64.ofInt n = .ofNat n := by
  unfold Binary64.ofInt Binary64.ofNat
  rw [Int.natAbs_natCast, decide_eq_false (by omega)]

/-- A number within the bounds of a scalar is an integer, -/
theorem Tree.integer_of_le (h : n < 2 ^ 63) : Tree.integer n = .int n := by
  unfold Tree.integer Tree.leastInteger Tree.greatestInteger
  exact if_pos ⟨by omega, by omega⟩

/-- and another one is the nearest floating-point number. -/
theorem Tree.integer_of_ge (h : 2 ^ 63 ≤ n) : Tree.integer n = .float (.ofNat n) := by
  unfold Tree.integer Tree.leastInteger Tree.greatestInteger
  rw [if_neg (by omega), ofInt_natCast]

/-- The bounds of a scalar, as the readers ask for them. -/
theorem filter_bounds (n : Nat) : ((some (n : Int)).filter fun n =>
    Tree.leastInteger ≤ n && n ≤ Tree.greatestInteger)
      = if n < 2 ^ 63 then some (n : Int) else none := by
  unfold Tree.leastInteger Tree.greatestInteger
  rw [Option.filter_some]
  refine if_congr ?_ rfl rfl
  rw [Bool.and_eq_true, decide_eq_true_eq, decide_eq_true_eq]
  omega

/-- A decimal is no text that begins with something else than a digit. -/
theorem decimal_ne_ofList (h : isDigit c = false) : decimal n ≠ String.ofList (c :: cs) :=
  fun heq => digitsOf_ne_cons h (String.ofList_inj.mp heq)

-- ============================================================= environment

/-- Digits have no upper case. -/
theorem lowerChars_of_digits {cs : List Char} (h : ∀ c ∈ cs, isDigit c = true)
    (before : List Char) : Text.Lower.chars before cs = cs := by
  induction cs generalizing before with
  | nil => rfl
  | cons c rest ih =>
      obtain ⟨hc, hrest⟩ := List.forall_mem_cons.mp h
      have hchar : c.toNat ≠ 0x3A3 ∧ Text.Lower.ofChar c = [c] :=
        forall_isDigit (P := fun c => c.toNat ≠ 0x3A3 ∧ Text.Lower.ofChar c = [c]) (by decide) hc
      unfold Text.Lower.chars
      rw [if_neg hchar.1, hchar.2, ih hrest]
      rfl

theorem lower_decimal (n : Nat) : Text.lower (decimal n) = decimal n := by
  unfold Text.lower decimal
  rw [String.toList_ofList, lowerChars_of_digits fun c => isDigit_of_mem]

/-- A variable reads as the number. -/
theorem Environment.scalar_decimal (n : Nat) : scalar (decimal n) = Tree.integer n := by
  unfold scalar
  rw [lower_decimal]
  split
  next h => exact absurd h (decimal_ne_ofList (c := 't') (by decide))
  next h => exact absurd h (decimal_ne_ofList (c := 'f') (by decide))
  next =>
    rw [integer?_decimal, filter_bounds]
    by_cases h : n < 2 ^ 63
    · rw [if_pos h, Tree.integer_of_le h]
    · rw [if_neg h, ofText?_decimal, Tree.integer_of_ge (by omega)]

-- ==================================================================== YAML

/-- A decimal digit is a hexadecimal one of the same value. -/
theorem hexDigit?_of_isDigit (h : isDigit c = true) :
    Text.Hex.digit? c = some (c.toNat - '0'.toNat) ∧ c.toNat - '0'.toNat < 10 :=
  forall_isDigit (P := fun c => Text.Hex.digit? c = some (c.toNat - '0'.toNat)
    ∧ c.toNat - '0'.toNat < 10) (by decide) h

/-- Digits read one by one make their number. -/
theorem foldlM_magnitude (h : ∀ c ∈ cs, isDigit c = true) (acc : Nat) :
    cs.foldlM (fun acc c => ((Text.Hex.digit? c).filter (· < 10)).map (acc * 10 + ·)) acc
      = some (digitsFrom acc cs) := by
  induction cs generalizing acc with
  | nil => rfl
  | cons c rest ih =>
      obtain ⟨hc, hrest⟩ := List.forall_mem_cons.mp h
      obtain ⟨hdigit, hlt⟩ := hexDigit?_of_isDigit hc
      rw [List.foldlM_cons, hdigit, Option.filter_some, if_pos (decide_eq_true hlt)]
      exact ih hrest _

/-- A decimal is read as an integer of 64 bits with a sign, or not at all. -/
theorem integerIn?_digitsOf (n : Nat) : Yaml.Node.integerIn? 10 (digitsOf n)
    = if n < 2 ^ 63 then some (n : Int) else none := by
  have hnil : (digitsOf n).isEmpty = false := List.isEmpty_eq_false_iff.mpr digitsOf_ne_nil
  unfold Yaml.Node.integerIn?
  dsimp only
  rw [← filter_bounds]
  refine congrArg (Option.filter _) ?_
  split
  next rest h => exact absurd h (digitsOf_ne_cons (by decide))
  next rest h => exact absurd h (digitsOf_ne_cons (by decide))
  next =>
    rw [hnil, foldlM_magnitude fun c => isDigit_of_mem, digitsFrom_digitsOf]
    rfl

/-- YAML takes a decimal for an integer of 64 bits with a sign, or for none. -/
theorem yamlInteger?_digitsOf (n : Nat) : Yaml.Node.integer? (digitsOf n)
    = if n < 2 ^ 63 then some (n : Int) else none := by
  unfold Yaml.Node.integer?
  rw [integerIn?_digitsOf]
  split
  next rest h => cases (digitsOf_of_zero h).2
  next rest h => cases (digitsOf_of_zero h).2
  next rest h => exact absurd h (digitsOf_ne_cons (by decide))
  next => rfl

/-- A plain scalar of YAML reads as the number. -/
theorem yaml_decimal (n : Nat) (origin : Option Origin) :
    ∃ j, (Yaml.Node.ofPlain (decimal n)).value = .ok j
      ∧ Tree.ofJson origin j = .leaf (Tree.integer n) origin := by
  unfold Yaml.Node.ofPlain
  split
  next h => exact absurd h (decimal_ne_ofList (c := '~') (by decide))
  next h => exact absurd h (decimal_ne_ofList (c := 'n') (by decide))
  next h => exact absurd h (decimal_ne_ofList (c := 't') (by decide))
  next h => exact absurd h (decimal_ne_ofList (c := 'f') (by decide))
  next =>
    have hlist : (decimal n).toList = digitsOf n := String.toList_ofList
    rw [hlist, yamlInteger?_digitsOf]
    by_cases h : n < 2 ^ 63
    · rw [if_pos h]
      exact ⟨.int n, rfl, rfl⟩
    · have hreal : Yaml.Node.isReal (decimal n) = true := by
        unfold Yaml.Node.isReal
        rw [ofText?_decimal, Option.isSome_some, Bool.or_true]
      rw [if_neg h, Tree.integer_of_ge (by omega)]
      dsimp only
      rw [if_pos hreal]
      unfold Yaml.Node.value
      rw [ofText?_decimal]
      exact ⟨.double (.ofNat n), rfl, rfl⟩

-- ==================================================================== TOML

/-- Behind a first digit that is no zero, all digits belong to a number. -/
theorem digitsLength_of_digits (d : Toml.Digits) (hbase : d.base = 10) (p : Toml.Part)
    (h : ∀ c ∈ cs, isDigit c = true) : d.length true false false p cs = .ok cs.length := by
  induction cs with
  | nil => rfl
  | cons c rest ih =>
      obtain ⟨hc, hrest⟩ := List.forall_mem_cons.mp h
      obtain ⟨hdigit, hlt⟩ := hexDigit?_of_isDigit hc
      unfold Toml.Digits.length
      dsimp only
      rw [hdigit, hbase, Option.filter_some, if_pos (decide_eq_true hlt), Option.isSome_some,
        Bool.not_true, Bool.and_false, ih hrest]
      rfl

theorem digitsLength_digitsOf (d : Toml.Digits) (hbase : d.base = 10) (p : Toml.Part) (n : Nat) :
    d.length false false false p (digitsOf n) = .ok (digitsOf n).length := by
  obtain ⟨c, rest, hcons, hc⟩ := exists_digitsOf_cons n
  by_cases hzero : c = '0'
  · subst hzero
    obtain ⟨-, rfl⟩ := digitsOf_of_zero hcons
    rw [hcons]
    rfl
  · obtain ⟨hdigit, hlt⟩ := hexDigit?_of_isDigit hc
    have hrest : ∀ c ∈ rest, isDigit c = true := fun c hc =>
      isDigit_of_mem (hcons ▸ List.mem_cons_of_mem _ hc)
    rw [hcons]
    unfold Toml.Digits.length
    dsimp only
    rw [hdigit, hbase, Option.filter_some, if_pos (decide_eq_true hlt), Option.isSome_some,
      beq_false_of_ne hzero, digitsLength_of_digits d hbase p hrest]
    rfl

/-- TOML takes all of a decimal. -/
theorem digitsTake_digitsOf (d : Toml.Digits) (hbase : d.base = 10) (n unread : Nat) :
    d.take ⟨digitsOf n, unread⟩ = .ok (digitsOf n, ⟨[], unread - (digitsOf n).length⟩) := by
  have hplain : (digitsOf n).filter (· ≠ '_') = digitsOf n :=
    List.filter_eq_self.mpr (forall_digitsOf (by decide))
  unfold Toml.Digits.take
  dsimp only
  split
  next rest h => exact absurd h (digitsOf_ne_cons (by decide))
  next rest h => exact absurd h (digitsOf_ne_cons (by decide))
  next =>
    rw [List.length_nil, List.drop_zero, digitsLength_digitsOf d hbase]
    show Except.ok _ = _
    rw [Nat.zero_add, List.take_length, hplain]
    unfold Toml.Part.drop
    rw [List.drop_length]

/-- TOML reads digits as their number. -/
theorem valueIn_of_digits (h : ∀ c ∈ cs, isDigit c = true) :
    Toml.valueIn 10 cs = digitsFrom 0 cs := by
  have hfold : ∀ acc, cs.foldl (fun acc c => acc * 10 + (Text.Hex.digit? c).getD 0) acc
      = digitsFrom acc cs := by
    induction cs with
    | nil => exact fun acc => rfl
    | cons c rest ih =>
        intro acc
        obtain ⟨hc, hrest⟩ := List.forall_mem_cons.mp h
        rw [List.foldl_cons, digitsFrom_cons, (hexDigit?_of_isDigit hc).1]
        exact ih hrest _
  exact hfold 0

/-- TOML reads the number if 64 bits with a sign hold it. -/
theorem toml_decimal (n unread : Nat) : Toml.readInteger 10 ⟨digitsOf n, unread⟩
    = if n < 2 ^ 63 then .ok (n : Int) else Toml.Part.fail ⟨digitsOf n, unread⟩ .invalidNumber := by
  unfold Toml.readInteger
  dsimp only
  rw [digitsTake_digitsOf _ rfl]
  show (if _ then _ else _ : Except Toml.Fault Int) = _
  split
  next rest h => exact absurd h (digitsOf_ne_cons (by decide))
  next rest h => exact absurd h (digitsOf_ne_cons (by decide))
  next =>
    rw [valueIn_of_digits fun c => isDigit_of_mem, digitsFrom_digitsOf]
    refine if_congr ?_ rfl rfl
    unfold Tree.leastInteger Tree.greatestInteger
    simp only [List.isEmpty_nil, Bool.and_eq_true, decide_eq_true_eq, true_and]
    omega

-- ==================================================================== JSON

/-- JSON takes up all digits of a number below `2 ^ 64`, -/
theorem leadingDigits_of_lt {acc : Nat} (h : digitsFrom acc cs < 2 ^ 64) :
    Json.leadingDigits acc cs = (digitsFrom acc cs, cs.length) := by
  induction cs generalizing acc with
  | nil => rfl
  | cons c rest ih =>
      rw [digitsFrom_cons] at h ⊢
      have hnext : acc * 10 + (c.toNat - '0'.toNat) < Nat.pow 2 64 :=
        (le_digitsFrom _ rest).trans_lt h
      unfold Json.leadingDigits
      dsimp only
      rw [if_pos hnext, ih h]
      rfl

/-- and not those of a greater one. -/
theorem leadingDigits_of_ge {acc : Nat} (hacc : acc < 2 ^ 64) (h : 2 ^ 64 ≤ digitsFrom acc cs) :
    (Json.leadingDigits acc cs).2 < cs.length := by
  induction cs generalizing acc with
  | nil => exact absurd h (Nat.not_le.mpr hacc)
  | cons c rest ih =>
      unfold Json.leadingDigits
      dsimp only
      split
      case isTrue hnext => exact Nat.succ_lt_succ (ih hnext h)
      case isFalse => exact Nat.succ_pos _

/-- JSON reads a decimal below 2^64 as an integer. -/
theorem number?_digitsOf_of_lt (h : n < 2 ^ 64) :
    Json.number? false (digitsOf n) [] none = some (.int n) := by
  have hlt : digitsFrom 0 (digitsOf n) < 2 ^ 64 := by rwa [digitsFrom_digitsOf]
  have hleading := leadingDigits_of_lt hlt
  rw [digitsFrom_digitsOf] at hleading
  unfold Json.number?
  rw [hleading]
  dsimp only
  rw [if_pos ⟨rfl, rfl, rfl⟩]
  rfl

/-- JSON reads a decimal from 2^64 on as a float, or refuses it. -/
theorem number?_digitsOf_of_ge (h : 2 ^ 64 ≤ n) :
    (∃ x, Json.number? false (digitsOf n) [] none = some (.double x))
      ∨ Json.number? false (digitsOf n) [] none = none := by
  have hge : 2 ^ 64 ≤ digitsFrom 0 (digitsOf n) := by rwa [digitsFrom_digitsOf]
  have hless := leadingDigits_of_ge (by decide) hge
  unfold Json.number?
  dsimp only
  rw [if_neg fun hall => hless.ne hall.1]
  cases Binary64.timesTenTo? _ _ with
  | none => exact .inr rfl
  | some x => exact .inl ⟨x, rfl⟩

/-- What stands behind a number in JSON does not belong to it. -/
def EndsNumber (after : Bytes) : Prop :=
  ∀ b ∈ after.head?, Json.isDigitByte b = false ∧ b ≠ Json.code '.' ∧ b ≠ Json.code 'e'
    ∧ b ≠ Json.code 'E'

theorem digitByte_of_isDigit (h : isDigit c = true) : Json.isDigitByte (Json.code c) = true
    ∧ Char.ofNat (Json.code c).toNat = c ∧ (Json.code c = Json.code '0' → c = '0') :=
  forall_isDigit (P := fun c => Json.isDigitByte (Json.code c) = true
    ∧ Char.ofNat (Json.code c).toNat = c ∧ (Json.code c = Json.code '0' → c = '0')) (by decide) h

theorem digitChars_code (h : ∀ c ∈ cs, isDigit c = true) :
    Json.digitChars (cs.map Json.code) = cs := by
  unfold Json.digitChars
  rw [List.map_map]
  exact (List.map_congr_left fun c hc => (digitByte_of_isDigit (h c hc)).2.1).trans (List.map_id _)

/-- A number of JSON that ends behind its digits has neither fraction nor exponent. -/
theorem readFraction_of_endsNumber {after : Bytes} (hafter : EndsNumber after) (whole : List Char)
    (pos : Nat) : Json.readFraction false whole ⟨pos, after⟩
      = match Json.number? false whole [] none with
        | some j => .ok (j, ⟨pos, after⟩)
        | none => .error ⟨.numberOutOfRange, pos⟩ := by
  cases after with
  | nil => rfl
  | cons b rest =>
      obtain ⟨-, hpoint, he, hE⟩ := hafter b rfl
      unfold Json.readFraction Json.readExponent
      dsimp only
      rw [if_neg hpoint, if_neg (not_or.mpr ⟨he, hE⟩)]
      rfl

/-- A number that does not begin with a zero takes all digits that follow. -/
theorem readNumber_of_digit {b : UInt8} (hzero : b ≠ Json.code '0')
    (hdigit : Json.isDigitByte b = true) (rest : Bytes) (pos : Nat) :
    Json.readNumber false ⟨pos, b :: rest⟩
      = Json.readFraction false (Json.digitChars ((b :: rest).takeWhile Json.isDigitByte))
        (Json.Cursor.advance ⟨pos, b :: rest⟩ ((b :: rest).takeWhile Json.isDigitByte).length) := by
  unfold Json.readNumber
  dsimp only
  rw [if_neg hzero, if_pos hdigit]

/-- The digits of a number are taken up together. -/
theorem readNumber_digitsOf {after : Bytes} (hafter : EndsNumber after) (n pos : Nat) :
    Json.readNumber false ⟨pos, (digitsOf n).map Json.code ++ after⟩
      = Json.readFraction false (digitsOf n) ⟨pos + (digitsOf n).length, after⟩ := by
  have hbytes : ∀ b ∈ (digitsOf n).map Json.code, Json.isDigitByte b = true := by
    intro b hb
    obtain ⟨c, hc, rfl⟩ := List.mem_map.mp hb
    exact (digitByte_of_isDigit (isDigit_of_mem hc)).1
  have hrest : after.takeWhile Json.isDigitByte = [] := by
    cases after with
    | nil => rfl
    | cons b rest => rw [List.takeWhile_cons, (hafter b rfl).1]; rfl
  have htake : ((digitsOf n).map Json.code ++ after).takeWhile Json.isDigitByte
      = (digitsOf n).map Json.code := by
    rw [List.takeWhile_append_of_pos hbytes, hrest, List.append_nil]
  obtain ⟨c, rest, hcons, hc⟩ := exists_digitsOf_cons n
  obtain ⟨hdigit, -, hzero⟩ := digitByte_of_isDigit hc
  by_cases hfirst : c = '0'
  · subst hfirst
    obtain ⟨-, rfl⟩ := digitsOf_of_zero hcons
    rw [hcons]
    cases after with
    | nil => rfl
    | cons b rest =>
        show (if Json.isDigitByte b then _ else _ : Except Json.Fault _) = _
        rw [(hafter b rfl).1]
        rfl
  · have hcode : Json.code c ≠ Json.code '0' := fun heq => hfirst (hzero heq)
    have hbytes' : (digitsOf n).map Json.code ++ after
        = Json.code c :: (rest.map Json.code ++ after) := by
      rw [hcons]
      rfl
    have hnumber := readNumber_of_digit hcode hdigit (rest.map Json.code ++ after) pos
    rw [← hbytes'] at hnumber
    rw [hnumber, htake, digitChars_code fun c => isDigit_of_mem]
    unfold Json.Cursor.advance
    rw [List.drop_left, List.length_map]

/-- JSON reads a number below `2 ^ 64`; a greater one becomes some floating-point number, if
it is read at all. -/
theorem json_decimal {after : Bytes} (hafter : EndsNumber after) {pos : Nat} {j : Json}
    {cursor : Json.Cursor}
    (h : Json.readNumber false ⟨pos, (digitsOf n).map Json.code ++ after⟩ = .ok (j, cursor))
    (origin : Option Origin) :
    Tree.ofJson origin j = .leaf (Tree.integer n) origin
      ∨ 2 ^ 64 ≤ n ∧ ∃ x, Tree.ofJson origin j = .leaf (.float x) origin := by
  rw [readNumber_digitsOf hafter, readFraction_of_endsNumber hafter] at h
  by_cases hlt : n < 2 ^ 64
  · rw [number?_digitsOf_of_lt hlt] at h
    cases h
    exact .inl rfl
  · obtain ⟨x, hx⟩ | hnone := number?_digitsOf_of_ge (Nat.not_lt.mp hlt)
    · rw [hx] at h
      cases h
      exact .inr ⟨Nat.not_lt.mp hlt, x, rfl⟩
    · rw [hnone] at h
      cases h

-- ================================================================= sources

/-- The scalars that sources make of a natural number in decimal. -/
inductive Written (n : Nat) : Scalar → Prop
  | environment : Written n (Environment.scalar (decimal n))
  | toml {unread : Nat} {i : Int} (h : Toml.readInteger 10 ⟨digitsOf n, unread⟩ = .ok i) :
      Written n (Tree.integer i)
  | json {pos : Nat} {after : Bytes} {j : Json} {cursor : Json.Cursor} {v : Scalar}
      {origin : Option Origin} (hafter : EndsNumber after)
      (h : Json.readNumber false ⟨pos, (digitsOf n).map Json.code ++ after⟩ = .ok (j, cursor))
      (hv : Tree.ofJson origin j = .leaf v origin) : Written n v
  | yaml {j : Json} {v : Scalar} {origin : Option Origin}
      (h : (Yaml.Node.ofPlain (decimal n)).value = .ok j)
      (hv : Tree.ofJson origin j = .leaf v origin) : Written n v

/-- All sources read the number as the same scalar, but for one that JSON has to round. -/
theorem Written.scalar {v : Scalar} (h : Written n v) :
    v = Tree.integer n ∨ 2 ^ 64 ≤ n ∧ ∃ x, v = .float x := by
  cases h with
  | environment => exact .inl (Environment.scalar_decimal n)
  | toml h =>
      rw [toml_decimal] at h
      split at h
      · cases h
        exact .inl rfl
      · cases h
  | @json _ _ _ _ _ origin hafter h hv =>
      rcases json_decimal hafter h origin with hinteger | ⟨hge, x, hfloat⟩
      · cases hv.symm.trans hinteger
        exact .inl rfl
      · cases hv.symm.trans hfloat
        exact .inr ⟨hge, x, rfl⟩
  | @yaml _ _ origin h hv =>
      obtain ⟨j, hj, hinteger⟩ := yaml_decimal n origin
      cases h.symm.trans hj
      cases hv.symm.trans hinteger
      exact .inl rfl

end CameraDriver.Settings
