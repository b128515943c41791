/-
What is written as JSON is read back.

This is about objects whose members are natural numbers and strings, which is what the
driver sends. A number of 64 bits is read in its digits, and a string that is written
without escapes is read between its quotes; where the one ends and the other begins is
told by the punctuation, whatever follows (`Reads`). The members are read one by one, by
induction on the list of them, and set in that order.

Positions matter to the reader only when it fails, so here they are some position.
-/
import CameraDriver.Json.Writer
import CameraDriver.Proofs.General
import CameraDriver.Proofs.Settings.Written
import CameraDriver.Proofs.Text.Utf8

namespace CameraDriver.Json

open Number
open Settings (EndsNumber)
open Text.Utf8 (encodeChar)

variable {c : Char} {cs : List Char} {s key : String} {j : Json} {b : UInt8} {rest after : Bytes}
  {n fuel depth pos : Nat}

-- =================================================================== bytes

/-- The bytes of a value's text. -/
def bytes (j : Json) : Bytes := j.chars.flatMap encodeChar

/-- The bytes of a value are those of its text. -/
theorem encode_text (j : Json) : Text.Utf8.encode j.text = j.bytes := by
  unfold Text.Utf8.encode text bytes
  rw [String.toList_ofList]

/-- A character below 128 is one byte. -/
theorem encodeChar_ascii (h : c.toNat < 128) : encodeChar c = [code c] := by
  rw [Text.Utf8.encodeChar_eq rfl, if_pos (by omega)]
  rfl

/-- A text of characters below 128 has a byte for each. -/
theorem flatMap_ascii (h : ∀ c ∈ cs, c.toNat < 128) : cs.flatMap encodeChar = cs.map code := by
  induction cs with
  | nil => rfl
  | cons c rest ih =>
      obtain ⟨hc, hrest⟩ := List.forall_mem_cons.mp h
      rw [List.flatMap_cons, encodeChar_ascii hc, ih hrest, List.map_cons, List.singleton_append]

/-- Where no space stands none is skipped. -/
theorem skipSpace_of_head (h : ∀ b ∈ rest.head?, isSpace b = false) :
    Cursor.skipSpace ⟨pos, rest⟩ = ⟨pos, rest⟩ := by
  have hnone : rest.takeWhile isSpace = [] := by
    cases rest with
    | nil => rfl
    | cons b rest => rw [List.takeWhile_cons, h b rfl]; rfl
  unfold Cursor.skipSpace
  dsimp only
  rw [hnone]
  rfl

/-- A cursor that goes on by one leaves a byte behind. -/
theorem advance_one (pos : Nat) (b : UInt8) (rest : Bytes) :
    Cursor.advance ⟨pos, b :: rest⟩ 1 = ⟨pos + 1, rest⟩ := rfl

-- ================================================================= strings

/-- A character that is written as it is. -/
def Unescaped (c : Char) : Prop := c ≠ '"' ∧ c ≠ '\\' ∧ 32 ≤ c.toNat

instance : Decidable (Unescaped c) := inferInstanceAs (Decidable (_ ∧ _))

/-- What need not be escaped stands for itself. -/
theorem Unescaped.escape_eq (h : Unescaped c) : escape c = [c] := by
  obtain ⟨hquote, hslash, hge⟩ := h
  have hcontrol : ∀ d : Char, d.toNat < 32 → c ≠ d := by
    rintro d hd rfl
    omega
  unfold escape
  rw [if_neg hquote, if_neg hslash, if_neg (hcontrol _ (by decide)),
    if_neg (hcontrol _ (by decide)), if_neg (hcontrol _ (by decide)), if_neg (by omega),
    if_neg (by omega), if_neg (by omega)]

/-- Text that need not be escaped is quoted as it is. -/
theorem quote_eq (h : ∀ c ∈ s.toList, Unescaped c) : quote s = '"' :: s.toList ++ ['"'] := by
  have hplain : s.toList.flatMap escape = s.toList := by
    rw [List.flatMap_congr fun c hc => (h c hc).escape_eq, List.flatMap_singleton']
  unfold quote
  rw [hplain]

/-- A byte that stands for itself within a string. -/
def isPlain (b : UInt8) : Bool := b ≠ code '"' && b ≠ code '\\' && 32 ≤ b

/-- A byte that is no quote, no backslash and no control character is plain. -/
theorem isPlain_ofNat (hlt : n < 256) (hquote : n ≠ 34) (hslash : n ≠ 92) (hge : 32 ≤ n) :
    isPlain (UInt8.ofNat n) = true := by
  have hn : (UInt8.ofNat n).toNat = n := UInt8.toNat_ofNat_of_lt' hlt
  have hne (b : UInt8) (hb : n ≠ b.toNat) : UInt8.ofNat n ≠ b := by
    rintro rfl
    exact hb hn.symm
  have hle : 32 ≤ UInt8.ofNat n := by
    rw [UInt8.le_iff_toNat_le, hn]
    exact hge
  unfold isPlain
  simp only [Bool.and_eq_true, decide_eq_true_eq]
  exact ⟨⟨hne _ hquote, hne _ hslash⟩, hle⟩

/-- So do all bytes of a character that is written as it is. -/
theorem Unescaped.isPlain (h : Unescaped c) : ∀ b ∈ encodeChar c, isPlain b = true := by
  obtain ⟨hquote, hslash, hge⟩ := h
  have hquote : c.toNat ≠ 34 := fun heq => hquote (Char.toNat_inj.mp heq)
  have hslash : c.toNat ≠ 92 := fun heq => hslash (Char.toNat_inj.mp heq)
  rw [Text.Utf8.encodeChar_eq rfl]
  split_ifs
  all_goals
    simp (disch := omega) only [List.mem_cons, List.not_mem_nil, or_false, forall_eq_or_imp,
      forall_eq, isPlain_ofNat, and_self]

/-- A string is read up to its quote. -/
theorem string_of_unescaped (h : ∀ c ∈ cs, Unescaped c) (pos : Nat) (after : Bytes) :
    ∃ pos', Cursor.string ⟨pos, cs.flatMap encodeChar ++ code '"' :: after⟩
      = .ok (String.ofList cs, ⟨pos', after⟩) := by
  have hplain : ∀ b ∈ cs.flatMap encodeChar, isPlain b = true := by
    intro b hb
    obtain ⟨c, hc, hb⟩ := List.mem_flatMap.mp hb
    exact (h c hc).isPlain b hb
  have htake : (cs.flatMap encodeChar ++ code '"' :: after).takeWhile isPlain
      = cs.flatMap encodeChar := by
    rw [List.takeWhile_append_of_pos hplain, List.takeWhile_cons]
    exact List.append_nil _
  have hadvance : Cursor.advance ⟨pos, cs.flatMap encodeChar ++ code '"' :: after⟩
      (cs.flatMap encodeChar).length
        = ⟨pos + (cs.flatMap encodeChar).length, code '"' :: after⟩ := by
    unfold Cursor.advance
    rw [List.drop_left]
  refine ⟨pos + (cs.flatMap encodeChar).length + 1, ?_⟩
  have hfun : (fun b => decide (b ≠ code '"') && decide (b ≠ code '\\') && decide (32 ≤ b))
      = isPlain := rfl
  unfold Cursor.string readString
  dsimp only
  rw [hfun, htake, hadvance]
  dsimp only
  rw [if_pos rfl, Text.Utf8.firstInvalid?_flatMap, Text.Utf8.decodeChars_flatMap]
  rfl

-- ================================================================== values

/-- A value is read from its text, up to where it ends. -/
def Reads (j : Json) : Prop :=
  ∀ (fuel depth pos : Nat) (after : Bytes), EndsNumber after →
    ∃ pos', readValue (fuel + 1) depth ⟨pos, j.bytes ++ after⟩ = .ok (j, ⟨pos', after⟩)

/-- What is written of a string without escapes. -/
theorem bytes_quote (h : ∀ c ∈ s.toList, Unescaped c) :
    (quote s).flatMap encodeChar = code '"' :: (s.toList.flatMap encodeChar ++ [code '"']) := by
  rw [quote_eq h, List.cons_append, List.flatMap_cons, List.flatMap_append]
  rfl

/-- A string that need not be escaped is read back. -/
theorem reads_str (h : ∀ c ∈ s.toList, Unescaped c) : Reads (.str s) := by
  intro fuel depth pos after _
  obtain ⟨pos', hstring⟩ := string_of_unescaped h (pos + 1) after
  have hbytes : (Json.str s).bytes ++ after
      = code '"' :: (s.toList.flatMap encodeChar ++ code '"' :: after) := by
    show (quote s).flatMap encodeChar ++ after = _
    rw [bytes_quote h, List.cons_append, List.append_assoc]
    rfl
  refine ⟨pos', ?_⟩
  rw [hbytes, readValue, skipSpace_of_head (by intro b hb; cases hb; decide)]
  show Except.map _ (Cursor.string ⟨pos + 1, s.toList.flatMap encodeChar ++ code '"' :: after⟩) = _
  rw [hstring, String.ofList_toList]
  rfl

/-- A value that begins with a digit is a number. -/
theorem readValue_digit (hc : isDigit c = true) :
    readValue (fuel + 1) depth ⟨pos, code c :: rest⟩ = readNumber false ⟨pos, code c :: rest⟩ := by
  have hcode : isSpace (code c) = false ∧ code c ≠ code 'n' ∧ code c ≠ code 't'
      ∧ code c ≠ code 'f' ∧ code c ≠ code '-' ∧ isDigitByte (code c) = true :=
    forall_isDigit (P := fun c => isSpace (code c) = false ∧ code c ≠ code 'n' ∧ code c ≠ code 't'
      ∧ code c ≠ code 'f' ∧ code c ≠ code '-' ∧ isDigitByte (code c) = true) (by decide) hc
  obtain ⟨hspace, hn, ht, hf, hminus, hdigit⟩ := hcode
  rw [readValue, skipSpace_of_head (by intro b hb; cases hb; exact hspace)]
  dsimp only
  rw [if_neg hn, if_neg ht, if_neg hf, if_neg hminus, if_pos hdigit]

/-- A count is written in its digits. -/
theorem bytes_natCast (n : Nat) : (Json.int n).bytes = (digitsOf n).map code := by
  have hchars : (Json.int n).chars = digitsOf n := by
    show (String.ofList (digitsOf n)).toList = _
    rw [String.toList_ofList]
  unfold bytes
  rw [hchars, flatMap_ascii (forall_digitsOf (by decide))]

/-- A count below 2^64 is read back. -/
theorem reads_natCast (h : n < 2 ^ 64) : Reads (.int n) := by
  intro fuel depth pos after hafter
  obtain ⟨c, rest, hcons, hc⟩ := exists_digitsOf_cons n
  refine ⟨pos + (digitsOf n).length, ?_⟩
  have hread : readValue (fuel + 1) depth ⟨pos, (digitsOf n).map code ++ after⟩
      = readNumber false ⟨pos, (digitsOf n).map code ++ after⟩ := by
    rw [hcons]
    exact readValue_digit hc
  rw [bytes_natCast, hread, Settings.readNumber_digitsOf hafter,
    Settings.readFraction_of_endsNumber hafter, Settings.number?_digitsOf_of_lt h]

-- ================================================================= members

/-- The text of a member. -/
def memberOf (e : String × Json) : List Char := quote e.1 ++ ':' :: e.2.chars

/-- A member is read back. -/
def ReadsMember (e : String × Json) : Prop := (∀ c ∈ e.1.toList, Unescaped c) ∧ Reads e.2

/-- The text of the members behind the first one. -/
def restChars (ms : Members) : List Char := ms.flatMap fun e => ',' :: memberOf e

theorem memberChars_cons (e : String × Json) (ms : Members) :
    memberChars (e :: ms) = memberOf e ++ restChars ms := by
  unfold restChars
  induction ms generalizing e with
  | nil =>
      rw [memberChars, List.flatMap_nil, List.append_nil]
      rfl
  | cons e' rest ih =>
      rw [memberChars, ih e', List.flatMap_cons]
      · simp only [memberOf, List.append_assoc, List.cons_append]
      · exact nofun

theorem bytes_restChars_cons (e : String × Json) (ms : Members) (after : Bytes) :
    (restChars (e :: ms)).flatMap encodeChar ++ after
      = code ',' :: ((memberOf e).flatMap encodeChar
        ++ ((restChars ms).flatMap encodeChar ++ after)) := by
  unfold restChars
  rw [List.flatMap_cons, List.cons_append, List.flatMap_cons, List.flatMap_append,
    List.append_assoc, encodeChar_ascii (by decide), List.append_assoc]
  rfl

/-- What follows a member is a comma or the brace. -/
theorem endsNumber_restChars (ms : Members) (after : Bytes) :
    EndsNumber ((restChars ms).flatMap encodeChar ++ code '\x7d' :: after) := by
  cases ms with
  | nil => exact fun b hb => by cases hb; decide
  | cons e ms =>
      rw [bytes_restChars_cons]
      exact fun b hb => by cases hb; decide

/-- The bytes of a member, and what follows. -/
theorem bytes_memberOf {e : String × Json} (h : ReadsMember e) (after : Bytes) :
    (memberOf e).flatMap encodeChar ++ after
      = code '"' :: (e.1.toList.flatMap encodeChar
        ++ code '"' :: code ':' :: (e.2.bytes ++ after)) := by
  unfold memberOf
  rw [List.flatMap_append, bytes_quote h.1, List.flatMap_cons, encodeChar_ascii (by decide)]
  simp only [List.cons_append, List.append_assoc, List.nil_append]
  rfl

/-- Behind a comma the reader goes on as behind the brace. -/
theorem readMembers_comma (acc : Members) (rest : Bytes) :
    readMembers (fuel + 1) depth false acc ⟨pos, code ',' :: code '"' :: rest⟩
      = readMembers (fuel + 1) depth true acc ⟨pos + 1, code '"' :: rest⟩ := by
  have hquote : Cursor.skipSpace ⟨pos + 1, code '"' :: rest⟩ = ⟨pos + 1, code '"' :: rest⟩ :=
    skipSpace_of_head (by intro b hb; cases hb; decide)
  rw [readMembers, readMembers, skipSpace_of_head (by intro b hb; cases hb; decide), hquote]
  show (pure (Cursor.skipSpace ⟨pos + 1, code '"' :: rest⟩) >>= _ : Except Fault _) = _
  rw [hquote]
  rfl

/-- A member is read and set. -/
theorem readMembers_member {e : String × Json} (h : ReadsMember e) (acc : Members)
    (hafter : EndsNumber after) (fuel depth pos : Nat) :
    ∃ pos', readMembers (fuel + 2) depth true acc
        ⟨pos, (memberOf e).flatMap encodeChar ++ after⟩
      = readMembers (fuel + 1) depth false (Members.insert e.1 e.2 acc) ⟨pos', after⟩ := by
  rw [bytes_memberOf h]
  obtain ⟨pos₁, hkey⟩ := string_of_unescaped h.1 (pos + 1) (code ':' :: (e.2.bytes ++ after))
  obtain ⟨pos₂, hvalue⟩ := h.2 fuel depth (pos₁ + 1) after hafter
  rw [String.ofList_toList] at hkey
  have hcolon : Cursor.skipSpace ⟨pos₁, code ':' :: (e.2.bytes ++ after)⟩
      = ⟨pos₁, code ':' :: (e.2.bytes ++ after)⟩ :=
    skipSpace_of_head (by intro b hb; cases hb; decide)
  refine ⟨pos₂, ?_⟩
  rw [readMembers, skipSpace_of_head (by intro b hb; cases hb; decide)]
  show (Cursor.string ⟨pos + 1, e.1.toList.flatMap encodeChar
    ++ code '"' :: code ':' :: (e.2.bytes ++ after)⟩ >>= _ : Except Fault _) = _
  rw [hkey]
  dsimp only [bind, Except.bind]
  rw [hcolon]
  dsimp only
  rw [if_neg (by decide), advance_one, hvalue]

/-- The members end with the brace. -/
theorem readMembers_end (acc : Members) (first : Bool) (after : Bytes) :
    readMembers (fuel + 1) depth first acc ⟨pos, code '\x7d' :: after⟩
      = .ok (.obj acc, ⟨pos + 1, after⟩) := by
  rw [readMembers, skipSpace_of_head (by intro b hb; cases hb; decide)]
  rfl

/-- The members behind the first one are read and set, one by one. -/
theorem readMembers_rest {ms : Members} (h : ∀ e ∈ ms, ReadsMember e) (hfuel : ms.length < fuel)
    (acc : Members) (depth pos : Nat) (after : Bytes) :
    ∃ pos', readMembers fuel depth false acc
        ⟨pos, (restChars ms).flatMap encodeChar ++ code '\x7d' :: after⟩
      = .ok (.obj (ms.foldl (fun ms e => Members.insert e.1 e.2 ms) acc), ⟨pos', after⟩) := by
  induction ms generalizing fuel acc pos with
  | nil =>
      obtain ⟨fuel, rfl⟩ := Nat.exists_eq_succ_of_ne_zero (by omega : fuel ≠ 0)
      exact ⟨pos + 1, readMembers_end acc false after⟩
  | cons e ms ih =>
      obtain ⟨he, hms⟩ := List.forall_mem_cons.mp h
      obtain ⟨fuel, rfl⟩ : ∃ k, fuel = k + 2 :=
        Nat.exists_eq_add_of_le' (by rw [List.length_cons] at hfuel; omega)
      obtain ⟨pos₁, hmember⟩ :=
        readMembers_member he acc (endsNumber_restChars ms after) fuel depth (pos + 1)
      obtain ⟨pos₂, hrest⟩ :=
        ih hms (Nat.lt_of_succ_lt_succ hfuel) (Members.insert e.1 e.2 acc) pos₁
      refine ⟨pos₂, ?_⟩
      rw [bytes_memberOf he] at hmember
      rw [bytes_restChars_cons, bytes_memberOf he, readMembers_comma, hmember, hrest]
      rfl

/-- The members of an object are read and set, one by one. -/
theorem readMembers_obj {ms : Members} (h : ∀ e ∈ ms, ReadsMember e) (hfuel : ms.length < fuel)
    (depth pos : Nat) (after : Bytes) :
    ∃ pos', readMembers fuel depth true []
        ⟨pos, (memberChars ms).flatMap encodeChar ++ code '\x7d' :: after⟩
      = .ok (.obj (Members.ofList ms), ⟨pos', after⟩) := by
  cases ms with
  | nil =>
      obtain ⟨fuel, rfl⟩ := Nat.exists_eq_succ_of_ne_zero (by omega : fuel ≠ 0)
      rw [memberChars]
      exact ⟨pos + 1, readMembers_end [] true after⟩
  | cons e ms =>
      obtain ⟨he, hms⟩ := List.forall_mem_cons.mp h
      obtain ⟨fuel, rfl⟩ : ∃ k, fuel = k + 2 :=
        Nat.exists_eq_add_of_le' (by rw [List.length_cons] at hfuel; omega)
      obtain ⟨pos₁, hmember⟩ :=
        readMembers_member he [] (endsNumber_restChars ms after) fuel depth pos
      obtain ⟨pos₂, hrest⟩ := readMembers_rest hms (Nat.lt_of_succ_lt_succ hfuel)
        (Members.insert e.1 e.2 []) depth pos₁ after
      refine ⟨pos₂, ?_⟩
      rw [memberChars_cons, List.flatMap_append, List.append_assoc, hmember, hrest]
      rfl

-- =================================================================== texts

theorem encodeChar_ne_nil (c : Char) : encodeChar c ≠ [] := by
  obtain ⟨b, ts, hc, -⟩ := Text.Utf8.piece_encodeChar c []
  rw [hc]
  exact List.cons_ne_nil b ts

/-- There are not more members than bytes. -/
theorem length_le_bytes (ms : Members) :
    ms.length ≤ ((memberChars ms).flatMap encodeChar).length := by
  refine le_trans ?_ (length_le_flatMap encodeChar_ne_nil _)
  cases ms with
  | nil => exact Nat.zero_le _
  | cons e ms =>
      have hrest : ms.length ≤ (restChars ms).length :=
        length_le_flatMap (fun e => List.cons_ne_nil _ _) ms
      rw [memberChars_cons, List.length_append, List.length_cons]
      unfold memberOf quote
      simp only [List.length_append, List.length_cons]
      omega

/-- An object is read from its text. -/
theorem parse_text_obj {ms : Members} (h : ∀ e ∈ ms, ReadsMember e) :
    parse (Text.Utf8.encode (Json.obj ms).text) = .ok (.obj (Members.ofList ms)) := by
  have hbytes : (Json.obj ms).bytes
      = code '\x7b' :: ((memberChars ms).flatMap encodeChar ++ [code '\x7d']) := by
    unfold bytes
    rw [chars, List.cons_append, List.flatMap_cons, List.flatMap_append]
    rfl
  have hvalue (fuel : Nat) (hfuel : ms.length < fuel) :
      ∃ pos, readValue (fuel + 1) nesting ⟨0, (Json.obj ms).bytes⟩
        = .ok (.obj (Members.ofList ms), ⟨pos, []⟩) := by
    obtain ⟨pos, hread⟩ := readMembers_obj h hfuel (nesting - 1) 1 []
    refine ⟨pos, ?_⟩
    rw [hbytes, readValue, skipSpace_of_head (by intro b hb; cases hb; decide)]
    exact hread
  have hlength : ms.length ≤ (Json.obj ms).bytes.length := by
    rw [hbytes, List.length_cons, List.length_append]
    exact (length_le_bytes ms).trans (Nat.le_succ_of_le (Nat.le_add_right _ _))
  obtain ⟨pos, hread⟩ := hvalue (2 * (Json.obj ms).bytes.length + 1) (by omega)
  rw [encode_text]
  unfold parse
  rw [hread]
  rfl

end CameraDriver.Json
