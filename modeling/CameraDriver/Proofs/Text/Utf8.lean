/-
UTF-8 read back.

What the reader takes for a character is the bytes of that character and nothing else
(`stands_of_piece`), and it takes the bytes of a character for that character
whatever follows (`piece_encodeChar`). Both are read off what a lead byte announces: a
number of tail bytes, and for the first of them a range that leaves out what could have
been written in fewer bytes, a surrogate, or too great a number.

So a text comes back from its bytes (`decodeLossy_encode`), and bytes that are read
without a replacement are those of the text that was read (`encode_decodeLossy`).
-/
import CameraDriver.Text.Utf8
import Mathlib.Data.List.Basic

namespace CameraDriver.Text.Utf8

variable {b : UInt8} {c : Char} {n size : Nat} {bytes rest : Bytes}

-- ============================================================== lead bytes

/-- What holds of the 256 bytes holds of every byte. -/
theorem forall_byte {P : UInt8 → Prop} (h : ∀ n < 256, P (UInt8.ofNat n)) (b : UInt8) : P b := by
  rw [← UInt8.ofNat_toNat (x := b)]
  exact h b.toNat b.toNat_lt

/-- The lead bytes, by how many tail bytes they announce. The first of two leaves out what
one would do for, and the surrogates; the first of three leaves out what two would do
for, and what is beyond all characters. -/
theorem lead_eq : ∀ b : UInt8, lead b =
    if b.toNat ≤ 0x7F then some (0, 0x80, 0xBF, b.toNat)
    else if b.toNat < 0xC2 then none
    else if b.toNat ≤ 0xDF then some (1, 0x80, 0xBF, b.toNat - 0xC0)
    else if b.toNat ≤ 0xEF then
      some (2, if b.toNat = 0xE0 then 0xA0 else 0x80, if b.toNat = 0xED then 0x9F else 0xBF,
        b.toNat - 0xE0)
    else if b.toNat ≤ 0xF4 then
      some (3, if b.toNat = 0xF0 then 0x90 else 0x80, if b.toNat = 0xF4 then 0x8F else 0xBF,
        b.toNat - 0xF0)
    else none :=
  forall_byte (by decide +kernel)

-- ============================================================== tail bytes

/-- What tail bytes are read as: each is in the range that it has to be in. -/
theorem tails_succ_eq_char {need acc : Nat} {low high : UInt8} :
    tails (need + 1) low high acc n bytes = .char c size
      ↔ ∃ t rest, bytes = t :: rest ∧ low.toNat ≤ t.toNat ∧ t.toNat ≤ high.toNat
        ∧ tails need 0x80 0xBF (acc * 64 + (t.toNat - 0x80)) (n + 1) rest = .char c size := by
  cases bytes with
  | nil => exact ⟨nofun, fun ⟨_, _, h, _⟩ => by cases h⟩
  | cons t rest =>
      rw [tails]
      constructor
      · intro h
        split at h
        case isTrue hin => exact ⟨t, rest, rfl, hin.1, hin.2, h⟩
        case isFalse => cases h
      · rintro ⟨t', rest', heq, hlow, hhigh, h⟩
        obtain ⟨rfl, rfl⟩ := List.cons.inj heq
        rw [if_pos ⟨hlow, hhigh⟩]
        exact h

theorem tails_zero_eq_char {acc : Nat} {low high : UInt8} :
    tails 0 low high acc n bytes = .char c size ↔ Char.ofNat acc = c ∧ n = size := by
  rw [tails, Piece.char.injEq]

/-- A bound that depends on the lead byte. -/
theorem ite_le_iff {p : Prop} [Decidable p] {x y : UInt8} {t : Nat} :
    (if p then x else y).toNat ≤ t ↔ (p → x.toNat ≤ t) ∧ (¬ p → y.toNat ≤ t) := by
  split <;> simp [*]

theorem le_ite_iff {p : Prop} [Decidable p] {x y : UInt8} {t : Nat} :
    t ≤ (if p then x else y).toNat ↔ (p → t ≤ x.toNat) ∧ (¬ p → t ≤ y.toNat) := by
  split <;> simp [*]

-- ============================================================== characters

/-- The bytes of a character, by its number. -/
theorem encodeChar_eq (hc : c.toNat = n) :
    encodeChar c =
      if n ≤ 0x7F then [UInt8.ofNat n]
      else if n ≤ 0x7FF then [UInt8.ofNat (n / 64 % 32 + 0xC0), UInt8.ofNat (n % 64 + 0x80)]
      else if n ≤ 0xFFFF then
        [UInt8.ofNat (n / 4096 % 16 + 0xE0), UInt8.ofNat (n / 64 % 64 + 0x80),
          UInt8.ofNat (n % 64 + 0x80)]
      else
        [UInt8.ofNat (n / 262144 % 8 + 0xF0), UInt8.ofNat (n / 4096 % 64 + 0x80),
          UInt8.ofNat (n / 64 % 64 + 0x80), UInt8.ofNat (n % 64 + 0x80)] := by
  subst hc
  rfl

theorem toNat_ofNat (h : n.isValidChar) : (Char.ofNat n).toNat = n := by
  unfold Char.ofNat
  rw [dif_pos h]
  rfl

theorem ofNat_eq {m : Nat} (h : m = b.toNat) : UInt8.ofNat m = b := by
  rw [h, UInt8.ofNat_toNat]

/-- A character stands at the front of `b :: rest` by its bytes, as many as `size`. -/
def Stands (b : UInt8) (rest : Bytes) (c : Char) (size : Nat) : Prop :=
  ∃ ts after, encodeChar c = b :: ts ∧ rest = ts ++ after ∧ size = ts.length + 1

/-- One byte below 128 stands for itself. -/
theorem stands_one (hb : b.toNat ≤ 0x7F)
    (h : tails 0 0x80 0xBF b.toNat 1 rest = .char c size) : Stands b rest c size := by
  obtain ⟨rfl, rfl⟩ := tails_zero_eq_char.mp h
  refine ⟨[], rest, ?_, rfl, rfl⟩
  rw [encodeChar_eq (toNat_ofNat (by omega)), if_pos hb, UInt8.ofNat_toNat]

/-- Two bytes stand for a character. -/
theorem stands_two (hb : 0xC2 ≤ b.toNat) (hb' : b.toNat ≤ 0xDF)
    (h : tails 1 0x80 0xBF (b.toNat - 0xC0) 1 rest = .char c size) : Stands b rest c size := by
  obtain ⟨t, after, rfl, hlow, hhigh, h⟩ := tails_succ_eq_char.mp h
  obtain ⟨rfl, rfl⟩ := tails_zero_eq_char.mp h
  simp only [UInt8.toNat_ofNat] at hlow hhigh
  refine ⟨[t], after, ?_, rfl, rfl⟩
  rw [encodeChar_eq (toNat_ofNat (by omega)), if_neg (by omega), if_pos (by omega),
    ofNat_eq (b := b) (by omega), ofNat_eq (b := t) (by omega)]

/-- Three bytes stand for a character, without surrogates and longer forms than needed. -/
theorem stands_three (hb : 0xE0 ≤ b.toNat) (hb' : b.toNat ≤ 0xEF)
    (h : tails 2 (if b.toNat = 0xE0 then 0xA0 else 0x80) (if b.toNat = 0xED then 0x9F else 0xBF)
      (b.toNat - 0xE0) 1 rest = .char c size) : Stands b rest c size := by
  obtain ⟨t, after, rfl, hlow, hhigh, h⟩ := tails_succ_eq_char.mp h
  obtain ⟨u, after, rfl, hlowu, hhighu, h⟩ := tails_succ_eq_char.mp h
  obtain ⟨rfl, rfl⟩ := tails_zero_eq_char.mp h
  simp only [ite_le_iff, le_ite_iff, UInt8.toNat_ofNat] at hlow hhigh hlowu hhighu
  refine ⟨[t, u], after, ?_, rfl, rfl⟩
  rw [encodeChar_eq (toNat_ofNat (by omega)), if_neg (by omega), if_neg (by omega),
    if_pos (by omega), ofNat_eq (b := b) (by omega), ofNat_eq (b := t) (by omega),
    ofNat_eq (b := u) (by omega)]

/-- Four bytes stand for a character, up to the last one and without longer forms than
needed. -/
theorem stands_four (hb : 0xF0 ≤ b.toNat) (hb' : b.toNat ≤ 0xF4)
    (h : tails 3 (if b.toNat = 0xF0 then 0x90 else 0x80) (if b.toNat = 0xF4 then 0x8F else 0xBF)
      (b.toNat - 0xF0) 1 rest = .char c size) : Stands b rest c size := by
  obtain ⟨t, after, rfl, hlow, hhigh, h⟩ := tails_succ_eq_char.mp h
  obtain ⟨u, after, rfl, hlowu, hhighu, h⟩ := tails_succ_eq_char.mp h
  obtain ⟨w, after, rfl, hloww, hhighw, h⟩ := tails_succ_eq_char.mp h
  obtain ⟨rfl, rfl⟩ := tails_zero_eq_char.mp h
  simp only [ite_le_iff, le_ite_iff, UInt8.toNat_ofNat] at hlow hhigh hlowu hhighu hloww hhighw
  refine ⟨[t, u, w], after, ?_, rfl, rfl⟩
  rw [encodeChar_eq (toNat_ofNat (by omega)), if_neg (by omega), if_neg (by omega),
    if_neg (by omega), ofNat_eq (b := b) (by omega), ofNat_eq (b := t) (by omega),
    ofNat_eq (b := u) (by omega), ofNat_eq (b := w) (by omega)]

/-- A character that is read stands there. -/
theorem stands_of_piece (h : piece b rest = .char c size) : Stands b rest c size := by
  unfold piece at h
  rw [lead_eq] at h
  by_cases h1 : b.toNat ≤ 0x7F
  · -- one byte
    rw [if_pos h1] at h
    exact stands_one h1 h
  by_cases h2 : b.toNat < 0xC2
  · -- no character begins like this
    rw [if_neg h1, if_pos h2] at h
    cases h
  by_cases h3 : b.toNat ≤ 0xDF
  · -- two bytes
    rw [if_neg h1, if_neg h2, if_pos h3] at h
    exact stands_two (by omega) h3 h
  by_cases h4 : b.toNat ≤ 0xEF
  · -- three bytes
    rw [if_neg h1, if_neg h2, if_neg h3, if_pos h4] at h
    exact stands_three (by omega) h4 h
  by_cases h5 : b.toNat ≤ 0xF4
  · -- four bytes
    rw [if_neg h1, if_neg h2, if_neg h3, if_neg h4, if_pos h5] at h
    exact stands_four (by omega) h5 h
  · -- no character begins like this
    rw [if_neg h1, if_neg h2, if_neg h3, if_neg h4, if_neg h5] at h
    cases h

/-- A character is read from its bytes, whatever follows them. -/
theorem piece_encodeChar (c : Char) (after : Bytes) :
    ∃ b ts, encodeChar c = b :: ts ∧ piece b (ts ++ after) = .char c (ts.length + 1) := by
  have hvalid : c.toNat.isValidChar := c.valid
  have hback : ∀ m, m = c.toNat → Char.ofNat m = c := fun m hm => by rw [hm, Char.ofNat_toNat]
  have htoNat : ∀ m, m < 256 → (UInt8.ofNat m).toNat = m := fun m => UInt8.toNat_ofNat_of_lt'
  rw [encodeChar_eq rfl]
  by_cases h1 : c.toNat ≤ 0x7F
  · rw [if_pos h1]
    refine ⟨_, _, rfl, ?_⟩
    unfold piece
    rw [lead_eq, htoNat _ (by omega), if_pos (by omega)]
    exact tails_zero_eq_char.mpr ⟨hback _ rfl, rfl⟩
  by_cases h2 : c.toNat ≤ 0x7FF
  · rw [if_neg h1, if_pos h2]
    refine ⟨_, _, rfl, ?_⟩
    unfold piece
    rw [lead_eq, htoNat _ (by omega), if_neg (by omega), if_neg (by omega), if_pos (by omega)]
    refine tails_succ_eq_char.mpr ⟨_, _, rfl, ?_, ?_, tails_zero_eq_char.mpr ⟨hback _ ?_, rfl⟩⟩
    all_goals
      simp (disch := omega) only [htoNat, UInt8.toNat_ofNat]
      omega
  by_cases h3 : c.toNat ≤ 0xFFFF
  · rw [if_neg h1, if_neg h2, if_pos h3]
    refine ⟨_, _, rfl, ?_⟩
    unfold piece
    rw [lead_eq, htoNat _ (by omega), if_neg (by omega), if_neg (by omega), if_neg (by omega),
      if_pos (by omega)]
    refine tails_succ_eq_char.mpr ⟨_, _, rfl, ?_, ?_,
      tails_succ_eq_char.mpr ⟨_, _, rfl, ?_, ?_, tails_zero_eq_char.mpr ⟨hback _ ?_, rfl⟩⟩⟩
    all_goals
      simp (disch := omega) only [htoNat, ite_le_iff, le_ite_iff, UInt8.toNat_ofNat]
      omega
  · rw [if_neg h1, if_neg h2, if_neg h3]
    refine ⟨_, _, rfl, ?_⟩
    unfold piece
    rw [lead_eq, htoNat _ (by omega), if_neg (by omega), if_neg (by omega), if_neg (by omega),
      if_neg (by omega), if_pos (by omega)]
    refine tails_succ_eq_char.mpr ⟨_, _, rfl, ?_, ?_,
      tails_succ_eq_char.mpr ⟨_, _, rfl, ?_, ?_,
        tails_succ_eq_char.mpr ⟨_, _, rfl, ?_, ?_, tails_zero_eq_char.mpr ⟨hback _ ?_, rfl⟩⟩⟩⟩
    all_goals
      simp (disch := omega) only [htoNat, ite_le_iff, le_ite_iff, UInt8.toNat_ofNat]
      omega

-- =================================================================== texts

/-- The bytes of a character are read as it. -/
theorem decodeChars_encodeChar (c : Char) (after : Bytes) :
    decodeChars (encodeChar c ++ after) = c :: decodeChars after := by
  obtain ⟨b, ts, hc, hpiece⟩ := piece_encodeChar c after
  rw [hc, List.cons_append, decodeChars, hpiece]
  dsimp only
  rw [Nat.add_sub_cancel, List.drop_left]

/-- The bytes of a text are read as it. -/
theorem decodeChars_flatMap (cs : List Char) : decodeChars (cs.flatMap encodeChar) = cs := by
  induction cs with
  | nil => rw [List.flatMap_nil, decodeChars]
  | cons c rest ih => rw [List.flatMap_cons, decodeChars_encodeChar, ih]

/-- A text comes back from its bytes. -/
theorem decodeLossy_encode (s : String) : decodeLossy (encode s) = s := by
  unfold decodeLossy encode
  rw [decodeChars_flatMap, String.ofList_toList]

/-- No byte of a text is invalid. -/
theorem firstInvalid?_flatMap (start : Nat) (cs : List Char) :
    firstInvalid? start (cs.flatMap encodeChar) = none := by
  induction cs generalizing start with
  | nil => rw [List.flatMap_nil, firstInvalid?]
  | cons c rest ih =>
      obtain ⟨b, ts, hc, hpiece⟩ := piece_encodeChar c (rest.flatMap encodeChar)
      rw [List.flatMap_cons, hc, List.cons_append, firstInvalid?, hpiece]
      dsimp only
      rw [Nat.add_sub_cancel, List.drop_left]
      exact ih _

/-- Bytes that are read without a replacement are those of what is read. -/
theorem flatMap_decodeChars (h : '\uFFFD' ∉ decodeChars bytes) :
    (decodeChars bytes).flatMap encodeChar = bytes := by
  induction bytes using decodeChars.induct with
  | case1 => rw [decodeChars, List.flatMap_nil]
  | case2 b rest c size hpiece ih =>
      obtain ⟨ts, after, hc, rfl, rfl⟩ := stands_of_piece hpiece
      rw [decodeChars, hpiece] at h ⊢
      dsimp only at h ih ⊢
      rw [Nat.add_sub_cancel, List.drop_left] at h ih ⊢
      rw [List.flatMap_cons, ih fun hmem => h (List.mem_cons_of_mem _ hmem), hc, List.cons_append]
  | case3 b rest size hpiece ih =>
      rw [decodeChars, hpiece] at h
      exact absurd List.mem_cons_self h

/-- Bytes in which nothing was replaced are those of the text that was read. -/
theorem encode_decodeLossy (h : '\uFFFD' ∉ (decodeLossy bytes).toList) :
    encode (decodeLossy bytes) = bytes := by
  unfold decodeLossy at h ⊢
  unfold encode
  rw [String.toList_ofList] at h ⊢
  exact flatMap_decodeChars h

end CameraDriver.Text.Utf8
