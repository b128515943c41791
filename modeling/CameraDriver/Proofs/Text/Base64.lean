/-
Base64 read back.

Three bytes are 24 bits and so are four characters of the alphabet; nothing is lost and
nothing is left over (`decode?_cons`). What is over behind the last three bytes are one
byte or two, which take two characters or three, with zeros for the bits to spare, and
as many `=` as the group is short. The induction is on the bytes, three at a time.
-/
import CameraDriver.Proofs.Text.Utf8
import CameraDriver.Text.Base64

namespace CameraDriver.Text.Base64

variable {a b c : UInt8} {n w x y z : Nat} {bytes rest : Bytes}

-- ================================================================ alphabet

/-- The characters of the numbers below 64, in their order. -/
def alphabet : List Char :=
  "ABCDEFGHIJKLMNOPQRSTUVWXYZabcdefghijklmnopqrstuvwxyz0123456789+/".toList

theorem getElem?_alphabet : ∀ n < 64, alphabet[n]? = some (digit n) := by decide

theorem digit_mem_alphabet (h : n < 64) : digit n ∈ alphabet :=
  List.mem_of_getElem? (getElem?_alphabet n h)

theorem value?_digit : ∀ n < 64, value? (digit n) = some n := by decide

/-- No digit is the padding. -/
theorem digit_ne_pad : ∀ n < 64, digit n ≠ '=' := by decide

-- ================================================================== groups

/-- The characters of a group, put together again. -/
theorem decode?_of_four (hw : w < 64) (hx : x < 64) (hy : y < 64) (hz : z < 64)
    (cs : List Char) :
    decode? (digit w :: digit x :: digit y :: digit z :: cs)
      = (decode? cs).map fun tail => UInt8.ofNat (w * 4 + x / 16)
        :: UInt8.ofNat (x % 16 * 16 + y / 4) :: UInt8.ofNat (y % 4 * 64 + z) :: tail := by
  have hpad : digit z ≠ '=' := digit_ne_pad z hz
  rw [decode?]
  · rw [value?_digit w hw, value?_digit x hx, value?_digit y hy, value?_digit z hz]
    cases decode? cs <;> rfl
  · exact fun _ h _ => hpad h
  · exact fun h _ => hpad h

/-- Three digits and one padding are read as two bytes. -/
theorem decode?_of_three (hw : w < 64) (hx : x < 64) (hy : y < 16) :
    decode? [digit w, digit x, digit (y * 4), '=']
      = some [UInt8.ofNat (w * 4 + x / 16), UInt8.ofNat (x % 16 * 16 + y)] := by
  have hpad : digit (y * 4) ≠ '=' := digit_ne_pad _ (by omega)
  rw [decode?]
  · rw [value?_digit w hw, value?_digit x hx, value?_digit (y * 4) (by omega)]
    show (if y * 4 % 4 = 0 then _ else _) = _
    rw [if_pos (by omega), Nat.mul_div_cancel y (by decide)]
    rfl
  · exact fun h => hpad h

/-- Two digits and two paddings are read as one byte. -/
theorem decode?_of_two (hw : w < 64) (hx : x < 4) :
    decode? [digit w, digit (x * 16), '=', '='] = some [UInt8.ofNat (w * 4 + x)] := by
  rw [decode?, value?_digit w hw, value?_digit (x * 16) (by omega)]
  show (if x * 16 % 16 = 0 then _ else _) = _
  rw [if_pos (by omega), Nat.mul_div_cancel x (by decide)]
  rfl

/-- Reading undoes writing. -/
theorem decode?_encode (bytes : Bytes) : decode? (encode bytes) = some bytes := by
  induction bytes using encode.induct with
  | case1 => rfl
  | case2 a =>
      have ha := a.toNat_lt
      rw [encode, decode?_of_two (by omega) (by omega), Utf8.ofNat_eq (b := a) (by omega)]
  | case3 a b =>
      have ha := a.toNat_lt
      have hb := b.toNat_lt
      rw [encode, decode?_of_three (by omega) (by omega) (by omega),
        Utf8.ofNat_eq (b := a) (by omega), Utf8.ofNat_eq (b := b) (by omega)]
  | case4 a b c rest ih =>
      have ha := a.toNat_lt
      have hb := b.toNat_lt
      have hc := c.toNat_lt
      rw [encode, decode?_of_four (by omega) (by omega) (by omega) (by omega), ih,
        Utf8.ofNat_eq (b := a) (by omega), Utf8.ofNat_eq (b := b) (by omega),
        Utf8.ofNat_eq (b := c) (by omega)]
      rfl

/-- Different bytes have different texts. -/
theorem encode_injective {bytes' : Bytes} (h : encode bytes = encode bytes') : bytes = bytes' :=
  Option.some.inj ((decode?_encode bytes).symm.trans ((congrArg decode? h).trans
    (decode?_encode bytes')))

-- =================================================================== shape

/-- Four characters for each three bytes that are begun. -/
theorem length_encode (bytes : Bytes) : (encode bytes).length = 4 * ((bytes.length + 2) / 3) := by
  induction bytes using encode.induct with
  | case4 a b c rest ih =>
      rw [encode]
      simp only [List.length_cons, ih]
      omega
  | _ => simp [encode]

/-- Characters of the alphabet, and then a `=` for each byte that the last group is short. -/
theorem exists_encode (bytes : Bytes) :
    ∃ cs, encode bytes = cs ++ List.replicate ((3 - bytes.length % 3) % 3) '='
      ∧ ∀ c ∈ cs, c ∈ alphabet := by
  induction bytes using encode.induct with
  | case1 => exact ⟨[], rfl, nofun⟩
  | case2 a =>
      have ha := a.toNat_lt
      refine ⟨[_, _], rfl, ?_⟩
      simp only [List.forall_mem_cons]
      exact ⟨digit_mem_alphabet (by omega), digit_mem_alphabet (by omega), nofun⟩
  | case3 a b =>
      have ha := a.toNat_lt
      have hb := b.toNat_lt
      refine ⟨[_, _, _], rfl, ?_⟩
      simp only [List.forall_mem_cons]
      exact ⟨digit_mem_alphabet (by omega), digit_mem_alphabet (by omega),
        digit_mem_alphabet (by omega), nofun⟩
  | case4 a b c rest ih =>
      have ha := a.toNat_lt
      have hb := b.toNat_lt
      have hc := c.toNat_lt
      obtain ⟨cs, hcs, hall⟩ := ih
      have hlength : (a :: b :: c :: rest).length % 3 = rest.length % 3 :=
        Nat.add_mod_right rest.length 3
      refine ⟨_ :: _ :: _ :: _ :: cs, by rw [encode, hlength, hcs]; rfl, ?_⟩
      simp only [List.forall_mem_cons]
      exact ⟨digit_mem_alphabet (by omega), digit_mem_alphabet (by omega),
        digit_mem_alphabet (by omega), digit_mem_alphabet (by omega), hall⟩

/-- What holds of the alphabet and of `=` holds of every character that is written. -/
theorem forall_encode {P : Char → Prop} (h : ∀ c ∈ alphabet, P c) (hpad : P '=')
    (bytes : Bytes) : ∀ c ∈ encode bytes, P c := by
  obtain ⟨cs, hcs, hall⟩ := exists_encode bytes
  intro c hc
  rw [hcs] at hc
  rcases List.mem_append.mp hc with hc | hc
  · exact h c (hall c hc)
  · exact List.eq_of_mem_replicate hc ▸ hpad

end CameraDriver.Text.Base64
