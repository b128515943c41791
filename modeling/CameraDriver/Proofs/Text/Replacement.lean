/-
What stands for bytes that are no text.

Where no character stands, the reader takes the longest run of bytes that begins some
character, or one byte if none begins here, and puts a single U+FFFD for it
(`MaximalInvalid`). The reader of `Text.Utf8` decides this by what the lead byte announces;
here it is said by the bytes of the characters alone, and the two are the same
(`maximalInvalid_iff_piece`).

Two facts about tail bytes carry it. Bytes that are not taken to the end can be filled up to
a character (`exists_fill`), so what was taken begins one. And a character whose tail bytes
go the same way for a while does not go further with them than the reader did
(`common_le`), so nothing longer begins one.

So the reading of a byte string is fixed by three rules (`Reads`), and the reader follows them
(`reads_iff`).
-/
import CameraDriver.Proofs.Text.Utf8

namespace CameraDriver.Text.Utf8

variable {b : UInt8} {c : Char} {need acc n size : Nat} {low high : UInt8}
variable {bytes rest part after xs ys : Bytes} {cs : List Char}

-- ============================================================ the rules

/-- Bytes that some character begins with, and possibly ends with. -/
def Begins (part : Bytes) : Prop := ∃ c, part <+: encodeChar c

/-- `part`, before `rest`, is a maximal invalid part: no character stands where it begins, and
it is the longest run of bytes from there that begins a character, or a single byte. -/
structure MaximalInvalid (part rest : Bytes) : Prop where
  unconvertible : ∀ c, ¬ encodeChar c <+: part ++ rest
  nonempty : part ≠ []
  begins : part.length = 1 ∨ Begins part
  longest : ∀ {longer}, longer <+: part ++ rest → Begins longer → longer.length ≤ part.length

/-- How a byte string is read: its characters are kept in their order, and each maximal invalid
part gives one U+FFFD. -/
inductive Reads : Bytes → List Char → Prop
  | done : Reads [] []
  | char (c : Char) {rest : Bytes} {cs : List Char} (h : Reads rest cs) :
      Reads (encodeChar c ++ rest) (c :: cs)
  | invalid {part rest : Bytes} {cs : List Char} (hpart : MaximalInvalid part rest)
      (h : Reads rest cs) : Reads (part ++ rest) ('\uFFFD' :: cs)

-- =========================================================== tail bytes

/-- Where tail bytes are not taken to the end, those that were taken stand in front, and others
behind them would have made a character. -/
theorem exists_fill (hrange : low ≤ high) (h : tails need low high acc n xs = .invalid size) :
    ∃ ts after, xs = ts ++ after ∧ size = n + ts.length
      ∧ ∃ fill c, tails need low high acc n (ts ++ fill) = .char c (n + (ts ++ fill).length) := by
  induction need generalizing low high acc n xs with
  | zero => cases h
  | succ need ih =>
      -- nothing taken: a byte in the range, then as for no bytes
      have hnone : size = n → ∃ ts after, xs = ts ++ after ∧ size = n + ts.length
          ∧ ∃ fill c, tails (need + 1) low high acc n (ts ++ fill)
            = .char c (n + (ts ++ fill).length) := by
        rintro rfl
        refine ⟨[], xs, rfl, rfl, ?_⟩
        obtain ⟨fill, c, hfill⟩ := exists_of_none need (acc * 64 + (low.toNat - 0x80)) (size + 1)
        refine ⟨low :: fill, c, tails_succ_eq_char.mpr
          ⟨low, fill, rfl, Nat.le_refl _, hrange, ?_⟩⟩
        rw [hfill, List.nil_append, List.length_cons, Nat.add_right_comm, Nat.add_assoc]
      cases xs with
      | nil => exact hnone (Piece.invalid.inj h).symm
      | cons t rest =>
          rw [tails] at h
          split at h
          case isFalse => exact hnone (Piece.invalid.inj h).symm
          case isTrue hin =>
            obtain ⟨ts, after, rfl, rfl, fill, c, hfill⟩ := ih (by decide) h
            refine ⟨t :: ts, after, rfl, by rw [List.length_cons]; omega, fill, c, ?_⟩
            rw [List.cons_append, tails_succ_eq_char]
            refine ⟨t, ts ++ fill, rfl, hin.1, hin.2, ?_⟩
            rw [hfill, List.length_cons, Nat.add_right_comm, Nat.add_assoc]
where
  /-- Tail bytes for a character from nothing. -/
  exists_of_none (need acc n : Nat) :
      ∃ fill c, tails need 0x80 0xBF acc n fill = .char c (n + fill.length) := by
    induction need generalizing acc n with
    | zero => exact ⟨[], Char.ofNat acc, rfl⟩
    | succ need ih =>
        obtain ⟨fill, c, h⟩ := ih (acc * 64 + ((0x80 : UInt8).toNat - 0x80)) (n + 1)
        refine ⟨0x80 :: fill, c, tails_succ_eq_char.mpr ⟨0x80, fill, rfl, by decide, by decide, ?_⟩⟩
        rw [h, List.length_cons, Nat.add_right_comm, Nat.add_assoc]

/-- Bytes that also stand in front of a character's tail are taken. -/
theorem common_le {m : Nat} (hxs : tails need low high acc n xs = .invalid size)
    (hys : tails need low high acc n ys = .char c m) (hpx : part <+: xs) (hpy : part <+: ys) :
    n + part.length ≤ size := by
  induction need generalizing low high acc n xs ys part with
  | zero => cases hxs
  | succ need ih =>
      obtain ⟨t, ys, rfl, hlow, hhigh, hys⟩ := tails_succ_eq_char.mp hys
      cases part with
      | nil =>
          cases xs with
          | nil => exact Nat.le_of_eq (Piece.invalid.inj hxs)
          | cons x xs =>
              rw [tails] at hxs
              split at hxs
              · obtain ⟨ts, -, -, rfl, -⟩ := exists_fill (by decide) hxs
                rw [List.length_nil]
                omega
              · exact Nat.le_of_eq (Piece.invalid.inj hxs)
      | cons p part =>
          obtain ⟨rfl, hpy'⟩ := List.cons_prefix_cons.mp hpy
          obtain ⟨after, rfl⟩ := hpx
          rw [List.cons_append, tails, if_pos ⟨hlow, hhigh⟩] at hxs
          have := ih hxs hys (List.prefix_append part after) hpy'
          rw [List.length_cons]
          omega

/-- The second byte has a range that is not empty. -/
theorem lead_range {bits : Nat} (h : lead b = some (need, low, high, bits)) : low ≤ high := by
  have hall : ∀ b : UInt8, ∀ announced ∈ lead b, announced.2.1 ≤ announced.2.2.1 :=
    forall_byte (by decide +kernel)
  exact hall b _ h

-- ================================================================ parts

/-- A character is read from its bytes, by its lead byte. -/
theorem piece_of_encodeChar {ts : Bytes} (hc : encodeChar c = b :: ts) (after : Bytes) :
    piece b (ts ++ after) = .char c (ts.length + 1) := by
  obtain ⟨b', ts', hc', hpiece⟩ := piece_encodeChar c after
  obtain ⟨rfl, rfl⟩ := List.cons.inj (hc.symm.trans hc')
  exact hpiece

/-- What is not read as a character is none. -/
theorem unconvertible_of_piece (h : piece b rest = .invalid size) (c : Char) :
    ¬ encodeChar c <+: b :: rest := by
  rintro ⟨after, heq⟩
  obtain ⟨b', ts, hc, -⟩ := piece_encodeChar c after
  rw [hc, List.cons_append] at heq
  obtain ⟨rfl, rfl⟩ := List.cons.inj heq
  rw [piece_of_encodeChar hc] at h
  cases h

/-- A bound on what begins a character, from the characters with the same lead byte: nothing
else begins with it. -/
theorem longest_of_tails {m : Nat}
    (h : ∀ {longer more c}, longer <+: rest → encodeChar c = b :: (longer ++ more) →
      longer.length ≤ m) {longer : Bytes} (hpre : longer <+: b :: rest) (hbegins : Begins longer) :
    longer.length ≤ m + 1 := by
  cases longer with
  | nil => exact Nat.zero_le _
  | cons p longer =>
      obtain ⟨rfl, hpre'⟩ := List.cons_prefix_cons.mp hpre
      obtain ⟨c, more, hc⟩ := hbegins
      exact Nat.succ_le_succ (h hpre' hc.symm)

/-- What the reader takes for an invalid part is a maximal one. -/
theorem maximalInvalid_of_piece (h : piece b rest = .invalid size) :
    ∃ ts after, rest = ts ++ after ∧ size = ts.length + 1 ∧ MaximalInvalid (b :: ts) after := by
  have hno := unconvertible_of_piece h
  cases hlead : lead b with
  | none =>
      -- no character has this lead byte
      have hpiece (xs : Bytes) : piece b xs = .invalid 1 := by rw [piece, hlead]
      obtain rfl := Piece.invalid.inj ((hpiece rest).symm.trans h)
      refine ⟨[], rest, rfl, rfl, hno, nofun, .inl rfl, longest_of_tails ?_⟩
      intro longer more c _ hc
      have hchar := piece_of_encodeChar hc []
      rw [hpiece] at hchar
      cases hchar
  | some announced =>
      obtain ⟨need, low, high, bits⟩ := announced
      have hpiece (xs : Bytes) : piece b xs = tails need low high bits 1 xs := by
        rw [piece, hlead]
      rw [hpiece] at h
      obtain ⟨ts, after, rfl, rfl, fill, c, hfill⟩ := exists_fill (lead_range hlead) h
      refine ⟨ts, after, rfl, Nat.add_comm _ _, hno, nofun, .inr ⟨c, ?_⟩, longest_of_tails ?_⟩
      · obtain ⟨tail, more, hc, htail, hsize⟩ := stands_of_piece ((hpiece _).trans hfill)
        have hmore : more = [] := by
          rw [htail, List.length_append] at hsize
          exact List.length_eq_zero_iff.mp (by omega)
        rw [hmore, List.append_nil] at htail
        exact ⟨fill, by rw [hc, ← htail, List.cons_append]⟩
      · intro longer more c hpre hc
        have hchar := piece_of_encodeChar hc []
        rw [List.append_nil, hpiece] at hchar
        have := common_le h hchar hpre (List.prefix_append longer more)
        omega

/-- A maximal invalid part ends at one place. -/
theorem MaximalInvalid.length_le {part' after' : Bytes} (h : MaximalInvalid part after)
    (h' : MaximalInvalid part' after') (heq : part ++ after = part' ++ after') :
    part.length ≤ part'.length := by
  rcases h.begins with hone | hbegins
  · rw [hone]
    exact List.length_pos_iff.mpr h'.nonempty
  · exact h'.longest (heq ▸ List.prefix_append part after) hbegins

/-- The reader takes for an invalid part what is a maximal one. -/
theorem maximalInvalid_iff_piece {ts : Bytes} :
    MaximalInvalid (b :: ts) after ↔ piece b (ts ++ after) = .invalid (ts.length + 1) := by
  constructor
  · intro h
    cases hpiece : piece b (ts ++ after) with
    | char c size =>
        obtain ⟨tail, more, henc, heq, -⟩ := stands_of_piece hpiece
        exact absurd ⟨more, by rw [henc, List.cons_append, List.cons_append, heq]⟩
          (h.unconvertible c)
    | invalid size =>
        obtain ⟨ts', after', heq, rfl, h'⟩ := maximalInvalid_of_piece hpiece
        have hsame : (b :: ts) ++ after = (b :: ts') ++ after' := congrArg (b :: ·) heq
        have hle := h.length_le h' hsame
        have hge := h'.length_le h hsame.symm
        rw [List.length_cons, List.length_cons] at hle hge
        rw [Nat.le_antisymm (Nat.le_of_succ_le_succ hge) (Nat.le_of_succ_le_succ hle)]
  · intro h
    obtain ⟨ts', after', heq, hsize, h'⟩ := maximalInvalid_of_piece h
    obtain ⟨rfl, rfl⟩ := List.append_inj heq (by omega)
    exact h'

-- ============================================================== reading

/-- A maximal invalid part is read as one replacement. -/
theorem decodeChars_of_maximalInvalid (h : MaximalInvalid part rest) :
    decodeChars (part ++ rest) = '\uFFFD' :: decodeChars rest := by
  obtain ⟨b, ts, rfl⟩ := List.exists_cons_of_ne_nil h.nonempty
  rw [List.cons_append, decodeChars, maximalInvalid_iff_piece.mp h]
  dsimp only
  rw [Nat.add_sub_cancel, List.drop_left]

/-- What the reader gives is a reading of the bytes. -/
theorem reads_decodeChars (bytes : Bytes) : Reads bytes (decodeChars bytes) := by
  induction bytes using decodeChars.induct with
  | case1 =>
      rw [decodeChars]
      exact .done
  | case2 b rest c size hpiece ih =>
      obtain ⟨ts, after, hc, rfl, rfl⟩ := stands_of_piece hpiece
      rw [Nat.add_sub_cancel, List.drop_left] at ih
      rw [← List.cons_append, ← hc, decodeChars_encodeChar]
      exact .char c ih
  | case3 b rest size hpiece ih =>
      obtain ⟨ts, after, rfl, rfl, hpart⟩ := maximalInvalid_of_piece hpiece
      rw [Nat.add_sub_cancel, List.drop_left] at ih
      rw [← List.cons_append, decodeChars_of_maximalInvalid hpart]
      exact .invalid hpart ih

/-- The three rules leave one reading, and it is the reader's. -/
theorem reads_iff : Reads bytes cs ↔ cs = decodeChars bytes := by
  constructor
  · intro h
    induction h with
    | done => rw [decodeChars]
    | char c _ ih => rw [decodeChars_encodeChar, ih]
    | invalid hpart _ ih => rw [decodeChars_of_maximalInvalid hpart, ih]
  · rintro rfl
    exact reads_decodeChars bytes

/-- A truncated character, an overlong one and a surrogate. -/
example : decodeChars [0x61, 0xE2, 0x82, 0xC0, 0xAF, 0xED, 0xA0, 0x80, 0x62]
    = ['a', '\uFFFD', '\uFFFD', '\uFFFD', '\uFFFD', '\uFFFD', '\uFFFD', 'b'] := by
  decide +kernel

end CameraDriver.Text.Utf8
