/-
How often a device may be tried, from a value.

The count is written as a text: the canonical text of whatever value comes. It is taken
if the text is a numeral up to the limit, white space at its ends left aside, and then it
is the number of the numeral. Which values that are is said of the value itself
(`Value.Gives`): an integer gives itself, whatever its width, so a negative one gives
nothing; a text gives what its numeral denotes, and bytes do if they are those of such a
text. Bytes that are no text at all are read with a replacement character in them, which
is in no numeral; and neither of the two texts of a truth value is one.
-/
import CameraDriver.Proofs.Device.Canonical
import CameraDriver.Proofs.Number.Numeral
import CameraDriver.Proofs.Text.Utf8
import CameraDriver.Proofs.Value.Codec

namespace CameraDriver

open Number Text

variable {n : Nat} {v : Value} {text : String}

-- ================================================================== numbers

/-- The text of an integer is a numeral for that integer and for no other number. -/
theorem Number.spaced_integerText {i : Int} : Spaced n (integerText i).toList ↔ i = n := by
  have hread (max k : Nat) (hk : k ≤ max) : natural? max (trim (integerText k)) = some k := by
    show natural? max (trim (decimal k)) = some k
    rw [VirtualFeature.trim_decimal, natural?_decimal, Option.filter_some, if_pos (by simpa)]
  constructor
  · intro h
    cases i with
    | ofNat k =>
        have hn := natural?_trim_iff.mpr ⟨h, Nat.le_max_left n k⟩
        have hk : n = k := Option.some.inj (hn.symm.trans (hread _ k (Nat.le_max_right n k)))
        exact congrArg Int.ofNat hk.symm
    | negSucc k =>
        refine absurd ?_ (h.not_mem (c := '-') (by decide) (by decide) (by decide))
        unfold integerText
        rw [String.toList_ofList]
        exact List.mem_cons_self
  · rintro rfl
    exact (natural?_trim_iff.mp (hread n n le_rfl)).1

/-- The number of times that a value gives. -/
inductive Value.Gives : Value → Nat → Prop
  | integer {v : Value} {n : Nat} (h : v.integer? = some (n : Int)) : Gives v n
  | text {s : String} {n : Nat} (h : Spaced n s.toList) : Gives (.text s) n
  | bytes {s : String} {n : Nat} (h : Spaced n s.toList) : Gives (.bytes (Utf8.encode s)) n

/-- No numeral is read from bytes by replacing some. -/
theorem Text.Utf8.encode_of_spaced {b : Bytes} (h : Spaced n (decodeLossy b).toList) :
    encode (decodeLossy b) = b :=
  encode_decodeLossy (h.not_mem (by decide) (by decide) (by decide))

/-- A value gives what its canonical text is a numeral for. -/
theorem Value.spaced_wire (hv : v.Floatless) (hw : v.wire = .ok text) :
    Spaced n text.toList ↔ v.Gives n := by
  constructor
  · intro h
    cases hv with
    | bool b =>
        obtain rfl := Except.ok.inj hw
        cases b with
        | false =>
            exact absurd (by decide) (h.not_mem (c := 'f') (by decide) (by decide) (by decide))
        | true =>
            exact absurd (by decide) (h.not_mem (c := 't') (by decide) (by decide) (by decide))
    | integer hi =>
        obtain rfl := Except.ok.inj ((wire_of_integer hi).symm.trans hw)
        exact .integer (by rw [hi, spaced_integerText.mp h])
    | text s =>
        obtain rfl := Except.ok.inj hw
        exact .text h
    | bytes b =>
        obtain rfl := Except.ok.inj hw
        rw [← Utf8.encode_of_spaced h]
        exact .bytes h
    | list | map => cases hw
  · intro h
    cases h with
    | integer hi =>
        obtain rfl := Except.ok.inj ((wire_of_integer hi).symm.trans hw)
        exact spaced_integerText.mpr rfl
    | text h =>
        obtain rfl := Except.ok.inj hw
        exact h
    | bytes h =>
        obtain rfl := Except.ok.inj hw
        rwa [Utf8.decodeLossy_encode]

-- ================================================================= the field

namespace VirtualFeature

/-- The count is taken from the numerals up to the limit. -/
theorem maxRetry_eq_ok : maxRetry text = .ok n ↔ Spaced n text.toList ∧ n ≤ maxRetryLimit := by
  rw [← natural?_trim_iff]
  unfold maxRetry
  cases natural? maxRetryLimit (trim text) with
  | some m => rw [Except.ok.injEq, Option.some.injEq]
  | none => exact ⟨nofun, nofun⟩

/-- A text that is no count is refused with that reason. -/
theorem maxRetry_refused (h : ∀ n, maxRetry text ≠ .ok n) :
    maxRetry text = refuse .maxRetryTimes text "expected a non-negative integer" := by
  unfold maxRetry at h ⊢
  cases hn : natural? maxRetryLimit (trim text) with
  | some m =>
      rw [hn] at h
      exact absurd rfl (h m)
  | none => rfl

end VirtualFeature

namespace Site

variable {σ H F : Type} [Camera σ H F] {s : Site σ H F}

/-- The count is put if the value gives one up to the limit. -/
theorem write_maxRetry_of_gives (hs : s.device.status = .connected) (h : v.Gives n)
    (hn : n ≤ VirtualFeature.maxRetryLimit) :
    s.write VirtualFeature.maxRetryTimes.name v
      = (.ok (), s.onDevice (·.modifyRecord ({ · with maxRetry := n }))) := by
  have hv : v.Floatless ∧ ∃ text, v.wire = .ok text := by
    cases h with
    | integer hi => exact ⟨.integer hi, _, Value.wire_of_integer hi⟩
    | text => exact ⟨.text _, _, rfl⟩
    | bytes => exact ⟨.bytes _, _, rfl⟩
  obtain ⟨hv, text, hw⟩ := hv
  have hput : VirtualFeature.maxRetryTimes.put text s.device.record
      = .ok { s.device.record with maxRetry := n } := by
    rw [VirtualFeature.put,
      VirtualFeature.maxRetry_eq_ok.mpr ⟨(Value.spaced_wire hv hw).mpr h, hn⟩]
    rfl
  exact write_of_put hs (by decide) hw hput

/-- A count that was put is read in its digits. -/
theorem read_maxRetry (hs : s.device.status = .connected) (n : Nat) :
    (s.onDevice (·.modifyRecord ({ · with maxRetry := n }))).read VirtualFeature.maxRetryTimes.name
      = (.ok (.text (decimal n)), s.onDevice (·.modifyRecord ({ · with maxRetry := n }))) :=
  read_of_virtual (s := s.onDevice (·.modifyRecord ({ · with maxRetry := n }))) hs

/-- Any other value is refused by its text. -/
theorem write_maxRetry_refused (hs : s.device.status = .connected) (hv : v.Floatless)
    (hw : v.wire = .ok text) (h : ∀ n ≤ VirtualFeature.maxRetryLimit, ¬ v.Gives n) :
    s.write VirtualFeature.maxRetryTimes.name v
      = (.error (.validation "MaxRetryTimes" text "expected a non-negative integer"), s) := by
  have hnone : ∀ n, VirtualFeature.maxRetry text ≠ .ok n := by
    intro n hn
    obtain ⟨hspaced, hle⟩ := VirtualFeature.maxRetry_eq_ok.mp hn
    exact h n hle ((Value.spaced_wire hv hw).mp hspaced)
  rw [write_of_virtual hs (by decide) hw, VirtualFeature.put,
    VirtualFeature.maxRetry_refused hnone]
  rfl

/-- A device takes a value for the count. -/
def TakesMaxRetry (s : Site σ H F) (v : Value) : Prop :=
  (s.write VirtualFeature.maxRetryTimes.name v).1 = .ok ()

/-- A value without floats is taken exactly if its text gives a count within the limit. -/
theorem takesMaxRetry_iff (hs : s.device.status = .connected) (hv : v.Floatless)
    (hw : v.wire = .ok text) :
    s.TakesMaxRetry v ↔ ∃ n ≤ VirtualFeature.maxRetryLimit, v.Gives n := by
  unfold TakesMaxRetry
  constructor
  · intro h
    by_contra hnone
    rw [write_maxRetry_refused hs hv hw fun n hn hgives => hnone ⟨n, hn, hgives⟩] at h
    cases h
  · rintro ⟨n, hn, hgives⟩
    rw [write_maxRetry_of_gives hs hgives hn]

/-- A text is taken exactly if it is a count within the limit, blanks at its ends apart. -/
theorem takesMaxRetry_text (hs : s.device.status = .connected) :
    s.TakesMaxRetry (.text text)
      ↔ ∃ n ≤ VirtualFeature.maxRetryLimit, Spaced n text.toList := by
  rw [takesMaxRetry_iff hs (.text text) rfl]
  refine exists_congr fun n => and_congr_right fun _ => ⟨fun h => ?_, .text⟩
  exact (Value.spaced_wire (.text text) rfl).mpr h

/-- Bytes are taken exactly if they are those of a text that is. -/
theorem takesMaxRetry_bytes (hs : s.device.status = .connected) {b : Bytes} :
    s.TakesMaxRetry (.bytes b) ↔ ∃ t, b = Utf8.encode t ∧ s.TakesMaxRetry (.text t) := by
  constructor
  · intro h
    obtain ⟨n, hn, hgives⟩ := (takesMaxRetry_iff hs (.bytes b) rfl).mp h
    cases hgives with
    | integer h => cases h
    | bytes h => exact ⟨_, rfl, (takesMaxRetry_text hs).mpr ⟨n, hn, h⟩⟩
  · rintro ⟨t, rfl, h⟩
    obtain ⟨n, hn, hspaced⟩ := (takesMaxRetry_text hs).mp h
    exact (takesMaxRetry_iff hs (.bytes _) rfl).mpr ⟨n, hn, .bytes hspaced⟩

/-- An integer is taken exactly if it is a count below 2^32. -/
theorem takesMaxRetry_integer (hs : s.device.status = .connected) {i : Int}
    (h : v.integer? = some i) : s.TakesMaxRetry v ↔ 0 ≤ i ∧ i ≤ 4294967295 := by
  have hw := Value.wire_of_integer h
  rw [takesMaxRetry_iff hs (.integer h) hw]
  constructor
  · rintro ⟨n, hn, hgives⟩
    obtain rfl := spaced_integerText.mp ((Value.spaced_wire (.integer h) hw).mpr hgives)
    exact ⟨Int.natCast_nonneg n, Int.ofNat_le.mpr hn⟩
  · rintro ⟨hlo, hhi⟩
    obtain ⟨n, rfl⟩ := Int.eq_ofNat_of_zero_le hlo
    exact ⟨n, Int.ofNat_le.mp hhi, .integer h⟩

/-- A connected device takes for the count the integers of 32 bits without a sign and
nothing else: as an integer of any width; as a text that is a numeral, with a `+` or
zeros in front and white space at the ends or without; or as the bytes of such a text.
The count is that integer then and is read in its digits. Any other integer, text, bytes
or truth value is refused by the name of the feature and its canonical text, and nothing
changes. -/
theorem max_retry_takes_counts (hs : s.device.status = .connected) :
    (∀ (v : Value) (i : Int), v.integer? = some i →
      (s.TakesMaxRetry v ↔ 0 ≤ i ∧ i ≤ 4294967295))
    ∧ (∀ t : String, s.TakesMaxRetry (.text t) ↔ ∃ n ≤ 4294967295, Spaced n t.toList)
    ∧ (∀ b : Bytes, s.TakesMaxRetry (.bytes b)
      ↔ ∃ t, b = Utf8.encode t ∧ s.TakesMaxRetry (.text t))
    ∧ (∀ (v : Value) (n : Nat), v.Gives n → n ≤ 4294967295 →
      ∃ s' : Site σ H F, s' = s.onDevice (·.modifyRecord ({ · with maxRetry := n }))
        ∧ s.write "MaxRetryTimes" v = (.ok (), s')
        ∧ s'.read "MaxRetryTimes" = (.ok (.text (decimal n)), s'))
    ∧ ∀ (v : Value) (text : String), v.Floatless → v.wire = .ok text →
      (∀ n ≤ 4294967295, ¬ v.Gives n) →
      s.write "MaxRetryTimes" v
        = (.error (.validation "MaxRetryTimes" text "expected a non-negative integer"), s) :=
  ⟨fun _ _ => takesMaxRetry_integer hs, fun _ => takesMaxRetry_text hs,
    fun _ => takesMaxRetry_bytes hs,
    fun _ n h hn => ⟨_, rfl, write_maxRetry_of_gives hs h hn, read_maxRetry hs n⟩,
    fun _ _ => write_maxRetry_refused hs⟩

/-- A connected device takes a count with a sign, zeros and white space, and refuses one
that 32 bits do not hold. -/
theorem max_retry_takes_counts_of_padded :
    let s := (simulated ⟨"a"⟩ 3).run ⟨10, 100⟩ [.connect, .reach 0, .resume 0 0]
    s.device.status = .connected
      ∧ s.TakesMaxRetry (.text "\u2003 +00042\n")
      ∧ ¬ s.TakesMaxRetry (.u64 4294967296) := by
  intro s
  have hs : s.device.status = .connected := rfl
  obtain ⟨hinteger, htext, -⟩ := max_retry_takes_counts hs
  have hspaced : Spaced 42 "\u2003 +00042\n".toList :=
    ⟨['\u2003', ' '], "+00042".toList, ['\n'], by decide, List.all_eq_true.mp (by decide),
      List.all_eq_true.mp (by decide), ['+'], "00042".toList, by decide, by decide, by decide,
      List.all_eq_true.mp (by decide), by decide⟩
  refine ⟨hs, (htext _).mpr ⟨42, by decide, hspaced⟩, fun h => ?_⟩
  exact absurd ((hinteger (.u64 4294967296) 4294967296 rfl).mp h).2 (by decide)

end Site

end CameraDriver
