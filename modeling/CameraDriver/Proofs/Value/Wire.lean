/-
The canonical text of a value tells what is in it.

Lists and maps have none, and everything else has one. Of an integer it is the decimal form
(`Number.DecimalForm`), so the width cannot be told from it but the integer can. Of a byte
string it is what the rules of UTF-8 leave of it (`Utf8.Reads`); a text and its bytes have
the same one, the text itself, so no two byte strings that are texts are written alike.
-/
import CameraDriver.Proofs.Number.Signed
import CameraDriver.Proofs.Text.Replacement
import CameraDriver.Proofs.Value.Integer

namespace CameraDriver.Value

open Number Text

variable {v w : Value} {k : Kind} {m n lo hi : Int} {b : Bytes}

/-- Only lists and maps have no canonical text, and the refusal tells which it is. -/
theorem wire_eq_error : v.wire = .error k ↔ v.kind = k ∧ (k = .list ∨ k = .map) := by
  cases v with
  | list _ | map _ =>
      constructor
      · intro h
        obtain rfl := Except.error.inj h
        exact ⟨rfl, by decide⟩
      · rintro ⟨rfl, -⟩
        rfl
  | _ =>
      constructor
      · nofun
      · rintro ⟨rfl, h⟩
        rcases h with h | h <;> cases h

/-- A kind of integers reads an integer of its range back from the canonical text. -/
theorem integer?_of_wire (hv : v.integer? = some n) :
    ∃ text, v.wire = .ok text ∧ DecimalForm n text
      ∧ ∃ lo hi, v.kind.range? = some (lo, hi) ∧ Number.integer? lo hi text = some n
        ∧ (0 ≤ lo → natural? hi.toNat text = some n.toNat) := by
  obtain ⟨lo, hi, hrange, hlo, hhi⟩ := exists_range hv
  exact ⟨_, wire_of_integer hv, decimalForm_integerText n, lo, hi, hrange,
    Number.integer?_integerText hlo hhi, fun hpos => natural?_integerText (hpos.trans hlo) hhi⟩

/-- Integer values have the same canonical text if they hold the same integer. -/
theorem wire_eq_wire (hv : v.integer? = some m) (hw : w.integer? = some n) :
    v.wire = w.wire ↔ m = n := by
  rw [wire_of_integer hv, wire_of_integer hw, Except.ok.injEq]
  exact ⟨integerText_inj, congrArg integerText⟩

theorem wire_of_encode (s : String) : (bytes (Utf8.encode s)).wire = .ok s :=
  congrArg Except.ok (Utf8.decodeLossy_encode s)

/-- Of a byte string the canonical text is the one reading that the rules leave. -/
theorem reads_of_wire (b : Bytes) :
    ∃ text, (bytes b).wire = .ok text ∧ ∀ cs, Utf8.Reads b cs ↔ cs = text.toList :=
  ⟨_, rfl, fun cs => by rw [Utf8.reads_iff, Utf8.decodeLossy, String.toList_ofList]⟩

/-- Canonical text is faithful. Only lists and maps have none. An integer of any width has its
decimal form, which reads back to it under its kind, and another integer value has the same
text if it holds the same integer. A text is its own text and that of its bytes in UTF-8. Of
any byte string the text keeps the characters in their order and has one U+FFFD for each
maximal invalid part, so different byte strings that are valid have different texts. -/
theorem wire_text_is_faithful :
    (∀ v : Value, (∃ k, v.wire = .error k) ↔ v.kind = .list ∨ v.kind = .map)
    ∧ (∀ (v : Value) (n : Int), v.integer? = some n →
        ∃ text, v.wire = .ok text ∧ DecimalForm n text
          ∧ ∃ lo hi, v.kind.range? = some (lo, hi) ∧ Number.integer? lo hi text = some n
            ∧ (0 ≤ lo → natural? hi.toNat text = some n.toNat))
    ∧ (∀ (v w : Value) (m n : Int), v.integer? = some m → w.integer? = some n →
        (v.wire = w.wire ↔ m = n))
    ∧ (∀ s : String, (text s).wire = .ok s ∧ (bytes (Utf8.encode s)).wire = .ok s)
    ∧ (∀ b : Bytes, ∃ text, (bytes b).wire = .ok text ∧ ∀ cs, Utf8.Reads b cs ↔ cs = text.toList)
    ∧ ∀ b b' : Bytes, (∃ s, b = Utf8.encode s) → (∃ s, b' = Utf8.encode s) →
        (bytes b).wire = (bytes b').wire → b = b' := by
  refine ⟨fun v => ?_, fun v n => integer?_of_wire, fun v w m n => wire_eq_wire,
    fun s => ⟨rfl, wire_of_encode s⟩, reads_of_wire, ?_⟩
  · simp only [wire_eq_error, exists_eq_left']
  · rintro _ _ ⟨s, rfl⟩ ⟨s', rfl⟩ h
    rw [wire_of_encode, wire_of_encode] at h
    rw [Except.ok.inj h]

/-- The least integer of 64 bits, zero in two widths, and a byte string with a text before a
truncated character, an overlong one and a surrogate. -/
theorem wire_text_is_faithful_of_least :
    (i64 Int64.minValue).wire = .ok "-9223372036854775808"
      ∧ Number.integer? (-2 ^ 63) (2 ^ 63 - 1) "-9223372036854775808" = some (-9223372036854775808)
      ∧ (i8 0).wire = (u64 0).wire
      ∧ Utf8.Reads [0xC3, 0xA9, 0xE2, 0x82, 0xC0, 0xAF, 0xED, 0xA0, 0x80]
          ['é', '\uFFFD', '\uFFFD', '\uFFFD', '\uFFFD', '\uFFFD', '\uFFFD'] := by
  obtain ⟨-, hintegers, hwidths, -, hbytes, -⟩ := wire_text_is_faithful
  obtain ⟨t, ht, -, lo, hi, hrange, hread, -⟩ := hintegers (i64 Int64.minValue) _ rfl
  have htext : (i64 Int64.minValue).wire = .ok "-9223372036854775808" := by decide +kernel
  obtain rfl := Except.ok.inj (ht.symm.trans htext)
  obtain ⟨rfl, rfl⟩ := Prod.mk.inj (Option.some.inj hrange)
  obtain ⟨t', ht', hreads⟩ := hbytes [0xC3, 0xA9, 0xE2, 0x82, 0xC0, 0xAF, 0xED, 0xA0, 0x80]
  refine ⟨htext, hread, (hwidths (i8 0) (u64 0) 0 0 rfl rfl).mpr rfl, (hreads _).mpr ?_⟩
  obtain rfl := Except.ok.inj ht'
  decide +kernel

end CameraDriver.Value
