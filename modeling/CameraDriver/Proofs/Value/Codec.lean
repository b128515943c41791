/-
Values in JSON lose nothing, and no integer wraps.

A value is written as an object of two members, the name of its kind and its content.
Reading follows the kind that is named (`decode_tagged`). So all that is to be shown of
a kind is what its reader makes of a content: a kind of integers takes the integers of
its range and nothing else (`decode_integer_iff`), a byte string takes the integers of
a byte, item by item (`decode_bytes_iff`), and lists and maps take what their items and
members do. By induction along a value that has no floating-point number in it, reading
undoes writing (`Floatless.decode_encode`).

An integer of JSON is one in its digits. The reader of JSON holds it as an integer if 64
bits do; a longer one is no integer to it, and is in no range either
(`decode_digits_iff`).
-/
import CameraDriver.Proofs.General
import CameraDriver.Proofs.Settings.Written
import CameraDriver.Proofs.Value.Integer
import CameraDriver.Value.Codec

namespace CameraDriver.Value

open Number

variable {v : Value} {k : Kind} {n lo hi : Int}

-- =================================================================== kinds

theorem Kind.ofName?_name (k : Kind) : ofName? k.name = some k := by cases k <;> decide

theorem kindNamed_name (k : Kind) : kindNamed k.name = .ok k := by
  unfold kindNamed
  rw [Kind.ofName?_name]

/-- What is tagged is read as its kind says. -/
theorem decode_tagged (k : Kind) (content : Json) :
    decode (tagged k content) = decodeContent k content := by
  have hkind : kindOf (.str k.name) = .ok k := kindNamed_name k
  show (kindOf (.str k.name) >>= fun k' => decodeMember k' [("type", .str k.name),
    ("value", content)]) = _
  rw [hkind]
  rfl

-- ================================================================ integers

/-- A JSON integer is taken exactly if it is within the bounds. -/
theorem asInteger_eq_ok {name : String} {least greatest m : Int} :
    (Json.int n).asInteger name least greatest = .ok m ↔ least ≤ n ∧ n ≤ greatest ∧ m = n := by
  unfold Json.asInteger
  dsimp only
  split
  case isTrue h =>
    rw [Except.ok.injEq]
    exact ⟨fun heq => ⟨h.1, h.2, heq.symm⟩, fun heq => heq.2.2.symm⟩
  case isFalse h => exact ⟨nofun, fun heq => absurd ⟨heq.1, heq.2.1⟩ h⟩

/-- A count is an integer from zero on. -/
theorem asNatural_toNat (j : Json) (name : String) (max : Nat) (f : Nat → Value) :
    (j.asNatural name max).map f = (j.asInteger name 0 max).map (f ∘ Int.toNat) := by
  unfold Json.asNatural
  cases j.asInteger name 0 max <;> rfl

/-- A kind of integers reads the integers of its range, each as the value that holds it. -/
theorem exists_reader (hk : k.range? = some (lo, hi)) :
    ∃ f : Int → Value, (∀ n, decodeContent k (.int n) = ((Json.int n).asInteger k.name lo hi).map f)
      ∧ ∀ v n, v.kind = k → v.integer? = some n → f n = v := by
  cases k with
  | i8 | i16 | i32 | i64 =>
      cases hk
      refine ⟨_, fun n => rfl, ?_⟩
      intro v n hkind hn
      cases v <;> cases hkind
      obtain rfl := Option.some.inj hn
      simp
  | u8 =>
      cases hk
      have hbyte : ∀ n, decodeContent .u8 (.int n)
          = ((Json.int n).asNatural "u8" 255).map (.u8 ∘ UInt8.ofNat) := by
        intro n
        show (asByte _).map _ = _
        unfold asByte
        cases (Json.int n).asNatural "u8" 255 <;> rfl
      refine ⟨_, fun n => (hbyte n).trans (asNatural_toNat _ _ _ _), ?_⟩
      intro v n hkind hn
      cases v <;> cases hkind
      obtain rfl := Option.some.inj hn
      simp
  | u16 | u32 | u64 =>
      cases hk
      refine ⟨_, fun n => asNatural_toNat (.int n) _ _ _, ?_⟩
      intro v n hkind hn
      cases v <;> cases hkind
      obtain rfl := Option.some.inj hn
      simp
  | _ => cases hk

/-- A kind of integers reads nothing but integers. -/
theorem decodeContent_of_ne_int (hk : k.range? = some (lo, hi)) {content : Json}
    (h : ∀ n, content ≠ .int n) : ∃ e, decodeContent k content = .error e := by
  cases content with
  | int n => exact absurd rfl (h n)
  | _ => cases k <;> first | cases hk; done | exact ⟨_, rfl⟩

/-- A kind of integers takes an integer of its range, and gives the value that holds
it. -/
theorem decode_integer_iff (hk : k.range? = some (lo, hi)) {content : Json} :
    decode (tagged k content) = .ok v
      ↔ ∃ n, content = .int n ∧ lo ≤ n ∧ n ≤ hi ∧ v.kind = k ∧ v.integer? = some n := by
  obtain ⟨f, hread, hf⟩ := exists_reader hk
  rw [decode_tagged]
  constructor
  · intro h
    by_cases hint : ∃ n, content = .int n
    · obtain ⟨n, rfl⟩ := hint
      rw [hread] at h
      obtain ⟨m, hm, hv⟩ := of_map_eq_ok h
      obtain ⟨hlo, hhi, rfl⟩ := asInteger_eq_ok.mp hm
      obtain ⟨w, hkind, hw⟩ := exists_integer hk hlo hhi
      obtain rfl : w = v := (hf w m hkind hw).symm.trans hv
      exact ⟨m, rfl, hlo, hhi, hkind, hw⟩
    · obtain ⟨e, he⟩ := decodeContent_of_ne_int hk fun n heq => hint ⟨n, heq⟩
      rw [he] at h
      cases h
  · rintro ⟨n, rfl, hlo, hhi, hkind, hn⟩
    rw [hread, asInteger_eq_ok.mpr ⟨hlo, hhi, rfl⟩]
    exact congrArg Except.ok (hf v n hkind hn)

/-- A value is written under the name of its kind. -/
theorem exists_content (v : Value) : ∃ content, encode v = tagged v.kind content := by
  cases v <;> exact ⟨_, rfl⟩

/-- An integer is written as its kind and its number. -/
theorem encode_of_integer (h : v.integer? = some n) : encode v = tagged v.kind (.int n) := by
  cases v <;> first | cases h; done | exact congrArg (tagged _ ∘ Json.int) (Option.some.inj h)

/-- An integer is read back. -/
theorem decode_encode_of_integer (h : v.integer? = some n) : decode (encode v) = .ok v := by
  obtain ⟨lo, hi, hk, hlo, hhi⟩ := exists_range h
  rw [encode_of_integer h]
  exact (decode_integer_iff hk).mpr ⟨n, rfl, hlo, hhi, rfl, h⟩

-- =================================================================== bytes

/-- A byte is written as its number. -/
theorem asByte_eq_ok {j : Json} {b : UInt8} : asByte j = .ok b ↔ j = .int b.toNat := by
  unfold asByte Json.asNatural
  constructor
  · intro h
    obtain ⟨m, hm, rfl⟩ := of_map_eq_ok h
    obtain ⟨n, hn, rfl⟩ := of_map_eq_ok hm
    cases j with
    | int i =>
        obtain ⟨hlo, hhi, rfl⟩ := asInteger_eq_ok.mp hn
        rw [UInt8.toNat_ofNat_of_lt' (by show n.toNat < 2 ^ 8; omega), Int.toNat_of_nonneg hlo]
    | _ => cases hn
  · rintro rfl
    have hb : (b.toNat : Int) ≤ (255 : Nat) := Int.ofNat_le.mpr (Nat.le_of_lt_succ b.toNat_lt)
    rw [asInteger_eq_ok.mpr ⟨Int.natCast_nonneg _, hb, rfl⟩]
    exact congrArg Except.ok UInt8.ofNat_toNat

/-- Bytes are written as their numbers. -/
theorem mapM_asByte_eq_ok {items : List Json} {b : Bytes} :
    items.mapM asByte = .ok b ↔ items = b.map fun byte => .int byte.toNat := by
  induction items generalizing b with
  | nil =>
      cases b with
      | nil => exact ⟨fun _ => rfl, fun _ => rfl⟩
      | cons byte rest => exact ⟨nofun, nofun⟩
  | cons j rest ih =>
      rw [List.mapM_cons]
      constructor
      · intro h
        obtain ⟨byte, hbyte, h⟩ := of_bind_eq_ok h
        obtain ⟨bytes, hbytes, h⟩ := of_bind_eq_ok h
        obtain rfl := Except.ok.inj h
        rw [List.map_cons, asByte_eq_ok.mp hbyte, ih.mp hbytes]
      · intro h
        cases b with
        | nil => cases h
        | cons byte bytes =>
            obtain ⟨rfl, rfl⟩ := List.cons.inj h
            rw [asByte_eq_ok.mpr rfl, ih.mpr rfl]
            rfl

/-- A byte string is the bytes that stand in an array. -/
theorem decode_bytes_iff {content : Json} :
    decode (tagged .bytes content) = .ok v
      ↔ ∃ b : Bytes, v = .bytes b ∧ content = .arr (b.map fun byte => .int byte.toNat) := by
  rw [decode_tagged]
  constructor
  · intro h
    cases content with
    | arr items =>
        have h : (items.mapM asByte).map bytes = .ok v := h
        obtain ⟨b, hb, rfl⟩ := of_map_eq_ok h
        exact ⟨b, rfl, congrArg Json.arr (mapM_asByte_eq_ok.mp hb)⟩
    | _ => cases h
  · rintro ⟨b, rfl, rfl⟩
    show (List.mapM asByte _).map bytes = _
    rw [mapM_asByte_eq_ok.mpr rfl]
    rfl

/-- An array holds the bytes of a byte string if its items are integers of a byte. -/
theorem exists_bytes_iff {items : List Json} :
    (∃ b : Bytes, items = b.map fun byte => .int byte.toNat)
      ↔ ∀ j ∈ items, ∃ n : Int, j = .int n ∧ 0 ≤ n ∧ n ≤ 255 := by
  constructor
  · rintro ⟨b, rfl⟩ j hj
    obtain ⟨byte, -, rfl⟩ := List.mem_map.mp hj
    have := byte.toNat_lt
    exact ⟨_, rfl, by omega, by omega⟩
  · intro h
    induction items with
    | nil => exact ⟨[], rfl⟩
    | cons j rest ih =>
        obtain ⟨⟨n, rfl, hlo, hhi⟩, hrest⟩ := List.forall_mem_cons.mp h
        obtain ⟨b, rfl⟩ := ih hrest
        refine ⟨UInt8.ofNat n.toNat :: b, ?_⟩
        rw [List.map_cons, UInt8.toNat_ofNat_of_lt' (by show n.toNat < 2 ^ 8; omega),
          Int.toNat_of_nonneg hlo]

-- ============================================================== round trip

/-- A value with no floating-point number in it, at any depth. -/
inductive Floatless : Value → Prop
  | bool (b : Bool) : Floatless (.bool b)
  | integer {v : Value} {n : Int} (h : v.integer? = some n) : Floatless v
  | text (s : String) : Floatless (.text s)
  | bytes (b : Bytes) : Floatless (.bytes b)
  | list {items : List Value} (h : ∀ v ∈ items, Floatless v) : Floatless (.list items)
  | map {members : List (String × Value)} (h : ∀ e ∈ members, Floatless e.2) :
      Floatless (.map members)

/-- Items that are read back make a list that is read back. -/
theorem decodeItems_encodeItems {items : List Value} (h : ∀ v ∈ items, decode (encode v) = .ok v) :
    decodeItems (encodeItems items) = .ok items := by
  induction items with
  | nil => rfl
  | cons v rest ih =>
      obtain ⟨hv, hrest⟩ := List.forall_mem_cons.mp h
      show (decode (encode v) >>= fun v => decodeItems (encodeItems rest) >>= fun vs =>
        pure (v :: vs)) = _
      rw [hv, ih hrest]
      rfl

/-- Members whose values are read back make a map that is read back. -/
theorem decodeMembers_encodeMembers {members : List (String × Value)}
    (h : ∀ e ∈ members, decode (encode e.2) = .ok e.2) :
    decodeMembers (encodeMembers members) = .ok members := by
  induction members with
  | nil => rfl
  | cons e rest ih =>
      obtain ⟨he, hrest⟩ := List.forall_mem_cons.mp h
      show (decode (encode e.2) >>= fun v => decodeMembers (encodeMembers rest) >>= fun vs =>
        pure ((e.1, v) :: vs)) = _
      rw [he, ih hrest]
      rfl

/-- Reading undoes writing. -/
theorem Floatless.decode_encode (h : Floatless v) : decode (encode v) = .ok v := by
  induction h with
  | bool b => exact decode_tagged .bool (.bool b)
  | integer h => exact decode_encode_of_integer h
  | text s => exact decode_tagged .text (.str s)
  | bytes b => exact decode_bytes_iff.mpr ⟨b, rfl, rfl⟩
  | @list items _ ih =>
      refine (decode_tagged .list (.arr (encodeItems items))).trans ?_
      show (decodeItems _).map Value.list = _
      rw [decodeItems_encodeItems ih]
      rfl
  | @map members _ ih =>
      refine (decode_tagged .map (.obj (encodeMembers members))).trans ?_
      show (decodeMembers _).map Value.map = _
      rw [decodeMembers_encodeMembers ih]
      rfl

/-- Values without floats that are written alike are equal. -/
theorem Floatless.encode_inj {w : Value} (hv : Floatless v) (hw : Floatless w)
    (h : encode v = encode w) : v = w :=
  Except.ok.inj ((hv.decode_encode.symm.trans (congrArg decode h)).trans hw.decode_encode)

-- ============================================================ in its digits

/-- The ranges lie within what JSON has integers for. -/
theorem range_within (hk : k.range? = some (lo, hi)) : -2 ^ 63 ≤ lo ∧ hi < 2 ^ 64 := by
  cases k <;> cases hk <;> decide

/-- What the reader of JSON takes the digits of an integer for, behind a sign if it has
one: that integer if 64 bits hold it, else a floating-point number. -/
theorem number?_digits {j : Json}
    (h : Json.number? (n < 0) (digitsOf n.natAbs) [] none = some j) :
    (-2 ^ 63 ≤ n ∧ n < 2 ^ 64 ∧ j = .int n)
      ∨ ¬ (-2 ^ 63 ≤ n ∧ n < 2 ^ 64) ∧ ∃ x, j = .double x := by
  unfold Json.number? at h
  by_cases hlt : n.natAbs < 2 ^ 64
  · have hleading : Json.leadingDigits 0 (digitsOf n.natAbs)
        = (n.natAbs, (digitsOf n.natAbs).length) := by
      have hdigits := digitsFrom_digitsOf n.natAbs
      rw [Settings.leadingDigits_of_lt (hdigits.trans_lt hlt), hdigits]
    rw [hleading] at h
    dsimp only at h
    rw [if_pos ⟨rfl, rfl, rfl⟩] at h
    by_cases hneg : n < 0
    · rw [decide_eq_true hneg, if_neg (by decide)] at h
      split at h
      case isTrue hle =>
        have hle : n.natAbs ≤ 2 ^ 63 := hle.2
        exact .inl ⟨by omega, by omega, by rw [← Option.some.inj h]; congr 1; omega⟩
      case isFalse hgt =>
        have hgt : ¬ (n.natAbs ≠ 0 ∧ n.natAbs ≤ 2 ^ 63) := hgt
        exact .inr ⟨by omega, _, (Option.some.inj h).symm⟩
    · rw [decide_eq_false hneg, if_pos (by decide)] at h
      exact .inl ⟨by omega, by omega, by rw [← Option.some.inj h]; congr 1; omega⟩
  · have hge : 2 ^ 64 ≤ digitsFrom 0 (digitsOf n.natAbs) := by
      rw [digitsFrom_digitsOf]
      exact Nat.not_lt.mp hlt
    have hless := Settings.leadingDigits_of_ge (Nat.two_pow_pos 64) hge
    dsimp only at h
    rw [if_neg fun hall => hless.ne hall.1] at h
    obtain ⟨x, -, rfl⟩ := Option.map_eq_some_iff.mp h
    exact .inr ⟨by omega, _, rfl⟩

/-- An integer is taken by its digits as it is by itself. -/
theorem decode_digits_iff (hk : k.range? = some (lo, hi)) {j : Json}
    (h : Json.number? (n < 0) (digitsOf n.natAbs) [] none = some j) :
    decode (tagged k j) = .ok v ↔ lo ≤ n ∧ n ≤ hi ∧ v.kind = k ∧ v.integer? = some n := by
  obtain ⟨hleast, hgreatest⟩ := range_within hk
  rw [decode_integer_iff hk]
  rcases number?_digits h with ⟨-, -, rfl⟩ | ⟨hout, x, rfl⟩
  · -- the digits are read as an integer
    constructor
    · rintro ⟨m, heq, hm⟩
      obtain rfl := Json.int.inj heq
      exact hm
    · exact fun hn => ⟨n, rfl, hn⟩
  · -- or as a float, as far out as no kind goes
    constructor
    · rintro ⟨m, heq, -⟩
      cases heq
    · exact fun hn => absurd ⟨hleast.trans hn.1, hn.2.1.trans_lt hgreatest⟩ hout

-- ============================================================== altogether

/-- Values in JSON lose nothing, and no integer wraps. A value is written as an object of
its kind and its content. With no floating-point number in it, at any depth, it is what
reading gives of what writing made of it, so no two of them are written alike. Under the
name of a kind of integers an integer is taken if it lies in the range of the kind, as
the value that holds it, and nothing else is taken; and so it is by its digits. Under the
name of byte strings an array is taken if its items are integers of a byte, as the string
of these bytes. -/
theorem json_form_is_faithful :
    (∀ v : Value, ∃ content, encode v = .obj [("type", .str v.kind.name), ("value", content)])
    ∧ (∀ v : Value, Floatless v → decode (encode v) = .ok v)
    ∧ (∀ v w : Value, Floatless v → Floatless w → encode v = encode w → v = w)
    ∧ (∀ (k : Kind) (lo hi : Int), k.range? = some (lo, hi) →
        (∀ (content : Json) (v : Value), decode (tagged k content) = .ok v
          ↔ ∃ n, content = .int n ∧ lo ≤ n ∧ n ≤ hi ∧ v.kind = k ∧ v.integer? = some n)
        ∧ (∀ n, lo ≤ n → n ≤ hi → ∃ v : Value, v.kind = k ∧ v.integer? = some n)
        ∧ ∀ (n : Int) (j : Json), Json.number? (n < 0) (digitsOf n.natAbs) [] none = some j →
          ∀ v : Value, decode (tagged k j) = .ok v
            ↔ lo ≤ n ∧ n ≤ hi ∧ v.kind = k ∧ v.integer? = some n)
    ∧ (∀ (content : Json) (v : Value), decode (tagged .bytes content) = .ok v
        ↔ ∃ b : Bytes, v = .bytes b ∧ content = .arr (b.map fun byte => .int byte.toNat))
    ∧ ∀ items : List Json, (∃ v, decode (tagged .bytes (.arr items)) = .ok v)
        ↔ ∀ j ∈ items, ∃ n : Int, j = .int n ∧ 0 ≤ n ∧ n ≤ 255 := by
  refine ⟨exists_content, fun v => Floatless.decode_encode, fun v w => Floatless.encode_inj, ?_,
    fun content v => decode_bytes_iff, ?_⟩
  · -- integers of each kind
    intro k lo hi hk
    exact ⟨fun content v => decode_integer_iff hk, fun n => exists_integer hk,
      fun n j hj v => decode_digits_iff hk hj⟩
  · -- arrays of bytes
    intro items
    rw [← exists_bytes_iff]
    constructor
    · rintro ⟨v, hv⟩
      obtain ⟨b, -, heq⟩ := decode_bytes_iff.mp hv
      exact ⟨b, Json.arr.inj heq⟩
    · rintro ⟨b, rfl⟩
      exact ⟨.bytes b, decode_bytes_iff.mpr ⟨b, rfl, rfl⟩⟩

/-- A map with a list in it, the ends of a range, and a number that is just out of it. -/
theorem json_form_is_faithful_of_nested :
    let v : Value := .map [("a", .list [.i64 Int64.minValue, .bytes [0, 255]]), ("b", .text "é")]
    Floatless v ∧ decode (encode v) = .ok v
      ∧ (∃ w, decode (tagged .i8 (.int (-128))) = .ok w ∧ w.integer? = some (-128))
      ∧ ¬ ∃ w, decode (tagged .i8 (.int 128)) = .ok w := by
  intro v
  obtain ⟨-, hundo, -, hintegers, -, -⟩ := json_form_is_faithful
  have hlist : Floatless (.list [.i64 Int64.minValue, .bytes [0, 255]]) :=
    .list (List.forall_mem_cons.mpr ⟨.integer rfl, List.forall_mem_singleton.mpr (.bytes _)⟩)
  have hv : Floatless v :=
    .map (List.forall_mem_cons.mpr ⟨hlist, List.forall_mem_singleton.mpr (.text _)⟩)
  have hi8 := (hintegers .i8 _ _ rfl).1
  refine ⟨hv, hundo v hv, ?_, ?_⟩
  · exact ⟨.i8 (-128), (hi8 _ _).mpr ⟨-128, rfl, by decide, by decide, rfl, rfl⟩, rfl⟩
  · rintro ⟨w, hw⟩
    obtain ⟨n, heq, -, hle, -⟩ := (hi8 _ _).mp hw
    obtain rfl := Json.int.inj heq
    exact absurd hle (by decide)

end CameraDriver.Value
