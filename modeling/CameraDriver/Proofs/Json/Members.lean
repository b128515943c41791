/-
The members of an object as a finite map from keys to values.

They are a list by name in ascending order (`Keyed`), so that laws of objects are
proved one key at a time.
-/
import CameraDriver.Json.Basic
import CameraDriver.Proofs.Keyed

namespace CameraDriver.Json.Members

variable {ms ms' : Members} {key other : String} {v : Json}

-- ================================================================ look-up

theorem get?_cons_self (key : String) (value : Json) (ms : Members) :
    get? ((key, value) :: ms) key = some value :=
  List.lookup_cons_self

theorem get?_cons_ne (value : Json) (ms : Members) (h : other ≠ key) :
    get? ((key, value) :: ms) other = ms.get? other :=
  Keyed.lookup_cons_ne value ms h

/-- Insertion of a member is the one of keyed lists. -/
theorem insert_eq (key : String) (value : Json) (ms : Members) :
    insert key value ms = Keyed.insert key value ms := by
  induction ms with
  | nil => rfl
  | cons e rest ih =>
      unfold insert Keyed.insert
      rw [ih]

/-- What was inserted is found under its key. -/
theorem get?_insert_self (key : String) (value : Json) (ms : Members) :
    (insert key value ms).get? key = some value := by
  rw [insert_eq]
  exact Keyed.lookup_insert_self key value ms

/-- An insertion is not seen under other keys. -/
theorem get?_insert_ne (value : Json) (ms : Members) (h : other ≠ key) :
    (insert key value ms).get? other = ms.get? other := by
  rw [insert_eq]
  exact Keyed.lookup_insert_ne value ms h

/-- The value of a key, `null` if there is none. -/
def value (ms : Members) (key : String) : Json := (ms.get? key).getD .null

/-- The value under a key is that of its member. -/
theorem value_of_get? (h : ms.get? key = some v) : ms.value key = v := by
  unfold Members.value
  rw [h]
  rfl

/-- Without a member the value is null. -/
theorem value_of_none (h : ms.get? key = none) : ms.value key = .null := by
  unfold Members.value
  rw [h]
  rfl

-- ============================================================== ascending

/-- The keys stand in ascending order, each once. -/
def Ascending (ms : Members) : Prop := ms.Pairwise fun e e' => e.1 < e'.1

/-- Only the inserted member is new. -/
theorem mem_insert {e : String × Json} (h : e ∈ insert key v ms) :
    e = (key, v) ∨ e ∈ ms := by
  rw [insert_eq] at h
  exact Keyed.mem_insert h

namespace Ascending

theorem keyed (h : ms.Ascending) : Keyed.Ascending ms := h

/-- No members are in order. -/
theorem nil : Ascending [] := List.Pairwise.nil

/-- The members behind the first one are in order, too. -/
theorem tail {e : String × Json} (h : Ascending (e :: ms)) : ms.Ascending := h.keyed.tail

/-- Setting a key keeps the order. -/
theorem insert (h : ms.Ascending) (key : String) (value : Json) :
    (Members.insert key value ms).Ascending := by
  rw [insert_eq]
  exact h.keyed.insert key value

/-- The first key does not come again. -/
theorem get?_tail {e : String × Json} (h : Ascending (e :: ms)) : ms.get? e.1 = none :=
  h.keyed.lookup_tail

/-- The members are what look-ups find. -/
theorem mem_iff (h : ms.Ascending) : (key, v) ∈ ms ↔ ms.get? key = some v := h.keyed.mem_iff

/-- Two objects are equal if their look-ups are. -/
theorem ext (h : ms.Ascending) (h' : ms'.Ascending) (hget : ∀ key, ms.get? key = ms'.get? key) :
    ms = ms' :=
  h.keyed.ext h'.keyed hget

end Ascending

end CameraDriver.Json.Members
