/-
General facts about results and lists that the libraries do not state.

The results are those of computations that may fail. The lists are read in order: by
look-up, by what is dropped at their front, and by what some of their elements give.
-/
import Mathlib.Data.List.Pairwise
import Mathlib.Data.List.TakeWhile

namespace CameraDriver

-- ================================================================= results

section

variable {ε α β : Type} {x : Except ε α} {a : α} {b : β}

/-- A computation that succeeded has succeeded at its first step, and then at the rest. -/
theorem of_bind_eq_ok {f : α → Except ε β} (h : (x >>= f) = .ok b) :
    ∃ a, x = .ok a ∧ f a = .ok b := by
  cases x with
  | error e => cases h
  | ok a => exact ⟨a, rfl, h⟩

/-- The result of a computation whose result is passed on comes from one of its own. -/
theorem of_map_eq_ok {f : α → β} (h : x.map f = .ok b) : ∃ a, x = .ok a ∧ f a = b := by
  cases x with
  | error e => cases h
  | ok a => exact ⟨a, rfl, Except.ok.inj h⟩

/-- What is left of a result without its errors tells that there was none. -/
theorem eq_ok_of_toOption (h : x.toOption = some a) : x = .ok a := by
  cases x with
  | error e => cases h
  | ok b => exact congrArg Except.ok (Option.some.inj h)

end

-- =================================================================== lists

section

variable {α β : Type}

/-- What all of a front is dropped for is dropped at its end, too. -/
theorem dropWhile_of_all {p : α → Bool} {lead rest : List α} (h : ∀ a ∈ lead, p a = true) :
    (lead ++ rest).dropWhile p = rest.dropWhile p := by
  rw [List.dropWhile_append, List.dropWhile_eq_nil_iff.mpr h]
  rfl

/-- Nothing is dropped from a list whose first element is not. -/
theorem dropWhile_of_head {p : α → Bool} {l : List α} (h : ∀ a ∈ l.head?, p a = false) :
    l.dropWhile p = l := by
  cases l with
  | nil => rfl
  | cons a rest => exact List.dropWhile_cons_of_neg (by simp [h a rfl])

/-- Elements that all give something give no less than there are of them. -/
theorem length_le_flatMap {f : α → List β} (h : ∀ a, f a ≠ []) (l : List α) :
    l.length ≤ (l.flatMap f).length := by
  induction l with
  | nil => exact Nat.zero_le 0
  | cons a l ih =>
      have ha := List.length_pos_iff.mpr (h a)
      rw [List.flatMap_cons, List.length_append, List.length_cons]
      omega

/-- Entries under another key do not tell what is found. -/
theorem lookup_filter_ne [DecidableEq α] {key other : α} (h : other ≠ key)
    (entries : List (α × β)) :
    (entries.filter (·.1 ≠ key)).lookup other = entries.lookup other := by
  induction entries with
  | nil => rfl
  | cons entry rest ih =>
      obtain ⟨k, b⟩ := entry
      rw [List.filter_cons]
      split
      case isTrue => rw [List.lookup_cons, List.lookup_cons, ih]
      case isFalse hk =>
        have hk : k = key := by simpa using hk
        rw [ih, List.lookup_cons, hk, beq_false_of_ne h]

/-- Where values are not repeated, each is the value of one element. -/
theorem eq_of_filterMap_nodup {f : α → Option β} {l : List α} (h : (l.filterMap f).Nodup)
    {x y : α} {b : β} (hx : x ∈ l) (hy : y ∈ l) (hfx : f x = some b) (hfy : f y = some b) :
    x = y := by
  by_contra hne
  have hpairwise := List.pairwise_filterMap.mp h
  have hsymm : Std.Symm fun a a' => ∀ b, f a = some b → ∀ b', f a' = some b' → b ≠ b' :=
    ⟨fun _ _ hr b hb b' hb' => (hr b' hb' b hb).symm⟩
  exact hpairwise.forall hx hy hne b hfx b hfy rfl

end

end CameraDriver
