/-
Lists of values by name, in ascending order of the names, as finite maps.

Setting a name is told by look-ups, whatever the order of the list is. What the
order is for is to have each map once: two ascending lists that answer every look-up
alike are equal (`Ascending.ext`). It also makes a fold over the list one over the
names that it looks at, in their order (`Ascending.foldlM_fields`).

The objects of JSON and the tables of settings are such lists.
-/
import Mathlib.Data.List.Nodup
import Mathlib.Data.List.Perm.Basic

namespace CameraDriver.Keyed

variable {β : Type} {ms ms' : List (String × β)} {key other : String} {v : β}

-- ================================================================ look-up

/-- Sets a name, keeping the order. -/
def insert (key : String) (value : β) : List (String × β) → List (String × β)
  | [] => [(key, value)]
  | (k, v) :: rest =>
      if key < k then (key, value) :: (k, v) :: rest
      else if key = k then (key, value) :: rest
      else (k, v) :: insert key value rest

theorem lookup_cons_ne (value : β) (ms : List (String × β)) (h : other ≠ key) :
    List.lookup other ((key, value) :: ms) = ms.lookup other := by
  rw [List.lookup_cons, beq_false_of_ne h]

theorem lookup_insert_self (key : String) (value : β) (ms : List (String × β)) :
    (insert key value ms).lookup key = some value := by
  induction ms with
  | nil => exact List.lookup_cons_self
  | cons e rest ih =>
      obtain ⟨k, v⟩ := e
      unfold insert
      split
      case isTrue => exact List.lookup_cons_self
      case isFalse =>
        split
        case isTrue => exact List.lookup_cons_self
        case isFalse hne =>
          rw [lookup_cons_ne v _ hne]
          exact ih

theorem lookup_insert_ne (value : β) (ms : List (String × β)) (h : other ≠ key) :
    (insert key value ms).lookup other = ms.lookup other := by
  induction ms with
  | nil => exact lookup_cons_ne value [] h
  | cons e rest ih =>
      obtain ⟨k, v⟩ := e
      unfold insert
      split
      case isTrue => exact lookup_cons_ne value _ h
      case isFalse =>
        split
        case isTrue heq => rw [lookup_cons_ne value rest h, lookup_cons_ne v rest (heq ▸ h)]
        case isFalse =>
          by_cases hk : other = k
          · rw [hk, List.lookup_cons_self, List.lookup_cons_self]
          · rw [lookup_cons_ne v _ hk, lookup_cons_ne v _ hk]
            exact ih

/-- Only the inserted member is new. -/
theorem mem_insert {e : String × β} (h : e ∈ insert key v ms) : e = (key, v) ∨ e ∈ ms := by
  induction ms with
  | nil => exact .inl (List.mem_singleton.mp h)
  | cons e' rest ih =>
      obtain ⟨k, w⟩ := e'
      unfold insert at h
      split at h
      case isTrue => exact List.mem_cons.mp h
      case isFalse =>
        split at h
        case isTrue =>
          rcases List.mem_cons.mp h with h | h
          · exact .inl h
          · exact .inr (List.mem_cons_of_mem _ h)
        case isFalse =>
          rcases List.mem_cons.mp h with h | h
          · exact .inr (h ▸ List.mem_cons_self)
          · rcases ih h with h | h
            · exact .inl h
            · exact .inr (List.mem_cons_of_mem _ h)

-- ============================================================== ascending

/-- The names stand in ascending order, each once. -/
def Ascending (ms : List (String × β)) : Prop := ms.Pairwise fun e e' => e.1 < e'.1

namespace Ascending

/-- An empty list is in order. -/
theorem nil : Ascending ([] : List (String × β)) := List.Pairwise.nil

/-- The members behind the first one are in order, too. -/
theorem tail {e : String × β} (h : Ascending (e :: ms)) : Ascending ms :=
  (List.pairwise_cons.mp h).2

/-- Setting a name keeps the order. -/
theorem insert (h : Ascending ms) (key : String) (value : β) :
    Ascending (Keyed.insert key value ms) := by
  induction ms with
  | nil => exact List.pairwise_singleton _ _
  | cons e rest ih =>
      obtain ⟨k, v⟩ := e
      obtain ⟨hfirst, hrest⟩ := List.pairwise_cons.mp h
      unfold Keyed.insert
      split
      case isTrue hlt =>
        refine List.pairwise_cons.mpr ⟨?_, h⟩
        intro e he
        rcases List.mem_cons.mp he with rfl | he
        · exact hlt
        · exact String.lt_trans hlt (hfirst e he)
      case isFalse hlt =>
        split
        case isTrue heq => exact List.pairwise_cons.mpr ⟨heq ▸ hfirst, hrest⟩
        case isFalse hne =>
          refine List.pairwise_cons.mpr ⟨?_, ih hrest⟩
          intro e he
          rcases mem_insert he with rfl | he
          · refine Decidable.byContradiction fun hge => hne ?_
            exact String.le_antisymm (String.not_lt.mp hge) (String.not_lt.mp hlt)
          · exact hfirst e he

/-- The first name is the smallest, so that the others find nothing under it. -/
theorem lookup_tail {e : String × β} (h : Ascending (e :: ms)) : ms.lookup e.1 = none := by
  refine List.lookup_eq_none_iff.mpr ?_
  intro e' he'
  have hlt := (List.pairwise_cons.mp h).1 e' he'
  refine bne_iff_ne.mpr ?_
  intro heq
  rw [heq] at hlt
  exact String.lt_irrefl _ hlt

/-- The members are what look-ups find. -/
theorem mem_iff (h : Ascending ms) : (key, v) ∈ ms ↔ ms.lookup key = some v := by
  induction ms with
  | nil => exact ⟨fun h => (by cases h), fun h => (by cases h)⟩
  | cons e rest ih =>
      obtain ⟨k, w⟩ := e
      rw [List.mem_cons]
      by_cases heq : key = k
      · subst heq
        have hnot : (key, v) ∉ rest := by
          rw [ih h.tail, h.lookup_tail]
          exact fun h => by cases h
        rw [List.lookup_cons_self, Prod.mk.injEq, Option.some.injEq]
        constructor
        · rintro (⟨-, rfl⟩ | hm)
          · rfl
          · exact absurd hm hnot
        · rintro rfl
          exact .inl ⟨rfl, rfl⟩
      · rw [lookup_cons_ne w rest heq, ← ih h.tail, Prod.mk.injEq]
        exact ⟨fun h => h.resolve_left fun h => heq h.1, .inr⟩

/-- A list in order has no member twice. -/
theorem nodup (h : Ascending ms) : ms.Nodup := by
  refine h.imp ?_
  intro e e' hlt heq
  rw [heq] at hlt
  exact String.lt_irrefl _ hlt

/-- Ascending members are told by what is among them, -/
theorem eq_of_mem_iff (h : Ascending ms) (h' : Ascending ms') (hmem : ∀ e, e ∈ ms ↔ e ∈ ms') :
    ms = ms' := by
  have hperm := (List.perm_ext_iff_of_nodup h.nodup h'.nodup).mpr hmem
  refine hperm.eq_of_pairwise ?_ h h'
  intro e e' _ _ hlt hlt'
  exact absurd (String.lt_trans hlt hlt') (String.lt_irrefl _)

/-- and by their look-ups. -/
theorem ext (h : Ascending ms) (h' : Ascending ms') (hget : ∀ key, ms.lookup key = ms'.lookup key) :
    ms = ms' := by
  refine h.eq_of_mem_iff h' ?_
  rintro ⟨key, value⟩
  rw [h.mem_iff, h'.mem_iff, hget]

end Ascending

-- ================================================================== folds

variable {ε α : Type} (fields : List String) {set : String → β → α → Except ε α}

/-- Members under other names than those of the fields are passed over. -/
theorem foldlM_filter (hset : ∀ k, k ∉ fields → ∀ v r, set k v r = .ok r)
    (ms : List (String × β)) (r : α) :
    ms.foldlM (fun r e => set e.1 e.2 r) r
      = (ms.filter (·.1 ∈ fields)).foldlM (fun r e => set e.1 e.2 r) r := by
  induction ms generalizing r with
  | nil => rfl
  | cons e rest ih =>
      rw [List.foldlM_cons, List.filter_cons]
      split
      case isTrue =>
        rw [List.foldlM_cons]
        exact congrArg (set e.1 e.2 r >>= ·) (funext ih)
      case isFalse hk =>
        rw [hset e.1 (fun hm => hk (decide_eq_true hm))]
        exact ih r

/-- What a list has under the names of fields, in the order of the names. -/
theorem Ascending.filter_fields (h : Ascending ms) (hf : fields.Pairwise (· < ·)) :
    ms.filter (·.1 ∈ fields)
      = fields.filterMap fun name => (ms.lookup name).map fun v => (name, v) := by
  have hleft : Ascending (ms.filter (·.1 ∈ fields)) := List.Pairwise.filter _ h
  have hright : Ascending
      (fields.filterMap fun name => (ms.lookup name).map fun v => (name, v)) := by
    refine List.Pairwise.filterMap _ ?_ hf
    intro name name' hlt e he e' he'
    obtain ⟨v, -, rfl⟩ := Option.map_eq_some_iff.mp he
    obtain ⟨v', -, rfl⟩ := Option.map_eq_some_iff.mp he'
    exact hlt
  refine hleft.eq_of_mem_iff hright ?_
  rintro ⟨name, v⟩
  rw [List.mem_filter, h.mem_iff, List.mem_filterMap]
  constructor
  · rintro ⟨hget, hm⟩
    refine ⟨name, of_decide_eq_true hm, ?_⟩
    rw [hget]
    rfl
  · rintro ⟨name', hm, hv⟩
    obtain ⟨v', hget, heq⟩ := Option.map_eq_some_iff.mp hv
    cases heq
    exact ⟨hget, decide_eq_true hm⟩

/-- A list is gone through field by field, in the order of the names of the fields. -/
theorem Ascending.foldlM_fields (h : Ascending ms) (hf : fields.Pairwise (· < ·))
    (hset : ∀ k, k ∉ fields → ∀ v r, set k v r = .ok r) (r : α) :
    ms.foldlM (fun r e => set e.1 e.2 r) r
      = fields.foldlM (fun r name => (ms.lookup name).elim (.ok r) (set name · r)) r := by
  rw [foldlM_filter fields hset, h.filter_fields fields hf]
  clear hf hset
  induction fields generalizing r with
  | nil => rfl
  | cons name rest ih =>
      rw [List.foldlM_cons, List.filterMap_cons]
      cases ms.lookup name with
      | none => exact ih r
      | some v => exact congrArg (set name v r >>= ·) (funext ih)

end CameraDriver.Keyed
