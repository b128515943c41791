/-
The registry as a finite map: what is looked up after an insertion, and that
the entries stand in ascending order, each device once.

Two ascending registries that answer every look-up alike are equal
(`Ascending.ext`), so that it does not matter in which order entries were set.
-/
import CameraDriver.Registry
import Mathlib.Data.List.Nodup
import Mathlib.Data.List.Perm.Basic

namespace CameraDriver

namespace DeviceId

/-- No identifier comes before itself. -/
theorem before_irrefl (a : DeviceId) : a.before a = false :=
  decide_eq_false (String.lt_irrefl _)

/-- The order of identifiers is transitive. -/
theorem before_trans {a b c : DeviceId} (h : a.before b = true) (h' : b.before c = true) :
    a.before c = true :=
  decide_eq_true (String.lt_trans (of_decide_eq_true h) (of_decide_eq_true h'))

/-- Two identifiers of which neither comes first are one. -/
theorem eq_of_not_before {a b : DeviceId} (h : a.before b = false) (h' : b.before a = false) :
    a = b := by
  have hab : b.text ≤ a.text := String.not_lt.mp (of_decide_eq_false h)
  have hba : a.text ≤ b.text := String.not_lt.mp (of_decide_eq_false h')
  have ht : a.text = b.text := String.le_antisymm hba hab
  cases a
  cases b
  exact congrArg DeviceId.mk ht

end DeviceId

namespace Registry

variable {α β : Type}

-- ================================================================ look-up

theorem lookup_cons_ne {id other : DeviceId} (b : α) (l : List (DeviceId × α))
    (h : id ≠ other) : ((other, b) :: l).lookup id = l.lookup id := by
  rw [List.lookup_cons, beq_false_of_ne h]

theorem lookup_insertSorted_self (id : DeviceId) (a : α) (l : List (DeviceId × α)) :
    (insertSorted id a l).lookup id = some a := by
  induction l with
  | nil => exact List.lookup_cons_self
  | cons e rest ih =>
      obtain ⟨other, b⟩ := e
      unfold insertSorted
      split
      case isTrue => exact List.lookup_cons_self
      case isFalse =>
        split
        case isTrue => exact List.lookup_cons_self
        case isFalse hne =>
          rw [lookup_cons_ne b _ hne]
          exact ih

theorem lookup_insertSorted_ne {id other : DeviceId} (a : α) (l : List (DeviceId × α))
    (h : other ≠ id) : (insertSorted id a l).lookup other = l.lookup other := by
  induction l with
  | nil => exact lookup_cons_ne a [] h
  | cons e rest ih =>
      obtain ⟨first, b⟩ := e
      unfold insertSorted
      split
      case isTrue => exact lookup_cons_ne a _ h
      case isFalse =>
        split
        case isTrue heq => rw [lookup_cons_ne a rest h, lookup_cons_ne b rest (heq ▸ h)]
        case isFalse => rw [List.lookup_cons, List.lookup_cons, ih]

/-- Only the last insertion under an identifier counts. -/
theorem insertSorted_twice (id : DeviceId) (a b : α) (l : List (DeviceId × α)) :
    insertSorted id b (insertSorted id a l) = insertSorted id b l := by
  induction l with
  | nil => simp [insertSorted, DeviceId.before_irrefl]
  | cons e rest ih =>
      obtain ⟨other, x⟩ := e
      by_cases hbefore : id.before other = true
      · simp [insertSorted, hbefore, DeviceId.before_irrefl]
      · by_cases heq : id = other
        · subst heq
          simp [insertSorted, DeviceId.before_irrefl]
        · simp [insertSorted, hbefore, heq, ih]

/-- The entry that is set last counts. -/
theorem insert_insert (r : Registry α) (id : DeviceId) (a b : α) :
    (r.insert id a).insert id b = r.insert id b :=
  congrArg Registry.mk (insertSorted_twice id a b r.entries)

@[simp] theorem get?_insert_self (r : Registry α) (id : DeviceId) (a : α) :
    (r.insert id a).get? id = some a :=
  lookup_insertSorted_self id a r.entries

theorem get?_insert_ne (r : Registry α) {id other : DeviceId} (a : α) (h : other ≠ id) :
    (r.insert id a).get? other = r.get? other :=
  lookup_insertSorted_ne a r.entries h

/-- What holds of the new entry and of the others holds of all entries. -/
theorem forall_get?_insert {P : DeviceId → α → Prop} {r : Registry α} {id : DeviceId} {a : α}
    (hself : P id a) (hother : ∀ other b, r.get? other = some b → P other b) :
    ∀ other b, (r.insert id a).get? other = some b → P other b := by
  intro other b hget
  by_cases heq : other = id
  · rw [heq, get?_insert_self] at hget
    rw [heq, ← Option.some.inj hget]
    exact hself
  · rw [get?_insert_ne r a heq] at hget
    exact hother other b hget

/-- A device that is not known after an insertion was not before. -/
theorem get?_of_insert_eq_none {r : Registry α} {id other : DeviceId} {a : α}
    (h : (r.insert id a).get? other = none) : other ≠ id ∧ r.get? other = none := by
  by_cases heq : other = id
  · rw [heq, get?_insert_self] at h
    cases h
  · rw [get?_insert_ne r a heq] at h
    exact ⟨heq, h⟩

/-- What a look-up finds is an entry. -/
theorem mem_entries_of_get? {r : Registry α} {id : DeviceId} {a : α} (h : r.get? id = some a) :
    (id, a) ∈ r.entries := by
  obtain ⟨before, after, hsplit, -⟩ := List.lookup_eq_some_iff.mp h
  rw [hsplit]
  exact List.mem_append_right _ List.mem_cons_self

-- ============================================================== ascending

/-- The entries stand in ascending order, each identifier once. -/
def Ascending (r : Registry α) : Prop :=
  r.entries.Pairwise fun e e' => e.1.before e'.1 = true

/-- Only the inserted entry is new. -/
theorem mem_insertSorted {id : DeviceId} {a : α} {e : DeviceId × α} {l : List (DeviceId × α)}
    (h : e ∈ insertSorted id a l) : e = (id, a) ∨ e ∈ l := by
  induction l with
  | nil => exact .inl (List.mem_singleton.mp h)
  | cons e' rest ih =>
      obtain ⟨other, b⟩ := e'
      unfold insertSorted at h
      split at h
      case isTrue => exact List.mem_cons.mp h
      case isFalse =>
        split at h
        case isTrue =>
          rcases List.mem_cons.mp h with h | h
          · exact .inl h
          · exact .inr (List.mem_cons_of_mem _ h)
        case isFalse =>
          rcases List.mem_cons.mp h with h | h
          · exact .inr (h ▸ List.mem_cons_self)
          · rcases ih h with h | h
            · exact .inl h
            · exact .inr (List.mem_cons_of_mem _ h)

/-- An empty registry is in order. -/
theorem ascending_empty : ({} : Registry α).Ascending := .nil

/-- Setting an entry keeps the order. -/
theorem Ascending.insert {r : Registry α} (h : r.Ascending) (id : DeviceId) (a : α) :
    (r.insert id a).Ascending := by
  obtain ⟨l⟩ := r
  have hl : l.Pairwise fun e e' => e.1.before e'.1 = true := h
  show (insertSorted id a l).Pairwise fun e e' => e.1.before e'.1 = true
  induction l with
  | nil => exact List.pairwise_singleton _ _
  | cons e rest ih =>
      obtain ⟨other, b⟩ := e
      obtain ⟨hfirst, hrest⟩ := List.pairwise_cons.mp hl
      unfold insertSorted
      split
      case isTrue hb =>
        refine List.pairwise_cons.mpr ⟨?_, hl⟩
        intro e he
        rcases List.mem_cons.mp he with rfl | he
        · exact hb
        · exact DeviceId.before_trans hb (hfirst e he)
      case isFalse hb =>
        split
        case isTrue heq => exact List.pairwise_cons.mpr ⟨heq ▸ hfirst, hrest⟩
        case isFalse hne =>
          refine List.pairwise_cons.mpr ⟨?_, ih hrest hrest⟩
          intro e he
          rcases mem_insertSorted he with rfl | he
          · -- neither equal nor before, so after
            cases hb' : other.before id with
            | true => rfl
            | false =>
                rw [Bool.not_eq_true] at hb
                exact absurd (DeviceId.eq_of_not_before hb hb') hne
          · exact hfirst e he

/-- The identifiers of a registry in order ascend. -/
theorem Ascending.ids_pairwise {r : Registry α} (h : r.Ascending) :
    r.ids.Pairwise fun a b => a.before b = true :=
  List.pairwise_map.mpr h

/-- An identifier has one entry. -/
theorem Ascending.keys_nodup {r : Registry α} (h : r.Ascending) : r.ids.Nodup := by
  refine h.ids_pairwise.imp ?_
  rintro a _ hb rfl
  rw [DeviceId.before_irrefl] at hb
  cases hb

/-- The entries are what look-ups find. -/
theorem Ascending.mem_entries {r : Registry α} (h : r.Ascending) {id : DeviceId} {a : α} :
    (id, a) ∈ r.entries ↔ r.get? id = some a := by
  obtain ⟨l⟩ := r
  have hl : l.Pairwise fun e e' => e.1.before e'.1 = true := h
  show (id, a) ∈ l ↔ l.lookup id = some a
  induction l with
  | nil => exact ⟨fun h => (by cases h), fun h => (by cases h)⟩
  | cons e rest ih =>
      obtain ⟨other, b⟩ := e
      obtain ⟨hfirst, hrest⟩ := List.pairwise_cons.mp hl
      rw [List.mem_cons]
      by_cases heq : id = other
      · -- the first entry is the device's, and no other one is
        subst heq
        have hnot : (id, a) ∉ rest := by
          intro hm
          have hb := hfirst _ hm
          rw [DeviceId.before_irrefl] at hb
          cases hb
        rw [List.lookup_cons_self, Prod.mk.injEq, Option.some.injEq]
        constructor
        · rintro (⟨-, rfl⟩ | hm)
          · rfl
          · exact absurd hm hnot
        · rintro rfl
          exact .inl ⟨rfl, rfl⟩
      · -- the first entry is another device's
        rw [lookup_cons_ne b rest heq, ← ih hrest hrest, Prod.mk.injEq]
        exact ⟨fun h => h.resolve_left (fun h => heq h.1), .inr⟩

/-- The identifiers are those under which a look-up finds an entry. -/
theorem Ascending.mem_ids {r : Registry α} (h : r.Ascending) {id : DeviceId} :
    id ∈ r.ids ↔ ∃ a, r.get? id = some a := by
  unfold ids
  rw [List.mem_map]
  constructor
  · rintro ⟨⟨id, a⟩, hm, rfl⟩
    exact ⟨a, h.mem_entries.mp hm⟩
  · rintro ⟨a, ha⟩
    exact ⟨(id, a), h.mem_entries.mpr ha, rfl⟩

/-- Two registries with the same identifiers list them alike. -/
theorem Ascending.ids_ext {r : Registry α} {r' : Registry β} (h : r.Ascending) (h' : r'.Ascending)
    (hmem : ∀ id, id ∈ r.ids ↔ id ∈ r'.ids) : r.ids = r'.ids := by
  have hperm : r.ids.Perm r'.ids :=
    (List.perm_ext_iff_of_nodup h.keys_nodup h'.keys_nodup).mpr hmem
  refine hperm.eq_of_pairwise ?_ h.ids_pairwise h'.ids_pairwise
  intro a b _ _ hb hb'
  have := DeviceId.before_trans hb hb'
  rw [DeviceId.before_irrefl] at this
  cases this

/-- What the entries give under their own identifiers is found by a look-up. -/
theorem Ascending.count_flatMap [DecidableEq β] {r : Registry α} (h : r.Ascending)
    (f : DeviceId × α → List (DeviceId × β)) (hf : ∀ e, ∀ t ∈ f e, t.1 = e.1)
    (t : DeviceId × β) :
    (r.entries.flatMap f).count t =
      (((r.get? t.1).map fun a => f (t.1, a)).getD []).count t := by
  obtain ⟨l⟩ := r
  have hl : l.Pairwise fun e e' => e.1.before e'.1 = true := h
  show (l.flatMap f).count t = (((l.lookup t.1).map fun a => f (t.1, a)).getD []).count t
  induction l with
  | nil => rfl
  | cons e rest ih =>
      obtain ⟨other, b⟩ := e
      obtain ⟨hfirst, hrest⟩ := List.pairwise_cons.mp hl
      rw [List.flatMap_cons, List.count_append]
      by_cases heq : t.1 = other
      · have hnone : (rest.flatMap f).count t = 0 := by
          refine List.count_eq_zero.mpr ?_
          intro hm
          obtain ⟨e, he, ht⟩ := List.mem_flatMap.mp hm
          have hb := hfirst e he
          rw [← hf e t ht, ← heq, DeviceId.before_irrefl] at hb
          cases hb
        rw [hnone, ← heq, List.lookup_cons_self]
        rfl
      · have hnone : (f (other, b)).count t = 0 := by
          refine List.count_eq_zero.mpr ?_
          intro hm
          exact heq (hf _ t hm)
        rw [hnone, lookup_cons_ne b rest heq, Nat.zero_add]
        exact ih hrest hrest

/-- A registry is told by its look-ups. -/
theorem Ascending.ext {r r' : Registry α} (h : r.Ascending) (h' : r'.Ascending)
    (hget : ∀ id, r.get? id = r'.get? id) : r = r' := by
  have hperm : r.entries.Perm r'.entries := by
    refine (List.perm_ext_iff_of_nodup (List.Nodup.of_map _ h.keys_nodup)
      (List.Nodup.of_map _ h'.keys_nodup)).mpr ?_
    rintro ⟨id, a⟩
    rw [h.mem_entries, h'.mem_entries, hget]
  have heq : r.entries = r'.entries := by
    refine hperm.eq_of_pairwise ?_ h h'
    intro e e' _ _ hb hb'
    have := DeviceId.before_trans hb hb'
    rw [DeviceId.before_irrefl] at this
    cases this
  cases r
  cases r'
  exact congrArg Registry.mk heq

end Registry

end CameraDriver
