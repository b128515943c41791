/-
What an overlay does to a JSON value, key by key and path by path.

A patch is laid on an object member by member, and what becomes of a member
depends on that member alone: on its value before and on what the patch says of
it, where a key that the patch does not have counts as `null`
(`get?_mergeMembers`). With proper values, which have every map once, the laws of
an overlay follow from this by induction on the patch.

# Laws

- A patch that is laid on a second time changes nothing more (`merge_merge`). At
  the bottom of it is that a value laid on itself is itself (`merge_self`): a
  member that is new is taken whole, with all the nulls in it.
- Where a walk through the patch ends at `null` or at nothing, what is stored
  stays (`at?_merge_of_spares`); where it ends at anything else that is no object,
  that is stored (`at?_merge_of_leaf`). A walk that is stopped by a value with no
  members ends at neither, since all of what stood there has been replaced.
-/
import CameraDriver.Proofs.Json.Proper
import CameraDriver.Store.Merge

namespace CameraDriver.Json

variable {base patch : Json} {ms ps : Members} {key : String}

-- ================================================================ members

/-- The value of a key under an overlay, from its value before and from what the
patch says of it. A key that is new is taken whole, unless it is `null`. -/
def overlaid? : Option Json → (patch : Json) → Option Json
  | some base, patch => some (base.merge patch)
  | none, .null => none
  | none, patch => some patch

/-- A null patch changes nothing. -/
theorem merge_null (base : Json) : base.merge .null = base := by
  unfold merge
  rfl

/-- An object is merged into another one member by member. -/
theorem merge_obj (ms ps : Members) : (Json.obj ms).merge (.obj ps) = .obj (mergeMembers ms ps) := by
  unfold merge
  rfl

/-- A null member changes nothing. -/
theorem overlaid?_null (base : Option Json) : overlaid? base .null = base := by
  cases base with
  | none => rfl
  | some base => exact congrArg some (merge_null base)

/-- The members after the first one of a patch. -/
def mergeMember (ms : Members) (key : String) (patch : Json) : Members :=
  match overlaid? (ms.get? key) patch with
  | some value => Members.insert key value ms
  | none => ms

theorem mergeMembers_cons (ms : Members) (key : String) (patch : Json) (rest : Members) :
    mergeMembers ms ((key, patch) :: rest) = mergeMembers (mergeMember ms key patch) rest := by
  conv_lhs => unfold mergeMembers
  unfold mergeMember
  cases ms.get? key with
  | some base => rfl
  | none => cases patch <;> rfl

/-- A member that is merged is seen under its key only. -/
theorem get?_mergeMember (ms : Members) (key other : String) (patch : Json) :
    (mergeMember ms key patch).get? other =
      if other = key then overlaid? (ms.get? key) patch else ms.get? other := by
  unfold mergeMember
  split
  next value hvalue =>
    split
    case isTrue heq => rw [heq, Members.get?_insert_self, hvalue]
    case isFalse hne => exact Members.get?_insert_ne value ms hne
  next hnone =>
    split
    case isTrue heq =>
      rw [heq, hnone]
      -- only what was not there is still not there
      cases hget : ms.get? key with
      | none => rfl
      | some base =>
          rw [hget] at hnone
          cases hnone
    case isFalse => rfl

/-- A member after an overlay. -/
theorem get?_mergeMembers (h : ps.Ascending) (ms : Members) (key : String) :
    (mergeMembers ms ps).get? key = overlaid? (ms.get? key) (ps.value key) := by
  induction ps generalizing ms with
  | nil =>
      rw [mergeMembers]
      exact (overlaid?_null _).symm
  | cons e rest ih =>
      obtain ⟨k, patch⟩ := e
      rw [mergeMembers_cons, ih h.tail, get?_mergeMember]
      split
      case isTrue heq =>
        rw [heq, Members.value_of_none h.get?_tail, overlaid?_null,
          Members.value_of_get? (Members.get?_cons_self k patch rest)]
      case isFalse hne =>
        unfold Members.value
        rw [Members.get?_cons_ne patch rest hne]

/-- Members stay in order when others are merged into them. -/
theorem ascending_mergeMembers (h : ms.Ascending) (ps : Members) :
    (mergeMembers ms ps).Ascending := by
  induction ps generalizing ms with
  | nil =>
      rw [mergeMembers]
      exact h
  | cons e rest ih =>
      rw [mergeMembers_cons]
      refine ih ?_
      unfold mergeMember
      split
      · exact h.insert _ _
      · exact h

-- ================================================================= proper

/-- What a proper patch says of a key is proper. -/
theorem Proper.value (h : Proper (.obj ps)) (key : String) : (ps.value key).Proper := by
  unfold Members.value
  cases hget : ps.get? key with
  | none => exact .null
  | some patch => exact h.get? hget

/-- An object stays proper when proper members are merged into it. -/
theorem proper_mergeMembers (hms : Proper (.obj ms))
    (hps : ∀ e ∈ ps, e.2.Proper ∧ ∀ base : Json, base.Proper → (base.merge e.2).Proper) :
    Proper (.obj (mergeMembers ms ps)) := by
  induction ps generalizing ms with
  | nil =>
      rw [mergeMembers]
      exact hms
  | cons e rest ih =>
      obtain ⟨key, patch⟩ := e
      obtain ⟨hpatch, hmerge⟩ := hps _ List.mem_cons_self
      rw [mergeMembers_cons]
      refine ih ?_ fun e he => hps e (List.mem_cons_of_mem _ he)
      unfold mergeMember
      split
      next value hvalue =>
        refine hms.insert key ?_
        cases hget : ms.get? key with
        | some base =>
            rw [hget] at hvalue
            rw [← Option.some.inj hvalue]
            exact hmerge base (hms.get? hget)
        | none =>
            rw [hget] at hvalue
            cases patch <;> cases hvalue <;> exact hpatch
      next => exact hms

/-- A proper patch on a proper value gives a proper value. -/
theorem Proper.merge (hb : base.Proper) (hp : patch.Proper) : (base.merge patch).Proper := by
  induction hp generalizing base with
  | null =>
      rw [merge_null]
      exact hb
  | obj hkeys hps ih =>
      cases base with
      | obj ms =>
          rw [merge_obj]
          exact proper_mergeMembers hb fun e he => ⟨hps e he, fun base hb => ih e he hb⟩
      | _ => exact .obj hkeys hps
  | arr h => exact .arr h
  | bool b => exact .bool b
  | int n => exact .int n
  | double h => exact .double h
  | str s => exact .str s

-- ============================================================= idempotence

/-- Two proper objects are one if they agree in every key. -/
theorem Proper.obj_ext (h : Proper (.obj ms)) (h' : Proper (.obj ps))
    (hget : ∀ key, ms.get? key = ps.get? key) : Json.obj ms = .obj ps :=
  congrArg Json.obj (h.ascending.ext h'.ascending hget)

/-- A value laid on itself is itself. -/
theorem merge_self (hp : patch.Proper) : patch.merge patch = patch := by
  induction hp with
  | @obj ps hkeys hps ih =>
      have hproper := Proper.obj hkeys hps
      have hmerged := hproper.merge hproper
      rw [merge_obj] at hmerged ⊢
      refine hmerged.obj_ext hproper ?_
      intro key
      rw [get?_mergeMembers hkeys]
      cases hget : ps.get? key with
      | none =>
          rw [Members.value_of_none hget]
          rfl
      | some value =>
          rw [Members.value_of_get? hget]
          exact congrArg some (ih (key, value) (hkeys.mem_iff.mpr hget))
  | null => exact merge_null _
  | _ =>
      unfold merge
      rfl

/-- A patch that is laid on a second time changes nothing more. -/
theorem merge_merge (hb : base.Proper) (hp : patch.Proper) :
    (base.merge patch).merge patch = base.merge patch := by
  induction hp generalizing base with
  | null => exact merge_null _
  | @obj ps hkeys hps ih =>
      have hproper := Proper.obj hkeys hps
      cases base with
      | obj ms =>
          have honce := hb.merge hproper
          have htwice := honce.merge hproper
          rw [merge_obj] at honce htwice ⊢
          rw [merge_obj] at htwice ⊢
          refine htwice.obj_ext honce ?_
          intro key
          rw [get?_mergeMembers hkeys, get?_mergeMembers hkeys]
          cases hpatch : ps.get? key with
          | none =>
              rw [Members.value_of_none hpatch, overlaid?_null]
          | some value =>
              have hmem := hkeys.mem_iff.mpr hpatch
              rw [Members.value_of_get? hpatch]
              cases hget : Members.get? ms key with
              | some base => exact congrArg some (ih _ hmem (hb.get? hget))
              | none =>
                  -- a new member was taken whole
                  have hself := merge_self (hps _ hmem)
                  cases value <;> first | rfl | exact congrArg some hself
      | _ => exact merge_self hproper
  | _ => rfl

-- ================================================================== paths

/-- The value at the end of a path of keys. -/
def at? (j : Json) : List String → Option Json
  | [] => some j
  | key :: rest =>
      match j with
      | .obj ms => (Members.get? ms key).bind (·.at? rest)
      | _ => none

/-- Whether a walk through a patch along a path meets `null`, or a key that is
not there. -/
def spares (patch : Json) : List String → Bool
  | [] => (patch matches .null)
  | key :: rest =>
      match patch with
      | .null => true
      | .obj ps => (Members.value ps key).spares rest
      | _ => false

/-- Whether a value replaces whatever it is laid on. -/
def isLeaf : Json → Bool
  | .null => false
  | .obj _ => false
  | _ => true

variable {path : List String} {rest : List String} {v : Json}

theorem at?_obj (ms : Members) (key : String) (rest : List String) :
    (Json.obj ms).at? (key :: rest) = (ms.get? key).bind (·.at? rest) := rfl

/-- A value that is found below a key stands in an object. -/
theorem exists_obj_of_at? {j : Json} (h : j.at? (key :: rest) = some v) :
    ∃ ms w, j = .obj ms ∧ Members.get? ms key = some w ∧ w.at? rest = some v := by
  unfold at? at h
  split at h
  next ms =>
    obtain ⟨w, hget, hw⟩ := Option.bind_eq_some_iff.mp h
    exact ⟨ms, w, rfl, hget, hw⟩
  next => cases h

/-- A patch that is a leaf replaces what was there. -/
theorem merge_of_isLeaf (h : patch.isLeaf = true) (base : Json) : base.merge patch = patch := by
  cases patch with
  | null => cases h
  | obj ps => cases h
  | _ => rfl

/-- An object laid on what is no object takes its place. -/
theorem merge_of_not_obj (h : ∀ ms, base ≠ .obj ms) (ps : Members) :
    base.merge (.obj ps) = .obj ps := by
  cases base with
  | obj ms => exact absurd rfl (h ms)
  | _ => rfl

/-- What is stored where the patch says nothing stays. -/
theorem at?_merge_of_spares (hp : patch.Proper) (hs : patch.spares path = true)
    (hv : base.at? path = some v) : (base.merge patch).at? path = some v := by
  induction path generalizing base patch with
  | nil =>
      cases patch with
      | null =>
          rw [merge_null]
          exact hv
      | _ => cases hs
  | cons key rest ih =>
      obtain ⟨ms, w, rfl, hget, hw⟩ := exists_obj_of_at? hv
      cases patch with
      | null =>
          rw [merge_null]
          exact hv
      | obj ps =>
          rw [merge_obj, at?_obj, get?_mergeMembers hp.ascending, hget]
          exact ih (hp.value key) hs hw
      | _ => cases hs

/-- A patch that says nothing of a path has `null` there, or nothing. -/
theorem at?_of_spares (hs : patch.spares path = true) :
    patch.at? path = none ∨ patch.at? path = some .null := by
  induction path generalizing patch with
  | nil =>
      cases patch with
      | null => exact .inr rfl
      | _ => cases hs
  | cons key rest ih =>
      cases patch with
      | null => exact .inl rfl
      | obj ps =>
          rw [at?_obj]
          have hs : (Members.value ps key).spares rest = true := hs
          cases hget : Members.get? ps key with
          | none => exact .inl rfl
          | some w =>
              rw [Members.value_of_get? hget] at hs
              exact ih hs
      | _ => cases hs

/-- Where nothing is stored and the patch says nothing, nothing is stored but
`null`. -/
theorem at?_merge_of_spares_none (hp : patch.Proper) (hs : patch.spares path = true)
    (hv : base.at? path = none) :
    (base.merge patch).at? path = none ∨ (base.merge patch).at? path = some .null := by
  induction path generalizing base patch with
  | nil => cases hv
  | cons key rest ih =>
      cases patch with
      | null =>
          rw [merge_null]
          exact .inl hv
      | obj ps =>
          by_cases hbase : ∃ ms, base = .obj ms
          · obtain ⟨ms, rfl⟩ := hbase
            rw [merge_obj, at?_obj, get?_mergeMembers hp.ascending]
            have hs : (Members.value ps key).spares rest = true := hs
            cases hget : Members.get? ms key with
            | some base =>
                rw [at?_obj, hget] at hv
                exact ih (hp.value key) hs hv
            | none =>
                cases hpatch : Members.value ps key with
                | null => exact .inl rfl
                | _ =>
                    rw [hpatch] at hs
                    exact at?_of_spares hs
          · rw [merge_of_not_obj fun ms h => hbase ⟨ms, h⟩]
            exact at?_of_spares hs
      | _ => cases hs

/-- What the patch says is stored. -/
theorem at?_merge_of_leaf (hp : patch.Proper) (hv : patch.at? path = some v)
    (hleaf : v.isLeaf = true) : (base.merge patch).at? path = some v := by
  induction path generalizing base patch with
  | nil =>
      have hpatch : patch = v := Option.some.inj hv
      rw [hpatch, merge_of_isLeaf hleaf]
      rfl
  | cons key rest ih =>
      obtain ⟨ps, w, rfl, hget, hw⟩ := exists_obj_of_at? hv
      by_cases hbase : ∃ ms, base = .obj ms
      · obtain ⟨ms, rfl⟩ := hbase
        rw [merge_obj, at?_obj, get?_mergeMembers hp.ascending, Members.value_of_get? hget]
        cases Members.get? ms key with
        | some base => exact ih (hp.get? hget) hw
        | none =>
            cases w with
            | null =>
                cases rest with
                | nil =>
                    cases hw
                    cases hleaf
                | cons => cases hw
            | _ => exact hw
      · rw [merge_of_not_obj fun ms h => hbase ⟨ms, h⟩]
        exact hv

end CameraDriver.Json
