/-
What becomes of the members of a patch that are `null`.

An overlay passes over such a member where it goes through an object of the patch
member by member. It does so only where that object is laid on an object. Laid on
anything else, or on nothing, the object is taken as it stands, and the `null` in it
is stored.

So a patch and the patch without its null members (`pruned`) ask for the same exactly
if each null member stands in an object that is laid on an object (`Meets`,
`merge_pruned_iff`), and in any case for the same up to members that are `null`
(`pruned_merge`). Path by path: under a null member of the patch the value stays that
was there, or `null` is stored where no object was around it (`at?_merge_of_null`).

# Induction

Both sides are compared key by key, where a key that is not there counts as `null`.
The induction is therefore over the values under all keys (`Proper.rec_value`), and it
carries an optional base, since what lies under a new key is laid on nothing.
-/
import CameraDriver.Proofs.Store.Settings

namespace CameraDriver

namespace Json

-- ================================================================= pruning

mutual

/-- A value without the members that are `null`, at any depth that members alone
lead to. -/
def pruned : Json → Json
  | .obj ms => .obj (prunedMembers ms)
  | j => j

/-- `pruned` member by member. -/
def prunedMembers : Members → Members
  | [] => []
  | (key, value) :: rest =>
      match value with
      | .null => prunedMembers rest
      | value => (key, value.pruned) :: prunedMembers rest

end

/-- What pruning leaves of a member. -/
def kept? : Json → Option Json
  | .null => none
  | j => some j.pruned

variable {base : Option Json} {b j patch v : Json} {ms ps : Members} {key : String}
  {path : List String}

theorem pruned_obj (ms : Members) : (Json.obj ms).pruned = .obj (prunedMembers ms) := rfl

/-- What is no object is not pruned. -/
theorem pruned_of_not_obj (h : ∀ ms, j ≠ .obj ms) : j.pruned = j := by
  cases j with
  | obj ms => exact absurd rfl (h ms)
  | _ => rfl

theorem prunedMembers_cons (key : String) (value : Json) (rest : Members) :
    prunedMembers ((key, value) :: rest)
      = (kept? value).toList.map (fun v => (key, v)) ++ prunedMembers rest := by
  cases value <;> rfl

/-- What pruning leaves of a member is told by its pruned value. -/
theorem kept?_congr {a b : Json} (h : a.pruned = b.pruned) : kept? a = kept? b := by
  have hleft : ∀ j : Json, kept? j = if j.pruned matches .null then none else some j.pruned := by
    intro j
    cases j <;> rfl
  rw [hleft, hleft, h]

-- ================================================================= members

/-- What a key has is a member's value, or `null`. -/
theorem value_cases (ms : Members) (key : String) :
    (ms.get? key = none ∧ ms.value key = .null) ∨ ms.get? key = some (ms.value key) := by
  unfold Members.value
  cases ms.get? key with
  | none => exact .inl ⟨rfl, rfl⟩
  | some v => exact .inr rfl

/-- Values are told apart from objects, and objects by what their keys have. -/
theorem Proper.rec_value {P : Json → Prop} (leaf : ∀ j, (∀ ms, j ≠ .obj ms) → P j)
    (obj : ∀ ms : Members, Proper (.obj ms) → (∀ key, P (ms.value key)) → P (.obj ms))
    (h : j.Proper) : P j := by
  induction h with
  | @obj ms hkeys hms ih =>
      refine obj ms (.obj hkeys hms) ?_
      intro key
      rcases value_cases ms key with ⟨-, hnull⟩ | hget
      · rw [hnull]
        exact leaf .null fun _ h => by cases h
      · exact ih _ (hkeys.mem_iff.mpr hget)
  | _ => exact leaf _ fun _ h => by cases h

theorem mem_prunedMembers {e : String × Json} (h : e ∈ prunedMembers ms) :
    ∃ v, (e.1, v) ∈ ms ∧ kept? v = some e.2 := by
  induction ms with
  | nil => cases h
  | cons e' rest ih =>
      obtain ⟨k, v⟩ := e'
      rw [prunedMembers_cons, List.mem_append, List.mem_map] at h
      rcases h with ⟨w, hw, rfl⟩ | h
      · exact ⟨v, List.mem_cons_self, Option.mem_toList.mp hw⟩
      · obtain ⟨w, hw, hkept⟩ := ih h
        exact ⟨w, List.mem_cons_of_mem _ hw, hkept⟩

/-- Members stay in order when they are pruned. -/
theorem ascending_prunedMembers (h : ms.Ascending) : Members.Ascending (prunedMembers ms) := by
  induction ms with
  | nil => exact .nil
  | cons e rest ih =>
      obtain ⟨k, v⟩ := e
      rw [prunedMembers_cons]
      cases kept? v with
      | none => exact ih h.tail
      | some w =>
          refine List.pairwise_cons.mpr ⟨?_, ih h.tail⟩
          intro e he
          obtain ⟨w, hw, -⟩ := mem_prunedMembers he
          exact (List.pairwise_cons.mp h).1 (e.1, w) hw

/-- What a key has after pruning. -/
theorem get?_prunedMembers (h : ms.Ascending) (key : String) :
    Members.get? (prunedMembers ms) key = kept? (ms.value key) := by
  induction ms with
  | nil => rfl
  | cons e rest ih =>
      obtain ⟨k, v⟩ := e
      rw [prunedMembers_cons]
      by_cases heq : key = k
      · subst heq
        rw [Members.value_of_get? (Members.get?_cons_self key v rest)]
        cases kept? v with
        | none =>
            -- the key comes once
            exact (ih h.tail).trans (congrArg kept? (Members.value_of_none h.get?_tail))
        | some w => exact Members.get?_cons_self key w _
      · have hvalue : Members.value ((k, v) :: rest) key = Members.value rest key := by
          unfold Members.value
          rw [Members.get?_cons_ne v rest heq]
        rw [hvalue, ← ih h.tail]
        cases kept? v with
        | none => rfl
        | some w => exact Members.get?_cons_ne w _ heq

/-- The value under a key is pruned. -/
theorem value_prunedMembers (h : ms.Ascending) (key : String) :
    Members.value (prunedMembers ms) key = (ms.value key).pruned := by
  have hget := get?_prunedMembers h key
  cases hv : ms.value key with
  | null =>
      rw [hv] at hget
      exact Members.value_of_none hget
  | _ =>
      rw [hv] at hget
      exact Members.value_of_get? hget

/-- Two pruned objects are equal if what their keys have is. -/
theorem prunedMembers_congr (h : ms.Ascending) (h' : ps.Ascending)
    (hvalue : ∀ key, (ms.value key).pruned = (ps.value key).pruned) :
    prunedMembers ms = prunedMembers ps := by
  refine (ascending_prunedMembers h).ext (ascending_prunedMembers h') ?_
  intro key
  rw [get?_prunedMembers h, get?_prunedMembers h']
  exact kept?_congr (hvalue key)

/-- A value that is pruned twice is pruned once. -/
theorem pruned_pruned (h : j.Proper) : j.pruned.pruned = j.pruned := by
  refine h.rec_value (P := fun j => j.pruned.pruned = j.pruned) ?_ ?_
  · intro j hj
    rw [pruned_of_not_obj hj, pruned_of_not_obj hj]
  · intro ms hms ih
    rw [pruned_obj, pruned_obj]
    refine congrArg Json.obj (prunedMembers_congr (ascending_prunedMembers hms.ascending)
      hms.ascending ?_)
    intro key
    rw [value_prunedMembers hms.ascending]
    exact ih key

-- ================================================================ overlays

/-- An overlay of a pruned patch is that of the patch, up to members that are
`null`. -/
theorem pruned_merge {base : Json} (hb : base.Proper) (hp : patch.Proper) :
    (base.merge patch.pruned).pruned = (base.merge patch).pruned := by
  refine hp.rec_value (P := fun patch => patch.Proper → ∀ base : Json, base.Proper →
    (base.merge patch.pruned).pruned = (base.merge patch).pruned) ?_ ?_ hp base hb
  · intro j hj _ base _
    rw [pruned_of_not_obj hj]
  · intro ps hps ih _ base hb
    rw [pruned_obj]
    by_cases hobj : ∃ ms, base = .obj ms
    · obtain ⟨ms, rfl⟩ := hobj
      have hps' := ascending_prunedMembers hps.ascending
      rw [merge_obj, merge_obj]
      refine congrArg Json.obj (prunedMembers_congr (ascending_mergeMembers hb.ascending _)
        (ascending_mergeMembers hb.ascending _) ?_)
      intro key
      unfold Members.value
      rw [get?_mergeMembers hps', get?_mergeMembers hps.ascending,
        value_prunedMembers hps.ascending]
      cases hget : Members.get? ms key with
      | some b => exact ih key (hps.value key) b (hb.get? hget)
      | none =>
          -- a new member is taken as it is
          have htwice := pruned_pruned (hps.value key)
          cases hv : Members.value ps key with
          | null => rfl
          | _ =>
              rw [hv] at htwice
              exact htwice
    · rw [merge_of_not_obj fun ms h => hobj ⟨ms, h⟩, merge_of_not_obj fun ms h => hobj ⟨ms, h⟩,
        ← pruned_obj]
      exact pruned_pruned hps

/-- Every null member of a patch stands in an object that is laid on an object. The
patch may itself be laid on nothing. -/
def Meets (base : Option Json) (patch : Json) : Prop :=
  ∀ path key, patch.at? (path ++ [key]) = some .null → ∃ ms, base.bind (·.at? path) = some (.obj ms)

theorem at?_key (ms : Members) (key : String) : (Json.obj ms).at? [key] = ms.get? key := by
  rw [at?_obj]
  cases ms.get? key <;> rfl

theorem at?_cons (j : Json) (key : String) (rest : List String) :
    j.at? (key :: rest) = (j.at? [key]).bind (·.at? rest) := by
  cases j with
  | obj ms => rw [at?_obj, at?_key]
  | _ => rfl

/-- What lies under a key is laid on what lies there. -/
theorem meets_obj_iff : Meets base (.obj ps) ↔
    (∀ key, ps.get? key = some .null → ∃ ms, base = some (.obj ms))
      ∧ ∀ key, Meets (base.bind (·.at? [key])) (ps.value key) := by
  have hbelow : ∀ key rest, base.bind (·.at? (key :: rest))
      = (base.bind (·.at? [key])).bind (·.at? rest) := by
    intro key rest
    rw [Option.bind_assoc]
    exact congrArg base.bind (funext fun j => at?_cons j key rest)
  have hhere : base.bind (·.at? []) = base := by cases base <;> rfl
  constructor
  · -- the nulls at the members, and those below them
    intro h
    refine ⟨?_, ?_⟩
    · intro key hnull
      have hmeets := h [] key ((at?_key ps key).trans hnull)
      rwa [hhere] at hmeets
    · intro key path key' hnull
      rw [← hbelow]
      refine h (key :: path) key' ?_
      rcases value_cases ps key with ⟨-, hvalue⟩ | hget
      · rw [hvalue] at hnull
        cases path <;> cases hnull
      · rw [List.cons_append, at?_obj, hget]
        exact hnull
  · -- a null is at the first step of its path, or below it
    rintro ⟨hfirst, hrest⟩ path key hnull
    cases path with
    | nil =>
        rw [hhere]
        exact hfirst key ((at?_key ps key).symm.trans hnull)
    | cons k rest =>
        rw [hbelow]
        refine hrest k rest key ?_
        rw [List.cons_append, at?_obj] at hnull
        obtain ⟨v, hget, hv⟩ := Option.bind_eq_some_iff.mp hnull
        rw [Members.value_of_get? hget]
        exact hv

/-- A patch that is no object adds no null. -/
theorem meets_of_not_obj (h : ∀ ms, patch ≠ .obj ms) : Meets base patch := by
  intro path key hnull
  obtain ⟨k, rest, hcons⟩ := List.exists_cons_of_ne_nil (List.append_ne_nil_of_right_ne_nil path
    (List.cons_ne_nil key []))
  rw [hcons] at hnull
  obtain ⟨ms, -, hobj, -⟩ := exists_obj_of_at? hnull
  exact absurd hobj (h ms)

-- =============================================================== agreement

/-- Laid on an object, a patch asks for the same without its null members exactly if
what lies under every key does. -/
theorem overlaid?_pruned_obj_iff (hms : ms.Ascending) (hps : ps.Ascending) :
    overlaid? (some (.obj ms)) (.obj ps) = overlaid? (some (.obj ms)) (.obj (prunedMembers ps))
      ↔ ∀ key, overlaid? (ms.get? key) (ps.value key)
        = overlaid? (ms.get? key) (ps.value key).pruned := by
  show some (Json.merge _ _) = some (Json.merge _ _) ↔ _
  rw [merge_obj, merge_obj, Option.some.injEq, Json.obj.injEq]
  have hpruned : ∀ key, Members.get? (mergeMembers ms (prunedMembers ps)) key
      = overlaid? (ms.get? key) (ps.value key).pruned := by
    intro key
    rw [get?_mergeMembers (ascending_prunedMembers hps), value_prunedMembers hps]
  constructor
  · intro h key
    rw [← get?_mergeMembers hps, ← hpruned, h]
  · intro h
    refine (ascending_mergeMembers hms _).ext (ascending_mergeMembers hms _) ?_
    intro key
    rw [get?_mergeMembers hps, hpruned]
    exact h key

/-- Pruning leaves an object exactly if no member is `null` and it leaves what lies
under every key. -/
theorem eq_prunedMembers_iff (hps : ps.Ascending) :
    ps = prunedMembers ps ↔ ∀ key, ps.get? key ≠ some .null
      ∧ overlaid? none (ps.value key) = overlaid? none (ps.value key).pruned := by
  have hkey : ∀ key, ps.get? key = kept? (ps.value key) ↔ ps.get? key ≠ some .null
      ∧ overlaid? none (ps.value key) = overlaid? none (ps.value key).pruned := by
    intro key
    rcases value_cases ps key with ⟨hget, hnull⟩ | hget
    · rw [hget, hnull]
      exact ⟨fun _ => ⟨(nomatch ·), rfl⟩, fun _ => rfl⟩
    · rw [hget]
      cases ps.value key with
      | null => exact ⟨(nomatch ·), fun h => absurd rfl h.1⟩
      | _ => exact ⟨fun h => ⟨(nomatch ·), h⟩, fun h => h.2⟩
  constructor
  · intro h key
    rw [← hkey, ← get?_prunedMembers hps, ← h]
  · intro h
    refine hps.ext (ascending_prunedMembers hps) ?_
    intro key
    rw [get?_prunedMembers hps]
    exact (hkey key).mpr (h key)

/-- Where there is no object, an object is taken as it stands, -/
theorem overlaid?_obj (h : ∀ ms, base ≠ some (.obj ms)) (ps : Members) :
    overlaid? base (.obj ps) = some (.obj ps) := by
  cases base with
  | none => rfl
  | some b => exact congrArg some (merge_of_not_obj (fun ms hb => h ms (congrArg some hb)) ps)

/-- and nothing lies under a key. -/
theorem bind_at?_of_not_obj (h : ∀ ms, base ≠ some (.obj ms)) (key : String) :
    base.bind (·.at? [key]) = none := by
  cases base with
  | none => rfl
  | some b =>
      cases b with
      | obj ms => exact absurd rfl (h ms)
      | _ => rfl

/-- A patch asks for the same without its null members exactly if each of them
stands in an object that is laid on an object. -/
theorem overlaid?_pruned_iff (hp : patch.Proper) (hb : ∀ b, base = some b → b.Proper) :
    overlaid? base patch = overlaid? base patch.pruned ↔ Meets base patch := by
  refine hp.rec_value (P := fun patch => ∀ base : Option Json, (∀ b, base = some b → b.Proper) →
    (overlaid? base patch = overlaid? base patch.pruned ↔ Meets base patch)) ?_ ?_ base hb
  · intro j hj base _
    rw [pruned_of_not_obj hj]
    exact ⟨fun _ => meets_of_not_obj hj, fun _ => rfl⟩
  · intro ps hps ih base hb
    rw [pruned_obj, meets_obj_iff]
    by_cases hobj : ∃ ms, base = some (.obj ms)
    · -- under every key, the patch is laid on what is there
      obtain ⟨ms, rfl⟩ := hobj
      have hms := hb _ rfl
      have hvalue : ∀ key, overlaid? (Members.get? ms key) (ps.value key)
          = overlaid? (Members.get? ms key) (ps.value key).pruned
            ↔ Meets (Members.get? ms key) (ps.value key) :=
        fun key => ih key _ fun b hget => hms.get? hget
      have hbelow : ∀ key, (some (Json.obj ms)).bind (·.at? [key]) = Members.get? ms key :=
        fun key => at?_key ms key
      simp only [overlaid?_pruned_obj_iff hms.ascending hps.ascending, hvalue, hbelow]
      exact ⟨fun h => ⟨fun _ _ => ⟨ms, rfl⟩, h⟩, fun h => h.2⟩
    · -- everything in the patch is laid on nothing
      have hfresh : ∀ ms, base ≠ some (.obj ms) := fun ms h => hobj ⟨ms, h⟩
      have hvalue : ∀ key, overlaid? none (ps.value key) = overlaid? none (ps.value key).pruned
          ↔ Meets none (ps.value key) := fun key => ih key none fun b hb => by cases hb
      rw [overlaid?_obj hfresh, overlaid?_obj hfresh, Option.some.injEq, Json.obj.injEq,
        eq_prunedMembers_iff hps.ascending]
      simp only [hvalue, bind_at?_of_not_obj hfresh]
      exact ⟨fun h => ⟨fun key hnull => absurd hnull (h key).1, fun key => (h key).2⟩,
        fun h key => ⟨fun hnull => hobj (h.1 key hnull), h.2 key⟩⟩

/-- A patch merges like its pruned form exactly if each null in it meets something. -/
theorem merge_pruned_iff {base : Json} (hb : base.Proper) (hp : patch.Proper) :
    base.merge patch = base.merge patch.pruned ↔ Meets (some base) patch := by
  have hb : ∀ b, some base = some b → b.Proper := by
    rintro b ⟨rfl⟩
    exact hb
  rw [← overlaid?_pruned_iff hp hb]
  exact (Option.some.injEq _ _).symm ▸ Iff.rfl

-- ================================================================== paths

/-- Only null equals null. -/
theorem eq_null_of_same {o : Option Json} (h : o.any (·.same .null) = true) : o = some .null := by
  cases o with
  | none => cases h
  | some v =>
      cases v with
      | null => rfl
      | _ => cases h

/-- What a member is found in is an object. -/
theorem exists_obj_of_at?_append {base : Json} (path : List String)
    (h : base.at? (path ++ [key]) = some v) :
    ∃ ms, base.at? path = some (.obj ms) := by
  induction path generalizing base with
  | nil =>
      obtain ⟨ms, -, rfl, -⟩ := exists_obj_of_at? h
      exact ⟨ms, rfl⟩
  | cons k rest ih =>
      obtain ⟨ms, w, rfl, hget, hw⟩ := exists_obj_of_at? h
      rw [at?_obj, hget]
      exact ih hw

/-- Under a null member of the patch the value stays that was there. If no object
was around it, `null` is stored. -/
theorem at?_merge_of_null (base : Json) (hp : patch.Proper)
    (hnull : patch.at? (path ++ [key]) = some .null) :
    ((∃ ms, base.at? path = some (.obj ms)) →
        (base.merge patch).at? (path ++ [key]) = base.at? (path ++ [key]))
      ∧ ((¬ ∃ ms, base.at? path = some (.obj ms)) →
        (base.merge patch).at? (path ++ [key]) = some .null) := by
  induction path generalizing base patch with
  | nil =>
      obtain ⟨ps, v, rfl, hget, hv⟩ := exists_obj_of_at? hnull
      cases hv
      refine ⟨?_, ?_⟩
      · -- an object keeps what stands under the key
        rintro ⟨ms, hms⟩
        cases hms
        rw [merge_obj, List.nil_append, at?_key, at?_key, get?_mergeMembers hp.ascending,
          Members.value_of_get? hget, overlaid?_null]
      · -- anything else is replaced by the patch as a whole
        intro hobj
        rw [merge_of_not_obj fun ms h => hobj ⟨ms, congrArg some h⟩]
        exact hnull
  | cons k rest ih =>
      obtain ⟨ps, v, rfl, hget, hv⟩ := exists_obj_of_at? hnull
      by_cases hbase : ∃ ms, base = .obj ms
      · -- the first step leads into an object
        obtain ⟨ms, rfl⟩ := hbase
        rw [List.cons_append, merge_obj, at?_obj, at?_obj, at?_obj, get?_mergeMembers hp.ascending,
          Members.value_of_get? hget]
        cases Members.get? ms k with
        | some b => exact ih b (hp.get? hget) hv
        | none =>
            refine ⟨fun ⟨_, h⟩ => (nomatch h), fun _ => ?_⟩
            -- the value under a new key is taken as it stands
            cases v with
            | null => cases rest <;> cases hv
            | _ => exact hv
      · -- the base is replaced by the patch as a whole
        refine ⟨?_, ?_⟩
        · rintro ⟨ms, hms⟩
          obtain ⟨ms', -, hobj, -⟩ := exists_obj_of_at? hms
          exact absurd ⟨ms', hobj⟩ hbase
        · intro _
          rw [merge_of_not_obj fun ms h => hbase ⟨ms, h⟩]
          exact hnull

end Json

open Json

namespace Store

variable {s s' : Store} {blobs : Blobs} {c : Configuration} {stored : Bool} {path : List String}
  {key : String}

/-- A merge stores the overlay of the settings, or leaves settings that equal it. -/
theorem settings_of_merge (ho : (Configuration.patchOf blobs.protocol).isLeaf = false)
    (h : s.merge blobs = .ok (c, stored, s')) :
    let overlay := (Json.obj s.current.protocol.configData).merge
      ((Configuration.patchOf blobs.protocol).given ["configData"])
    Json.obj c.protocol.configData = overlay
      ∨ c = s.current ∧ overlay.same (.obj s.current.protocol.configData) = true := by
  obtain ⟨f, he, -, hc⟩ := merge_cases h
  obtain ⟨common, visitor, protocol, -, -, hp, rfl⟩ := Configuration.edit_cases he
  have hoverlay := (ProtocolConfig.edit_follows hp ho s.current.protocol).2
  dsimp only
  rw [← hoverlay]
  rcases hc with ⟨-, rfl⟩ | ⟨-, rfl, hsame⟩
  · exact .inl rfl
  · refine .inr ⟨rfl, ?_⟩
    have hprotocol := (Configuration.same_iff.mp hsame).2.2
    unfold ProtocolConfig.same at hprotocol
    exact (Bool.and_eq_true_iff.mp hprotocol).2

/-- A null member of the blob leaves what is in an object, and puts `null` into what
is none. -/
theorem at?_settings_of_null (path : List String)
    (ho : (Configuration.patchOf blobs.protocol).isLeaf = false)
    (h : s.merge blobs = .ok (c, stored, s'))
    (hnull : ((Configuration.patchOf blobs.protocol).given ["configData"]).at? (path ++ [key])
      = some .null) :
    let before := Json.obj s.current.protocol.configData
    let after := Json.obj c.protocol.configData
    ((∃ ms, before.at? path = some (.obj ms)) →
        after.at? (path ++ [key]) = before.at? (path ++ [key]))
      ∧ ((¬ ∃ ms, before.at? path = some (.obj ms)) →
        after.at? (path ++ [key]) = some .null) := by
  dsimp only
  have hpatch := given_proper (Configuration.patchOf_proper blobs.protocol) ["configData"]
  obtain ⟨hkept, hput⟩ := at?_merge_of_null (.obj s.current.protocol.configData) hpatch hnull
  rcases settings_of_merge ho h with hoverlay | ⟨rfl, hsame⟩
  · rw [hoverlay]
    exact ⟨hkept, hput⟩
  · refine ⟨fun _ => rfl, fun hobj => ?_⟩
    -- what is there would have a member at the path, so an object around it
    obtain ⟨w, hw, -⟩ := exists_at?_of_same hsame (hput hobj)
    exact absurd (exists_obj_of_at?_append path hw) hobj

end Store

/-- A patch asks for the same without its null members exactly if each of them stands
in an object that is laid on an object, and in any case for the same up to members
that are `null`. So a null member of a protocol blob leaves the stored setting where
there is an object around it, and is stored where there is none. -/
theorem Store.null_members {base patch : Json} (hb : base.Proper) (hp : patch.Proper)
    {s s' : Store} {blobs : Blobs} {c : Configuration} {stored : Bool}
    (ho : (Configuration.patchOf blobs.protocol).isLeaf = false)
    (h : s.merge blobs = .ok (c, stored, s')) :
    (base.merge patch = base.merge patch.pruned ↔ Meets (some base) patch)
      ∧ (base.merge patch.pruned).pruned = (base.merge patch).pruned
      ∧ let asked := (Configuration.patchOf blobs.protocol).given ["configData"]
        let before := Json.obj s.current.protocol.configData
        let after := Json.obj s'.current.protocol.configData
        (asked = .null → after = before)
          ∧ ∀ path key, asked.at? (path ++ [key]) = some .null →
            ((∃ ms, before.at? path = some (.obj ms)) →
                after.at? (path ++ [key]) = before.at? (path ++ [key]))
              ∧ ((¬ ∃ ms, before.at? path = some (.obj ms)) →
                after.at? (path ++ [key]) = some .null) := by
  refine ⟨merge_pruned_iff hb hp, pruned_merge hb hp, ?_⟩
  obtain ⟨-, -, rfl, -⟩ := Store.merge_cases h
  refine ⟨fun hnull => ?_, fun path key hnull => Store.at?_settings_of_null path ho h hnull⟩
  rcases Store.settings_of_merge ho h with hoverlay | ⟨rfl, -⟩
  · rw [hoverlay, hnull, merge_null]
  · rfl

/-- A member that is `null` next to a setting, and one inside a setting that is new. -/
theorem Store.null_members_of_both :
    let text := Text.Utf8.encode
    let s : Store := ({} : Store).run
      [{ protocol := some (text "\x7b\"configData\":\x7b\"trigger\":\x7b\"mode\":1\x7d\x7d\x7d") }]
    let blobs : Blobs :=
      { protocol := some (text ("\x7b\"configData\":\x7b\"io\":\x7b\"line\":null\x7d,"
          ++ "\"trigger\":\x7b\"mode\":null\x7d\x7d\x7d")) }
    let before := Json.obj s.current.protocol.configData
    let asked := (Configuration.patchOf blobs.protocol).given ["configData"]
    before.merge asked ≠ before.merge asked.pruned
      ∧ (before.merge asked.pruned).pruned = (before.merge asked).pruned
      ∧ ∃ (c : Configuration) (stored : Bool) (s' : Store), s.merge blobs = .ok (c, stored, s')
        ∧ (Json.obj s'.current.protocol.configData).at? ["trigger", "mode"]
          = before.at? ["trigger", "mode"]
        ∧ (Json.obj s'.current.protocol.configData).at? ["io", "line"] = some .null := by
  intro text s blobs before asked
  have hbefore : before.Proper := Store.Reachable.proper ⟨_, rfl⟩
  have hasked : asked.Proper := given_proper (Configuration.patchOf_proper blobs.protocol) _
  have ho : (Configuration.patchOf blobs.protocol).isLeaf = false := by decide +kernel
  have hmode : asked.at? ["trigger", "mode"] = some .null := eq_null_of_same (by decide +kernel)
  have hline : asked.at? ["io", "line"] = some .null := eq_null_of_same (by decide +kernel)
  have htrigger : (before.at? ["trigger", "mode"]).isSome = true := by decide +kernel
  have hio : (before.at? ["io"]).isNone = true := by decide +kernel
  have hio : ¬ ∃ ms, before.at? ["io"] = some (.obj ms) := by
    rintro ⟨ms, hms⟩
    rw [Option.isNone_iff_eq_none.mp hio] at hms
    cases hms
  have hok : (s.merge blobs).toOption.isSome = true := by decide +kernel
  cases h : s.merge blobs with
  | error e =>
      rw [h] at hok
      cases hok
  | ok r =>
      obtain ⟨c, stored, s'⟩ := r
      obtain ⟨hlaid, hpruned, -, hsettings⟩ := Store.null_members hbefore hasked ho h
      obtain ⟨v, hv⟩ := Option.isSome_iff_exists.mp htrigger
      have hdiffer : before.merge asked ≠ before.merge asked.pruned :=
        fun heq => hio (hlaid.mp heq ["io"] "line" hline)
      refine ⟨hdiffer, hpruned, c, stored, s', rfl, ?_, ?_⟩
      · refine (hsettings ["trigger"] "mode" hmode).1 ?_
        exact exists_obj_of_at?_append ["trigger"] hv
      · exact (hsettings ["io"] "line" hline).2 hio

/-- A `null` inside an object that is new is stored: the patch does not ask for the
same as it would without. -/
theorem Store.null_of_new_object :
    let blobs : Blobs :=
      { protocol := some (Text.Utf8.encode
          "\x7b\"configData\":\x7b\"a\":\x7b\"b\":null\x7d\x7d\x7d") }
    let patch := (Configuration.patchOf blobs.protocol).given ["configData"]
    (Json.obj []).merge patch ≠ (Json.obj []).merge patch.pruned
      ∧ ∃ (c : Configuration) (s' : Store), ({} : Store).merge blobs = .ok (c, true, s')
        ∧ (Json.obj c.protocol.configData).at? ["a", "b"] = some .null := by
  intro blobs patch
  have hpatch : patch.Proper := given_proper (Configuration.patchOf_proper blobs.protocol) _
  have hnull : patch.at? ["a", "b"] = some .null := eq_null_of_same (by decide +kernel)
  constructor
  · intro heq
    obtain ⟨ms, hms⟩ := (merge_pruned_iff Proper.empty hpatch).mp heq ["a"] "b" hnull
    cases hms
  · have hstored : (({} : Store).merge blobs).toOption.map (·.2.1) = some true := by
      decide +kernel
    have ho : (Configuration.patchOf blobs.protocol).isLeaf = false := by decide +kernel
    cases h : ({} : Store).merge blobs with
    | error e =>
        rw [h] at hstored
        cases hstored
    | ok r =>
        obtain ⟨c, stored, s'⟩ := r
        rw [h] at hstored
        cases hstored
        refine ⟨c, s', rfl, (Store.at?_settings_of_null ["a"] ho h hnull).2 ?_⟩
        rintro ⟨ms, hms⟩
        cases hms

end CameraDriver
