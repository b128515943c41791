/-
The stores that merges lead to.

A store has a history: the calls that were merged into it, failed ones included,
which leave it as it is. Two things hold whatever the history is.

What is accepted does not depend on it. A merge asks an edit of the stored
configuration (`Configuration.edit`), and whether the blobs ask one is seen from
the blobs alone (`merge_of_edit`, `merge_of_error`); so two stores accept the same
blobs and complain of the same part with the same words.

The settings that are kept as they came stay proper (`Reachable.proper`): they
are what the reader gave, overlaid with what the reader gave.
-/
import CameraDriver.Proofs.Store.Edit
import CameraDriver.Proofs.Store.Refusal

namespace CameraDriver

-- ============================================================ proper edits

namespace Json

variable {α : Type}

section Records

variable {P : α → Prop} {names : List String} {set : String → Json → α → Except Misfit α}
  {default a : α} {expected : String}

/-- What every member that is set keeps, setting all of them keeps. -/
theorem foldlM_keeps (hset : ∀ name j r r', Json.Proper j → P r → set name j r = .ok r' → P r')
    {pairs : Members} (hpairs : ∀ e ∈ pairs, Json.Proper e.2) {r : α} (hr : P r)
    (h : pairs.foldlM (fun r e => set e.1 e.2 r) r = .ok a) : P a := by
  induction pairs generalizing r with
  | nil =>
      rw [← Except.ok.inj h]
      exact hr
  | cons e rest ih =>
      rw [List.foldlM_cons] at h
      obtain ⟨r', hs, h⟩ := of_bind_eq_ok h
      have hr' := hset e.1 e.2 r r' (hpairs e List.mem_cons_self) hr hs
      exact ih (fun e he => hpairs e (List.mem_cons_of_mem _ he)) hr' h

/-- An array that is read as a record gives its fields in order. -/
theorem foldlM_of_asRecord_arr {items : List Json}
    (h : asRecord expected names set default (.arr items) = .ok a) :
    (names.zip items).foldlM (fun r e => set e.1 e.2 r) default = .ok a := by
  obtain ⟨r, hf, h⟩ := of_bind_eq_ok h
  split at h
  · cases h
  · exact hf.trans h

/-- What setting a field keeps, reading a record keeps. -/
theorem asRecord_keeps {j : Json}
    (hset : ∀ name j r r', Json.Proper j → P r → set name j r = .ok r' → P r') (hd : P default)
    (hj : j.Proper) (h : asRecord expected names set default j = .ok a) : P a := by
  cases hj with
  | obj _ hms => exact foldlM_keeps hset hms hd h
  | arr hitems =>
      refine foldlM_keeps hset ?_ hd (foldlM_of_asRecord_arr h)
      intro e he
      exact hitems e.2 (List.of_mem_zip he).2
  | _ => cases h

end Records

end Json

open Json

namespace ProtocolConfig

variable {patch : Json} {f : ProtocolConfig → ProtocolConfig}

/-- The settings have ordered objects and finite numbers. -/
def Proper (c : ProtocolConfig) : Prop := Json.Proper (.obj c.configData)

/-- A proper value is read as a part with proper settings. -/
theorem decode_proper {j : Json} {c : ProtocolConfig} (hj : j.Proper) (h : decode j = .ok c) :
    c.Proper := by
  have hempty : Proper {} := Json.Proper.empty
  refine asRecord_keeps (P := Proper) ?_ hempty hj h
  intro name j r r' hj hr hset
  split at hset
  next =>
    obtain ⟨t, -, ht⟩ := of_bind_eq_ok hset
    cases ht
    exact hr
  next =>
    obtain ⟨ms, hms, hd⟩ := of_bind_eq_ok hset
    cases hd
    cases j with
    | obj ms =>
        cases hms
        exact hj
    | _ => cases hms
  next =>
    cases hset
    exact hr

/-- What a proper patch asks keeps settings proper. -/
theorem edit_proper {c : ProtocolConfig} (hc : c.Proper) (hp : patch.Proper)
    (h : edit patch = .ok f) : (f c).Proper := by
  rcases edit_cases h with ⟨-, rfl⟩ | ⟨ps, data, protocol, rfl, hd, -, rfl⟩ | ⟨-, a, ha, rfl⟩
  · exact hc
  · rcases editData_cases hd with ⟨-, rfl⟩ | ⟨qs, hqs, rfl⟩
    · exact hc
    · exact hc.merge (hqs ▸ hp.value "configData")
  · exact decode_proper hp ha

/-- Equality of protocol parts, with numbers compared by value. -/
def same (a b : ProtocolConfig) : Bool :=
  a.protocolName == b.protocolName && sameMembers a.configData b.configData

theorem same_comm (a b : ProtocolConfig) : a.same b = b.same a := by
  unfold same
  rw [Bool.beq_comm, sameMembers_comm]

theorem same_self {c : ProtocolConfig} (h : c.Proper) : c.same c = true := by
  have hdata : sameMembers c.configData c.configData = true := Json.Proper.same_self h
  unfold same
  rw [beq_self_eq_true, hdata]
  rfl

end ProtocolConfig

namespace Configuration

variable {α : Type} {f : Configuration → Configuration} {blobs : Blobs}

/-- What a blob says; an absent one says as much as `null`. -/
def patchOf : Option Bytes → Json
  | none => .null
  | some bytes => (Json.parse bytes).toOption.getD .null

/-- What a blob asks for is proper: it was read. -/
theorem patchOf_proper (blob : Option Bytes) : (patchOf blob).Proper := by
  unfold patchOf
  cases blob with
  | none => exact .null
  | some bytes =>
      dsimp only
      cases hp : Json.parse bytes with
      | error e => exact .null
      | ok patch => exact parse_proper hp

/-- What a blob asks of a part is what its patch asks. -/
theorem edit_patchOf {part : ConfigPart} {edit : Json → Except Misfit (α → α)}
    (hnull : edit .null = .ok id) {blob : Option Bytes} {g : α → α}
    (h : editPart part edit blob = .ok g) : edit (patchOf blob) = .ok g := by
  unfold editPart at h
  cases blob with
  | none =>
      rw [← Except.ok.inj h]
      exact hnull
  | some bytes =>
      unfold patchOf
      dsimp only at h ⊢
      cases hp : Json.parse bytes with
      | error e =>
          rw [hp] at h
          cases h
      | ok patch =>
          rw [hp] at h
          change edit patch = .ok g
          dsimp only at h
          cases he : edit patch with
          | error m =>
              rw [he] at h
              cases h
          | ok g' =>
              rw [he] at h
              exact congrArg Except.ok (Except.ok.inj h)

/-- What blobs ask, they ask of each part on its own. -/
theorem edit_cases (h : edit blobs = .ok f) :
    ∃ common visitor protocol, CommonConfig.edit (patchOf blobs.common) = .ok common
      ∧ VisitorConfig.edit (patchOf blobs.visitor) = .ok visitor
      ∧ ProtocolConfig.edit (patchOf blobs.protocol) = .ok protocol
      ∧ f = fun c =>
        { common := common c.common, visitor := visitor c.visitor, protocol := protocol c.protocol } := by
  obtain ⟨common, visitor, protocol, hc, hv, hp, rfl⟩ := edit_parts h
  exact ⟨common, visitor, protocol, edit_patchOf rfl hc, edit_patchOf rfl hv, edit_patchOf rfl hp,
    rfl⟩

/-- The settings of a configuration are proper. -/
def Proper (c : Configuration) : Prop := c.protocol.Proper

/-- An edit leaves a configuration proper. -/
theorem edit_proper {c : Configuration} (hc : c.Proper) (h : edit blobs = .ok f) :
    (f c).Proper := by
  obtain ⟨common, visitor, protocol, -, -, hp, rfl⟩ := edit_cases h
  exact ProtocolConfig.edit_proper hc (patchOf_proper _) hp

/-- Two configurations are equal if their parts are. -/
theorem same_iff {a b : Configuration} :
    a.same b = true ↔
      a.common = b.common ∧ a.visitor = b.visitor ∧ a.protocol.same b.protocol = true := by
  unfold same ProtocolConfig.same
  rw [Bool.and_eq_true, Bool.and_eq_true, Bool.and_eq_true, Bool.and_eq_true, beq_iff_eq,
    beq_iff_eq, and_assoc, and_assoc]

/-- A configuration with proper settings equals itself. -/
theorem same_self {c : Configuration} (h : c.Proper) : c.same c = true :=
  same_iff.mpr ⟨rfl, rfl, ProtocolConfig.same_self h⟩

end Configuration

namespace Store

variable {s : Store} {blobs : Blobs}

-- ================================================================== merges

/-- Blobs that cannot be decoded are not merged. -/
theorem merge_of_error {e : DriverError} (h : Configuration.edit blobs = .error e) (s : Store) :
    s.merge blobs = .error e := by
  unfold merge
  rw [Configuration.merge_eq_edit, h]
  rfl

/-- A merge stores what its blobs ask for, unless that equals what is stored. -/
theorem merge_of_edit {f : Configuration → Configuration} (h : Configuration.edit blobs = .ok f)
    (s : Store) :
    s.merge blobs = .ok
      (if (f s.current).same s.current then (s.current, false, s)
        else (f s.current, true, ⟨f s.current⟩)) := by
  unfold merge
  rw [Configuration.merge_eq_edit, h]
  show (if (f s.current).same s.current then _ else _ : Except DriverError _) = _
  split <;> rfl

/-- What a merge gives: what the blobs ask for, or what is stored if that is
equal. -/
theorem merge_cases {s' : Store} {c : Configuration} {stored : Bool}
    (h : s.merge blobs = .ok (c, stored, s')) :
    ∃ f, Configuration.edit blobs = .ok f ∧ s' = ⟨c⟩
      ∧ ((stored = true ∧ c = f s.current)
        ∨ (stored = false ∧ c = s.current ∧ (f s.current).same s.current = true)) := by
  cases he : Configuration.edit blobs with
  | error e =>
      rw [merge_of_error he] at h
      cases h
  | ok f =>
      rw [merge_of_edit he] at h
      refine ⟨f, rfl, ?_⟩
      split at h
      case isTrue hsame =>
        cases h
        exact ⟨rfl, .inr ⟨rfl, rfl, hsame⟩⟩
      case isFalse =>
        cases h
        exact ⟨rfl, .inl ⟨rfl, rfl⟩⟩

-- =============================================================== histories

/-- The store after a call; a merge that fails leaves it. -/
def after (s : Store) (blobs : Blobs) : Store :=
  match s.merge blobs with
  | .ok (_, _, s') => s'
  | .error _ => s

/-- The store after calls. -/
def run (s : Store) (history : List Blobs) : Store := history.foldl after s

/-- The stores that calls lead to, from the empty one. -/
def Reachable (s : Store) : Prop := ∃ history, s = ({} : Store).run history

/-- After a merge the store is one that can be reached. -/
theorem Reachable.after (h : s.Reachable) (blobs : Blobs) : (s.after blobs).Reachable := by
  obtain ⟨history, rfl⟩ := h
  refine ⟨history ++ [blobs], ?_⟩
  unfold run
  rw [List.foldl_append]
  rfl

/-- Blobs that cannot be decoded leave the store. -/
theorem after_of_error {e : DriverError} (h : Configuration.edit blobs = .error e) (s : Store) :
    s.after blobs = s := by
  unfold after
  rw [merge_of_error h]

/-- Blobs that can be decoded are stored unless they change nothing. -/
theorem after_of_edit {f : Configuration → Configuration} (h : Configuration.edit blobs = .ok f)
    (s : Store) : s.after blobs = if (f s.current).same s.current then s else ⟨f s.current⟩ := by
  unfold after
  rw [merge_of_edit h]
  by_cases hsame : (f s.current).same s.current = true
  · rw [if_pos hsame, if_pos hsame]
  · rw [if_neg hsame, if_neg hsame]

/-- A merge leaves a proper configuration. -/
theorem after_proper (h : s.current.Proper) (blobs : Blobs) : (s.after blobs).current.Proper := by
  cases he : Configuration.edit blobs with
  | error e =>
      rw [after_of_error he]
      exact h
  | ok f =>
      rw [after_of_edit he]
      split
      · exact h
      · exact Configuration.edit_proper h he

/-- A history of merges leaves a proper configuration. -/
theorem run_proper (h : s.current.Proper) (history : List Blobs) :
    (s.run history).current.Proper := by
  induction history generalizing s with
  | nil => exact h
  | cons blobs rest ih => exact ih (after_proper h blobs)

/-- Whatever was merged, the settings are proper. -/
theorem Reachable.proper (h : s.Reachable) : s.current.Proper := by
  obtain ⟨history, rfl⟩ := h
  have hempty : ({} : Store).current.Proper := Json.Proper.empty
  exact run_proper hempty history

-- ============================================================== acceptance

/-- Any two stores take the same blobs, or refuse them for the same part with the
same words; and what a history of calls has led to takes what an empty store
takes. -/
theorem accepts_alike (s s' : Store) (blobs : Blobs) :
    (((∃ r, s.merge blobs = .ok r) ∧ ∃ r, s'.merge blobs = .ok r)
        ∨ ∃ part message, s.merge blobs = .error (.decode part message)
            ∧ s'.merge blobs = .error (.decode part message))
      ∧ ∀ history, (∃ r, (({} : Store).run history).merge blobs = .ok r)
          ↔ ∃ r, ({} : Store).merge blobs = .ok r := by
  cases he : Configuration.edit blobs with
  | ok f =>
      have htaken : ∀ s : Store, ∃ r, s.merge blobs = .ok r := fun s => ⟨_, merge_of_edit he s⟩
      exact ⟨.inl ⟨htaken s, htaken s'⟩, fun history => ⟨fun _ => htaken _, fun _ => htaken _⟩⟩
  | error e =>
      have hrefused : ∀ s : Store, ¬ ∃ r, s.merge blobs = .ok r := by
        rintro s ⟨r, hr⟩
        rw [merge_of_error he] at hr
        cases hr
      obtain ⟨part, message, -, rfl⟩ :=
        Configuration.merge_eq_error.mp (Store.merge_eq_error.mp (merge_of_error he s))
      refine ⟨.inr ⟨part, message, merge_of_error he s, merge_of_error he s'⟩, fun history => ?_⟩
      exact ⟨fun h => absurd h (hrefused _), fun h => absurd h (hrefused _)⟩

end Store

end CameraDriver
