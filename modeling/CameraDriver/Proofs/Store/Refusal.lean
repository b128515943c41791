/-
Which blobs a configuration refuses, and which of them a merge reports.

A blob is refused if it is not JSON, or if its part does not decode once the
patch lies on what is stored (`Refused`). That is said part by part, without
the order in which a merge goes through them. The order comes in with
`FirstRefused`: a merge fails exactly if some blob is refused, and it names the
first such part, whatever the other blobs are (`merge_eq_error`).
-/
import CameraDriver.Store.Merge

namespace CameraDriver

/-- The place of a part in the order in which parts are decoded. -/
def ConfigPart.place : ConfigPart → Nat
  | .common => 0
  | .visitor => 1
  | .protocol => 2

namespace Configuration

-- ================================================================= refusal

/-- A blob that a part does not take, with the reason. -/
inductive Refused {α : Type} (decode : Json → Except Json.Misfit α) (encoded : Json)
    (blob : Bytes) : String → Prop
  /-- It is not JSON. -/
  | malformed {fault : Json.SyntaxError} (h : Json.parse blob = .error fault) :
      Refused decode encoded blob fault.message
  /-- What is stored does not decode with the patch on it. -/
  | misfit {patch : Json} {m : Json.Misfit} (h : Json.parse blob = .ok patch)
      (hm : decode (encoded.merge patch) = .error m) : Refused decode encoded blob m.message

/-- The blob of a part is refused for a reason. -/
def Refuses (c : Configuration) (blobs : Blobs) : ConfigPart → String → Prop
  | .common, reason => ∃ blob, blobs.common = some blob
      ∧ Refused CommonConfig.decode c.common.encode blob reason
  | .visitor, reason => ∃ blob, blobs.visitor = some blob
      ∧ Refused VisitorConfig.decode c.visitor.encode blob reason
  | .protocol, reason => ∃ blob, blobs.protocol = some blob
      ∧ Refused ProtocolConfig.decode c.protocol.encode blob reason

/-- A part is the first one whose blob is refused. -/
structure FirstRefused (c : Configuration) (blobs : Blobs) (part : ConfigPart) (reason : String) :
    Prop where
  refused : c.Refuses blobs part reason
  first : ∀ earlier : ConfigPart, earlier.place < part.place →
    ∀ reason, ¬ c.Refuses blobs earlier reason

-- =================================================================== parts

variable {α : Type} {decode : Json → Except Json.Misfit α} {encoded : Json} {blob : Option Bytes}
  {e : DriverError}

/-- A part is refused exactly if there is a blob for it, and that is refused. -/
theorem mergePart_eq_error (part : ConfigPart) (base : α) :
    mergePart part decode base encoded blob = .error e
      ↔ ∃ reason, (∃ bytes, blob = some bytes ∧ Refused decode encoded bytes reason)
        ∧ e = .decode part reason := by
  unfold mergePart
  constructor
  · intro h
    split at h
    next => cases h
    next bytes =>
      split at h
      next fault hp =>
        injection h with h
        exact ⟨_, ⟨bytes, rfl, .malformed hp⟩, h.symm⟩
      next patch hp =>
        split at h
        next m hm =>
          injection h with h
          exact ⟨_, ⟨bytes, rfl, .misfit hp hm⟩, h.symm⟩
        next => cases h
  · rintro ⟨reason, ⟨bytes, rfl, hr⟩, rfl⟩
    cases hr with
    | malformed hp =>
        dsimp only
        rw [hp]
    | misfit hp hm =>
        dsimp only
        rw [hp]
        dsimp only
        rw [hm]

/-- A part takes its blob exactly if the blob is not refused. -/
theorem mergePart_eq_ok (part : ConfigPart) (base : α) :
    (∃ a, mergePart part decode base encoded blob = .ok a)
      ↔ ∀ reason, ¬ ∃ bytes, blob = some bytes ∧ Refused decode encoded bytes reason := by
  constructor
  · rintro ⟨a, ha⟩ reason hr
    have he := (mergePart_eq_error part base).mpr ⟨reason, hr, rfl⟩
    rw [ha] at he
    cases he
  · intro h
    cases hm : mergePart part decode base encoded blob with
    | ok a => exact ⟨a, rfl⟩
    | error e =>
        obtain ⟨reason, hr, -⟩ := (mergePart_eq_error part base).mp hm
        exact absurd hr (h reason)

-- ================================================================== merges

variable {c : Configuration} {blobs : Blobs} {part : ConfigPart}

/-- Without blobs nothing is refused. -/
theorem not_refuses_of_isEmpty (h : blobs.isEmpty = true) (part : ConfigPart) (reason : String) :
    ¬ c.Refuses blobs part reason := by
  unfold Blobs.isEmpty at h
  simp only [Bool.and_eq_true, Option.isNone_iff_eq_none] at h
  obtain ⟨⟨hc, hv⟩, hp⟩ := h
  cases part <;> rintro ⟨blob, hb, -⟩
  · rw [hc] at hb
    cases hb
  · rw [hv] at hb
    cases hb
  · rw [hp] at hb
    cases hb

/-- If some blob is refused, one is first. -/
theorem exists_first {part : ConfigPart} {reason : String} (h : c.Refuses blobs part reason) :
    ∃ part reason, c.FirstRefused blobs part reason := by
  by_cases hearlier : ∃ earlier : ConfigPart, earlier.place < part.place
      ∧ ∃ reason, c.Refuses blobs earlier reason
  · obtain ⟨earlier, hlt, reason', h'⟩ := hearlier
    exact exists_first h'
  · refine ⟨part, reason, h, ?_⟩
    intro earlier hlt reason' h'
    exact hearlier ⟨earlier, hlt, reason', h'⟩
termination_by part.place

/-- A merge fails on the first part whose blob is refused. -/
theorem merge_of_first {reason : String} (h : c.FirstRefused blobs part reason) :
    c.merge blobs = .error (.decode part reason) := by
  have hne : ¬ blobs.isEmpty = true := fun he => not_refuses_of_isEmpty he part reason h.refused
  unfold merge
  rw [if_neg hne]
  cases part with
  | common =>
      have hc := (mergePart_eq_error .common c.common).mpr ⟨_, h.refused, rfl⟩
      rw [hc]
      rfl
  | visitor =>
      obtain ⟨common, hc⟩ := (mergePart_eq_ok .common c.common).mpr (h.first .common (by decide))
      have hv := (mergePart_eq_error .visitor c.visitor).mpr ⟨_, h.refused, rfl⟩
      rw [hc, hv]
      rfl
  | protocol =>
      obtain ⟨common, hc⟩ := (mergePart_eq_ok .common c.common).mpr (h.first .common (by decide))
      obtain ⟨visitor, hv⟩ := (mergePart_eq_ok .visitor c.visitor).mpr
        (h.first .visitor (by decide))
      have hp := (mergePart_eq_error .protocol c.protocol).mpr ⟨_, h.refused, rfl⟩
      rw [hc, hv, hp]
      rfl

/-- A merge succeeds if no blob is refused. -/
theorem merge_of_none (h : ∀ part reason, ¬ c.Refuses blobs part reason) :
    ∃ c', c.merge blobs = .ok c' := by
  unfold merge
  by_cases hempty : blobs.isEmpty = true
  · rw [if_pos hempty]
    exact ⟨c, rfl⟩
  · obtain ⟨common, hc⟩ := (mergePart_eq_ok .common c.common).mpr (h .common)
    obtain ⟨visitor, hv⟩ := (mergePart_eq_ok .visitor c.visitor).mpr (h .visitor)
    obtain ⟨protocol, hp⟩ := (mergePart_eq_ok .protocol c.protocol).mpr (h .protocol)
    rw [if_neg hempty, hc, hv, hp]
    exact ⟨_, rfl⟩

/-- A merge fails exactly if some blob is refused; it names the first part
whose blob is. -/
theorem merge_eq_error :
    c.merge blobs = .error e
      ↔ ∃ part reason, c.FirstRefused blobs part reason ∧ e = .decode part reason := by
  constructor
  · intro h
    by_cases hany : ∃ part reason, c.Refuses blobs part reason
    · obtain ⟨_, _, hr⟩ := hany
      obtain ⟨part, reason, hf⟩ := exists_first hr
      have hm := merge_of_first hf
      rw [h] at hm
      exact ⟨part, reason, hf, Except.error.inj hm⟩
    · obtain ⟨c', hm⟩ := merge_of_none fun part reason hr => hany ⟨part, reason, hr⟩
      rw [h] at hm
      cases hm
  · rintro ⟨part, reason, hf, rfl⟩
    exact merge_of_first hf

end Configuration

/-- The store fails as its configuration does. -/
theorem Store.merge_eq_error {s : Store} {blobs : Blobs} {e : DriverError} :
    s.merge blobs = .error e ↔ s.current.merge blobs = .error e := by
  unfold Store.merge
  cases hm : s.current.merge blobs with
  | error e' =>
      constructor
      · intro h
        exact congrArg _ (Except.error.inj h)
      · intro h
        exact congrArg _ (Except.error.inj h)
  | ok next =>
      constructor
      · intro h
        change (if next.same s.current then _ else _ : Except DriverError _) = .error e at h
        split at h <;> cases h
      · intro h
        cases h

end CameraDriver
