/-
A device whose loops begin before they are cancelled.

The order of a queue (`Site.InTurn`) forbids one thing: that the open of a task comes
back while a loop has not begun that stood in the queue when the open was started. A
scheduler that lets a loop begin before the next stop never gets there. A loop that
stands in the queue is then the task in charge, which is not cancelled, and so no other
task starts an open (`Prompt`). Of such a device every step keeps to the queue
(`Prompt.admits`).
-/
import CameraDriver.Proofs.Device.Overlap

namespace CameraDriver

variable {σ H F : Type}

namespace Device

variable {d d' : Device H F} {q : Queue} {k : LinkTask H} {calls : List (Call H)}
  {pace : Site.Pace} {step : Site.Step}

-- ================================================================== loops

/-- A loop that stands in the queue after a change is in charge, or stood there before;
only a stop cancels one that does. -/
def Enqueued (d : Device H F) (step : Site.Step) (k : LinkTask H) : Prop :=
  k.cancelled = false ∨ k ∈ d.links ∨ step = .stop ∧ d.spawned ≠ []

namespace Enqueued

/-- A task that is left when another one ends stood there before. -/
theorem of_endLink {token : Token} (hk : k ∈ (d.endLink token).links) : Enqueued d step k :=
  .inr (.inl (mem_endLink.mp hk).1)

/-- A task is added, and it is not cancelled. -/
theorem of_concat {links : List (LinkTask H)} {token : Token} {stage : LinkStage H}
    (hold : ∀ k ∈ links, k ∈ d.links) (hk : k ∈ links ++ [{ token := token, stage }]) :
    Enqueued d step k := by
  rcases List.mem_append.mp hk with hk | hk
  · exact .inr (.inl (hold k hk))
  · rw [List.mem_singleton.mp hk]
    exact .inl rfl

/-- A task moves to a stage outside of the queue. -/
theorem of_setStage {token : Token} {stage : LinkStage H} (hstage : stage.isSpawned = false)
    (hk : k ∈ (d.setStage token stage).links) (hst : k.stage.isSpawned = true) :
    Enqueued d step k := by
  rcases mem_setStage hk with ⟨k₀, -, -, rfl⟩ | ⟨hk, -⟩
  · rw [hstage] at hst
    cases hst
  · exact .inr (.inl hk)

end Enqueued

/-- Where the loops come from that stand in the queue after a change. -/
theorem Change.enqueued (hch : Change pace step d calls d') (hk : k ∈ d'.links)
    (hst : k.stage.isSpawned = true) : Enqueued d step k := by
  cases hch with
  | still => exact .inr (.inl hk)
  | beside _ hb => exact .inr (.inl (hb.links ▸ hk))
  | failed _ _ hb _ => exact .of_concat (fun _ hk => hb.links ▸ hk) hk
  | begun _ _ => exact .of_concat (fun _ hk => hk) hk
  | lost _ => exact .of_concat (fun _ hk => hk) hk
  | stopped =>
      rw [stopped_links] at hk
      obtain ⟨k₀, hk₀, -, hstage, -⟩ := mem_withdrawn hk
      rw [hstage] at hst
      exact .inr (.inr ⟨rfl, List.ne_nil_of_mem (mem_spawned.mpr ⟨k₀, hk₀, hst, rfl⟩)⟩)
  | opened _ _ _ => exact .of_setStage rfl hk hst
  | refused _ _ _ => exact .of_setStage rfl hk hst
  | broken _ _ _ => exact .of_setStage rfl hk hst
  | dropped _ _ _ => exact .of_endLink hk
  | ended _ _ _ => exact .of_endLink hk
  | connected _ _ _ => exact .of_endLink (connectedBy_links d _ _ ▸ hk)
  | handedOver _ _ _ => exact .of_concat (fun _ hk => (mem_endLink.mp hk).1) hk
  | retried _ _ _ _ => exact .of_setStage rfl hk hst
  | exhausted _ _ _ _ => exact .of_endLink hk
  | loopEnded _ _ _ => exact .of_endLink (endLink_links_congr (detached_links d) ▸ hk)
  | loopSpent _ _ _ _ => exact .of_endLink (endLink_links_congr (detached_links d) ▸ hk)
  | loopBegun _ _ _ _ =>
      exact .of_setStage rfl (setStage_links_congr _ (detached_links d) ▸ hk) hst
  | woken _ _ _ _ => exact .of_setStage rfl hk hst

-- ================================================================= prompt

/-- No loop that was cancelled stands in the queue, and no open waits for a loop. -/
structure Prompt (q : Queue) (d : Device H F) : Prop where
  ready : ∀ k ∈ d.links, k.stage.isSpawned = true → k.cancelled = false
  clear : ∀ k ∈ d.underWay, q k.token = []

namespace Prompt

theorem fresh (id : DeviceId) (format : ImageFormat) (maxRetry : Nat) :
    (Device.fresh id format maxRetry : Device H F).Prompt Queue.empty :=
  ⟨fun _ hk => (by cases hk), fun _ _ => rfl⟩

/-- Every step keeps to the queue. -/
theorem admits (h : d.Prompt q) (step : Site.Step) : q.Admits d step := by
  cases step with
  | resume now token =>
      intro hopened t ht
      cases hk : d.link? token with
      | none =>
          rw [hk] at hopened
          cases hopened
      | some k =>
          rw [hk] at hopened
          obtain ⟨hm, rfl⟩ := mem_of_link? hk
          have hw : k.stage.isWaiting = true := by
            rw [LinkStage.isWaiting, show k.stage.isOpened = true from hopened, Bool.or_true]
          rw [h.clear k (mem_underWay.mpr ⟨hm, hw⟩)] at ht
          cases ht
  | _ => trivial

/-- While an open of the task in charge is under way no loop stands in the queue. -/
theorem spawned_eq_nil (hx : d.Exclusive)
    (hready : ∀ k ∈ d.links, k.stage.isSpawned = true → k.cancelled = false)
    (hk : k ∈ d.underWay) (hc : k.cancelled = false) : d.spawned = [] := by
  obtain ⟨hk, hw⟩ := mem_underWay.mp hk
  rw [List.eq_nil_iff_forall_not_mem]
  intro t ht
  obtain ⟨l, hl, hst, -⟩ := mem_spawned.mp ht
  -- such a loop would be in charge as well
  obtain rfl := hx.eq_of_live hl hk (hready l hl hst) hc
  cases hstage : l.stage with
  | spawned =>
      rw [hstage] at hw
      cases hw
  | _ =>
      rw [hstage] at hst
      cases hst

/-- An open that was on the way before a change waits for what it waited for. -/
theorem after_of_old (h : d.Prompt q) (hx : d.Exclusive) {k₀ : LinkTask H}
    (hk₀ : k₀ ∈ d.underWay) (ht : k₀.token = k.token)
    (ho : d'.isOpening k.token = true → k₀.stage.isOpening = true) :
    q.after d d' k.token = [] := by
  unfold Queue.after
  split
  case isTrue hnew =>
    rw [Bool.and_eq_true, Bool.not_eq_true'] at hnew
    have hold := hx.isOpening_eq (mem_underWay.mp hk₀).1
    rw [ht, hnew.2, ho hnew.1] at hold
    cases hold
  case isFalse => exact ht ▸ h.clear k₀ hk₀

/-- A change keeps a device prompt, unless it is a stop that finds a loop in the
queue. -/
theorem change (h : d.Prompt q) (hx : d.Exclusive) (hch : Change pace step d calls d')
    (hstop : step = .stop → d.spawned = []) : d'.Prompt (q.after d d') := by
  have hx' := hx.change hch
  have hready : ∀ k ∈ d'.links, k.stage.isSpawned = true → k.cancelled = false := by
    intro k hk hst
    rcases hch.enqueued hk hst with hc | hk | ⟨hs, hne⟩
    · -- it is live when it is handed over
      exact hc
    · -- it was handed over before
      exact h.ready k hk hst
    · -- a stop meets no task that was handed over
      exact absurd (hstop hs) hne
  refine ⟨hready, ?_⟩
  intro k hk
  have hopening := hx'.isOpening_eq (mem_underWay.mp hk).1
  cases hch.origin hx k hk with
  | kept hk₀ ht ho _ => exact h.after_of_old hx hk₀ ht fun hnew => ho (hopening ▸ hnew)
  | stopped hk₀ ht ho _ _ => exact h.after_of_old hx hk₀ ht fun hnew => ho (hopening ▸ hnew)
  | started _ hc ho =>
      by_cases hold : d.isOpening k.token = true
      · -- an open of the same token was under way already
        obtain ⟨k₀, hk₀, ht⟩ := List.any_eq_true.mp hold
        rw [Bool.and_eq_true, beq_iff_eq] at ht
        have hw : k₀.stage.isWaiting = true := by rw [LinkStage.isWaiting, ht.2, Bool.true_or]
        exact h.after_of_old hx (mem_underWay.mpr ⟨hk₀, hw⟩) ht.1 fun _ => ht.2
      · -- a new open: its task is in charge, so no loop waits
        unfold Queue.after
        rw [if_pos (by rw [hopening, ho, Bool.eq_false_iff.mpr hold]; rfl)]
        exact spawned_eq_nil hx' hready hk hc

end Prompt

end Device

namespace Site

variable [Camera σ H F] {s : Site σ H F}

/-- The steps of a device have kept to a queue, and it is prompt. -/
def Queued (s : Site σ H F) : Prop := ∃ q, InTurn q s ∧ s.device.Prompt q

/-- A step keeps to the queue, unless it is a stop that finds a loop there. -/
theorem Queued.step (h : s.Queued) (pace : Pace) {step : Step}
    (hstop : step = .stop → s.device.spawned = []) : (s.apply pace step).Queued := by
  obtain ⟨q, hturn, hprompt⟩ := h
  obtain ⟨calls, hch⟩ := apply_change pace s step
  exact ⟨_, hturn.step pace step (hprompt.admits step),
    hprompt.change hturn.reachable.exclusive hch hstop⟩

/-- What happens to the camera leaves the queue. -/
theorem Queued.camera (h : s.Queued) (camera : σ) : ({ s with camera } : Site σ H F).Queued := by
  obtain ⟨q, hturn, hprompt⟩ := h
  exact ⟨q, hturn.camera camera, hprompt⟩

/-- A stop puts no loop in the queue. -/
theorem stop_spawned (h : s.device.spawned = []) (pace : Pace) :
    (s.apply pace .stop).device.spawned = [] := by
  rw [List.eq_nil_iff_forall_not_mem] at h ⊢
  intro t ht
  obtain ⟨k, hk, hst, rfl⟩ := Device.mem_spawned.mp ht
  rw [show (s.apply pace .stop).device = s.device.stopped from stop_device s,
    Device.stopped_links] at hk
  obtain ⟨k₀, hk₀, ht₀, hstage, -⟩ := Device.mem_withdrawn hk
  exact h k.token (Device.mem_spawned.mpr ⟨k₀, hk₀, hstage ▸ hst, ht₀.symm⟩)

end Site

end CameraDriver
