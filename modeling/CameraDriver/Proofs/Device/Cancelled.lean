/-
What a cancelled link task still does.

A stop cancels the task in charge; the task stays in the list until it goes on
for the last time. By then the device may have been connected anew. A cancelled
task touches neither record nor status and closes what its own open gave, in
every stage but one: a loop that has not begun looks at its cancellation only
after it has closed the connection that the record holds, whosever that is
(`LinkTask.closes`). If it begins late enough, that is a connection of after
the cancellation, and the device is left connected with nothing held
(`cancelled_loop_closes_later_connection`). A scheduler with one queue does not
let this happen: there the record holds nothing when such a loop begins.
-/
import CameraDriver.Proofs.Device.Coherence

namespace CameraDriver

variable {σ H F : Type}

/-- The connection that a cancelled task closes when it goes on. -/
def LinkTask.closes (k : LinkTask H) (d : Device H F) : Option (Connection H) :=
  if k.stage.isSpawned then d.record.handle else k.stage.connection?

/-- The record that a cancelled task leaves when it goes on. -/
def LinkTask.leaves (k : LinkTask H) (d : Device H F) : Record (Connection H) :=
  if k.stage.isSpawned then { d.record with handle := none } else d.record

namespace LinkTask

variable {k : LinkTask H} {d : Device H F}

theorem leaves_eq (h : k.stage.isSpawned = false ∨ d.record.handle = none) :
    k.leaves d = d.record := by
  unfold leaves
  rcases h with h | h
  · rw [h]
    rfl
  · split
    · rw [← h]
    · rfl

theorem closes_eq (h : k.stage.isSpawned = false ∨ d.record.handle = none) :
    k.closes d = k.stage.connection? := by
  unfold closes
  rcases h with h | h
  · rw [h]
    rfl
  · cases hst : k.stage with
    | spawned => exact h
    | _ => rfl

end LinkTask

namespace Device

variable {d d' : Device H F} {k k' : LinkTask H} {calls : List (Call H)} {t : Token}

-- ============================================================ cancellation

/-- A token that comes into the record is a new one. -/
theorem Change.linkTask_new {pace : Site.Pace} {step : Site.Step}
    (hch : Change pace step d calls d') (hr : d'.record.linkTask = some t) :
    d.record.linkTask = some t ∨ t = d.nextToken := by
  cases hch with
  | beside _ hb => exact .inl (hb.linkTask ▸ hr)
  | failed _ _ hb _ => exact .inr ((Option.some.inj hr).symm.trans hb.nextToken)
  | begun _ _ => exact .inr (Option.some.inj hr).symm
  | lost _ => exact .inr (Option.some.inj hr).symm
  | stopped =>
      rw [stopped_record] at hr
      cases hr
  | connected _ _ _ => cases hr
  | exhausted _ _ _ _ => cases hr
  | loopSpent _ _ _ _ => cases hr
  | loopEnded _ _ _ => exact .inl (detached_linkTask d ▸ hr)
  | loopBegun _ _ _ _ => exact .inl (detached_linkTask d ▸ hr)
  | _ => exact .inl hr

/-- A task that is cancelled stays so. -/
theorem Exclusive.cancelled_stays (h : d.Exclusive) {pace : Site.Pace} {step : Site.Step}
    (hch : Change pace step d calls d') (hk : k ∈ d.links) (hc : k.cancelled = true)
    (hk' : k' ∈ d'.links) (ht : k'.token = k.token) : k'.cancelled = true := by
  cases hc' : k'.cancelled with
  | true => rfl
  | false =>
      have hr := ((h.change hch).live k' hk').mp hc'
      rw [ht] at hr
      rcases hch.linkTask_new hr with hr | hnew
      · have hlive := (h.live k hk).mpr hr
        rw [hc] at hlive
        cases hlive
      · exact absurd hnew (Nat.ne_of_lt (h.fresh k hk))

end Device

namespace Site

variable [Camera σ H F]

-- =================================================================== steps

/-- A cancelled task that goes on closes one connection at most. -/
theorem resume_cancelled {s : Site σ H F} {k : LinkTask H} (hx : s.device.Exclusive)
    (hk : k ∈ s.device.links) (hc : k.cancelled = true) (interval now : Nat) :
    let s' := s.resume interval now k.token
    s'.device.record = k.leaves s.device ∧ s'.device.history = s.device.history
      ∧ s'.camera = (s.close? (k.closes s.device)).camera
      ∧ s'.device.log = (s.close? (k.closes s.device)).device.log := by
  intro s'
  have hs' : s' = s.resume interval now k.token := rfl
  unfold resume at hs'
  rw [hx.link?_eq hk] at hs'
  obtain ⟨token, cancelled, stage⟩ := k
  dsimp only at hc hs' ⊢
  subst hc
  cases stage with
  | spawned =>
      -- the record is emptied and what it held is closed, then the task ends
      have hend : s' = ((s.onDevice (·.modifyRecord ({ · with handle := none }))).close?
          s.device.record.handle).onDevice (·.endLink token) := hs'
      rw [hend]
      show (close? _ s.device.record.handle).device.record = _
        ∧ (close? _ s.device.record.handle).device.history = _
        ∧ (close? _ s.device.record.handle).camera = (s.close? s.device.record.handle).camera
        ∧ (close? _ s.device.record.handle).device.log
          = (s.close? s.device.record.handle).device.log
      cases s.device.record.handle <;> exact ⟨rfl, rfl, rfl, rfl⟩
  | opened attempt result =>
      rw [hs']
      cases result <;> exact ⟨rfl, rfl, rfl, rfl⟩
  | _ =>
      rw [hs']
      exact ⟨rfl, rfl, rfl, rfl⟩

/-- An open that reaches the camera leaves record and status alone. -/
theorem reach_entry (token : Token) (s : Site σ H F) :
    (s.reach token).device.record = s.device.record
      ∧ (s.reach token).device.history = s.device.history := by
  unfold reach
  split
  next =>
    dsimp only
    split <;> exact ⟨rfl, rfl⟩
  next => exact ⟨rfl, rfl⟩

omit [Camera σ H F] in
/-- An open that breaks off leaves record and history. -/
theorem lose_entry (token : Token) (s : Site σ H F) :
    (s.lose token).device.record = s.device.record
      ∧ (s.lose token).device.history = s.device.history := by
  unfold lose
  split <;> exact ⟨rfl, rfl⟩

-- =================================================================== inert

/-- A cancelled task stays cancelled. When its open comes back, neither record
nor status changes. When it goes on it publishes nothing and closes one
connection at most: the one that its own open gave, and the record is left as
it is, unless the task is a loop that has not begun; that closes what the
record holds. With steps that keep to the queue the record then holds
nothing. -/
theorem Reachable.cancelled_task {s : Site σ H F} (h : s.Reachable) {k : LinkTask H}
    (hk : k ∈ s.device.links) (hc : k.cancelled = true) :
    (∀ (pace : Pace) (now : Nat),
        let s' := s.apply pace (.resume now k.token)
        s'.device.record = k.leaves s.device ∧ s'.device.history = s.device.history
          ∧ s'.camera = (s.close? (k.closes s.device)).camera
          ∧ s'.device.log = (s.close? (k.closes s.device)).device.log)
      ∧ (∀ (pace : Pace) (step : Step), step = .reach k.token ∨ step = .lose k.token →
          (s.apply pace step).device.record = s.device.record
            ∧ (s.apply pace step).device.history = s.device.history)
      ∧ (∀ (pace : Pace) (step : Step), ∀ k' ∈ (s.apply pace step).device.links,
          k'.token = k.token → k'.cancelled = true)
      ∧ (k.stage.isSpawned = false ∨ s.device.record.handle = none ∨ (∃ q, InTurn q s) →
          k.leaves s.device = s.device.record ∧ k.closes s.device = k.stage.connection?) := by
  have hx := h.exclusive
  refine ⟨?_, ?_, ?_, ?_⟩
  · -- when it goes on
    intro pace now
    exact resume_cancelled hx hk hc pace.interval now
  · -- when its open comes back
    rintro pace step (rfl | rfl)
    · exact reach_entry k.token s
    · exact lose_entry k.token s
  · -- it is never taken out of its cancelled state
    intro pace step k' hk' ht
    obtain ⟨calls, hch⟩ := apply_change pace s step
    exact hx.cancelled_stays hch hk hc hk' ht
  · -- where no late loop finds a connection in the record
    intro hsafe
    have hbare : k.stage.isSpawned = false ∨ s.device.record.handle = none := by
      rcases hsafe with hst | hnone | ⟨q, hq⟩
      · exact .inl hst
      · exact .inr hnone
      · cases hst : k.stage.isSpawned with
        | false => exact .inl rfl
        | true => exact .inr (hq.attached.bare k hk hst hc)
    exact ⟨k.leaves_eq hbare, k.closes_eq hbare⟩

/-- A loop that is cancelled before it begins, and begins after the device was
connected anew: it closes the new connection, and the device is connected with
nothing held. -/
theorem cancelled_loop_closes_later_connection :
    let s := (simulated ⟨"a"⟩ 3).run ⟨10, 100⟩
      [.connect, .reach 0, .resume 0 0, .linkDown 1, .stop, .connect, .reach 2, .resume 0 2]
    let s' := s.apply ⟨10, 100⟩ (.resume 0 1)
    (s.device.links.map fun k => (k.token, k.cancelled)) = [(1, true)]
      ∧ (s.device.record.handle.map (·.number)) = some 2 ∧ s'.device.status = .connected
      ∧ s'.device.record.handle.isNone = true ∧ s'.camera.openHandles ⟨"a"⟩ = 0 := by
  decide +kernel

/-- A connect task that was cancelled while the device was opened closes what
its open gave. -/
theorem Reachable.cancelled_task_of_connect :
    let s := (simulated ⟨"a"⟩ 3).run ⟨10, 100⟩ [.connect, .stop, .reach 0]
    let s' := s.apply ⟨10, 100⟩ (.resume 0 0)
    s'.device.record = s.device.record ∧ s'.device.history = s.device.history
      ∧ s'.camera.openHandles ⟨"a"⟩ = 0 := by
  intro s s'
  have hhandles : s'.camera.openHandles ⟨"a"⟩ = 0 := by decide +kernel
  have hr : s.Reachable := (Reachable.fresh _ _ _ _).run _ _
  obtain ⟨k, hk, hst⟩ : ∃ k, s.device.links = [k] ∧ k.token = 0 ∧ k.cancelled = true
      ∧ k.stage.isSpawned = false := ⟨_, rfl, rfl, rfl, rfl⟩
  obtain ⟨ht, hc, hstage⟩ := hst
  have hmem : k ∈ s.device.links := hk ▸ List.mem_singleton.mpr rfl
  obtain ⟨hgo, -, -, hsafe⟩ := Reachable.cancelled_task hr hmem hc
  obtain ⟨hrecord, hhistory, -, -⟩ := hgo ⟨10, 100⟩ 0
  rw [ht, (hsafe (.inl hstage)).1] at hrecord
  rw [ht] at hhistory
  exact ⟨hrecord, hhistory, hhandles⟩

end Site

end CameraDriver
