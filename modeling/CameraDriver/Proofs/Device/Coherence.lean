/-
The status of a device agrees with what its record holds and with where the
task in charge stands.

# Two invariants

`Phased` holds in any order of steps. The stage of the task in charge tells
the status, and while no task is in charge the device is connected, or
disconnected with nothing held. Only a loop that has not begun can be in
charge of a device that holds a connection.

What `Phased` leaves open is whether a connected device holds a connection.
It may not: a loop that was cancelled before its first step closes whatever
the record holds when it begins, and that may be a connection of after the
cancellation. `Attached` excludes this for steps that keep to the queue. Such
a loop is ahead of every open that is started later, so when an open of the
task in charge comes back, no loop is left that has not begun.
-/
import CameraDriver.Proofs.Device.Exclusive

namespace CameraDriver

variable {σ H F : Type}

-- ================================================================ stages

namespace LinkStage

/-- The status of a device whose task in charge stands in a stage. -/
def shown : LinkStage H → Status
  | .opening (.retry number _) => .reconnecting number
  | .opened (.retry number _) _ => .reconnecting number
  | .sleeping (made + 1) _ _ => .reconnecting (made + 1)
  | _ => .disconnected

/-- The attempts that a loop that has begun may make. -/
def budget? : LinkStage H → Option Nat
  | .opening (.retry _ max) => some max
  | .opened (.retry _ max) _ => some max
  | .sleeping _ max _ => some max
  | _ => none

/-- An attempt is within the budget, and there is one left to sleep for. -/
def InBudget : LinkStage H → Prop
  | .opening (.retry number max) => 1 ≤ number ∧ number ≤ max
  | .opened (.retry number max) _ => 1 ≤ number ∧ number ≤ max
  | .sleeping made max _ => made < max
  | _ => True

theorem shown_opened (attempt : Attempt) (result : Except HardwareError (Connection H)) :
    (LinkStage.opened attempt result).shown = (LinkStage.opening attempt : LinkStage H).shown := by
  cases attempt <;> rfl

theorem inBudget_opened (attempt : Attempt) (result : Except HardwareError (Connection H)) :
    (LinkStage.opened attempt result).InBudget
      ↔ (LinkStage.opening attempt : LinkStage H).InBudget := by
  cases attempt <;> exact Iff.rfl

/-- A task in charge never shows its device as connected. -/
theorem shown_ne_connected (stage : LinkStage H) : stage.shown ≠ .connected := by
  unfold shown
  split <;> exact fun h => by cases h

/-- A number of attempts that is shown is in the budget of the loop. -/
theorem budget_of_shown {stage : LinkStage H} {number : Nat} (hb : stage.InBudget)
    (hs : stage.shown = .reconnecting number) :
    ∃ max, stage.budget? = some max ∧ 1 ≤ number ∧ number ≤ max := by
  cases stage with
  | opening attempt =>
      cases attempt with
      | first => cases hs
      | retry n max =>
          injection hs with hs
          subst hs
          exact ⟨max, rfl, hb⟩
  | opened attempt result =>
      cases attempt with
      | first => cases hs
      | retry n max =>
          injection hs with hs
          subst hs
          exact ⟨max, rfl, hb⟩
  | spawned => cases hs
  | sleeping made max due =>
      cases made with
      | zero => cases hs
      | succ made =>
          injection hs with hs
          subst hs
          exact ⟨max, rfl, Nat.succ_le_succ (Nat.zero_le _), Nat.le_of_lt hb⟩

end LinkStage

namespace Device

-- ================================================================ phased

/-- What a task in charge says of its device. -/
structure Fits (d : Device H F) (k : LinkTask H) : Prop where
  shown : d.status = k.stage.shown
  inBudget : k.stage.InBudget
  bare : k.stage.isSpawned = false → d.record.handle = none

/-- The task in charge tells the status; without one the device is connected,
or disconnected with nothing held. -/
structure Phased (d : Device H F) : Prop where
  idle : d.record.linkTask = none →
    d.status = .connected ∨ d.status = .disconnected ∧ d.record.handle = none
  busy : ∀ k ∈ d.links, k.cancelled = false → d.Fits k

variable {d d' : Device H F} {token : Token} {k : LinkTask H} {calls : List (Call H)}

/-- What a task says depends on the status and the connection held. -/
theorem Fits.congr (h : d.Fits k) (hs : d'.status = d.status)
    (hh : d'.record.handle = d.record.handle) : d'.Fits k := by
  obtain ⟨h1, h2, h3⟩ := h
  refine ⟨?_, h2, ?_⟩
  · rw [hs]
    exact h1
  · rw [hh]
    exact h3

namespace Phased

/-- A device with no task in charge only has to be idle. -/
theorem of_idle (hx : d.Exclusive) (hr : d.record.linkTask = none)
    (h : d.status = .connected ∨ d.status = .disconnected ∧ d.record.handle = none) :
    d.Phased := by
  refine ⟨fun _ => h, ?_⟩
  intro k hk hc
  have := (hx.live k hk).mp hc
  rw [hr] at this
  cases this

/-- Status, connection and token stay, and no task is new. -/
theorem of_subset (h : d.Phased) (hs : d'.status = d.status)
    (hh : d'.record.handle = d.record.handle) (hr : d'.record.linkTask = d.record.linkTask)
    (hl : ∀ k ∈ d'.links, k ∈ d.links) : d'.Phased := by
  refine ⟨?_, ?_⟩
  · rw [hr, hs, hh]
    exact h.idle
  · intro k hk hc
    exact (h.busy k (hl k hk) hc).congr hs hh

/-- A device whose one task in charge fits it. -/
theorem of_charged (hx : d.Exclusive) (hk : k ∈ d.links) (hc : k.cancelled = false)
    (hfits : d.Fits k) : d.Phased := by
  have hr := (hx.live k hk).mp hc
  refine ⟨?_, ?_⟩
  · intro h
    rw [hr] at h
    cases h
  · intro k' hk' hc'
    rw [hx.eq_of_live hk' hk hc' hc]
    exact hfits

/-- An open comes back; nothing else happens. -/
theorem of_opened (h : d.Phased) (hx : d.Exclusive) {attempt : Attempt}
    (hk : d.link? token = some k) (hst : k.stage = .opening attempt)
    (result : Except HardwareError (Connection H))
    (hl : d'.links = (d.setStage token (.opened attempt result)).links)
    (hs : d'.status = d.status) (hh : d'.record.handle = d.record.handle)
    (hr : d'.record.linkTask = d.record.linkTask) : d'.Phased := by
  refine ⟨?_, ?_⟩
  · -- the record is as it was
    rw [hr, hs, hh]
    exact h.idle
  · -- a live task still fits what the device shows
    intro k' hk' hc'
    rw [hl] at hk'
    refine Fits.congr (d := d) ?_ hs hh
    rcases mem_setStage hk' with ⟨k₀, hk₀, ht, rfl⟩ | ⟨hk', -⟩
    · -- the task whose open came back shows the same attempt
      obtain ⟨h1, h2, h3⟩ := h.busy k₀ hk₀ hc'
      rw [hx.eq_of_link? hk hk₀ ht, hst] at h1 h2 h3
      refine ⟨?_, ?_, ?_⟩
      · rw [h1]
        exact (LinkStage.shown_opened attempt result).symm
      · exact (LinkStage.inBudget_opened attempt result).mpr h2
      · exact fun _ => h3 rfl
    · -- any other task
      exact h.busy k' hk' hc'

/-- The task in charge moves on to a stage that fits. -/
theorem of_moved (hx' : d'.Exclusive) {stage : LinkStage H}
    (hk : d.link? token = some k) (hc : k.cancelled = false)
    (hl : d'.links = (d.setStage token stage).links)
    (hfits : d'.Fits { k with stage }) : d'.Phased := by
  have hm := mem_of_setStage stage hk
  rw [← hl] at hm
  exact of_charged hx' hm hc hfits

/-- Only the connection is taken away. -/
theorem detached (h : d.Phased) : d.detached.Phased := by
  refine ⟨?_, ?_⟩
  · intro hr
    rw [detached_linkTask] at hr
    rw [detached_status, detached_handle]
    rcases h.idle hr with hcon | ⟨hdis, -⟩
    · exact .inl hcon
    · exact .inr ⟨hdis, rfl⟩
  · intro k hk hc
    rw [detached_links] at hk
    obtain ⟨h1, h2, -⟩ := h.busy k hk hc
    exact ⟨(detached_status d).trans h1, h2, fun _ => detached_handle d⟩

/-- Every change keeps stages and status in step. -/
theorem change {pace : Site.Pace} {step : Site.Step} (h : d.Phased) (hx : d.Exclusive)
    (hch : Change pace step d calls d') : d'.Phased := by
  have hx' := hx.change hch
  cases hch with
  | still => exact h
  | beside _ hb => exact h.of_subset hb.status hb.handle hb.linkTask (fun k hk => hb.links ▸ hk)
  | failed _ _ _ _ =>
      exact of_charged hx' List.mem_concat_self rfl ⟨rfl, trivial, fun h => by cases h⟩
  | begun hr hs =>
      rcases h.idle hr with hcon | ⟨hdis, hnone⟩
      · exact absurd hcon hs
      · exact of_charged hx' List.mem_concat_self rfl ⟨hdis, trivial, fun _ => hnone⟩
  | lost _ =>
      exact of_charged hx' List.mem_concat_self rfl ⟨rfl, trivial, fun h => by cases h⟩
  | stopped =>
      refine of_idle hx' (by rw [stopped_record]) (.inr ⟨stopped_status d, ?_⟩)
      rw [stopped_record]
  | opened hk hst handle => exact h.of_opened hx hk hst _ rfl rfl rfl rfl
  | refused hk hst e => exact h.of_opened hx hk hst _ rfl rfl rfl rfl
  | broken hk hst e => exact h.of_opened hx hk hst _ rfl rfl rfl rfl
  | dropped _ _ _ => exact h.of_subset rfl rfl rfl (fun k hk => (mem_endLink.mp hk).1)
  | ended _ _ _ => exact h.of_subset rfl rfl rfl (fun k hk => (mem_endLink.mp hk).1)
  | connected _ _ _ => exact of_idle hx' rfl (.inl (connectedBy_status _ _ _))
  | handedOver hk hst hc =>
      exact of_charged hx' List.mem_concat_self rfl ⟨rfl, trivial, fun h => by cases h⟩
  | @retried _ _ _ number max _ _ hk hst hc hlt =>
      obtain ⟨h1, h2, h3⟩ := h.busy _ (mem_of_link? hk).1 hc
      rw [hst] at h1 h2 h3
      refine of_moved hx' hk hc rfl ⟨?_, hlt, fun _ => h3 rfl⟩
      -- at least one attempt was made, so the sleeping loop shows it
      cases number with
      | zero => exact absurd h2.1 (by decide)
      | succ n => exact h1
  | exhausted hk hst hc _ =>
      have hfits := h.busy _ (mem_of_link? hk).1 hc
      exact of_idle hx' rfl (.inr ⟨rfl, hfits.bare (by rw [hst]; rfl)⟩)
  | loopEnded hk hst hc =>
      exact h.detached.of_subset rfl rfl rfl (fun k hk => (mem_endLink.mp hk).1)
  | loopSpent hk hst hc _ =>
      exact of_idle hx' rfl (.inr ⟨rfl, detached_handle d⟩)
  | loopBegun hk hst hc hmax =>
      obtain ⟨h1, -, -⟩ := h.busy _ (mem_of_link? hk).1 hc
      refine of_moved hx' hk hc (setStage_links_congr _ (detached_links d)) ⟨?_, hmax, ?_⟩
      · rw [hst] at h1
        exact (detached_status d).trans h1
      · exact fun _ => detached_handle d
  | woken hk hst hc _ =>
      obtain ⟨-, h2, h3⟩ := h.busy _ (mem_of_link? hk).1 hc
      rw [hst] at h2 h3
      exact of_moved hx' hk hc rfl
        ⟨rfl, ⟨Nat.succ_le_succ (Nat.zero_le _), h2⟩, fun _ => h3 rfl⟩

end Phased

end Device

/-- In every state stages and status are in step. -/
theorem Site.Reachable.phased [Camera σ H F] {s : Site σ H F} (h : s.Reachable) :
    s.device.Phased := by
  have hboth : s.device.Exclusive ∧ s.device.Phased := by
    refine Reachable.invariant (P := fun d => d.Exclusive ∧ d.Phased) ?_ ?_ h
    · intro id format maxRetry
      refine ⟨(Reachable.fresh s.camera id format maxRetry).exclusive, ?_, ?_⟩
      · intro _
        exact .inr ⟨rfl, rfl⟩
      · intro k hk
        cases hk
    · intro pace step d calls d' ⟨hx, hp⟩ hch
      exact ⟨hx.change hch, hp.change hx hch⟩
  exact hboth.2

-- ============================================================== attached

/-- Whether a task waits for its open, or has it back and has not gone on. -/
def LinkStage.isWaiting (stage : LinkStage H) : Bool := stage.isOpening || stage.isOpened

namespace Device

variable {d d' : Device H F} {q : Queue} {token : Token} {k : LinkTask H}
  {calls : List (Call H)}

/-- Of a task that is there it is told by its stage whether an open is on the
way. -/
theorem Exclusive.isOpening_eq (h : d.Exclusive) (hk : k ∈ d.links) :
    d.isOpening k.token = k.stage.isOpening := by
  rw [Bool.eq_iff_iff]
  unfold isOpening
  rw [List.any_eq_true]
  constructor
  · rintro ⟨k', hk', ho⟩
    rw [Bool.and_eq_true, beq_iff_eq] at ho
    rw [← h.eq_of_token hk' hk ho.1]
    exact ho.2
  · intro ho
    refine ⟨k, hk, ?_⟩
    rw [ho, Bool.and_true, beq_iff_eq]

/-- The token of the next task has no open on the way. -/
theorem Exclusive.isOpening_next (h : d.Exclusive) : d.isOpening d.nextToken = false := by
  unfold isOpening
  rw [List.any_eq_false]
  intro k hk ho
  rw [Bool.and_eq_true, beq_iff_eq] at ho
  exact Nat.ne_of_lt (h.fresh k hk) ho.1

theorem mem_spawned {t : Token} :
    t ∈ d.spawned ↔ ∃ l ∈ d.links, l.stage.isSpawned = true ∧ l.token = t := by
  unfold spawned
  simp only [List.mem_map, List.mem_filter, and_assoc]

/-- A connected device holds a connection. What could take it away is a loop
that has not begun: a cancelled one finds nothing to close, and each one is in
the queue ahead of the open that the task in charge waits for. -/
structure Attached (q : Queue) (d : Device H F) : Prop where
  held : d.status = .connected → d.record.handle.isSome = true
  bare : ∀ l ∈ d.links, l.stage.isSpawned = true → l.cancelled = true → d.record.handle = none
  queued : ∀ k ∈ d.links, k.cancelled = false → k.stage.isWaiting = true →
    ∀ l ∈ d.links, l.stage.isSpawned = true → l.token ∈ q k.token

namespace Attached

/-- An open that is started by a step waits for all loops that have not
begun. -/
theorem queue_of_new {l : LinkTask H} (ht : d'.isOpening token = true)
    (hf : d.isOpening token = false) (hl : l ∈ d'.links) (hst : l.stage.isSpawned = true) :
    l.token ∈ q.after d d' token := by
  unfold Queue.after
  rw [ht, hf]
  exact mem_spawned.mpr ⟨l, hl, hst, rfl⟩

/-- The queue in front of an open never gets shorter than what is left to
begin of it. -/
theorem queue_of_old {l : LinkTask H} (hq : l.token ∈ q token) (hl : l ∈ d'.links)
    (hst : l.stage.isSpawned = true) : l.token ∈ q.after d d' token := by
  unfold Queue.after
  split
  · exact mem_spawned.mpr ⟨l, hl, hst, rfl⟩
  · exact hq

/-- No open is started and no loop is spawned. -/
theorem of_waiting (h : d.Attached q)
    (hback : ∀ k' ∈ d'.links, k'.cancelled = false → k'.stage.isWaiting = true →
      ∃ k ∈ d.links, k.cancelled = false ∧ k.stage.isWaiting = true ∧ k.token = k'.token)
    (hspawn : ∀ l' ∈ d'.links, l'.stage.isSpawned = true → l' ∈ d.links)
    (hheld : d'.status = .connected → d'.record.handle.isSome = true)
    (hbare : d.record.handle = none → d'.record.handle = none) : d'.Attached (q.after d d') := by
  refine ⟨hheld, ?_, ?_⟩
  · intro l hl hst hc
    exact hbare (h.bare l (hspawn l hl hst) hst hc)
  · intro k' hk' hc hw l hl hst
    obtain ⟨k, hk, hck, hwk, ht⟩ := hback k' hk' hc hw
    refine queue_of_old ?_ hl hst
    rw [← ht]
    exact h.queued k hk hck hwk l (hspawn l hl hst) hst

/-- Status and connection stay, tasks may end. -/
theorem of_subset (h : d.Attached q) (hs : d'.status = d.status)
    (hh : d'.record.handle = d.record.handle) (hl : ∀ k ∈ d'.links, k ∈ d.links) :
    d'.Attached (q.after d d') := by
  refine h.of_waiting ?_ ?_ ?_ ?_
  · intro k hk hc hw
    exact ⟨k, hl k hk, hc, hw, rfl⟩
  · intro l hl' _
    exact hl l hl'
  · rw [hs, hh]
    exact h.held
  · rw [hh]
    exact id

/-- An open comes back; nothing else happens. -/
theorem of_opened (h : d.Attached q) (hx : d.Exclusive) {attempt : Attempt}
    (hk : d.link? token = some k) (hst : k.stage = .opening attempt)
    (result : Except HardwareError (Connection H))
    (hl : d'.links = (d.setStage token (.opened attempt result)).links)
    (hs : d'.status = d.status) (hh : d'.record.handle = d.record.handle) :
    d'.Attached (q.after d d') := by
  refine h.of_waiting ?_ ?_ ?_ ?_
  · -- a task that waits has waited before
    intro k' hk' hc hw
    rw [hl] at hk'
    rcases mem_setStage hk' with ⟨k₀, hk₀, ht, rfl⟩ | ⟨hk', -⟩
    · refine ⟨k₀, hk₀, hc, ?_, rfl⟩
      rw [hx.eq_of_link? hk hk₀ ht, hst]
      rfl
    · exact ⟨k', hk', hc, hw, rfl⟩
  · -- a task that was handed over is an old one
    intro l hl' hsp
    rw [hl] at hl'
    rcases mem_setStage hl' with ⟨k₀, -, -, rfl⟩ | ⟨hl', -⟩
    · cases hsp
    · exact hl'
  · -- the status and the record are as they were
    rw [hs, hh]
    exact h.held
  · rw [hh]
    exact id

/-- The device is not connected and holds nothing, and no task in charge
waits for an open. -/
theorem of_bare (hs : d'.status ≠ .connected) (hh : d'.record.handle = none)
    (hw : ∀ k ∈ d'.links, k.cancelled = false → k.stage.isWaiting = false) : d'.Attached q := by
  refine ⟨fun h => absurd h hs, fun _ _ _ _ => hh, ?_⟩
  intro k hk hc hw'
  rw [hw k hk hc] at hw'
  cases hw'

/-- The same, with no task in charge. -/
theorem of_idle (hx' : d'.Exclusive) (hr : d'.record.linkTask = none)
    (hs : d'.status ≠ .connected) (hh : d'.record.handle = none) : d'.Attached q := by
  refine of_bare hs hh ?_
  intro k hk hc
  have := (hx'.live k hk).mp hc
  rw [hr] at this
  cases this

/-- The same, with a task in charge that does not wait. -/
theorem of_charged (hx' : d'.Exclusive) (hk : k ∈ d'.links) (hc : k.cancelled = false)
    (hw : k.stage.isWaiting = false) (hs : d'.status ≠ .connected)
    (hh : d'.record.handle = none) : d'.Attached q := by
  refine of_bare hs hh ?_
  intro k' hk' hc'
  rw [hx'.eq_of_live hk' hk hc' hc]
  exact hw

/-- The task in charge has just started its open. -/
theorem of_started (hx' : d'.Exclusive) (hk : k ∈ d'.links) (hc : k.cancelled = false)
    (hnew : d'.isOpening k.token = true) (hold : d.isOpening k.token = false)
    (hs : d'.status ≠ .connected) (hh : d'.record.handle = none) :
    d'.Attached (q.after d d') := by
  refine ⟨fun h => absurd h hs, fun _ _ _ _ => hh, ?_⟩
  intro k' hk' hc' _ l hl hst
  rw [hx'.eq_of_live hk' hk hc' hc]
  exact queue_of_new hnew hold hl hst

/-- The link goes down, and a loop is put in charge. It finds the connection
that was held, but it is not cancelled. -/
theorem of_lost (h : d.Attached q) (hx' : d.lost.Exclusive) {q' : Queue} :
    d.lost.Attached q' := by
  have hm : { token := d.nextToken, stage := .spawned } ∈ d.lost.links :=
    List.mem_concat_self
  refine ⟨fun hs => (by cases hs), ?_, ?_⟩
  · intro l hl hst hc
    rcases List.mem_append.mp hl with hl | hl
    · exact h.bare l hl hst hc
    · rw [List.mem_singleton.mp hl] at hc
      cases hc
  · intro k hk hc hw
    rw [hx'.eq_of_live hk hm hc rfl] at hw
    cases hw

/-- A task connects the device. In turn it comes after every loop of before
its open, so that none is left to begin. -/
theorem of_connected (h : d.Attached q) {c : Connection H} {now : Nat}
    (hx' : (d.connectedBy token c).Exclusive) (hadm : q.Admits d (.resume now token))
    (hk : d.link? token = some k) (hst : k.stage.connection? = some c)
    (hc : k.cancelled = false) {q' : Queue} : (d.connectedBy token c).Attached q' := by
  obtain ⟨hm, ht⟩ := mem_of_link? hk
  have hopened : k.stage.isOpened = true := by
    cases hs : k.stage with
    | opened attempt result => rfl
    | _ => rw [hs] at hst; cases hst
  have hnone : ∀ l ∈ d.links, l.stage.isSpawned = false := by
    intro l hl
    by_contra hsp
    rw [Bool.not_eq_false] at hsp
    have hq := h.queued k hm hc (by rw [LinkStage.isWaiting, hopened, Bool.or_true]) l hl hsp
    rw [ht] at hq
    exact hadm (by rw [hk]; exact hopened) l.token hq (mem_spawned.mpr ⟨l, hl, hsp, rfl⟩)
  refine ⟨fun _ => by rw [connectedBy_record]; rfl, ?_, ?_⟩
  · intro l hl hsp
    rw [connectedBy_links] at hl
    rw [hnone l (mem_endLink.mp hl).1] at hsp
    cases hsp
  · intro k' hk' hc'
    have := (hx'.live k' hk').mp hc'
    rw [connectedBy_record] at this
    cases this

/-- A change that keeps to the queue leaves a connected device with its
connection. -/
theorem change {pace : Site.Pace} {step : Site.Step} (h : d.Attached q) (hx : d.Exclusive)
    (hp : d.Phased) (hadm : q.Admits d step) (hch : Change pace step d calls d') :
    d'.Attached (q.after d d') := by
  have hx' := hx.change hch
  cases hch with
  | still => exact h.of_subset rfl rfl (fun k hk => hk)
  | beside _ hb => exact h.of_subset hb.status hb.handle (fun k hk => hb.links ▸ hk)
  | failed _ _ hb _ =>
      exact (h.of_subset hb.status hb.handle (fun k hk => hb.links ▸ hk)).of_lost hx'
  | begun hr hs =>
      rcases hp.idle hr with hcon | ⟨-, hnone⟩
      · exact absurd hcon hs
      · have hm : { token := d.nextToken, stage := .opening .first } ∈ d.begun.links :=
          List.mem_concat_self
        exact of_started hx' hm rfl (hx'.isOpening_eq hm) hx.isOpening_next hs hnone
  | lost _ => exact h.of_lost hx'
  | stopped =>
      refine of_idle hx' (by rw [stopped_record]) ?_ (by rw [stopped_record])
      rw [stopped_status]
      exact fun h => by cases h
  | opened hk hst handle => exact h.of_opened hx hk hst _ rfl rfl rfl
  | refused hk hst e => exact h.of_opened hx hk hst _ rfl rfl rfl
  | broken hk hst e => exact h.of_opened hx hk hst _ rfl rfl rfl
  | dropped _ _ _ => exact h.of_subset rfl rfl (fun k hk => (mem_endLink.mp hk).1)
  | ended _ _ _ => exact h.of_subset rfl rfl (fun k hk => (mem_endLink.mp hk).1)
  | connected hk hst hc => exact h.of_connected hx' hadm hk hst hc
  | handedOver hk hst hc =>
      have hfits := hp.busy _ (mem_of_link? hk).1 hc
      exact of_charged hx' List.mem_concat_self rfl rfl
        (fun h => by cases h) (hfits.bare (by rw [hst]; rfl))
  | @retried _ now _ number max _ _ hk hst hc _ =>
      obtain ⟨h1, -, h3⟩ := hp.busy _ (mem_of_link? hk).1 hc
      rw [hst] at h1 h3
      have hm := mem_of_setStage (.sleeping number max (now + pace.interval)) hk
      refine of_charged hx' hm hc rfl ?_ (h3 rfl)
      show d.status ≠ .connected
      rw [h1]
      exact fun h => by cases h
  | exhausted hk hst hc _ =>
      have hfits := hp.busy _ (mem_of_link? hk).1 hc
      exact of_idle hx' rfl (fun h => by cases h) (hfits.bare (by rw [hst]; rfl))
  | @loopEnded _ _ token k hk hst hc =>
      have hnone := h.bare k (mem_of_link? hk).1 (by rw [hst]; rfl) hc
      refine h.of_subset (detached_status d) ?_ ?_
      · rw [hnone]
        exact detached_handle d
      · intro k' hk'
        rw [endLink_links_congr (detached_links d)] at hk'
        exact (mem_endLink.mp hk').1
  | loopSpent hk hst hc _ =>
      exact of_idle hx' rfl (fun h => by cases h) (detached_handle d)
  | @loopBegun _ now _ _ hk hst hc _ =>
      obtain ⟨h1, -, -⟩ := hp.busy _ (mem_of_link? hk).1 hc
      rw [hst] at h1
      have hm := mem_of_setStage (.sleeping 0 d.record.maxRetry (now + pace.interval)) hk
      rw [← setStage_links_congr _ (detached_links d)] at hm
      refine of_charged hx' hm hc rfl ?_ (detached_handle d)
      show d.detached.status ≠ .connected
      rw [detached_status, h1]
      exact fun h => by cases h
  | @woken _ _ _ made max _ _ hk hst hc _ =>
      obtain ⟨-, -, h3⟩ := hp.busy _ (mem_of_link? hk).1 hc
      rw [hst] at h3
      have hm := mem_of_setStage (.opening (.retry (made + 1) max)) hk
      refine of_started hx' hm hc (hx'.isOpening_eq hm) ?_ (fun h => by cases h) (h3 rfl)
      rw [hx.isOpening_eq (mem_of_link? hk).1, hst]
      rfl

end Attached

/-- Only a device that holds nothing gets a connection, and nothing is closed
for it. -/
theorem Phased.installs_bare {pace : Site.Pace} {step : Site.Step} (h : d.Phased)
    (hch : Change pace step d calls d') (he : d'.record.linkEpoch ≠ d.record.linkEpoch) :
    d.record.handle = none ∧ d'.log = d.log := by
  cases hch with
  | beside _ hb => exact absurd hb.linkEpoch he
  | failed _ _ hb _ => exact absurd hb.linkEpoch he
  | stopped => exact absurd (congrArg Record.linkEpoch (stopped_record d)) he
  | connected hk hst hc =>
      have hfits := h.busy _ (mem_of_link? hk).1 hc
      have hnone : d.record.handle = none := by
        refine hfits.bare ?_
        cases hs : LinkTask.stage _ with
        | spawned => rw [hs] at hst; cases hst
        | _ => rfl
      refine ⟨hnone, ?_⟩
      show (Device.noteClosed _ d.record.handle).log = d.log
      rw [hnone]
      rfl
  | loopEnded _ _ _ => exact absurd (detached_linkEpoch d) he
  | loopSpent _ _ _ _ => exact absurd (detached_linkEpoch d) he
  | loopBegun _ _ _ _ => exact absurd (detached_linkEpoch d) he
  | _ => exact absurd rfl he

end Device

-- ============================================================= coherence

namespace Site

/-- While steps keep to the queue a connected device holds its connection. -/
theorem InTurn.attached [Camera σ H F] {q : Queue} {s : Site σ H F} (h : InTurn q s) :
    s.device.Attached q := by
  have hall : s.device.Exclusive ∧ s.device.Phased ∧ s.device.Attached q := by
    refine InTurn.invariant (P := fun q d => d.Exclusive ∧ d.Phased ∧ d.Attached q) ?_ ?_ h
    · -- a device that was just created has no task and holds nothing
      intro id format maxRetry
      have hr := Reachable.fresh s.camera id format maxRetry
      refine ⟨hr.exclusive, hr.phased, ?_, ?_, ?_⟩
      · intro hs
        cases hs
      · intro l hl
        cases hl
      · intro k hk
        cases hk
    · -- one step that keeps to the queue
      intro pace step q d calls d' ⟨hx, hp, ha⟩ hadm hch
      exact ⟨hx.change hch, hp.change hx hch, ha.change hx hp hadm hch⟩
  exact hall.2.2

/-- While steps keep to the queue, status, connection and task in charge
agree. The device is connected exactly if it holds a connection and no task is
in charge. A number of attempts is shown only with a task in charge and nothing
held, and it is at least one and at most what the loop has found as its budget
when it began. A device that is neither connected nor in the charge of a task
is disconnected and holds nothing. And a step that installs a connection finds
none held, and closes none. -/
theorem InTurn.coherent [Camera σ H F] {q : Queue} {s : Site σ H F} (h : InTurn q s) :
    (s.device.status = .connected
        ↔ s.device.record.handle.isSome = true ∧ s.device.record.linkTask = none)
      ∧ (∀ number, s.device.status = .reconnecting number →
          s.device.record.handle = none
            ∧ ∃ k ∈ s.device.links, k.cancelled = false
              ∧ s.device.record.linkTask = some k.token
              ∧ ∃ max, k.stage.budget? = some max ∧ 1 ≤ number ∧ number ≤ max)
      ∧ (s.device.record.linkTask = none → s.device.status ≠ .connected →
          s.device.status = .disconnected ∧ s.device.record.handle = none)
      ∧ ∀ (pace : Pace) (step : Step),
          (s.apply pace step).device.record.linkEpoch ≠ s.device.record.linkEpoch →
          s.device.record.handle = none ∧ (s.apply pace step).device.log = s.device.log := by
  have hx := h.reachable.exclusive
  have hp := h.reachable.phased
  have ha := h.attached
  -- with a task in charge its stage tells the status
  have hbusy : ∀ t, s.device.record.linkTask = some t →
      ∃ k ∈ s.device.links, k.cancelled = false ∧ k.token = t ∧ s.device.Fits k := by
    intro t ht
    obtain ⟨k, hk, rfl⟩ := hx.charged t ht
    have hc := (hx.live k hk).mpr ht
    exact ⟨k, hk, hc, rfl, hp.busy k hk hc⟩
  refine ⟨⟨?_, ?_⟩, ?_, ?_, ?_⟩
  · -- connected, so held, and a task in charge would show another status
    intro hs
    refine ⟨ha.held hs, ?_⟩
    cases ht : s.device.record.linkTask with
    | none => rfl
    | some t =>
        obtain ⟨k, -, -, -, hfits⟩ := hbusy t ht
        exact absurd (hfits.shown.symm.trans hs) k.stage.shown_ne_connected
  · -- held with no task in charge: a device that is down holds nothing
    rintro ⟨hh, hr⟩
    rcases hp.idle hr with hs | ⟨-, hnone⟩
    · -- a number is shown by the task in charge alone
      exact hs
    · -- no task in charge and not connected, so down
      rw [hnone] at hh
      cases hh
  · -- the epoch moves only where a connection is installed
    intro number hs
    cases ht : s.device.record.linkTask with
    | none =>
        rcases hp.idle ht with hs' | ⟨hs', -⟩ <;> rw [hs] at hs' <;> cases hs'
    | some t =>
        obtain ⟨k, hk, hc, rfl, hfits⟩ := hbusy t ht
        have hshown := hfits.shown.symm.trans hs
        refine ⟨hfits.bare ?_, k, hk, hc, rfl, LinkStage.budget_of_shown hfits.inBudget hshown⟩
        cases hst : k.stage with
        | spawned => rw [hst] at hshown; cases hshown
        | _ => rfl
  · intro hr hs
    rcases hp.idle hr with hs' | hs'
    · exact absurd hs' hs
    · exact hs'
  · intro pace step he
    obtain ⟨calls, hch⟩ := apply_change pace s step
    exact hp.installs_bare hch he

/-- A connected device whose link went down is at its first attempt. -/
theorem InTurn.coherent_reconnecting :
    let s := (simulated ⟨"a"⟩ 3).run ⟨10, 100⟩
      [.connect, .reach 0, .resume 0 0, .linkDown 1, .resume 1 1, .resume 11 1]
    s.device.status = .reconnecting 1 ∧ s.device.record.handle = none
      ∧ ∃ k ∈ s.device.links, k.cancelled = false ∧ s.device.record.linkTask = some k.token
        ∧ ∃ max, k.stage.budget? = some max ∧ 1 ≤ 1 ∧ 1 ≤ max := by
  intro s
  have hs : s.device.status = .reconnecting 1 := by decide +kernel
  have hfresh : InTurn Queue.empty (simulated ⟨"a"⟩ 3) := .fresh _ _ _ _
  have hk : KeepsTurn ⟨10, 100⟩ Queue.empty (simulated ⟨"a"⟩ 3)
      [.connect, .reach 0, .resume 0 0, .linkDown 1, .resume 1 1, .resume 11 1] := by
    decide +kernel
  obtain ⟨q, hq⟩ := hfresh.run hk
  obtain ⟨-, h, -, -⟩ := InTurn.coherent hq
  exact ⟨hs, h 1 hs⟩

end Site

end CameraDriver
