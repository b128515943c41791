/-
How many attempts of a reconnect loop have failed, and what the record says of
it.

A run tells of every loop how many of its attempts have failed: `failures`
counts the steps in which the loop goes on from an open that gave an error. Of
a loop that was started by a loss of the link the record says just that. So it
does of one that a failed connect has started, once an attempt of it has
failed; but before that it still says what an earlier loop has left behind.

# What is left behind

A loop that gives up leaves its budget in the record. A stop, a connection and
a loss of the link take it back, and a caller of connect does not. `leftBehind`
reads this off the run: it is zero, or the budget of the last loop that gave
up, if nothing has taken it back since.

# The invariant

`Counts` holds of the run and the device it leads to. What carries it over a
step is that every loop has made as many attempts as have failed, plus the one
it is at (`LinkStage.made`), and that the budget of the device stays while it
is not connected, so that what is left behind is still the budget when the next
loop begins. A loop that may make no attempt leaves a budget of zero, and there
the record has to be zero already; this is why `Counts.budget` is needed.
-/
import CameraDriver.Proofs.Device.Budget
import CameraDriver.Proofs.Device.Frame
import CameraDriver.Proofs.Device.LinkLoss

namespace CameraDriver

variable {σ H F : Type}

-- ================================================================ stages

namespace LinkStage

/-- The attempts of a loop that have failed. -/
def made : LinkStage H → Nat
  | .opening (.retry number _) => number - 1
  | .opened (.retry number _) _ => number - 1
  | .sleeping made _ _ => made
  | _ => 0

/-- Whether a loop is to go on from an attempt that has failed. -/
def isFailure : LinkStage H → Bool
  | .opened (.retry ..) (.error _) => true
  | _ => false

theorem made_opened (attempt : Attempt) (result : Except HardwareError (Connection H)) :
    (LinkStage.opened attempt result).made = (LinkStage.opening attempt : LinkStage H).made := by
  cases attempt <;> rfl

theorem budget?_opened (attempt : Attempt) (result : Except HardwareError (Connection H)) :
    (LinkStage.opened attempt result).budget?
      = (LinkStage.opening attempt : LinkStage H).budget? := by
  cases attempt <;> rfl

theorem isFailure_eq {stage : LinkStage H} (h : stage.isFailure = true) :
    ∃ number max e, stage = .opened (.retry number max) (.error e) := by
  unfold isFailure at h
  split at h
  next number max e => exact ⟨number, max, e, rfl⟩
  next => cases h

end LinkStage

def Site.Step.isStop : Site.Step → Bool
  | .stop => true
  | _ => false

/-- Only the stop is a stop. -/
theorem Site.Step.eq_stop {step : Site.Step} (h : step.isStop = true) : step = .stop := by
  cases step with
  | stop => rfl
  | _ => cases h

-- ================================================================= events

namespace Device

/-- The task that a step moves on, unless it is cancelled. -/
def mover? (d : Device H F) : Site.Step → Option (LinkTask H)
  | .resume _ token => (d.link? token).filter (!·.cancelled)
  | _ => none

/-- The loop that goes on from an attempt that has failed. -/
def failed? (d : Device H F) (step : Site.Step) : Option Token :=
  ((d.mover? step).filter (·.stage.isFailure)).map (·.token)

/-- The budget of the loop that gives up: it is moved on, and that leaves the
device not connected, with no task in charge. A loop that has not begun goes by
the budget that the record holds. -/
def gaveUp? (d : Device H F) (step : Site.Step) (d' : Device H F) : Option Nat :=
  if d'.record.linkTask.isNone && !d'.status.isConnected then
    (d.mover? step).map fun k => k.stage.budget?.getD d.record.maxRetry
  else none

/-- The loop that is started where no task is in charge. -/
def lost? (d d' : Device H F) : Option Token :=
  if d.record.linkTask.isNone && d'.record.reconnectLoops != d.record.reconnectLoops then
    d'.record.linkTask
  else none

variable {d d' : Device H F} {step : Site.Step} {token : Token} {k : LinkTask H}

/-- A task in charge is moved by a step of its own. -/
theorem mover?_of_link? (now : Nat) (hk : d.link? token = some k) (hc : k.cancelled = false) :
    d.mover? (.resume now token) = some k := by
  unfold mover?
  simp [hk, hc]

theorem mover?_eq_some (h : d.mover? step = some k) :
    ∃ now, step = .resume now k.token ∧ d.link? k.token = some k ∧ k.cancelled = false := by
  cases step with
  | resume now token =>
      unfold mover? at h
      obtain ⟨hk, hc⟩ := Option.filter_eq_some_iff.mp h
      refine ⟨now, ?_, ?_, by simpa using hc⟩ <;> rw [(mem_of_link? hk).2]
      exact hk
  | _ => cases h

theorem failed?_eq_some (h : d.failed? step = some token) :
    ∃ now number max k e, step = .resume now token ∧ d.link? token = some k
      ∧ k.cancelled = false ∧ k.stage = .opened (.retry number max) (.error e) := by
  unfold failed? at h
  obtain ⟨k, hk, rfl⟩ := Option.map_eq_some_iff.mp h
  obtain ⟨hmover, hfail⟩ := Option.filter_eq_some_iff.mp hk
  obtain ⟨now, hstep, hlink, hc⟩ := mover?_eq_some hmover
  obtain ⟨number, max, e, hst⟩ := LinkStage.isFailure_eq hfail
  exact ⟨now, number, max, k, e, hstep, hlink, hc, hst⟩

/-- Where the loop in charge goes on with an error, an attempt has failed. -/
theorem failed?_of_link? {number max : Nat} {e : HardwareError} (now : Nat)
    (hk : d.link? token = some k) (hc : k.cancelled = false)
    (hst : k.stage = .opened (.retry number max) (.error e)) :
    d.failed? (.resume now token) = some token := by
  unfold failed?
  rw [mover?_of_link? now hk hc, Option.filter_some, if_pos (by rw [hst]; rfl), Option.map_some,
    (mem_of_link? hk).2]

theorem gaveUp?_of_mover (hk : d.mover? step = some k) (hr : d'.record.linkTask = none)
    (hs : d'.status = .disconnected) :
    d.gaveUp? step d' = some (k.stage.budget?.getD d.record.maxRetry) := by
  unfold gaveUp?
  rw [hr, hs, hk]
  rfl

theorem gaveUp?_of_still (h : d.mover? step = none) : d.gaveUp? step d' = none := by
  unfold gaveUp?
  rw [h]
  simp

theorem gaveUp?_of_charged (h : d'.record.linkTask = some token) : d.gaveUp? step d' = none := by
  unfold gaveUp?
  rw [h]
  rfl

theorem gaveUp?_of_connected (h : d'.status = .connected) : d.gaveUp? step d' = none := by
  unfold gaveUp?
  rw [h]
  simp [Status.isConnected]

/-- After a task has given up none is in charge. -/
theorem linkTask_of_gaveUp? {max : Nat} (h : d.gaveUp? step d' = some max) :
    d'.record.linkTask = none := by
  unfold gaveUp? at h
  split at h
  case isTrue hnone => simp_all
  case isFalse => cases h

theorem lost?_of_charged (h : d.record.linkTask = some token) : d.lost? d' = none := by
  unfold lost?
  rw [h]
  rfl

theorem lost?_of_loops (h : d'.record.reconnectLoops = d.record.reconnectLoops) :
    d.lost? d' = none := by
  unfold lost?
  simp [h]

/-- After the link was lost a loop is in charge. -/
theorem linkTask_of_lost? (h : d.lost? d' = some token) : d'.record.linkTask = some token := by
  unfold lost? at h
  split at h
  case isTrue => exact h
  case isFalse => cases h

/-- Without a task in charge there is none to move on. -/
theorem Exclusive.mover?_of_free (h : d.Exclusive) (hr : d.record.linkTask = none)
    (step : Site.Step) : d.mover? step = none := by
  cases hk : d.mover? step with
  | none => rfl
  | some k =>
      obtain ⟨now, -, hlink, hc⟩ := mover?_eq_some hk
      have ht := h.linkTask_eq hlink hc
      rw [hr] at ht
      cases ht

/-- A loop that gives up has been in charge, and is not any more. -/
theorem Exclusive.gaveUp?_of_same (h : d.Exclusive)
    (hr : d'.record.linkTask = d.record.linkTask) : d.gaveUp? step d' = none := by
  cases ht : d.record.linkTask with
  | none => exact gaveUp?_of_still (h.mover?_of_free ht step)
  | some token => exact gaveUp?_of_charged (hr.trans ht)

end Device

-- ================================================================== runs

namespace Moment

def failed? (m : Moment σ H F) : Option Token := m.before.device.failed? m.step

def gaveUp? (m : Moment σ H F) : Option Nat := m.before.device.gaveUp? m.step m.after.device

def lost? (m : Moment σ H F) : Option Token := m.before.device.lost? m.after.device

/-- Whether what is left behind is taken back: the device is stopped,
connected, or loses its link. -/
def clears (m : Moment σ H F) : Bool :=
  m.step.isStop || m.after.device.status.isConnected || m.lost?.isSome

end Moment

namespace Site

/-- The attempts of a loop that have failed in a run. -/
def failures (token : Token) (trace : List (Moment σ H F)) : Nat :=
  trace.countP (·.failed? == some token)

/-- The budget of the last loop that gave up in a run, unless it was taken back
since. -/
def leftBehind : List (Moment σ H F) → Nat
  | [] => 0
  | m :: earlier => m.gaveUp?.getD (if m.clears then 0 else leftBehind earlier)

/-- Whether the device was stopped in a run, with no task put in charge since. -/
def isStopped : List (Moment σ H F) → Bool
  | [] => false
  | m :: earlier => m.step.isStop || isStopped earlier && m.after.device.record.linkTask.isNone

variable {m : Moment σ H F} {trace : List (Moment σ H F)} {token : Token}

/-- A failed attempt of a loop is counted for it. -/
theorem failures_cons_self (h : m.failed? = some token) :
    failures token (m :: trace) = failures token trace + 1 :=
  List.countP_cons_of_pos (by simp [h])

/-- A step without one counts none. -/
theorem failures_cons_ne (h : m.failed? ≠ some token) :
    failures token (m :: trace) = failures token trace :=
  List.countP_cons_of_neg (by simp [h])

/-- A loop that gives up leaves its budget behind. -/
theorem leftBehind_of_gaveUp {max : Nat} (h : m.gaveUp? = some max) :
    leftBehind (m :: trace) = max := by
  rw [leftBehind, h, Option.getD_some]

/-- A step that clears the count leaves nothing behind. -/
theorem leftBehind_of_cleared (h : m.gaveUp? = none) (hc : m.clears = true) :
    leftBehind (m :: trace) = 0 := by
  rw [leftBehind, h, Option.getD_none, if_pos hc]

/-- A step that neither stops a device nor loses its link takes back what is
left behind of a connected one only. -/
theorem connected_of_clears (hstop : m.step.isStop = false) (hlost : m.lost? = none)
    (h : m.clears = true) : m.after.device.status = .connected :=
  status_of_isConnected (by simpa [Moment.clears, hstop, hlost] using h)

/-- What is left behind stays, if a step that takes it back finds nothing. -/
theorem leftBehind_of_kept (h : m.gaveUp? = none)
    (hc : m.clears = true → leftBehind trace = 0) :
    leftBehind (m :: trace) = leftBehind trace := by
  by_cases hclears : m.clears = true
  · rw [leftBehind_of_cleared h hclears, hc hclears]
  · rw [leftBehind, h, Option.getD_none, if_neg hclears]

end Site

-- ================================================================ unused

namespace Site

variable [Camera σ H F] {s : Site σ H F} {trace : List (Moment σ H F)}

/-- A token that was not handed out stands for no loop of the run. -/
theorem Taken.unused (h : Taken trace s) :
    ∀ token, s.device.nextToken ≤ token →
      failures token trace = 0 ∧ ∀ m ∈ trace, m.lost? ≠ some token := by
  induction h with
  | fresh camera id format maxRetry => exact fun token _ => ⟨rfl, fun m hm => by cases hm⟩
  | camera camera _ ih => exact ih
  | @step trace s pace step htaken ih =>
      have hx := htaken.reachable.exclusive
      have hx' := (htaken.reachable.step pace step).exclusive
      obtain ⟨calls, hch⟩ := apply_change pace s step
      obtain ⟨hnext, -⟩ := hch.tokens
      intro token ht
      obtain ⟨hnone, hlost⟩ := ih token (Nat.le_trans hnext ht)
      refine ⟨?_, ?_⟩
      · rw [failures_cons_ne ?_, hnone]
        -- a loop that goes on has its token already
        intro hfail
        obtain ⟨-, -, -, k, -, -, hk, -, -⟩ := Device.failed?_eq_some hfail
        obtain ⟨hm, rfl⟩ := Device.mem_of_link? hk
        exact Nat.not_lt.mpr (Nat.le_trans hnext ht) (hx.fresh k hm)
      · intro m hm hloss
        rcases List.mem_cons.mp hm with rfl | hm
        · obtain ⟨k, hk, rfl⟩ := hx'.charged token (Device.linkTask_of_lost? hloss)
          exact Nat.not_lt.mpr ht (hx'.fresh k hk)
        · exact hlost m hm hloss

end Site

-- ================================================================ counts

/-- One task stands where another one stood, as far as attempts go. A loop that
begins takes the budget of the record. -/
structure LinkTask.Continues (maxRetry : Nat) (k k' : LinkTask H) : Prop where
  token : k'.token = k.token
  made : k'.stage.made = k.stage.made
  budget : k'.stage.budget? = k.stage.budget? ∨ k'.stage.budget? = some maxRetry

namespace Device

/-- The tasks that are not cancelled stand where they stood. -/
def Continues (d d' : Device H F) : Prop :=
  ∀ k' ∈ d'.links, k'.cancelled = false →
    ∃ k ∈ d.links, k.cancelled = false ∧ k.Continues d.record.maxRetry k'

variable {d d' : Device H F} {token : Token} {k : LinkTask H}

/-- Tasks that stay as they are continue. -/
theorem continues_of_subset (h : ∀ k ∈ d'.links, k ∈ d.links) : d.Continues d' :=
  fun k hk hc => ⟨k, h k hk, hc, rfl, rfl, .inl rfl⟩

/-- Tasks continue when another one ends. -/
theorem continues_of_endLink (h : d'.links = (d.endLink token).links) : d.Continues d' :=
  continues_of_subset fun _ hk => (mem_endLink.mp (h ▸ hk)).1

/-- Tasks continue when one moves to a stage of the same count and budget. -/
theorem Exclusive.continues_of_setStage (hx : d.Exclusive) {stage : LinkStage H}
    (hk : d.link? token = some k) (hl : d'.links = (d.setStage token stage).links)
    (hmade : stage.made = k.stage.made)
    (hbudget : stage.budget? = k.stage.budget? ∨ stage.budget? = some d.record.maxRetry) :
    d.Continues d' := by
  intro k' hk' hc
  rw [hl] at hk'
  rcases mem_setStage hk' with ⟨k₀, hk₀, ht, rfl⟩ | ⟨hk', -⟩
  · rw [← hx.eq_of_link? hk hk₀ ht] at hmade hbudget
    exact ⟨k₀, hk₀, hc, rfl, hmade, hbudget⟩
  · exact ⟨k', hk', hc, rfl, rfl, .inl rfl⟩

/-- An open comes back. -/
theorem Exclusive.continues_of_opened (hx : d.Exclusive) {attempt : Attempt}
    {result : Except HardwareError (Connection H)} (hk : d.link? token = some k)
    (hst : k.stage = .opening attempt)
    (hl : d'.links = (d.setStage token (.opened attempt result)).links) : d.Continues d' :=
  hx.continues_of_setStage hk hl (by rw [hst, LinkStage.made_opened])
    (.inl (by rw [hst, LinkStage.budget?_opened]))

/-- A loop that takes over from a failed connect has made no attempt, as the
connect had. -/
theorem continues_handedOver {e : HardwareError} (hk : d.link? token = some k)
    (hst : k.stage = .opened .first (.error e)) (hc : k.cancelled = false) :
    d.Continues (d.handedOver token) := by
  intro k' hk' hc'
  obtain ⟨hm, ht⟩ := mem_of_link? hk
  rcases List.mem_append.mp hk' with hk' | hk'
  · exact ⟨k', (mem_endLink.mp hk').1, hc', rfl, rfl, .inl rfl⟩
  · rw [List.mem_singleton.mp hk']
    refine ⟨k, hm, hc, ht.symm, ?_, ?_⟩ <;> rw [hst]
    · rfl
    · exact .inl rfl

/-- The task in charge stays in charge and stands where it stood. A loop may be
noted only if a task was in charge. -/
structure Stays (d d' : Device H F) : Prop where
  linkTask : d'.record.linkTask = d.record.linkTask
  retryCount : d'.record.retryCount = d.record.retryCount
  loops : d.record.linkTask = none → d'.record.reconnectLoops = d.record.reconnectLoops
  connected : d'.status = .connected → d.status = .connected
  live : d.Continues d'

/-- A device that closes its connection keeps count. -/
theorem Stays.of_detached (hr : d'.record = d.detached.record) (hs : d'.status = d.detached.status)
    (hlive : d.Continues d') : d.Stays d' where
  linkTask := by rw [hr, detached_record]
  retryCount := by rw [hr, detached_record]
  loops := fun _ => by rw [hr, detached_record]
  connected := fun hcon => by rwa [hs, detached_status] at hcon
  live := hlive

end Device

namespace Site

/-- What the record says of the task in charge. -/
structure Shows (trace : List (Moment σ H F)) (d : Device H F) (k : LinkTask H) : Prop where
  failures : failures k.token trace = k.stage.made
  count : d.record.retryCount = if k.stage.made = 0 then leftBehind trace else k.stage.made
  budget : ∀ max, k.stage.budget? = some max → max = d.record.maxRetry
  byLoss : ∀ m ∈ trace, m.lost? = some k.token → leftBehind trace = 0

/-- The count of the record, as the run that leads to the device tells it. -/
structure Counts (trace : List (Moment σ H F)) (d : Device H F) : Prop where
  idle : d.record.linkTask = none → d.record.retryCount = leftBehind trace
  live : ∀ k ∈ d.links, k.cancelled = false → Shows trace d k
  budget : leftBehind trace = 0
    ∨ leftBehind trace = d.record.maxRetry ∧ d.status ≠ .connected
  stopped : isStopped trace = true → d.record.linkTask = none ∧ leftBehind trace = 0

namespace Counts

variable {trace : List (Moment σ H F)} {m : Moment σ H F} {token : Token} {k : LinkTask H}

/-- Nothing changes of what the record says, nor of what it should. -/
theorem of_stays (h : Counts trace m.before.device) (hx : m.before.device.Exclusive)
    (hp : m.before.device.Phased) (hstop : m.step.isStop = false) (hfailed : m.failed? = none)
    (hmax : m.before.device.status ≠ .connected →
      m.after.device.record.maxRetry = m.before.device.record.maxRetry)
    (hstays : m.before.device.Stays m.after.device) : Counts (m :: trace) m.after.device := by
  obtain ⟨hr, hcount, hloops, hs, hlive⟩ := hstays
  have hlost : m.lost? = none := by
    cases ht : m.before.device.record.linkTask with
    | none => exact Device.lost?_of_loops (hloops ht)
    | some token => exact Device.lost?_of_charged ht
  have hleft : leftBehind (m :: trace) = leftBehind trace := by
    refine leftBehind_of_kept (hx.gaveUp?_of_same hr) ?_
    -- the step takes something back only if the device was connected already
    intro hclears
    rcases h.budget with hnone | ⟨-, hdown⟩
    · exact hnone
    · exact absurd (hs (connected_of_clears hstop hlost hclears)) hdown
  refine ⟨?_, ?_, ?_, ?_⟩
  · -- no task in charge
    rw [hr, hcount, hleft]
    exact h.idle
  · -- the task in charge goes on from one of the same count
    intro k' hk' hc'
    obtain ⟨k, hk, hc, hcont⟩ := hlive k' hk' hc'
    obtain ⟨hfailures, hcount', hbudget, hloss⟩ := h.live k hk hc
    have hdown : m.before.device.status ≠ .connected := by
      rw [(hp.busy k hk hc).shown]
      exact k.stage.shown_ne_connected
    refine ⟨?_, ?_, ?_, ?_⟩
    · rw [failures_cons_ne (by simp [hfailed]), hcont.token, hcont.made]
      exact hfailures
    · rw [hcount, hleft, hcont.made]
      exact hcount'
    · intro max hmax'
      rw [hmax hdown]
      rcases hcont.budget with hsame | hnew
      · exact hbudget max (hsame ▸ hmax')
      · rw [hnew] at hmax'
        exact (Option.some.inj hmax').symm
    · intro m' hm' hloss'
      rw [hleft]
      rcases List.mem_cons.mp hm' with rfl | hm'
      · rw [hlost] at hloss'
        cases hloss'
      · exact hloss m' hm' (hcont.token ▸ hloss')
  · -- what was left behind is still zero, or the budget
    rw [hleft]
    rcases h.budget with hnone | ⟨hleft', hdown⟩
    · exact .inl hnone
    · exact .inr ⟨hleft'.trans (hmax hdown).symm, fun hcon => hdown (hs hcon)⟩
  · -- a device that was stopped and has not been connected since
    intro hstopped
    rw [isStopped, hstop, Bool.false_or, Bool.and_eq_true] at hstopped
    rw [hr, hleft]
    exact h.stopped hstopped.1

/-- A task is put in charge that has made no attempt. -/
theorem of_charged (h : Counts trace m.before.device) (stage : LinkStage H)
    (hx : m.before.device.Exclusive) (hfree : m.before.device.record.linkTask = none)
    (hunused : failures m.before.device.nextToken trace = 0)
    (hstop : m.step.isStop = false)
    (hmax : m.before.device.status ≠ .connected →
      m.after.device.record.maxRetry = m.before.device.record.maxRetry)
    (hr : m.after.device.record.linkTask = some m.before.device.nextToken)
    (hl : m.after.device.links
      = m.before.device.links ++ [{ token := m.before.device.nextToken, stage }])
    (hs : m.after.device.status ≠ .connected)
    (hmade : stage.made = 0) (hnone : stage.budget? = none)
    (hcount : m.after.device.record.retryCount = leftBehind (m :: trace))
    (hleft : leftBehind (m :: trace) = 0
      ∨ leftBehind (m :: trace) = leftBehind trace)
    (hloss : ∀ m' ∈ m :: trace, m'.lost? = some m.before.device.nextToken →
      leftBehind (m :: trace) = 0) : Counts (m :: trace) m.after.device := by
  have hstill : m.failed? = none := by
    show m.before.device.failed? m.step = none
    unfold Device.failed?
    rw [hx.mover?_of_free hfree]
    rfl
  refine ⟨?_, ?_, ?_, ?_⟩
  · -- a task is in charge
    intro hnone
    rw [hr] at hnone
    cases hnone
  · -- the new task is the live one, and has not tried yet
    intro k hk hc
    rw [hl] at hk
    rcases List.mem_append.mp hk with hk | hk
    · have ht := (hx.live k hk).mp hc
      rw [hfree] at ht
      cases ht
    · rw [List.mem_singleton.mp hk]
      refine ⟨?_, ?_, ?_, hloss⟩
      · rw [failures_cons_ne (by simp [hstill]), hmade]
        exact hunused
      · rw [if_pos hmade]
        exact hcount
      · intro max hmax'
        rw [hnone] at hmax'
        cases hmax'
  · -- what was left behind is zero, or the budget of a device that is still down
    rcases hleft with hzero | hkept
    · exact .inl hzero
    · rw [hkept]
      rcases h.budget with hzero | ⟨hbudget, hdown⟩
      · exact .inl hzero
      · exact .inr ⟨hbudget.trans (hmax hdown).symm, hs⟩
  · -- a task is in charge, so the device is not a stopped one
    intro hstopped
    rw [isStopped, hstop, hr] at hstopped
    simp at hstopped

/-- No task is in charge any more. -/
theorem of_idle (h : Counts trace m.before.device) (hx' : m.after.device.Exclusive)
    (hr : m.after.device.record.linkTask = none)
    (hbusy : m.step.isStop = true ∨ m.before.device.record.linkTask ≠ none)
    (hcount : m.after.device.record.retryCount = leftBehind (m :: trace))
    (hleft : leftBehind (m :: trace) = 0
      ∨ m.step.isStop = false ∧ leftBehind (m :: trace) = m.after.device.record.maxRetry
        ∧ m.after.device.status ≠ .connected) : Counts (m :: trace) m.after.device := by
  refine ⟨fun _ => hcount, ?_, ?_, ?_⟩
  · -- no live task is left
    intro k hk hc
    have ht := (hx'.live k hk).mp hc
    rw [hr] at ht
    cases ht
  · -- what was left behind is the budget, or zero
    rcases hleft with hzero | ⟨-, hbudget⟩
    · exact .inl hzero
    · exact .inr hbudget
  · -- a device that was stopped and has not been connected since
    intro hstopped
    refine ⟨hr, ?_⟩
    rcases hleft with hzero | ⟨hstop, -⟩
    · exact hzero
    · -- a stopped device had no task in charge that could give up
      rw [isStopped, hstop, Bool.false_or, Bool.and_eq_true] at hstopped
      rcases hbusy with hstop' | hbusy
      · rw [hstop] at hstop'
        cases hstop'
      · exact absurd (h.stopped hstopped.1).1 hbusy

/-- An attempt has failed, and another one may be made. -/
theorem of_retried {number max due : Nat} {e : HardwareError}
    (h : Counts trace m.before.device) (hx : m.before.device.Exclusive)
    (hp : m.before.device.Phased) (hk : m.before.device.link? token = some k)
    (hc : k.cancelled = false) (hst : k.stage = .opened (.retry number max) (.error e))
    (hfailed : m.failed? = some token) (hstop : m.step.isStop = false)
    (hafter : m.after.device = (m.before.device.modifyRecord
      ({ · with retryCount := number })).setStage token (.sleeping number max due)) :
    Counts (m :: trace) m.after.device := by
  have ht := hx.linkTask_eq hk hc
  have hr : m.after.device.record.linkTask = m.before.device.record.linkTask := by
    rw [hafter]
    rfl
  have hmax : m.after.device.record.maxRetry = m.before.device.record.maxRetry := by
    rw [hafter]
    rfl
  have hs : m.after.device.status = m.before.device.status := by
    rw [hafter]
    rfl
  obtain ⟨hm, htoken⟩ := Device.mem_of_link? hk
  obtain ⟨hfailures, -, hbudget, hloss⟩ := h.live k hm hc
  obtain ⟨hshown, hin, -⟩ := hp.busy k hm hc
  rw [hst] at hfailures hbudget hin
  have hpos : 1 ≤ number := hin.1
  have hdown : m.before.device.status ≠ .connected := by
    rw [hshown]
    exact k.stage.shown_ne_connected
  have hlost : m.lost? = none := Device.lost?_of_charged ht
  have hleft : leftBehind (m :: trace) = leftBehind trace := by
    refine leftBehind_of_kept (Device.gaveUp?_of_charged (hr.trans ht)) ?_
    exact fun hclears => absurd (hs ▸ connected_of_clears hstop hlost hclears) hdown
  refine ⟨?_, ?_, ?_, ?_⟩
  · -- the task stays in charge
    intro hnone
    rw [hr, ht] at hnone
    cases hnone
  · -- its count is one more, and its stage tells so
    intro k' hk' hc'
    rw [hafter] at hk'
    rcases Device.mem_setStage hk' with ⟨k₀, -, rfl, rfl⟩ | ⟨hk', hne⟩
    · refine ⟨?_, ?_, ?_, ?_⟩
      · rw [failures_cons_self hfailed, ← htoken, hfailures]
        show number - 1 + 1 = number
        omega
      · rw [hafter, if_neg]
        · rfl
        · show ¬ number = 0
          omega
      · intro max' hmax'
        rw [hmax]
        exact hbudget max' hmax'
      · intro m' hm' hloss'
        rw [hleft]
        rcases List.mem_cons.mp hm' with rfl | hm'
        · rw [hlost] at hloss'
          cases hloss'
        · exact hloss m' hm' (hloss'.trans (by rw [htoken]))
    · -- no other task is in charge
      have ht' := (hx.live k' hk').mp hc'
      rw [ht] at ht'
      exact absurd (Option.some.inj ht').symm hne
  · -- what was left behind stays, as the device stays down
    rw [hleft, hmax, hs]
    exact h.budget
  · -- the device is not a stopped one
    intro hstopped
    rw [isStopped, hstop, hr, ht] at hstopped
    simp at hstopped

/-- A loop gives up, and the record shows its budget. -/
theorem of_gaveUp {max : Nat} (h : Counts trace m.before.device)
    (hx : m.before.device.Exclusive) (hx' : m.after.device.Exclusive)
    (hk : m.before.device.link? token = some k) (hc : k.cancelled = false)
    (hstop : m.step.isStop = false) (hgave : m.gaveUp? = some max)
    (hr : m.after.device.record.linkTask = none) (hs : m.after.device.status = .disconnected)
    (hcount : m.after.device.record.retryCount = max)
    (hmax : max = m.after.device.record.maxRetry) : Counts (m :: trace) m.after.device := by
  have hleft : leftBehind (m :: trace) = max := leftBehind_of_gaveUp hgave
  refine h.of_idle hx' hr (.inr ?_) (hcount.trans hleft.symm) (.inr ⟨hstop, ?_, ?_⟩)
  · rw [hx.linkTask_eq hk hc]
    exact fun h => by cases h
  · exact hleft.trans hmax
  · rw [hs]
    exact fun h => by cases h

/-- The link is lost, and a loop is put in charge. -/
theorem of_lost {d : Device H F} (h : Counts trace m.before.device)
    (hx : m.before.device.Exclusive) (hfree : m.before.device.record.linkTask = none)
    (hunused : failures m.before.device.nextToken trace = 0) (hstop : m.step.isStop = false)
    (hmax : m.before.device.status ≠ .connected →
      m.after.device.record.maxRetry = m.before.device.record.maxRetry)
    (hn : d.nextToken = m.before.device.nextToken) (hl : d.links = m.before.device.links)
    (hloops : d.record.reconnectLoops = m.before.device.record.reconnectLoops)
    (hafter : m.after.device = d.lost) : Counts (m :: trace) m.after.device := by
  have hr : m.after.device.record.linkTask = some m.before.device.nextToken := by
    rw [hafter, ← hn]
    rfl
  have hlost : m.lost? = some m.before.device.nextToken := by
    show m.before.device.lost? m.after.device = _
    unfold Device.lost?
    rw [hr, hfree, hafter, ← hloops]
    simp [Device.lost, Device.modifyRecord, Device.announce]
  have hleft : leftBehind (m :: trace) = 0 :=
    leftBehind_of_cleared (Device.gaveUp?_of_charged hr) (by simp [Moment.clears, hlost])
  refine h.of_charged .spawned hx hfree hunused hstop hmax hr ?_ ?_ rfl rfl ?_
    (.inl hleft) (fun _ _ _ => hleft)
  · rw [hafter, ← hl, ← hn]
    rfl
  · rw [hafter]
    exact fun h => by cases h
  · rw [hleft, hafter]
    rfl

/-- A caller of connect is let in. What was left behind stays. -/
theorem of_begun (h : Counts trace m.before.device) (hx : m.before.device.Exclusive)
    (hfree : m.before.device.record.linkTask = none)
    (hs : m.before.device.status ≠ .connected)
    (hunused : failures m.before.device.nextToken trace = 0
      ∧ ∀ m' ∈ trace, m'.lost? ≠ some m.before.device.nextToken)
    (hstop : m.step.isStop = false) (hafter : m.after.device = m.before.device.begun) :
    Counts (m :: trace) m.after.device := by
  have hdown : m.after.device.status ≠ .connected := by
    rw [hafter]
    exact hs
  have hlost : m.lost? = none := by
    refine Device.lost?_of_loops ?_
    rw [hafter]
    rfl
  have hleft : leftBehind (m :: trace) = leftBehind trace := by
    refine leftBehind_of_kept (Device.gaveUp?_of_still (hx.mover?_of_free hfree _)) ?_
    exact fun hclears => absurd (connected_of_clears hstop hlost hclears) hdown
  refine h.of_charged (.opening .first) hx hfree hunused.1 hstop (fun _ => ?_) ?_ ?_
    hdown rfl rfl ?_ (.inr hleft) ?_
  · rw [hafter]
    rfl
  · rw [hafter]
    rfl
  · rw [hafter]
    rfl
  · -- the count stays as the last loop left it
    rw [hleft, hafter]
    exact h.idle hfree
  · -- no loss belongs to the new token
    intro m' hm' hloss
    rcases List.mem_cons.mp hm' with rfl | hm'
    · rw [hlost] at hloss
      cases hloss
    · exact absurd hloss (hunused.2 m' hm')

/-- A step that is no stop, and in which no attempt is found to have failed. -/
theorem change {pace : Pace} {calls : List (Call H)} (h : Counts trace m.before.device)
    (hx : m.before.device.Exclusive) (hp : m.before.device.Phased)
    (hunused : failures m.before.device.nextToken trace = 0
      ∧ ∀ m' ∈ trace, m'.lost? ≠ some m.before.device.nextToken)
    (hmax : m.before.device.status ≠ .connected →
      m.after.device.record.maxRetry = m.before.device.record.maxRetry)
    (hstop : m.step.isStop = false) (hfailed : m.failed? = none)
    (hch : Device.Change pace m.step m.before.device calls m.after.device) :
    Counts (m :: trace) m.after.device := by
  have hx' := hx.change hch
  obtain ⟨⟨camera, d⟩, step, ⟨camera', d'⟩⟩ := m
  dsimp only at *
  cases hch with
  | still =>
      exact h.of_stays hx hp hstop hfailed hmax
        ⟨rfl, rfl, fun _ => rfl, id, Device.continues_of_subset fun _ hk => hk⟩
  | beside _ hb =>
      exact h.of_stays hx hp hstop hfailed hmax
        ⟨hb.linkTask, hb.retryCount, fun _ => hb.reconnectLoops, fun hs => hb.status ▸ hs,
          Device.continues_of_subset fun k hk => hb.links ▸ hk⟩
  | failed _ _ hb hr =>
      exact h.of_lost hx (hb.linkTask.symm.trans hr) hunused.1 hstop hmax hb.nextToken hb.links
        hb.reconnectLoops rfl
  | lost hr => exact h.of_lost hx hr hunused.1 hstop hmax rfl rfl rfl rfl
  | begun hr hs => exact h.of_begun hx hr hs hunused hstop rfl
  | stopped => cases hstop
  | opened hk hst handle =>
      exact h.of_stays hx hp hstop hfailed hmax
        ⟨rfl, rfl, fun _ => rfl, id, hx.continues_of_opened hk hst rfl⟩
  | refused hk hst e =>
      exact h.of_stays hx hp hstop hfailed hmax
        ⟨rfl, rfl, fun _ => rfl, id, hx.continues_of_opened hk hst rfl⟩
  | broken hk hst e =>
      exact h.of_stays hx hp hstop hfailed hmax
        ⟨rfl, rfl, fun _ => rfl, id, hx.continues_of_opened hk hst rfl⟩
  | dropped _ _ _ =>
      exact h.of_stays hx hp hstop hfailed hmax
        ⟨rfl, rfl, fun _ => rfl, id, Device.continues_of_endLink rfl⟩
  | ended _ _ _ =>
      exact h.of_stays hx hp hstop hfailed hmax
        ⟨rfl, rfl, fun _ => rfl, id, Device.continues_of_endLink rfl⟩
  | @connected _ _ token k c hk _ hc =>
      have hs : (d.connectedBy token c).status = .connected := Device.connectedBy_status d token c
      refine h.of_idle hx' rfl (.inr ?_) (Eq.symm ?_) (.inl ?_)
      · show d.record.linkTask ≠ none
        rw [hx.linkTask_eq hk hc]
        exact fun h => by cases h
      all_goals
        exact leftBehind_of_cleared (Device.gaveUp?_of_connected hs)
          (by simp [Moment.clears, hs, Status.isConnected])
  | handedOver hk hst hc =>
      refine h.of_stays hx hp hstop hfailed hmax
        ⟨rfl, rfl, ?_, (fun hs => by cases hs), Device.continues_handedOver hk hst hc⟩
      intro hfree
      rw [hx.linkTask_eq hk hc] at hfree
      cases hfree
  | retried hk hst hc _ => cases (Device.failed?_of_link? _ hk hc hst).symm.trans hfailed
  | exhausted hk hst hc _ => cases (Device.failed?_of_link? _ hk hc hst).symm.trans hfailed
  | loopEnded _ _ _ =>
      exact h.of_stays hx hp hstop hfailed hmax (.of_detached rfl rfl
        (Device.continues_of_endLink (Device.endLink_links_congr (Device.detached_links d))))
  | @loopSpent _ now token k hk hst hc hspent =>
      obtain ⟨-, hcount, -, -⟩ := h.live k (Device.mem_of_link? hk).1 hc
      have hgave : d.gaveUp? (.resume now token) (d.detached.givenUp token) = some 0 := by
        rw [Device.gaveUp?_of_mover (Device.mover?_of_link? now hk hc) rfl rfl, hst, ← hspent]
        rfl
      refine h.of_gaveUp hx hx' hk hc hstop hgave rfl rfl ?_ ?_
      · -- what may be left behind is the budget, which is zero
        show d.detached.record.retryCount = 0
        rw [Device.detached_retryCount]
        have hbudget := h.budget
        rw [hst] at hcount
        simp only [LinkStage.made, if_true] at hcount
        omega
      · show 0 = d.detached.record.maxRetry
        rw [Device.detached_maxRetry, hspent]
  | loopBegun hk hst hc _ =>
      exact h.of_stays hx hp hstop hfailed hmax (.of_detached rfl rfl
        (hx.continues_of_setStage hk (Device.setStage_links_congr _ (Device.detached_links d))
          (by rw [hst]; rfl) (.inr rfl)))
  | woken hk hst hc _ =>
      exact h.of_stays hx hp hstop hfailed hmax
        ⟨rfl, rfl, fun _ => rfl, (fun hs => by cases hs),
          hx.continues_of_setStage hk rfl (by rw [hst]; rfl) (.inl (by rw [hst]; rfl))⟩

end Counts

-- ================================================================= by runs

section Runs

variable [Camera σ H F] {s : Site σ H F} {trace : List (Moment σ H F)}

/-- A loop goes on from an attempt that has failed: the record is told of it,
and the loop waits for the next one or gives up. -/
theorem resume_of_failed {token number max : Nat} {k : LinkTask H}
    {e : HardwareError} (hk : s.device.link? token = some k) (hc : k.cancelled = false)
    (hst : k.stage = .opened (.retry number max) (.error e)) (interval now : Nat) :
    (s.resume interval now token).device =
      let d := s.device.modifyRecord ({ · with retryCount := number })
      if number < max then d.setStage token (.sleeping number max (now + interval))
      else d.givenUp token := by
  unfold resume
  rw [hk]
  dsimp only
  rw [hst]
  dsimp only
  unfold settle
  rw [if_neg (by simp [hc]), (Device.mem_of_link? hk).2]
  dsimp only
  split <;> rfl

/-- An attempt is found to have failed. -/
theorem Counts.failed {step : Step} {token : Token} (h : Counts trace s.device)
    (hr : s.Reachable) (hfailed : s.device.failed? step = some token) (pace : Pace) :
    Counts (⟨s, step, s.apply pace step⟩ :: trace) (s.apply pace step).device := by
  have hx := hr.exclusive
  have hx' := (hr.step pace step).exclusive
  obtain ⟨now, number, max, k, e, rfl, hk, hc, hst⟩ := Device.failed?_eq_some hfailed
  obtain ⟨hm, -⟩ := Device.mem_of_link? hk
  have hin := (hr.phased.busy k hm hc).inBudget
  have hbudget := (h.live k hm hc).budget max (by rw [hst]; rfl)
  rw [hst] at hin
  have hafter : (s.apply pace (.resume now token)).device = _ :=
    resume_of_failed hk hc hst pace.interval now
  by_cases hlt : number < max
  · rw [if_pos hlt] at hafter
    exact h.of_retried hx hr.phased hk hc hst hfailed rfl hafter
  · -- the last attempt was within the budget, so it has used it up
    rw [if_neg hlt] at hafter
    have hlast : number = max := by
      have := hin.2
      omega
    have hnone : (s.apply pace (.resume now token)).device.record.linkTask = none := by
      rw [hafter]
      rfl
    have hdown : (s.apply pace (.resume now token)).device.status = .disconnected := by
      rw [hafter]
      rfl
    have hgave : s.device.gaveUp? (.resume now token) (s.apply pace (.resume now token)).device
        = some max := by
      rw [Device.gaveUp?_of_mover (Device.mover?_of_link? now hk hc) hnone hdown, hst]
      rfl
    refine h.of_gaveUp hx hx' hk hc rfl hgave hnone hdown ?_ ?_ <;> dsimp only <;> rw [hafter]
    · exact hlast
    · exact hbudget

/-- A stop takes everything back. -/
theorem Counts.stop (h : Counts trace s.device) (hr : s.Reachable) (pace : Pace) :
    Counts (⟨s, .stop, s.apply pace .stop⟩ :: trace) (s.apply pace .stop).device := by
  have hafter : (s.apply pace .stop).device = s.device.stopped := stop_device s
  have hleft : leftBehind (⟨s, .stop, s.apply pace .stop⟩ :: trace) = 0 :=
    leftBehind_of_cleared (Device.gaveUp?_of_still rfl) rfl
  refine h.of_idle (hr.step pace .stop).exclusive ?_ (.inl rfl) ?_ (.inl hleft)
  all_goals
    dsimp only
    rw [hafter, Device.stopped_record]
  exact hleft.symm

/-- A run tells the count of the device it leads to. -/
theorem Taken.counts (h : Taken trace s) : Counts trace s.device := by
  induction h with
  | fresh camera id format maxRetry =>
      refine ⟨fun _ => rfl, ?_, .inl rfl, fun h => by cases h⟩
      intro k hk
      cases hk
  | camera camera _ ih => exact ih
  | @step trace s pace step htaken ih =>
      have hr := htaken.reachable
      cases hfailed : s.device.failed? step with
      | some token => exact ih.failed hr hfailed pace
      | none =>
          by_cases hstop : step.isStop = true
          · obtain rfl := Step.eq_stop hstop
            exact ih.stop hr pace
          · obtain ⟨calls, hch⟩ := apply_change pace s step
            exact ih.change (m := ⟨s, step, s.apply pace step⟩) hr.exclusive hr.phased
              (htaken.unused _ (Nat.le_refl _)) (apply_maxRetry pace step) (by simpa using hstop)
              hfailed hch

-- ================================================================= the law

/-- In every run the record says of the task in charge how many attempts of its
loop have failed, if one has failed or a loss of the link has started the loop;
if none has failed it says what was left behind, and so it does without a task
in charge. Of a connected device and of a stopped one it says zero, and of a
loop that gives up its budget. What is left behind is nothing, or the budget
that the device still has. -/
theorem Reachable.retry_bookkeeping (h : s.Reachable) :
    (∃ trace, Taken trace s)
      ∧ (∀ trace, Taken trace s →
          (∀ k ∈ s.device.live,
              (failures k.token trace ≠ 0 ∨ (∃ m ∈ trace, m.lost? = some k.token) →
                s.device.record.retryCount = failures k.token trace)
              ∧ (failures k.token trace = 0 →
                s.device.record.retryCount = leftBehind trace))
            ∧ (s.device.record.linkTask = none →
                s.device.record.retryCount = leftBehind trace)
            ∧ (s.device.status = .connected → s.device.record.retryCount = 0)
            ∧ (isStopped trace = true → s.device.record.retryCount = 0)
            ∧ (leftBehind trace = 0 ∨ leftBehind trace = s.device.record.maxRetry))
      ∧ ∀ (pace : Pace) (step : Step) (max : Nat),
          s.device.gaveUp? step (s.apply pace step).device = some max →
            (s.apply pace step).device.record.retryCount = max := by
  refine ⟨h.taken, ?_, ?_⟩
  · -- the counts that hold along a trace give each clause
    intro trace htaken
    have hcounts := htaken.counts
    refine ⟨?_, hcounts.idle, ?_, ?_, ?_⟩
    · -- a live task: its failures, or what was left behind before the first
      intro k hk
      obtain ⟨hm, hc⟩ := Device.mem_live.mp hk
      obtain ⟨hfailures, hcount, -, hloss⟩ := hcounts.live k hm hc
      rw [hcount, hfailures]
      constructor
      · rintro (hsome | ⟨m, hm, hm'⟩)
        · rw [if_neg hsome]
        · rw [hloss m hm hm']
          split
          next hnone => exact hnone.symm
          next => rfl
      · intro hnone
        rw [if_pos hnone]
    · -- a connected device has no task in charge
      intro hs
      rw [hcounts.idle (h.phased.linkTask_of_connected h.exclusive hs)]
      rcases hcounts.budget with hzero | ⟨-, hdown⟩
      · exact hzero
      · exact absurd hs hdown
    · -- nor has a stopped one
      intro hstopped
      obtain ⟨hnone, hzero⟩ := hcounts.stopped hstopped
      rw [hcounts.idle hnone, hzero]
    · rcases hcounts.budget with hzero | ⟨hbudget, -⟩
      · exact .inl hzero
      · exact .inr hbudget
  · -- a step that gives up leaves its budget behind
    intro pace step max hgave
    obtain ⟨trace, htaken⟩ := h.taken
    have hcounts := (htaken.step pace step).counts
    rw [hcounts.idle (Device.linkTask_of_gaveUp? hgave)]
    exact leftBehind_of_gaveUp hgave

end Runs

/-- Where the device cannot be opened and one attempt may be made, a loop that
a caller of connect starts after the first one has given up is shown with one
failed attempt, and has made none. -/
theorem retry_count_of_second_connect :
    let s := Site.run ⟨10, 100⟩
      { camera := ({} : SimulatedCamera), device := Device.fresh ⟨"a"⟩ .jpeg 1 }
      [.connect, .reach 0, .resume 0 0, .resume 0 0, .resume 10 0, .reach 0, .resume 10 0,
        .connect, .reach 1, .resume 20 1]
    (∃ trace, Taken trace s)
      ∧ ∃ k ∈ s.device.live, k.stage.isLoop = true ∧ s.device.record.retryCount = 1
        ∧ ∀ trace, Taken trace s → failures k.token trace = 0 := by
  intro s
  have hcount : s.device.record.retryCount = 1 := by decide +kernel
  have hstages : s.device.live.map (fun k => (k.stage.isLoop, k.stage.made)) = [(true, 0)] := by
    decide +kernel
  have hr : s.Reachable := (Reachable.fresh _ _ _ _).run _ _
  obtain ⟨k, hk, hstage⟩ := List.mem_map.mp (hstages ▸ List.mem_singleton_self (true, 0))
  rw [Prod.mk.injEq] at hstage
  refine ⟨hr.taken, k, hk, hstage.1, hcount, ?_⟩
  intro trace htaken
  obtain ⟨hm, hc⟩ := Device.mem_live.mp hk
  rw [(htaken.counts.live k hm hc).failures, hstage.2]

/-- A link that was lost, with one attempt that has failed. -/
theorem Reachable.retry_bookkeeping_of_lost_link :
    let s := (simulated ⟨"a"⟩ 3).run ⟨10, 100⟩
      [.connect, .reach 0, .resume 0 0, .linkDown 1, .resume 0 1, .resume 10 1, .lose 1,
        .resume 10 1]
    s.device.record.retryCount = 1 ∧ ∃ trace, Taken trace s ∧ failures 1 trace = 1 := by
  intro s
  have hcount : s.device.record.retryCount = 1 := by decide +kernel
  have hmax : s.device.record.maxRetry = 3 := by decide +kernel
  have htokens : s.device.live.map (·.token) = [1] := by decide +kernel
  have hr : s.Reachable := (Reachable.fresh _ _ _ _).run _ _
  obtain ⟨⟨trace, htaken⟩, hcounts, -⟩ := Reachable.retry_bookkeeping hr
  obtain ⟨hlive, -, -, -, hleft⟩ := hcounts trace htaken
  obtain ⟨k, hk, ht⟩ := List.mem_map.mp (htokens ▸ List.mem_singleton_self 1)
  obtain ⟨hfailed, hnone⟩ := hlive k hk
  rw [ht, hcount] at hfailed hnone
  refine ⟨hcount, trace, htaken, ?_⟩
  by_cases hzero : failures 1 trace = 0
  · -- nothing, or three attempts, would be left behind
    have := hnone hzero
    omega
  · exact (hfailed (.inl hzero)).symm

end Site

end CameraDriver
