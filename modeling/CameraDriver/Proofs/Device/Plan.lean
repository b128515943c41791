/-
How often, and when, a link task opens its device.

# The plan

A task that is put in charge at some time has a `Plan`: the numbers of its
opens, from 0 for a caller of connect and from 1 for a loop that follows a lost
link, up to the retry budget of the record; and the time of each, the n-th being
due n intervals after the beginning. `Try` is one open as it comes to its end.

# Why the plan is kept

`Live` is the invariant while the task is in charge. It ties the stage of the
task to the number of tries behind it and to the clock: an open that is on the
way is the next of the plan, at the time at which it is due; a task that sleeps
does so until then. The clock only moves on while the task sleeps, and never
past its due time, so that being late is impossible. Every step of the device
keeps this, or ends the task: with a connection, or with the budget spent
(`Site.apply_live`).

The budget is read once, when the loop begins. Until then the device is not
connected, and only a connected device takes a new one (`Site.apply_maxRetry`).
-/
import CameraDriver.Proofs.Device.Frame
import CameraDriver.Proofs.Device.LinkLoss

namespace CameraDriver

variable {σ H F : Type}

-- =================================================================== tries

/-- The place of an attempt among the opens of its task. -/
def Attempt.number : Attempt → Nat
  | .first => 0
  | .retry number _ => number

/-- An open of a link task that has come to its end. -/
structure Try (H : Type) where
  time : Nat
  token : Token
  number : Nat
  result : Except HardwareError H

/-- Whether the device was opened. -/
def Try.succeeded (t : Try H) : Bool := t.result.isOk

/-- The attempt whose open a task has on the way. -/
def Device.attempt? (d : Device H F) (token : Token) : Option Attempt :=
  match d.link? token with
  | some { stage := .opening attempt, .. } => some attempt
  | _ => none

/-- An attempt is one of a task whose open is on the way. -/
theorem Device.link?_of_attempt? {d : Device H F} {token : Token} {attempt : Attempt}
    (h : d.attempt? token = some attempt) :
    ∃ k, d.link? token = some k ∧ k.stage = .opening attempt := by
  unfold attempt? at h
  split at h
  next t cancelled attempt' hk =>
    cases h
    exact ⟨_, hk, rfl⟩
  next => cases h

/-- The open that comes to its end by a step. One that breaks off before it
reaches the camera is a try too. -/
def Site.tried? [Camera σ H F] (now : Nat) (s : Site σ H F) : Site.Step → Option (Try H)
  | .reach token => (s.device.attempt? token).map fun attempt =>
      { time := now, token, number := attempt.number
        result := (Camera.openDevice s.device.id s.camera).1 }
  | .lose token => (s.device.attempt? token).map fun attempt =>
      { time := now, token, number := attempt.number
        result := .error (.soft "open task failed") }
  | _ => none

/-- What comes to its end was on the way. -/
theorem Site.opening_of_tried? [Camera σ H F] {now : Nat} {s : Site σ H F} {step : Site.Step}
    {t : Try H} (h : s.tried? now step = some t) :
    ∃ k ∈ s.device.links, k.token = t.token ∧ k.stage.isOpening = true := by
  have hopening : ∀ {token attempt}, s.device.attempt? token = some attempt →
      ∃ k ∈ s.device.links, k.token = token ∧ k.stage.isOpening = true := by
    intro token attempt ha
    obtain ⟨k, hk, hst⟩ := Device.link?_of_attempt? ha
    obtain ⟨hm, ht⟩ := Device.mem_of_link? hk
    exact ⟨k, hm, ht, by rw [hst]; rfl⟩
  cases step with
  | reach token =>
      obtain ⟨attempt, ha, rfl⟩ := Option.map_eq_some_iff.mp h
      exact hopening ha
  | lose token =>
      obtain ⟨attempt, ha, rfl⟩ := Option.map_eq_some_iff.mp h
      exact hopening ha
  | _ => cases h

/-- Whether a step goes by the clock. -/
def Site.Step.At (now : Nat) : Site.Step → Prop
  | .resume t _ => t = now
  | .sendUpload t _ => t = now
  | _ => True

/-- Whether a step is a call of a user, other than a stop. -/
def Site.Step.isCall : Site.Step → Bool
  | .connect => true
  | .target _ => true
  | .read _ => true
  | .write .. => true
  | _ => false

-- ==================================================================== plans

/-- What a link task is to do: which opens it may make, and when. -/
structure Plan where
  token : Token
  begun : Nat
  /-- The number of its first open. -/
  first : Nat
  /-- The number of the last one that it may make. -/
  max : Nat
  interval : Nat

namespace Plan

/-- When an open is due. -/
def due (p : Plan) (number : Nat) : Nat := p.begun + number * p.interval

theorem due_zero (p : Plan) : p.due 0 = p.begun := by simp [due]

theorem due_succ (p : Plan) (number : Nat) : p.due (number + 1) = p.due number + p.interval := by
  unfold due
  rw [Nat.succ_mul]
  omega

theorem due_le (p : Plan) {m n : Nat} (h : m ≤ n) : p.due m ≤ p.due n :=
  Nat.add_le_add_left (Nat.mul_le_mul_right _ h) _

/-- The tries of the task among all of a device. -/
def own (p : Plan) (tries : List (Try H)) : List (Try H) := tries.filter (·.token = p.token)

/-- Tries, the latest first, are made in the order of their numbers, each when
it is due, and as long as none has succeeded. -/
def Scheduled (p : Plan) : List (Try H) → Prop
  | [] => True
  | t :: earlier =>
      t.number = p.first + earlier.length ∧ t.time = p.due t.number
        ∧ (∀ e ∈ earlier, e.succeeded = false) ∧ Scheduled p earlier

/-- An attempt is the next of the plan after some tries. -/
structure Next (p : Plan) (made : List (Try H)) (attempt : Attempt) : Prop where
  number : attempt.number = p.first + made.length
  budget : ∀ n max, attempt = .retry n max → max = p.max

/-- Where the task stands, with some tries behind it. -/
def Stands (p : Plan) (made : List (Try H)) (now : Nat) : LinkStage H → Prop
  | .opening attempt => (∀ t ∈ made, t.succeeded = false)
      ∧ p.Next made attempt ∧ now = p.due attempt.number
  | .opened attempt result => ∃ t earlier, made = t :: earlier
      ∧ t.result = result.map (·.handle) ∧ (∀ e ∈ earlier, e.succeeded = false)
      ∧ p.Next earlier attempt ∧ now = p.due attempt.number
  | .spawned => (∀ t ∈ made, t.succeeded = false)
      ∧ p.first + made.length = 1 ∧ now = p.begun
  | .sleeping n max due => (∀ t ∈ made, t.succeeded = false)
      ∧ n + 1 = p.first + made.length ∧ max = p.max ∧ due = p.due (n + 1) ∧ now ≤ due

/-- An open that has failed is one more try that did. -/
theorem Stands.failed {p : Plan} {made : List (Try H)} {now : Nat} {attempt : Attempt}
    {e : HardwareError} (h : p.Stands made now (.opened attempt (.error e))) :
    (∀ t ∈ made, t.succeeded = false) ∧ attempt.number + 1 = p.first + made.length
      ∧ now = p.due attempt.number ∧ ∀ n max, attempt = .retry n max → max = p.max := by
  obtain ⟨t, earlier, rfl, hresult, hfailed, hnext, hnow⟩ := h
  refine ⟨?_, ?_, hnow, hnext.budget⟩
  · intro t' ht'
    rcases List.mem_cons.mp ht' with rfl | ht'
    · rw [Try.succeeded, hresult]
      rfl
    · exact hfailed t' ht'
  · rw [hnext.number, List.length_cons]
    omega

end Plan

namespace Device

variable {p : Plan} {made : List (Try H)} {now : Nat} {d d' : Device H F} {token : Token}
  {k : LinkTask H} {calls : List (Call H)}

/-- The task of a plan is in charge and keeps to the plan. -/
structure Live (p : Plan) (made : List (Try H)) (now : Nat) (d : Device H F) : Prop where
  charged : d.record.linkTask = some p.token
  budget : d.record.maxRetry = p.max
  scheduled : p.Scheduled made
  stands : ∀ k ∈ d.links, k.token = p.token → p.Stands made now k.stage

/-- The task of a plan has ended: the device is connected by its last try, or
all tries have failed and no other one is in the budget. -/
structure Settled (p : Plan) (made : List (Try H)) (d : Device H F) : Prop where
  linkTask : d.record.linkTask = none
  outcome :
    (∃ last earlier c, made = last :: earlier ∧ last.result = .ok c.handle
        ∧ d.status = .connected ∧ d.record.handle = some c)
      ∨ (∀ t ∈ made, t.succeeded = false) ∧ p.first + made.length = p.max + 1
        ∧ d.status = .disconnected ∧ d.record.handle = none

/-- The task of a plan is not there any more. -/
structure Gone (p : Plan) (d : Device H F) : Prop where
  absent : ∀ k ∈ d.links, k.token ≠ p.token
  past : p.token < d.nextToken

namespace Live

/-- The task in charge, in its stage. -/
theorem task (h : d.Live p made now) (hx : d.Exclusive) :
    ∃ k ∈ d.links, d.link? p.token = some k ∧ k.token = p.token ∧ k.cancelled = false
      ∧ p.Stands made now k.stage := by
  obtain ⟨k, hk, ht⟩ := hx.charged p.token h.charged
  refine ⟨k, hk, ?_, ht, ?_, h.stands k hk ht⟩
  · rw [← ht]
    exact hx.link?_eq hk
  · rw [hx.live k hk, ht]
    exact h.charged

/-- A task that is not cancelled is the one of the plan. -/
theorem of_link? (h : d.Live p made now) (hx : d.Exclusive) (hk : d.link? token = some k)
    (hc : k.cancelled = false) : token = p.token ∧ p.Stands made now k.stage := by
  obtain ⟨hm, ht⟩ := mem_of_link? hk
  have htoken := hx.linkTask_eq hk hc
  rw [h.charged] at htoken
  have htoken := (Option.some.inj htoken).symm
  exact ⟨htoken, h.stands k hm (ht.trans htoken)⟩

/-- One task of the plan that stands where it should is all of them. -/
theorem of_task (hx' : d'.Exclusive) (hb : d'.record.maxRetry = p.max)
    (hs : p.Scheduled made) (hk : k ∈ d'.links) (hc : k.cancelled = false)
    (ht : k.token = p.token) (hst : p.Stands made now k.stage) : d'.Live p made now where
  charged := by
    rw [← ht]
    exact (hx'.live k hk).mp hc
  budget := hb
  scheduled := hs
  stands := by
    intro k' hk' ht'
    rw [hx'.eq_of_token hk' hk (ht'.trans ht.symm)]
    exact hst

/-- The task is as it was. -/
theorem of_subset (h : d.Live p made now) (hr : d'.record.linkTask = d.record.linkTask)
    (hb : d'.record.maxRetry = d.record.maxRetry)
    (hl : ∀ k ∈ d'.links, k.token = p.token → k ∈ d.links) : d'.Live p made now where
  charged := hr.trans h.charged
  budget := hb.trans h.budget
  scheduled := h.scheduled
  stands := by
    intro k hk ht
    exact h.stands k (hl k hk ht) ht

/-- Another task ends. -/
theorem of_endLink (h : d.Live p made now) (hr : d'.record.linkTask = d.record.linkTask)
    (hb : d'.record.maxRetry = d.record.maxRetry) (hl : d'.links = (d.endLink token).links) :
    d'.Live p made now := by
  refine h.of_subset hr hb ?_
  intro k hk _
  rw [hl] at hk
  exact (mem_endLink.mp hk).1

/-- The task moves on to its next stage. -/
theorem of_setStage (h : d.Live p made now) (hx' : d'.Exclusive)
    (hb : d'.record.maxRetry = d.record.maxRetry) {stage : LinkStage H}
    (hk : d.link? token = some k) (hc : k.cancelled = false) (ht : token = p.token)
    (hl : d'.links = (d.setStage token stage).links) (hst : p.Stands made now stage) :
    d'.Live p made now := by
  have hm := mem_of_setStage stage hk
  rw [← hl] at hm
  exact of_task hx' (hb.trans h.budget) h.scheduled hm hc ((mem_of_link? hk).2.trans ht) hst

/-- A task has ended, and no other one has its token. -/
theorem gone_of_endLink (h : d.Live p made now) (hx : d.Exclusive) (ht : token = p.token)
    (hl : d'.links = (d.endLink token).links) (hn : d'.nextToken = d.nextToken) :
    d'.Gone p where
  absent := by
    intro k hk
    rw [hl] at hk
    rw [← ht]
    exact (mem_endLink.mp hk).2
  past := by
    obtain ⟨k, hk, -, hkt, -⟩ := h.task hx
    rw [hn, ← hkt]
    exact hx.fresh k hk

/-- A step that neither brings an open back nor stops the device keeps the task
to its plan, or ends it. The steps of other tasks are those of cancelled ones,
and nobody but the task itself changes the record while it is in charge. -/
theorem change (h : d.Live p made now) (hx : d.Exclusive) (hp : d.Phased) {pace : Site.Pace}
    {step : Site.Step} (hpace : pace.interval = p.interval) (hat : step.At now)
    (hstop : step ≠ .stop) (hback : ∀ token, step ≠ .reach token ∧ step ≠ .lose token)
    (hb : d'.record.maxRetry = d.record.maxRetry) (hch : Change pace step d calls d') :
    d'.Live p made now
      ∨ (∃ token, step = .resume now token) ∧ d'.Settled p made ∧ d'.Gone p := by
  have hx' := hx.change hch
  -- without a task in charge there is no plan
  have hfree : d.record.linkTask ≠ none := by
    rw [h.charged]
    exact fun h => by cases h
  cases hch with
  | still => exact .inl h
  | beside _ hbe =>
      exact .inl (h.of_subset hbe.linkTask hb fun k hk _ => hbe.links ▸ hk)
  | failed _ _ hbe hm => exact absurd (hbe.linkTask.symm.trans hm) hfree
  | begun hr _ => exact absurd hr hfree
  | lost hr => exact absurd hr hfree
  | stopped => exact absurd rfl hstop
  | opened _ _ handle => exact absurd rfl (hback _).1
  | refused _ _ e => exact absurd rfl (hback _).1
  | broken _ _ e => exact absurd rfl (hback _).2
  | dropped _ _ _ => exact .inl (h.of_endLink rfl hb rfl)
  | ended _ _ _ => exact .inl (h.of_endLink rfl hb rfl)
  | loopEnded _ _ _ =>
      exact .inl (h.of_endLink (detached_linkTask d) hb (endLink_links_congr (detached_links d)))
  | @connected _ now' token k c hk hst hc =>
      obtain ⟨ht, hstands⟩ := h.of_link? hx hk hc
      have hnow : now' = now := hat
      refine .inr ⟨⟨token, by rw [hnow]⟩, ?_, h.gone_of_endLink hx ht (connectedBy_links d token c)
        (connectedBy_nextToken d token c)⟩
      cases hs : k.stage with
      | opened attempt result =>
          rw [hs] at hst hstands
          cases result with
          | error e => cases hst
          | ok c' =>
              cases hst
              obtain ⟨t, earlier, hmade, hresult, -⟩ := hstands
              exact ⟨by rw [connectedBy_record], .inl ⟨t, earlier, c, hmade, hresult,
                connectedBy_status d token c, by rw [connectedBy_record]⟩⟩
      | _ =>
          rw [hs] at hst
          cases hst
  | @handedOver _ _ token k e hk hst hc =>
      obtain ⟨ht, hstands⟩ := h.of_link? hx hk hc
      rw [hst] at hstands
      obtain ⟨hfailed, hnumber, hnow, -⟩ := hstands.failed
      left
      refine of_task (k := { token, stage := .spawned }) hx' (hb.trans h.budget) h.scheduled
        List.mem_concat_self rfl ht ⟨hfailed, hnumber.symm, ?_⟩
      rw [hnow]
      exact p.due_zero
  | @retried _ now' token number max k e hk hst hc hlt =>
      obtain ⟨ht, hstands⟩ := h.of_link? hx hk hc
      have hnow' : now' = now := hat
      rw [hst] at hstands
      obtain ⟨hfailed, hnumber, hnow, hmax⟩ := hstands.failed
      change now = p.due number at hnow
      left
      refine h.of_setStage hx' hb hk hc ht rfl ⟨hfailed, hnumber, hmax number max rfl, ?_, ?_⟩
      · rw [hnow', hpace, hnow, p.due_succ]
      · omega
  | @exhausted _ now' token number max k e hk hst hc hge =>
      obtain ⟨ht, hstands⟩ := h.of_link? hx hk hc
      have hnow' : now' = now := hat
      have hfits := hp.busy k (mem_of_link? hk).1 hc
      have hin := hfits.inBudget
      rw [hst] at hstands hin
      obtain ⟨hfailed, hnumber, -, hmax⟩ := hstands.failed
      refine .inr ⟨⟨token, by rw [hnow']⟩, ⟨rfl, .inr ⟨hfailed, ?_, rfl, ?_⟩⟩,
        h.gone_of_endLink hx ht rfl rfl⟩
      · have hle : number ≤ max := hin.2
        have hmax := hmax number max rfl
        change number + 1 = _ at hnumber
        omega
      · exact hfits.bare (by rw [hst]; rfl)
  | @loopSpent _ now' token k hk hst hc hmax =>
      obtain ⟨ht, hstands⟩ := h.of_link? hx hk hc
      have hnow' : now' = now := hat
      rw [hst] at hstands
      obtain ⟨hfailed, hone, -⟩ := hstands
      refine .inr ⟨⟨token, by rw [hnow']⟩, ⟨rfl, .inr ⟨hfailed, ?_, rfl, detached_handle d⟩⟩,
        h.gone_of_endLink hx ht (endLink_links_congr (detached_links d)) (detached_nextToken d)⟩
      rw [hone, ← h.budget, hmax]
  | @loopBegun _ now' token k hk hst hc _ =>
      obtain ⟨ht, hstands⟩ := h.of_link? hx hk hc
      have hnow' : now' = now := hat
      rw [hst] at hstands
      obtain ⟨hfailed, hone, hnow⟩ := hstands
      left
      refine h.of_setStage hx' hb hk hc ht (setStage_links_congr _ (detached_links d))
        ⟨hfailed, ?_, h.budget, ?_, ?_⟩
      · omega
      · rw [hnow', hpace, hnow, p.due_succ, p.due_zero]
      · omega
  | @woken _ now' token number max due k hk hst hc hdue =>
      obtain ⟨ht, hstands⟩ := h.of_link? hx hk hc
      have hnow' : now' = now := hat
      rw [hst] at hstands
      obtain ⟨hfailed, hnumber, hmax, hdue', hle⟩ := hstands
      left
      refine h.of_setStage hx' hb hk hc ht rfl ⟨hfailed, ⟨hnumber, ?_⟩, ?_⟩
      · intro n max' heq
        cases heq
        exact hmax
      · -- the clock has never passed the time at which the open is due
        show now = p.due (number + 1)
        omega

end Live

end Device

-- ============================================================= coming back

namespace Site

variable [Camera σ H F] {p : Plan} {made : List (Try H)} {now : Nat} {s : Site σ H F}

/-- An open comes back to its task, or none is on the way and nothing
happens. -/
theorem back_cases (pace : Pace) (now : Nat) (s : Site σ H F) {step : Step} {token : Token}
    (hstep : step = .reach token ∨ step = .lose token) :
    (s.tried? now step = none ∧ s.apply pace step = s)
      ∨ ∃ k attempt result, s.device.link? token = some k ∧ k.stage = .opening attempt
        ∧ s.tried? now step = some
          { time := now, token, number := attempt.number, result := result.map (·.handle) }
        ∧ (s.apply pace step).device.links
          = (s.device.setStage token (.opened attempt result)).links
        ∧ (s.apply pace step).device.toEntry = s.device.toEntry
        ∧ (s.apply pace step).device.nextToken = s.device.nextToken := by
  cases hk : s.device.link? token with
  | none =>
      left
      rcases hstep with rfl | rfl
      · -- no such task
        exact ⟨by simp [tried?, Device.attempt?, hk], by simp [apply, reach, hk]⟩
      · exact ⟨by simp [tried?, Device.attempt?, hk], by simp [apply, lose, hk]⟩
  | some k =>
      obtain ⟨t, cancelled, stage⟩ := k
      cases stage with
      | opening attempt =>
          right
          rcases hstep with rfl | rfl
          · -- the open reaches the camera, which gives a handle or refuses
            cases hopen : Camera.openDevice s.device.id s.camera with
            | mk result camera =>
              cases result with
              | ok handle =>
                  refine ⟨_, attempt, .ok ⟨s.device.opened + 1, handle⟩, rfl, rfl, ?_, ?_⟩
                  · simp [tried?, Device.attempt?, hk, hopen, Except.map]
                  · simp [apply, reach, hk, hopen, Device.note, Device.setStage]
              | error e =>
                  refine ⟨_, attempt, .error e, rfl, rfl, ?_, ?_⟩
                  · simp [tried?, Device.attempt?, hk, hopen, Except.map]
                  · simp [apply, reach, hk, hopen, Device.note, Device.setStage]
          · -- the open is lost on its way
            refine ⟨_, attempt, .error (.soft "open task failed"), rfl, rfl, ?_, ?_⟩
            · simp [tried?, Device.attempt?, hk, Except.map]
            · simp [apply, lose, hk, onDevice, Device.setStage]
      | _ =>
          left
          rcases hstep with rfl | rfl
          · -- the task waits for no open
            exact ⟨by simp [tried?, Device.attempt?, hk], by simp [apply, reach, hk]⟩
          · exact ⟨by simp [tried?, Device.attempt?, hk], by simp [apply, lose, hk]⟩

omit [Camera σ H F] in
/-- While its task is in charge the device is not connected. -/
theorem status_of_live (h : s.device.Live p made now) (hx : s.device.Exclusive)
    (hp : s.device.Phased) : s.device.status ≠ .connected := by
  intro hs
  have hnone := hp.linkTask_of_connected hx hs
  rw [h.charged] at hnone
  cases hnone

/-- Whether or not its own open comes back, a task keeps to its plan. -/
theorem live_of_back (h : s.device.Live p made now) (hr : s.Reachable) (pace : Pace) {step : Step}
    {token : Token} (hstep : step = .reach token ∨ step = .lose token) :
    (s.apply pace step).device.Live p (p.own (s.tried? now step).toList ++ made) now := by
  have hx := hr.exclusive
  rcases back_cases pace now s hstep with ⟨htried, happly⟩
    | ⟨k, attempt, result, hk, hst, htried, hlinks, hentry, -⟩
  · -- nothing came back, and nothing changed
    rw [htried, happly]
    exact h
  · -- the try is that of the task, which leaves its stage
    have hrecord : (s.apply pace step).device.record = s.device.record :=
      congrArg Entry.record hentry
    obtain ⟨hm, hkt⟩ := Device.mem_of_link? hk
    rw [htried]
    by_cases ht : token = p.token
    · -- the plan's own task: the try is the next one
      have hstands := h.stands k hm (hkt.trans ht)
      rw [hst] at hstands
      obtain ⟨hfailed, hnext, hnow⟩ := hstands
      have hc : k.cancelled = false := by
        rw [hx.live k hm, hkt, ht]
        exact h.charged
      have hmine : p.own (some (⟨now, token, attempt.number, result.map (·.handle)⟩ :
          Try H)).toList = [⟨now, token, attempt.number, result.map (·.handle)⟩] := by
        simp [Plan.own, ht]
      rw [hmine, List.singleton_append]
      have hmem := Device.mem_of_setStage (.opened attempt result) hk
      rw [← hlinks] at hmem
      refine .of_task (hr.step pace step).exclusive (by rw [hrecord]; exact h.budget)
        ⟨hnext.number, hnow, hfailed, h.scheduled⟩ hmem hc (hkt.trans ht) ?_
      exact ⟨_, made, rfl, rfl, hfailed, hnext, hnow⟩
    · -- another task: the plan's own one is where it was
      have hother : p.own (some (⟨now, token, attempt.number, result.map (·.handle)⟩ :
          Try H)).toList = [] := by
        simp [Plan.own, ht]
      rw [hother, List.nil_append]
      refine h.of_subset (by rw [hrecord]) (by rw [hrecord]) ?_
      intro k' hk' ht'
      rw [hlinks] at hk'
      rcases Device.mem_setStage hk' with ⟨k₀, -, htoken, rfl⟩ | ⟨hk', -⟩
      · exact absurd (htoken.symm.trans ht') ht
      · exact hk'

/-- Only an open that comes back was tried. -/
theorem tried?_of_not_back {step : Step}
    (h : ∀ token, step ≠ .reach token ∧ step ≠ .lose token) : s.tried? now step = none := by
  cases step with
  | reach token => exact absurd rfl (h token).1
  | lose token => exact absurd rfl (h token).2
  | _ => rfl

/-- A step keeps the task in charge to its plan, or it is the task's last. -/
theorem apply_live (h : s.device.Live p made now) (hr : s.Reachable) {pace : Pace}
    (hpace : pace.interval = p.interval) {step : Step} (hat : step.At now)
    (hstop : step ≠ .stop) :
    (s.apply pace step).device.Live p (p.own (s.tried? now step).toList ++ made) now
      ∨ (∃ token, step = .resume now token)
        ∧ (s.apply pace step).device.Settled p made ∧ (s.apply pace step).device.Gone p := by
  by_cases hback : ∃ token, step = .reach token ∨ step = .lose token
  · obtain ⟨token, hstep⟩ := hback
    exact .inl (live_of_back h hr pace hstep)
  · have hback : ∀ token, step ≠ .reach token ∧ step ≠ .lose token := by
      intro token
      exact ⟨fun h => hback ⟨token, .inl h⟩, fun h => hback ⟨token, .inr h⟩⟩
    have hb := apply_maxRetry pace step (status_of_live h hr.exclusive hr.phased)
    obtain ⟨calls, hch⟩ := apply_change pace s step
    rw [tried?_of_not_back hback]
    exact h.change hr.exclusive hr.phased hpace hat hstop hback hb hch

/-- What callers do with the device leaves the task to its plan. -/
theorem apply_live_of_call (h : s.device.Live p made now) (hr : s.Reachable) (pace : Pace)
    {step : Step} (hcall : step.isCall = true) : (s.apply pace step).device.Live p made now := by
  -- calls wait for nothing, so the pace is of no matter
  have hpace : s.apply pace step = s.apply ⟨p.interval, pace.timeout⟩ step := by
    cases step <;> first | rfl | cases hcall
  have hat : step.At now := by
    cases step <;> first | exact trivial | cases hcall
  have hstop : step ≠ .stop := by
    rintro rfl
    cases hcall
  have htried : s.tried? now step = none := by
    cases step <;> first | rfl | cases hcall
  rw [hpace]
  have hown : (⟨p.interval, pace.timeout⟩ : Pace).interval = p.interval := rfl
  have hlive := apply_live h hr hown hat hstop
  rw [htried] at hlive
  rcases hlive with hlive | ⟨⟨token, rfl⟩, -⟩
  · exact hlive
  · cases hcall

end Site

end CameraDriver
