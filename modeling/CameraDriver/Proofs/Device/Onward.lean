/-
Where a link task stands after a step of it.

A task that goes on ends or comes to one of its next stages (`LinkTask.Next`), and an
open that comes back is left with its task. No other task of the device moves meanwhile
(`Change.link?_ne`). So a task can be followed by its token alone, whatever else there
is in the list.

# When a task waits

A task waits for its open, or sleeps until the clock has come to its time; a sleeping
task that was cancelled does not wait (`LinkTask.goesOn`). `LinkStage.toBegin` counts
the steps until a loop that stands in the queue, or may still be put there, has begun;
a loop that has begun is never put there again. `LinkTask.ahead` counts the steps until
a task waits. Each step takes one off either count, the second one only if a loop
pauses at all before its next attempt.
-/
import CameraDriver.Proofs.Device.Progress

namespace CameraDriver

variable {σ H F : Type}

-- ============================================================ next stages

/-- The link task that a step is of. -/
def Site.Step.mover? : Site.Step → Option Token
  | .reach token => some token
  | .lose token => some token
  | .resume _ token => some token
  | _ => none

/-- A step of a link task is not about features. -/
theorem Site.Step.isFeature_of_mover? {step : Site.Step} {token : Token}
    (h : step.mover? = some token) : step.isFeature = false := by
  cases step with
  | reach _ => rfl
  | lose _ => rfl
  | resume _ _ => rfl
  | _ => cases h

namespace LinkTask

/-- Whether a task goes on at a time: not while its open is on the way, nor while it
sleeps, unless it was cancelled. -/
def goesOn (now : Nat) (k : LinkTask H) : Bool :=
  match k.stage with
  | .opening _ => false
  | .sleeping _ _ due => k.cancelled || decide (due ≤ now)
  | _ => true

/-- What becomes of a task that goes on at a time. -/
inductive Next (interval now : Nat) (k : LinkTask H) : Option (LinkTask H) → Prop
  | ended : Next interval now k none
  /-- A connect has failed, and a loop takes over. -/
  | handedOver {e : HardwareError} (hst : k.stage = .opened .first (.error e))
      (hc : k.cancelled = false) :
      Next interval now k (some { token := k.token, stage := .spawned })
  /-- An attempt has failed, and another one may be made. -/
  | retried {number max : Nat} {e : HardwareError}
      (hst : k.stage = .opened (.retry number max) (.error e)) (hc : k.cancelled = false) :
      Next interval now k (some { k with stage := .sleeping number max (now + interval) })
  | begun {max : Nat} (hst : k.stage = .spawned) (hc : k.cancelled = false) :
      Next interval now k (some { k with stage := .sleeping 0 max (now + interval) })
  | woken {made max due : Nat} (hst : k.stage = .sleeping made max due)
      (hc : k.cancelled = false) :
      Next interval now k (some { k with stage := .opening (.retry (made + 1) max) })

end LinkTask

namespace Device

variable {d d' : Device H F} {calls : List (Call H)}

/-- A step of one task leaves the others where they stand. -/
theorem Change.link?_ne {pace : Site.Pace} {step : Site.Step} {token other : Token}
    (hch : Change pace step d calls d') (hstep : step.mover? = some token) (h : other ≠ token) :
    d'.link? other = d.link? other := by
  have htoken : ∀ {t : Token}, some t = some token → other ≠ t := fun heq => by
    rw [Option.some.inj heq]
    exact h
  cases hch with
  | still => rfl
  | beside _ hb => exact link?_congr hb.links
  | failed hf _ _ _ =>
      rw [Site.Step.isFeature_of_mover? hstep] at hf
      cases hf
  | begun _ _ => cases hstep
  | lost _ => cases hstep
  | stopped => cases hstep
  | opened _ _ _ => exact link?_setStage_ne _ (htoken hstep)
  | refused _ _ _ => exact link?_setStage_ne _ (htoken hstep)
  | broken _ _ _ => exact link?_setStage_ne _ (htoken hstep)
  | dropped _ _ _ => exact link?_endLink_ne (htoken hstep)
  | ended _ _ _ => exact link?_endLink_ne (htoken hstep)
  | connected _ _ _ =>
      rw [link?_congr (connectedBy_links _ _ _)]
      exact link?_endLink_ne (htoken hstep)
  | @handedOver _ _ t _ _ _ _ _ =>
      have ht := htoken hstep
      rw [link?_concat (d := d.endLink t) rfl, if_neg ht.symm, Option.or_none]
      exact link?_endLink_ne ht
  | retried _ _ _ _ => exact link?_setStage_ne _ (htoken hstep)
  | exhausted _ _ _ _ => exact link?_endLink_ne (htoken hstep)
  | loopEnded _ _ _ =>
      rw [link?_endLink_ne (htoken hstep), link?_congr (detached_links d)]
  | @loopSpent _ _ t _ _ _ _ _ =>
      rw [← link?_congr (detached_links d)]
      exact link?_endLink_ne (htoken hstep)
  | loopBegun _ _ _ _ =>
      rw [link?_setStage_ne _ (htoken hstep), link?_congr (detached_links d)]
  | woken _ _ _ _ => exact link?_setStage_ne _ (htoken hstep)

end Device

namespace Site

variable [Camera σ H F] {s : Site σ H F} {token : Token} {k : LinkTask H}

/-- An open that comes back is left with its task. -/
theorem back_link? {step : Step} (hstep : step = .reach token ∨ step = .lose token)
    (hk : s.device.link? token = some k) {attempt : Attempt} (hst : k.stage = .opening attempt)
    (pace : Pace) : ∃ result, (s.apply pace step).device.link? token
      = some { k with stage := .opened attempt result } := by
  rcases back_cases pace 0 s hstep with
    ⟨htried, -⟩ | ⟨k', attempt', result, hk', hst', -, hlinks, -, -⟩
  · -- the open would have been a try
    obtain ⟨t, cancelled, stage⟩ := k
    cases hst
    rcases hstep with rfl | rfl <;> simp [tried?, Device.attempt?, hk] at htried
  · obtain rfl : k = k' := Option.some.inj (hk.symm.trans hk')
    obtain rfl : attempt = attempt' := by
      rw [hst] at hst'
      exact LinkStage.opening.inj hst'
    exact ⟨result, (Device.link?_congr hlinks).trans (Device.link?_setStage_self _ hk)⟩

omit [Camera σ H F] in
/-- A task that is taken out of the list has ended. -/
theorem next_of_endLink {d d' : Device H F} {interval now : Nat}
    (hlinks : d'.links = (d.endLink token).links) : k.Next interval now (d'.link? token) := by
  rw [Device.link?_congr hlinks, Device.link?_endLink_self]
  exact .ended

omit [Camera σ H F] in
/-- A task that is put into one of its next stages stands there. -/
theorem next_of_setStage {d d' : Device H F} {interval now : Nat} {stage : LinkStage H}
    (hk : d.link? token = some k) (hlinks : d'.links = (d.setStage token stage).links)
    (h : k.Next interval now (some { k with stage })) : k.Next interval now (d'.link? token) := by
  rw [Device.link?_congr hlinks, Device.link?_setStage_self stage hk]
  exact h

/-- What becomes of a task that has its open back. -/
theorem settle_next (hk : s.device.link? token = some k) {attempt : Attempt}
    {result : Except HardwareError (Connection H)} (hst : k.stage = .opened attempt result)
    (interval now : Nat) :
    k.Next interval now ((s.settle interval now k attempt result).device.link? token) := by
  obtain rfl : k.token = token := (Device.mem_of_link? hk).2
  unfold settle
  dsimp only
  split
  case isTrue =>
    -- a cancelled task closes what its open gave, and ends
    cases result <;> exact next_of_endLink (d := s.device) rfl
  case isFalse hc =>
    have hc : k.cancelled = false := by simpa using hc
    cases result with
    | ok c =>
        refine next_of_endLink (d := s.device) ?_
        unfold install
        dsimp only [onDevice]
        cases (s.device.endLink k.token).record.handle <;> rfl
    | error e =>
        cases attempt with
        | first =>
            dsimp only [onDevice]
            rw [Device.link?_concat (d := s.device.endLink k.token) rfl,
              Device.link?_endLink_self, if_pos rfl]
            exact .handedOver hst hc
        | retry number max =>
            dsimp only
            split
            case isTrue => exact next_of_setStage hk rfl (.retried hst hc)
            case isFalse => exact next_of_endLink (d := s.device) rfl

/-- What becomes of a loop that begins. -/
theorem startLoop_next (hk : s.device.link? token = some k) (hst : k.stage = .spawned)
    (interval now : Nat) :
    k.Next interval now ((s.startLoop interval now k).device.link? token) := by
  obtain rfl : k.token = token := (Device.mem_of_link? hk).2
  cases hc : k.cancelled with
  | true =>
      refine next_of_endLink (d := s.device) ?_
      unfold startLoop
      dsimp only [onDevice]
      rw [if_pos hc]
      cases s.device.record.handle <;> rfl
  | false =>
      rw [startLoop_device hc]
      have hlinks := Device.detached_links s.device
      split
      case isTrue => exact next_of_endLink (Device.endLink_links_congr hlinks)
      case isFalse =>
        exact next_of_setStage hk (Device.setStage_links_congr _ hlinks) (.begun hst hc)

/-- What becomes of a task that goes on. -/
theorem resume_next (hk : s.device.link? token = some k) {now : Nat}
    (hgo : k.goesOn now = true) (interval : Nat) :
    k.Next interval now ((s.resume interval now token).device.link? token) := by
  unfold resume
  rw [hk]
  dsimp only
  unfold LinkTask.goesOn at hgo
  cases hst : k.stage with
  | opening attempt => simp [hst] at hgo
  | opened attempt result => exact settle_next hk hst interval now
  | spawned => exact startLoop_next hk hst interval now
  | sleeping made max due =>
      rw [hst] at hgo
      dsimp only
      cases hc : k.cancelled with
      | true =>
          rw [if_pos rfl]
          exact next_of_endLink (d := s.device) rfl
      | false =>
          rw [if_neg Bool.false_ne_true, if_pos (by simpa [hc] using hgo)]
          exact next_of_setStage hk rfl (.woken hst hc)

end Site

-- ================================================================ measures

/-- The steps until a loop has begun that stands in the queue or may be put there. -/
def LinkStage.toBegin : LinkStage H → Nat
  | .opening .first => 3
  | .opened .first _ => 2
  | .spawned => 1
  | _ => 0

/-- The steps until a task waits for the clock, once its open is back. -/
def LinkTask.ahead (now : Nat) (k : LinkTask H) : Nat :=
  match k.stage with
  | .opening _ => 3
  | .opened .. => 2
  | .spawned => 1
  | .sleeping .. => if k.goesOn now then 4 else 0

namespace LinkTask

variable {interval now : Nat} {k k' : LinkTask H}

/-- A task that goes on does not wait. -/
theorem ahead_pos (h : k.goesOn now = true) : 0 < k.ahead now := by
  unfold ahead
  split
  next => exact Nat.zero_lt_succ 2
  next => exact Nat.zero_lt_succ 1
  next => exact Nat.one_pos
  next =>
    rw [if_pos h]
    exact Nat.zero_lt_succ 3

/-- A task that goes on has its open back, if there was one. -/
theorem isOpening_of_goesOn (h : k.goesOn now = true) : k.stage.isOpening = false := by
  cases hst : k.stage with
  | opening attempt => simp [goesOn, hst] at h
  | _ => rfl

/-- A loop that has begun, or of which there is none, stands in no queue. -/
theorem isSpawned_of_toBegin (h : k.stage.toBegin = 0) : k.stage.isSpawned = false := by
  cases hst : k.stage with
  | spawned =>
      rw [hst] at h
      cases h
  | _ => rfl

/-- A task that goes on comes nearer to its beginning, if it has not begun. -/
theorem Next.toBegin_le (h : Next interval now k (some k')) :
    k'.stage.toBegin ≤ k.stage.toBegin - 1 := by
  cases h with
  | handedOver hst _ =>
      rw [hst]
      exact Nat.le_refl _
  | _ => exact Nat.zero_le _

/-- A task that goes on comes nearer to where it waits, if it pauses before its
attempts. -/
theorem Next.ahead_lt (h : Next interval now k (some k')) (hgo : k.goesOn now = true)
    (hinterval : 0 < interval) : k'.ahead now < k.ahead now := by
  have hlater : ¬ now + interval ≤ now := by omega
  cases h with
  | handedOver hst _ => simp [ahead, hst]
  | retried hst hc => simp [ahead, goesOn, hst, hc, hlater]
  | begun hst hc => simp [ahead, goesOn, hst, hc, hlater]
  | woken hst _ => simp [ahead, hst, hgo]

end LinkTask

end CameraDriver
