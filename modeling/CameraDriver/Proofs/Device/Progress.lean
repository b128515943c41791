/-
A task in charge does not stand still.

Whatever a device has been through, its task in charge sleeps until a time that
is still to come, or there is a step of the task that can be taken at once and
brings it nearer to its end (`Site.Reachable.progress`). So a run can always be
carried on until the clock moves, and no budget is spent by waiting for nothing.

# The measure

`LinkStage.work` counts the stages that may follow. A retry goes through three:
its open is on the way, has come back, and the loop sleeps before the next one;
`3 * (max - n)` of them are left to a loop that sleeps after its n-th try. The
loop that was spawned, and the first open before it, stand above all of these.
-/
import CameraDriver.Proofs.Device.Budget

namespace CameraDriver

variable {σ H F : Type}

-- =============================================================== measure

/-- The stages that may follow a stage, given the retry budget of the record. -/
def LinkStage.work (budget : Nat) : LinkStage H → Nat
  | .opening .first => 3 * budget + 3
  | .opened .first _ => 3 * budget + 2
  | .spawned => 3 * budget + 1
  | .opening (.retry number max) => 3 * (max - number) + 2
  | .opened (.retry number max) _ => 3 * (max - number) + 1
  | .sleeping made max _ => 3 * (max - made)

namespace Device

variable {d d' : Device H F} {token : Token} {k : LinkTask H}

/-- The stages that may follow that of the task in charge. -/
def work (d : Device H F) : Nat :=
  (d.live.head?.map (·.stage.work d.record.maxRetry)).getD 0

theorem work_of_mem (hx : d.Exclusive) (hk : k ∈ d.links) (hc : k.cancelled = false) :
    d.work = k.stage.work d.record.maxRetry := by
  obtain ⟨k', hlive, ht⟩ := hx.live_eq_singleton ((hx.live k hk).mp hc)
  have hk' : k' ∈ d.live := hlive ▸ List.mem_singleton.mpr rfl
  have heq := hx.eq_of_token (mem_live.mp hk').1 hk ht
  rw [work, hlive, heq]
  rfl

theorem work_of_idle (hx : d.Exclusive) (hr : d.record.linkTask = none) : d.work = 0 := by
  rw [work, hx.live_eq_nil hr]
  rfl

/-- The task in charge is in another stage. -/
theorem work_of_setStage (hx' : d'.Exclusive) (hb : d'.record.maxRetry = d.record.maxRetry)
    (hk : d.link? token = some k) (hc : k.cancelled = false) {stage : LinkStage H}
    (hl : d'.links = (d.setStage token stage).links) :
    d'.work = stage.work d.record.maxRetry := by
  have hm := mem_of_setStage stage hk
  rw [← hl] at hm
  rw [work_of_mem hx' hm hc, hb]

end Device

/-- Whether a task that is in a stage can go on at a time. -/
def LinkStage.Ready (now : Nat) : LinkStage H → Prop
  | .opening _ => False
  | .sleeping _ _ due => due ≤ now
  | _ => True

-- ================================================================= steps

namespace Site

variable [Camera σ H F] {s : Site σ H F} {k : LinkTask H}

/-- An open that is on the way can come back. -/
theorem reach_work (hr : s.Reachable) (hk : k ∈ s.device.links) (hc : k.cancelled = false)
    {attempt : Attempt} (hst : k.stage = .opening attempt) (pace : Pace) :
    (s.apply pace (.reach k.token)).device.work < s.device.work := by
  have hx := hr.exclusive
  have hlink := hx.link?_eq hk
  rcases back_cases pace 0 s (.inl rfl : Step.reach k.token = .reach k.token ∨ _) with
    ⟨htried, -⟩ | ⟨k', attempt', result, hk', hst', -, hlinks, hentry, -⟩
  · -- the open would have been a try
    obtain ⟨token, cancelled, stage⟩ := k
    cases hst
    simp [tried?, Device.attempt?, hlink] at htried
  · rw [hlink] at hk'
    cases hk'
    rw [hst] at hst'
    cases hst'
    have hbudget := congrArg (fun e => e.record.maxRetry) hentry
    rw [Device.work_of_setStage (hr.step pace _).exclusive hbudget hlink hc hlinks,
      Device.work_of_mem hx hk hc, hst]
    cases attempt <;> exact Nat.lt_succ_self _

/-- The task in charge goes on with what its open has given. -/
theorem settle_work (hr : s.Reachable) (hk : k ∈ s.device.links) (hc : k.cancelled = false)
    {attempt : Attempt} {result : Except HardwareError (Connection H)}
    (hst : k.stage = .opened attempt result) {interval now : Nat}
    (hx' : (s.settle interval now k attempt result).device.Exclusive) :
    (s.settle interval now k attempt result).device.work < s.device.work := by
  have hlink := hr.exclusive.link?_eq hk
  rw [Device.work_of_mem hr.exclusive hk hc, hst]
  unfold settle at hx' ⊢
  rw [if_neg (Bool.eq_false_iff.mp hc)] at hx' ⊢
  cases result with
  | ok c =>
      rw [Device.work_of_idle hx' rfl]
      cases attempt <;> exact Nat.succ_pos _
  | error e =>
      cases attempt with
      | first =>
          -- the loop that takes over stands one stage further
          rw [Device.work_of_mem hx' (k := { token := k.token, stage := .spawned })
            List.mem_concat_self rfl]
          exact Nat.lt_succ_self _
      | retry number max =>
          dsimp only at hx' ⊢
          by_cases hlt : number < max
          · rw [if_pos hlt] at hx' ⊢
            rw [Device.work_of_setStage (d := s.device) hx' rfl hlink hc rfl]
            exact Nat.lt_succ_self _
          · rw [if_neg hlt] at hx' ⊢
            rw [Device.work_of_idle hx' rfl]
            exact Nat.succ_pos _

/-- The first step of a loop that is not cancelled. -/
theorem startLoop_device (hc : k.cancelled = false) (interval now : Nat) (s : Site σ H F) :
    (s.startLoop interval now k).device =
      if s.device.record.maxRetry = 0 then s.device.detached.givenUp k.token
      else s.device.detached.setStage k.token
        (.sleeping 0 s.device.record.maxRetry (now + interval)) := by
  have hdetached : ((s.onDevice (·.modifyRecord ({ · with handle := none }))).close?
      s.device.record.handle).device = s.device.detached := close?_device _ _
  unfold startLoop
  dsimp only [giveUp, onDevice] at hdetached ⊢
  rw [if_neg (Bool.eq_false_iff.mp hc), hdetached, Device.detached_maxRetry]
  split <;> rfl

/-- A loop in charge begins. -/
theorem startLoop_work (hr : s.Reachable) (hk : k ∈ s.device.links) (hc : k.cancelled = false)
    (hst : k.stage = .spawned) {interval now : Nat}
    (hx' : (s.startLoop interval now k).device.Exclusive) :
    (s.startLoop interval now k).device.work < s.device.work := by
  rw [Device.work_of_mem hr.exclusive hk hc, hst]
  rw [startLoop_device hc] at hx' ⊢
  by_cases hzero : s.device.record.maxRetry = 0
  · rw [if_pos hzero] at hx' ⊢
    rw [Device.work_of_idle hx' rfl]
    exact Nat.succ_pos _
  · rw [if_neg hzero] at hx' ⊢
    rw [Device.work_of_setStage (d := s.device) hx' (Device.detached_maxRetry _)
      (hr.exclusive.link?_eq hk) hc (Device.setStage_links_congr _ (Device.detached_links _))]
    exact Nat.lt_succ_self _

/-- The task in charge goes on unless it waits for its open or for the clock. -/
theorem resume_work (hr : s.Reachable) (hk : k ∈ s.device.links) (hc : k.cancelled = false)
    {now : Nat} (hready : k.stage.Ready now) (pace : Pace) :
    (s.apply pace (.resume now k.token)).device.work < s.device.work := by
  have hlink := hr.exclusive.link?_eq hk
  have hx' := (hr.step pace (.resume now k.token)).exclusive
  have hin := (hr.phased.busy k hk hc).inBudget
  show (s.resume pace.interval now k.token).device.work < _
  change (s.resume pace.interval now k.token).device.Exclusive at hx'
  unfold resume at hx' ⊢
  rw [hlink] at hx' ⊢
  dsimp only at hx' ⊢
  cases hst : k.stage with
  | opening attempt =>
      rw [hst] at hready
      exact hready.elim
  | opened attempt result =>
      rw [hst] at hx'
      exact settle_work hr hk hc hst hx'
  | spawned =>
      rw [hst] at hx'
      exact startLoop_work hr hk hc hst hx'
  | sleeping made max due =>
      rw [hst] at hready hin hx'
      have hdue : due ≤ now := hready
      have hlt : made < max := hin
      dsimp only at hx' ⊢
      rw [if_neg (Bool.eq_false_iff.mp hc), if_pos hdue] at hx' ⊢
      rw [Device.work_of_setStage (d := s.device) hx' rfl hlink hc rfl,
        Device.work_of_mem hr.exclusive hk hc, hst]
      show 3 * (max - (made + 1)) + 2 < 3 * (max - made)
      omega

/-- The task in charge, if there is one, sleeps until a time that is to come, or
a step brings it nearer to its end. -/
theorem Reachable.progress (hr : s.Reachable) (pace : Pace) (now : Nat) :
    (∃ later, now < later ∧ s.device.SleepsUntil later)
      ∨ ∃ step : Step, step.At now ∧ step ≠ .stop
        ∧ (s.apply pace step).device.work < s.device.work := by
  have hx := hr.exclusive
  cases hcharged : s.device.record.linkTask with
  | none =>
      left
      refine ⟨now + 1, Nat.lt_succ_self _, ?_⟩
      intro k hk hc
      have hr := (hx.live k hk).mp hc
      rw [hcharged] at hr
      cases hr
  | some token =>
      obtain ⟨k, hk, rfl⟩ := hx.charged token hcharged
      have hc := (hx.live k hk).mpr hcharged
      have hresume : k.stage.Ready now → ∃ step : Step, step.At now ∧ step ≠ .stop
          ∧ (s.apply pace step).device.work < s.device.work := fun hready =>
        ⟨.resume now k.token, rfl, nofun, resume_work hr hk hc hready pace⟩
      cases hst : k.stage with
      | opening attempt =>
          right
          exact ⟨.reach k.token, trivial, nofun, reach_work hr hk hc hst pace⟩
      | opened attempt result => exact .inr (hresume (by rw [hst]; trivial))
      | spawned => exact .inr (hresume (by rw [hst]; trivial))
      | sleeping made max due =>
          by_cases hdue : due ≤ now
          · exact .inr (hresume (by rw [hst]; exact hdue))
          · left
            refine ⟨due, Nat.lt_of_not_le hdue, ?_⟩
            intro k' hk' hc'
            rw [hx.eq_of_live hk' hk hc' hc]
            exact ⟨made, max, due, hst, Nat.le_refl _⟩

end Site

end CameraDriver
