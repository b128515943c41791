/-
When a report that the link is down starts a reconnect loop.

A report names the connection it was seen on by its epoch, and it may come at
any time. It starts a loop if no task is in charge and the epoch is the latest
one; the status is not asked. So besides the reports of a connected device,
those of a retired one count too: the device is disconnected, by a stop or by a
loop that gave up, and has no task, but its last epoch is still the latest. Such
a report brings the device back (`link_loss_of_retired`).

# One loss a connection

Of a device that is connected each connection is lost once. What carries this
over a run is `Spent`: an epoch that was lost is not shown as connected again,
for the status turns to connected only where a connection is installed, and
that raises the epoch.
-/
import CameraDriver.Proofs.Device.Coherence
import CameraDriver.Proofs.Device.Halted

namespace CameraDriver

variable {σ H F : Type}

namespace Device

variable {d d' : Device H F} {epoch : Nat} {calls : List (Call H)}

/-- A connected device has no task in charge. -/
theorem Phased.linkTask_of_connected (h : d.Phased) (hx : d.Exclusive)
    (hs : d.status = .connected) : d.record.linkTask = none := by
  cases hr : d.record.linkTask with
  | none => rfl
  | some t =>
      obtain ⟨k, hk, rfl⟩ := hx.charged t hr
      have hfits := h.busy k hk ((hx.live k hk).mpr hr)
      exact absurd (hfits.shown.symm.trans hs) k.stage.shown_ne_connected

-- =================================================================== spent

/-- The connection of an epoch is not in use any more. -/
structure Spent (epoch : Nat) (d : Device H F) : Prop where
  le : epoch ≤ d.record.linkEpoch
  lt : d.status = .connected → epoch < d.record.linkEpoch

namespace Spent

/-- The status turns to connected only with a later epoch. -/
theorem of_le (h : d.Spent epoch) (he : d.record.linkEpoch ≤ d'.record.linkEpoch)
    (hs : d'.status = .connected →
      d.status = .connected ∨ d.record.linkEpoch < d'.record.linkEpoch) : d'.Spent epoch := by
  obtain ⟨hle, hlt⟩ := h
  refine ⟨by omega, ?_⟩
  intro hs'
  rcases hs hs' with hs' | he'
  · have := hlt hs'
    omega
  · omega

/-- The device is not connected afterwards. -/
theorem of_down (h : d.Spent epoch) (he : d'.record.linkEpoch = d.record.linkEpoch)
    (hs : d'.status ≠ .connected) : d'.Spent epoch :=
  h.of_le (Nat.le_of_eq he.symm) fun hs' => absurd hs' hs

theorem of_same (h : d.Spent epoch) (he : d'.record.linkEpoch = d.record.linkEpoch)
    (hs : d'.status = d.status) : d'.Spent epoch :=
  h.of_le (Nat.le_of_eq he.symm) fun hs' => .inl (hs ▸ hs')

/-- An epoch that is spent stays so. -/
theorem change {pace : Site.Pace} {step : Site.Step} (h : d.Spent epoch)
    (hch : Change pace step d calls d') : d'.Spent epoch := by
  cases hch with
  | still => exact h
  | beside _ hb => exact h.of_same hb.linkEpoch hb.status
  | failed _ _ hb _ => exact h.of_down hb.linkEpoch (fun h => by cases h)
  | begun _ _ => exact h.of_same rfl rfl
  | lost _ => exact h.of_down rfl (fun h => by cases h)
  | stopped =>
      refine h.of_down (by rw [stopped_record]) ?_
      rw [stopped_status]
      exact fun h => by cases h
  | opened _ _ handle => exact h.of_same rfl rfl
  | refused _ _ e => exact h.of_same rfl rfl
  | broken _ _ e => exact h.of_same rfl rfl
  | dropped _ _ _ => exact h.of_same rfl rfl
  | ended _ _ _ => exact h.of_same rfl rfl
  | @connected _ _ token k c _ _ _ =>
      have he : (d.connectedBy token c).record.linkEpoch = d.record.linkEpoch + 1 := by
        rw [connectedBy_record]
      exact h.of_le (by omega) fun _ => .inr (by omega)
  | handedOver _ _ _ => exact h.of_down rfl (fun h => by cases h)
  | retried _ _ _ _ => exact h.of_same rfl rfl
  | exhausted _ _ _ _ => exact h.of_down rfl (fun h => by cases h)
  | loopEnded _ _ _ => exact h.of_same (detached_linkEpoch d) (detached_status d)
  | loopSpent _ _ _ _ => exact h.of_down (detached_linkEpoch d) (fun h => by cases h)
  | loopBegun _ _ _ _ => exact h.of_same (detached_linkEpoch d) (detached_status d)
  | woken _ _ _ _ => exact h.of_down rfl (fun h => by cases h)

end Spent

-- ================================================================== losses

/-- Without a task in charge, a loop is started by a hard failure of a call on
a connected device, or by a report of the latest epoch. -/
theorem Change.loss {pace : Site.Pace} {step : Site.Step} (hch : Change pace step d calls d')
    (hx : d.Exclusive) (hfree : d.record.linkTask = none)
    (hne : d'.record.reconnectLoops ≠ d.record.reconnectLoops) :
    d'.status = .disconnected ∧ d'.record.linkEpoch = d.record.linkEpoch
      ∧ (d.status = .connected ∨ step = .linkDown d.record.linkEpoch) := by
  cases hch with
  | failed _ hs hb _ => exact ⟨rfl, hb.linkEpoch, .inl hs⟩
  | lost _ => exact ⟨rfl, rfl, .inr rfl⟩
  | beside _ hb => exact absurd hb.reconnectLoops hne
  | stopped => exact absurd (congrArg Record.reconnectLoops (stopped_record d)) hne
  | @connected _ _ token k c _ _ _ =>
      exact absurd (congrArg Record.reconnectLoops (connectedBy_record d token c)) hne
  | handedOver hk _ hc =>
      have hr := hx.linkTask_eq hk hc
      rw [hfree] at hr
      cases hr
  | loopEnded _ _ _ => exact absurd (congrArg Record.reconnectLoops (detached_record d)) hne
  | loopSpent _ _ _ _ => exact absurd (congrArg Record.reconnectLoops (detached_record d)) hne
  | loopBegun _ _ _ _ => exact absurd (congrArg Record.reconnectLoops (detached_record d)) hne
  | _ => exact absurd rfl hne

end Device

namespace Site

-- ================================================================= reports

/-- A report counts exactly if no task is in charge and no connection was
installed since. -/
theorem linkDown_starts {s : Site σ H F} {epoch : Nat} :
    (s.linkDown epoch).1 = true
      ↔ s.device.record.linkTask = none ∧ s.device.record.linkEpoch = epoch := by
  unfold linkDown
  cases hr : s.device.record.linkTask with
  | some t => simp
  | none =>
      by_cases he : s.device.record.linkEpoch = epoch
      · simp [he]
      · simp [he]

/-- A report that starts no loop changes nothing. -/
theorem linkDown_ignored {s : Site σ H F} {epoch : Nat} (h : (s.linkDown epoch).1 = false) :
    s.linkDown epoch = (false, s) := by
  unfold linkDown at h ⊢
  split
  case isTrue => rfl
  case isFalse hn =>
    rw [if_neg hn] at h
    cases h

/-- A report that starts a loop takes the device down. -/
theorem linkDown_counts {s : Site σ H F} {epoch : Nat} (h : (s.linkDown epoch).1 = true) :
    s.linkDown epoch = (true, { s with device := s.device.lost }) := by
  unfold linkDown at h ⊢
  split
  case isTrue hp =>
    rw [if_pos hp] at h
    cases h
  case isFalse => rfl

variable [Camera σ H F]

/-- Whether a step finds no task in charge and starts a reconnect loop. -/
def LosesLink (pace : Pace) (s : Site σ H F) (step : Step) : Prop :=
  s.device.record.linkTask = none
    ∧ (s.apply pace step).device.record.reconnectLoops ≠ s.device.record.reconnectLoops

/-- An epoch that is spent stays so. -/
theorem spent_run {epoch : Nat} {s : Site σ H F} (h : s.device.Spent epoch) (pace : Pace)
    (steps : List Step) : (s.run pace steps).device.Spent epoch := by
  induction steps generalizing s with
  | nil => exact h
  | cons step rest ih =>
      obtain ⟨calls, hch⟩ := apply_change pace s step
      exact ih (h.change hch)

/-- A report of the link down starts a reconnect loop exactly if its epoch is
the latest one and the device is connected or retired; a report that starts none
changes nothing, and one that does takes the link down and asks the camera
nothing. Calls start a loop only on a connected device, and all that starts one
on a retired device is a report of its last epoch. And a connection is lost
once: a device that lost the link of an epoch is connected again only with a
later one, whatever happens in between. -/
theorem Reachable.link_loss {s : Site σ H F} (h : s.Reachable) :
    (∀ epoch, (s.linkDown epoch).1 = true
        ↔ s.device.record.linkEpoch = epoch
          ∧ (s.device.status = .connected ∨ s.device.Retired))
      ∧ (∀ epoch, (s.linkDown epoch).1 = false → s.linkDown epoch = (false, s))
      ∧ (∀ epoch, (s.linkDown epoch).1 = true →
          s.linkDown epoch = (true, { s with device := s.device.lost }))
      ∧ ∀ (pace : Pace) (step : Step), LosesLink pace s step →
          (s.device.status = .connected
            ∨ s.device.Retired ∧ step = .linkDown s.device.record.linkEpoch)
          ∧ ∀ (pace' : Pace) (later : List Step),
              let t := (s.apply pace step).run pace' later
              t.device.status = .connected →
                s.device.record.linkEpoch < t.device.record.linkEpoch := by
  have hx := h.exclusive
  have hp := h.phased
  have hfree : s.device.record.linkTask = none ↔
      s.device.status = .connected ∨ s.device.Retired := by
    constructor
    · -- no task in charge: the device is connected or retired
      intro hr
      rcases hp.idle hr with hs | ⟨hs, -⟩
      · exact .inl hs
      · exact .inr ⟨hs, hr⟩
    · -- and the other way
      rintro (hs | ⟨-, hr⟩)
      · exact hp.linkTask_of_connected hx hs
      · exact hr
  refine ⟨?_, fun epoch => linkDown_ignored, fun epoch => linkDown_counts, ?_⟩
  · -- a report counts if its epoch is the last and no task is in charge
    intro epoch
    rw [linkDown_starts, hfree, and_comm]
  · -- the step that starts a loop, and what is later
    rintro pace step ⟨hr, hne⟩
    obtain ⟨calls, hch⟩ := apply_change pace s step
    obtain ⟨hdown, hepoch, hcause⟩ := hch.loss hx hr hne
    refine ⟨?_, ?_⟩
    · rcases hfree.mp hr with hs | hretired
      · exact .inl hs
      · rcases hcause with hs | hstep
        · exact .inl hs
        · exact .inr ⟨hretired, hstep⟩
    · intro pace' later t hs
      -- the step leaves the epoch spent, and no step takes that back
      have hspent : (s.apply pace step).device.Spent s.device.record.linkEpoch := by
        refine ⟨Nat.le_of_eq hepoch.symm, ?_⟩
        intro hcon
        rw [hdown] at hcon
        cases hcon
      exact (spent_run hspent pace' later).lt hs

/-- A device that is stopped and whose link is then reported down connects
again, by itself; and where no attempt may be made, one connection starts as
many loops as there are reports. -/
theorem link_loss_of_retired :
    (let s := (simulated ⟨"a"⟩ 3).run ⟨10, 100⟩ [.connect, .reach 0, .resume 0 0, .stop]
     let t := s.run ⟨10, 100⟩
      [.linkDown 1, .resume 0 1, .resume 10 1, .reach 1, .resume 10 1]
     s.device.status = .disconnected ∧ (s.linkDown 1).1 = true
      ∧ t.device.status = .connected ∧ t.device.opened = 2)
    ∧ (let s := (simulated ⟨"a"⟩ 0).run ⟨10, 100⟩
        [.connect, .reach 0, .resume 0 0, .linkDown 1, .resume 0 1]
       s.device.status = .disconnected ∧ s.device.record.linkEpoch = 1
        ∧ s.device.record.reconnectLoops = 1 ∧ (s.linkDown 1).1 = true) := by
  decide +kernel

/-- A connected device loses its link to a report of its epoch. -/
theorem Reachable.link_loss_of_connected :
    let s := (simulated ⟨"a"⟩ 3).run ⟨10, 100⟩ [.connect, .reach 0, .resume 0 0]
    (s.linkDown 1).1 = true ∧ s.linkDown 0 = (false, s)
      ∧ ∀ (pace : Pace) (later : List Step),
          let t := (s.apply pace (.linkDown 1)).run pace later
          t.device.status = .connected → 1 < t.device.record.linkEpoch := by
  intro s
  have hepoch : s.device.record.linkEpoch = 1 := by decide +kernel
  have hs : s.device.status = .connected := by decide +kernel
  have hr : s.Reachable := (Reachable.fresh _ _ _ _).run _ _
  obtain ⟨hstarts, hignored, hcounts, hloss⟩ := Reachable.link_loss hr
  have hone : (s.linkDown 1).1 = true := (hstarts 1).mpr ⟨hepoch, .inl hs⟩
  refine ⟨hone, hignored 0 (by decide +kernel), ?_⟩
  intro pace later t ht
  have hfree : s.device.record.linkTask = none := by decide +kernel
  have hlost : LosesLink pace s (.linkDown 1) := by
    refine ⟨hfree, ?_⟩
    show (s.linkDown 1).2.device.record.reconnectLoops ≠ _
    rw [hcounts 1 hone]
    exact Nat.succ_ne_self _
  have hlt := (hloss pace _ hlost).2 pace later ht
  rw [hepoch] at hlt
  exact hlt

end Site

end CameraDriver
