/-
When a connected device holds no connection.

A loop that was cancelled before its first step closes, when it begins, whatever the
record holds. If that is a connection of after the cancellation the device stays
connected and has nothing to forward a call on. Such a step is late
(`Device.isLate`). No other step takes the connection from a device that stays
connected (`Phased.held_change`), and steps that keep to the queue are never late
(`InTurn.isLate_eq_false`).
-/
import CameraDriver.Proofs.Device.Coherence

namespace CameraDriver

variable {σ H F : Type}

namespace Device

/-- Whether a step is the first one of a loop that was cancelled, and comes when the
record holds a connection. -/
def isLate (d : Device H F) : Site.Step → Bool
  | .resume _ token =>
      (d.link? token).any fun k =>
        k.stage.isSpawned && k.cancelled && d.record.handle.isSome
  | _ => false

/-- While the device is connected its record holds a connection. -/
def Held (d : Device H F) : Prop := d.status = .connected → d.record.handle.isSome = true

variable {d d' : Device H F} {calls : List (Call H)}

/-- Only a task that goes on can be late. -/
theorem isLate_resume (d : Device H F) (now : Nat) (token : Token) :
    d.isLate (.resume now token) = (d.link? token).any fun k =>
      k.stage.isSpawned && k.cancelled && d.record.handle.isSome :=
  rfl

theorem Held.of_same (h : d.Held) (hs : d'.status = d.status)
    (hh : d'.record.handle = d.record.handle) : d'.Held := by
  unfold Held
  rw [hs, hh]
  exact h

/-- A device that is not connected need not hold a connection. -/
theorem Held.of_down (hs : d'.status ≠ .connected) : d'.Held := fun h => absurd h hs

/-- A step that is not late leaves a connected device with its connection. -/
theorem Phased.held_change {pace : Site.Pace} {step : Site.Step} (hp : d.Phased)
    (hlate : d.isLate step = false) (hch : Change pace step d calls d') (h : d.Held) :
    d'.Held := by
  cases hch with
  | still => exact h
  | beside _ hb => exact h.of_same hb.status hb.handle
  | failed _ _ _ _ => exact .of_down fun hs => by cases hs
  | begun _ _ => exact h.of_same rfl rfl
  | lost _ => exact .of_down fun hs => by cases hs
  | stopped =>
      refine .of_down ?_
      rw [stopped_status]
      exact fun hs => by cases hs
  | opened _ _ handle => exact h.of_same rfl rfl
  | refused _ _ e => exact h.of_same rfl rfl
  | broken _ _ e => exact h.of_same rfl rfl
  | dropped _ _ _ => exact h.of_same rfl rfl
  | ended _ _ _ => exact h.of_same rfl rfl
  | connected _ _ _ =>
      intro _
      rw [connectedBy_record]
      rfl
  | handedOver _ _ _ => exact .of_down fun hs => by cases hs
  | retried _ _ _ _ => exact h.of_same rfl rfl
  | exhausted _ _ _ _ => exact .of_down fun hs => by cases hs
  | @loopEnded _ now token k hk hst hc =>
      -- nothing is held, so that nothing is closed
      have hnone : d.record.handle = none := by
        rw [isLate_resume, hk] at hlate
        simpa [hst, hc, LinkStage.isSpawned] using hlate
      exact h.of_same (detached_status d) ((detached_handle d).trans hnone.symm)
  | loopSpent _ _ _ _ => exact .of_down fun hs => by cases hs
  | loopBegun hk hst hc _ =>
      obtain ⟨hshown, -, -⟩ := hp.busy _ (mem_of_link? hk).1 hc
      rw [hst] at hshown
      refine .of_down ?_
      show d.detached.status ≠ .connected
      rw [detached_status, hshown]
      exact fun hs => by cases hs
  | woken _ _ _ _ => exact .of_down fun hs => by cases hs

end Device

/-- Of steps that keep to the queue none is late. -/
theorem Site.InTurn.isLate_eq_false [Camera σ H F] {q : Queue} {s : Site σ H F}
    (h : Site.InTurn q s) (step : Site.Step) : s.device.isLate step = false := by
  cases step with
  | resume now token =>
      rw [Device.isLate_resume]
      cases hk : s.device.link? token with
      | none => rfl
      | some k =>
          rw [Option.any_some, Bool.eq_false_iff]
          intro hall
          rw [Bool.and_eq_true, Bool.and_eq_true] at hall
          obtain ⟨⟨hspawned, hc⟩, hheld⟩ := hall
          rw [h.attached.bare k (Device.mem_of_link? hk).1 hspawned hc] at hheld
          cases hheld
  | _ => rfl

end CameraDriver
