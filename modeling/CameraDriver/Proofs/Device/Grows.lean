/-
What a device keeps, whatever is done to it.

A device that is known goes on from where it stands: it keeps its identifier, what it has
published and what it has logged stand behind what comes later, and its counters do not go
down (`Device.Grows`). So a device that starts anew is never taken for one that has gone on:
it has published nothing and counts from nothing.

Every change is of this kind (`Change.grows`). The counters and the published statuses are
read off its cases; the log and the tokens were told before (`Change.log`, `Change.tokens`).
-/
import CameraDriver.Proofs.Device.Budget
import CameraDriver.Proofs.Device.Frame
import Mathlib.Order.Nat

namespace CameraDriver

variable {σ H F : Type}

namespace Device

variable {d d' d'' : Device H F}

/-- A device and what has become of it. -/
structure Grows (d d' : Device H F) : Prop where
  id : d'.id = d.id
  history : d.history <:+ d'.history
  log : d.log <:+ d'.log
  nextToken : d.nextToken ≤ d'.nextToken
  opened : d.opened ≤ d'.opened
  linkEpoch : d.record.linkEpoch ≤ d'.record.linkEpoch
  reconnectLoops : d.record.reconnectLoops ≤ d'.record.reconnectLoops

theorem Grows.refl (d : Device H F) : d.Grows d where
  id := rfl
  history := List.suffix_refl _
  log := List.suffix_refl _
  nextToken := Nat.le_refl _
  opened := Nat.le_refl _
  linkEpoch := Nat.le_refl _
  reconnectLoops := Nat.le_refl _

/-- What grows out of what has grown has grown. -/
theorem Grows.trans (h : d.Grows d') (h' : d'.Grows d'') : d.Grows d'' where
  id := h'.id.trans h.id
  history := h.history.trans h'.history
  log := h.log.trans h'.log
  nextToken := h.nextToken.trans h'.nextToken
  opened := h.opened.trans h'.opened
  linkEpoch := h.linkEpoch.trans h'.linkEpoch
  reconnectLoops := h.reconnectLoops.trans h'.reconnectLoops

/-- Every change lets a device grow. -/
theorem Change.grows {pace : Site.Pace} {step : Site.Step} {calls : List (Call H)}
    (hch : Change pace step d calls d') : d.Grows d' := by
  have hlog : d.log <:+ d'.log := ⟨_, hch.log.symm⟩
  have hnext := hch.tokens.1
  -- nothing is published and nothing counted
  have hsame (hid : d'.id = d.id) (hh : d'.history = d.history) (ho : d'.opened = d.opened)
      (he : d'.record.linkEpoch = d.record.linkEpoch)
      (hl : d'.record.reconnectLoops = d.record.reconnectLoops) : d.Grows d' :=
    ⟨hid, hh ▸ List.suffix_refl _, hlog, hnext, ho.ge, he.ge, hl.ge⟩
  -- a status is published
  have hnews {status : Status} (hid : d'.id = d.id) (hh : d'.history = status :: d.history)
      (ho : d'.opened = d.opened) (he : d.record.linkEpoch ≤ d'.record.linkEpoch)
      (hl : d.record.reconnectLoops ≤ d'.record.reconnectLoops) : d.Grows d' :=
    ⟨hid, hh ▸ List.suffix_cons _ _, hlog, hnext, ho.ge, he, hl⟩
  have hepoch := detached_linkEpoch d
  have hloops : d.detached.record.reconnectLoops = d.record.reconnectLoops := by
    rw [detached_record]
  cases hch with
  | beside _ hb => exact hsame hb.id hb.history hb.opened hb.linkEpoch hb.reconnectLoops
  | failed _ _ hb _ =>
      exact hnews hb.id (congrArg _ hb.history) hb.opened hb.linkEpoch.ge
        (hb.reconnectLoops ▸ Nat.le_succ _)
  | lost _ => exact hnews rfl rfl rfl (Nat.le_refl _) (Nat.le_succ _)
  | handedOver _ _ _ => exact hnews rfl rfl rfl (Nat.le_refl _) (Nat.le_succ _)
  | exhausted _ _ _ _ => exact hnews rfl rfl rfl (Nat.le_refl _) (Nat.le_refl _)
  | woken _ _ _ _ => exact hnews rfl rfl rfl (Nat.le_refl _) (Nat.le_refl _)
  | stopped =>
      have he : d.stopped.record.linkEpoch = d.record.linkEpoch := by rw [stopped_record]
      have hl : d.stopped.record.reconnectLoops = d.record.reconnectLoops := by
        rw [stopped_record]
      exact hnews (stopped_id d) (stopped_history d) (stopped_opened d) he.ge hl.ge
  | @connected _ _ token _ c _ _ _ =>
      have he : (d.connectedBy token c).record.linkEpoch = d.record.linkEpoch + 1 := by
        rw [connectedBy_record]
      have hl : (d.connectedBy token c).record.reconnectLoops = d.record.reconnectLoops := by
        rw [connectedBy_record]
      exact hnews (connectedBy_id d token c) (connectedBy_history d token c)
        (connectedBy_opened d token c) (he ▸ Nat.le_succ _) hl.ge
  | opened _ _ handle =>
      exact ⟨rfl, List.suffix_refl _, hlog, hnext, Nat.le_succ _, Nat.le_refl _, Nat.le_refl _⟩
  | loopEnded _ _ _ =>
      exact hsame (detached_id d) (detached_history d) (detached_opened d) hepoch hloops
  | loopSpent _ _ _ _ =>
      exact hnews (detached_id d) (congrArg _ (detached_history d)) (detached_opened d) hepoch.ge
        hloops.ge
  | loopBegun _ _ _ _ =>
      exact hsame (detached_id d) (detached_history d) (detached_opened d) hepoch hloops
  | _ => exact hsame rfl rfl rfl rfl rfl

end Device

namespace Site

variable [Camera σ H F]

/-- A device grows with every step. -/
theorem apply_grows (pace : Pace) (s : Site σ H F) (step : Step) :
    s.device.Grows (s.apply pace step).device := by
  obtain ⟨calls, hch⟩ := apply_change pace s step
  exact hch.grows

end Site

end CameraDriver
