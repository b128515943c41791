/-
A stopped device stays stopped until a connection is asked for.

A device is `Retired` while it is disconnected and no task is in charge, so
that every task that is left is cancelled. Steps that ask for no connection
leave it so (`Retired.change`), start no open and install nothing (`Idles`).
`Halted` is what a stop leaves behind: a retired device that holds nothing, with
its retries at zero. What steps still do with it is to finish the cancelled
tasks: a connection that an open has given to one of them is closed when the
task goes on (`Site.resume_of_halted`).
-/
import CameraDriver.Proofs.Device.Exclusive

namespace CameraDriver

variable {σ H F : Type}

/-- Whether a step asks for a connection: a caller connects the device, or
reports its link down. -/
def Site.Step.startsLink : Site.Step → Bool
  | .connect => true
  | .linkDown _ => true
  | _ => false

namespace Device

/-- Disconnected, with no task in charge: never connected, stopped, or given
up on. -/
def Retired (d : Device H F) : Prop := d.status = .disconnected ∧ d.record.linkTask = none

/-- Disconnected, with nothing held and no task in charge. -/
structure Halted (d : Device H F) : Prop where
  status : d.status = .disconnected
  handle : d.record.handle = none
  linkTask : d.record.linkTask = none
  retryCount : d.record.retryCount = 0

/-- A record that is written as it is. -/
theorem modifyRecord_eq {d : Device H F} {f : Record (Connection H) → Record (Connection H)}
    (h : f d.record = d.record) : d.modifyRecord f = d := by
  unfold modifyRecord
  rw [h]

/-- What may happen to a device that is retired: none of its tasks starts an
open, and no connection is installed. -/
structure Idles (d d' : Device H F) : Prop where
  linkEpoch : d'.record.linkEpoch = d.record.linkEpoch
  opening : ∀ k ∈ d'.links, k.stage.isOpening = true → k ∈ d.links

theorem Idles.refl (d : Device H F) : d.Idles d := ⟨rfl, fun _ hk _ => hk⟩

theorem Idles.trans {d d' d'' : Device H F} (h : d.Idles d') (h' : d'.Idles d'') :
    d.Idles d'' where
  linkEpoch := h'.linkEpoch.trans h.linkEpoch
  opening := fun k hk ho => h.opening k (h'.opening k hk ho) ho

variable {d d' : Device H F} {token : Token} {k : LinkTask H} {calls : List (Call H)}

-- =============================================================== retired

namespace Retired

/-- Every task of a retired device is cancelled. -/
theorem cancelled (h : d.Retired) (hx : d.Exclusive) (hk : k ∈ d.links) : k.cancelled = true := by
  cases hc : k.cancelled with
  | true => rfl
  | false =>
      have hr := (hx.live k hk).mp hc
      rw [h.2] at hr
      cases hr

/-- A task that is there and is not cancelled is none. -/
theorem absurd_live (h : d.Retired) (hx : d.Exclusive) (hk : d.link? token = some k)
    (hc : k.cancelled = false) : False := by
  rw [h.cancelled hx (mem_of_link? hk).1] at hc
  cases hc

end Retired

/-- A device goes on resting: it stays retired and idles, and what was reset
stays so. -/
structure Rests (d d' : Device H F) : Prop where
  retired : d'.Retired
  idles : d.Idles d'
  handle : d.record.handle = none → d'.record.handle = none
  retryCount : d.record.retryCount = 0 → d'.record.retryCount = 0

namespace Rests

theorem refl (h : d.Retired) : d.Rests d := ⟨h, .refl d, id, id⟩

theorem trans {d'' : Device H F} (h : d.Rests d') (h' : d'.Rests d'') : d.Rests d'' where
  retired := h'.retired
  idles := h.idles.trans h'.idles
  handle := fun hh => h'.handle (h.handle hh)
  retryCount := fun hc => h'.retryCount (h.retryCount hc)

/-- Status, connection, task in charge and count of retries stay. -/
theorem of_same (h : d.Retired) (hi : d.Idles d') (hs : d'.status = d.status)
    (hh : d'.record.handle = d.record.handle) (hr : d'.record.linkTask = d.record.linkTask)
    (hc : d'.record.retryCount = d.record.retryCount) : d.Rests d' where
  retired := ⟨hs.trans h.1, hr.trans h.2⟩
  idles := hi
  handle := fun h => hh.trans h
  retryCount := fun h => hc.trans h

/-- An open comes back; nothing else happens. -/
theorem of_opened (h : d.Retired) {attempt : Attempt}
    (result : Except HardwareError (Connection H))
    (hl : d'.links = (d.setStage token (.opened attempt result)).links)
    (hs : d'.status = d.status) (hr : d'.record = d.record) : d.Rests d' := by
  refine of_same h ⟨by rw [hr], ?_⟩ hs (by rw [hr]) (by rw [hr]) (by rw [hr])
  intro k' hk' ho
  rw [hl] at hk'
  rcases mem_setStage hk' with ⟨k₀, -, -, rfl⟩ | ⟨hk', -⟩
  · cases ho
  · exact hk'

/-- A task ends; nothing else happens. -/
theorem of_ended (h : d.Retired) (hl : d'.links = (d.endLink token).links)
    (hs : d'.status = d.status) (hr : d'.record = d.record) : d.Rests d' := by
  refine of_same h ⟨by rw [hr], ?_⟩ hs (by rw [hr]) (by rw [hr]) (by rw [hr])
  intro k' hk' _
  rw [hl] at hk'
  exact (mem_endLink.mp hk').1

end Rests

/-- A step that asks for no connection leaves a retired device at rest. -/
theorem Retired.change {pace : Site.Pace} {step : Site.Step} (h : d.Retired) (hx : d.Exclusive)
    (hstep : step.startsLink = false) (hch : Change pace step d calls d') : d.Rests d' := by
  cases hch with
  | still => exact .of_same h (.refl d) rfl rfl rfl rfl
  | beside _ hb =>
      exact .of_same h ⟨hb.linkEpoch, fun k hk _ => hb.links ▸ hk⟩ hb.status hb.handle hb.linkTask
        hb.retryCount
  | failed _ hs _ _ =>
      rw [h.1] at hs
      cases hs
  | begun _ _ => cases hstep
  | lost _ => cases hstep
  | stopped =>
      have hr := stopped_record d
      have hw : d.withdrawn = d := by
        unfold withdrawn
        rw [h.2]
      refine ⟨⟨stopped_status d, by rw [hr]⟩, ⟨by rw [hr], ?_⟩, fun _ => by rw [hr],
        fun _ => by rw [hr]⟩
      intro k hk _
      rw [stopped_links, hw] at hk
      exact hk
  | opened _ _ handle => exact .of_opened h _ rfl rfl rfl
  | refused _ _ e => exact .of_opened h _ rfl rfl rfl
  | broken _ _ e => exact .of_opened h _ rfl rfl rfl
  | dropped _ _ _ => exact .of_ended h rfl rfl rfl
  | ended _ _ _ => exact .of_ended h rfl rfl rfl
  | loopEnded _ _ _ =>
      refine ⟨⟨(detached_status d).trans h.1, (detached_linkTask d).trans h.2⟩,
        ⟨detached_linkEpoch d, ?_⟩, fun _ => detached_handle d,
        fun h => (detached_retryCount d).trans h⟩
      intro k hk _
      rw [endLink_links_congr (detached_links d)] at hk
      exact (mem_endLink.mp hk).1
  -- all other changes are those of a task in charge
  | connected hk _ hc => exact (h.absurd_live hx hk hc).elim
  | handedOver hk _ hc => exact (h.absurd_live hx hk hc).elim
  | retried hk _ hc _ => exact (h.absurd_live hx hk hc).elim
  | exhausted hk _ hc _ => exact (h.absurd_live hx hk hc).elim
  | loopSpent hk _ hc _ => exact (h.absurd_live hx hk hc).elim
  | loopBegun hk _ hc _ => exact (h.absurd_live hx hk hc).elim
  | woken hk _ hc _ => exact (h.absurd_live hx hk hc).elim

-- ================================================================ halted

namespace Halted

/-- A new device is halted. -/
theorem fresh (id : DeviceId) (format : ImageFormat) (maxRetry : Nat) :
    (Device.fresh id format maxRetry : Device H F).Halted :=
  ⟨rfl, rfl, rfl, rfl⟩

/-- A stop halts the device. -/
theorem of_stop (d : Device H F) : d.stopped.Halted where
  status := stopped_status d
  handle := by rw [stopped_record]
  linkTask := by rw [stopped_record]
  retryCount := by rw [stopped_record]

/-- A halted device is retired. -/
theorem retired (h : d.Halted) : d.Retired := ⟨h.status, h.linkTask⟩

/-- Every task of a halted device is cancelled. -/
theorem cancelled (h : d.Halted) (hx : d.Exclusive) (hk : k ∈ d.links) : k.cancelled = true :=
  h.retired.cancelled hx hk

/-- There is nothing to close. -/
theorem closing_eq (h : d.Halted) : d.closing = [] := by
  unfold closing
  rw [h.handle]
  rfl

/-- Another stop publishes the status again; nothing else changes. -/
theorem stopped_eq (h : d.Halted) : d.stopped = d.announce .disconnected := by
  have hw : d.withdrawn = d := by
    unfold withdrawn
    rw [h.linkTask]
  have hm : d.modifyRecord ({ · with linkTask := none, retryCount := 0, handle := none }) = d := by
    obtain ⟨-, h2, h3, h4⟩ := h
    refine modifyRecord_eq ?_
    rw [← h2, ← h3, ← h4]
  unfold stopped
  rw [hw, h.handle, hm]
  rfl

/-- A halted device that rests stays halted. -/
theorem rests (h : d.Halted) (hrests : d.Rests d') : d'.Halted where
  status := hrests.retired.1
  handle := hrests.handle h.handle
  linkTask := hrests.retired.2
  retryCount := hrests.retryCount h.retryCount

end Halted

end Device

namespace Site

/-- A task of a halted device whose open has given a connection closes it when
it goes on, and that is all it does. -/
theorem resume_of_halted [Camera σ H F] {s : Site σ H F} (h : s.device.Halted)
    (hx : s.device.Exclusive) {k : LinkTask H} (hk : k ∈ s.device.links) {c : Connection H}
    (hst : k.stage.connection? = some c) (interval now : Nat) :
    s.resume interval now k.token = (s.onDevice (·.endLink k.token)).close c := by
  have hc := h.cancelled hx hk
  unfold resume
  rw [hx.link?_eq hk]
  dsimp only
  cases hs : k.stage with
  | opened attempt result =>
      rw [hs] at hst
      cases result with
      | error e => cases hst
      | ok c' =>
          dsimp only
          unfold settle
          rw [if_pos hc, ← Option.some.inj hst]
  | _ =>
      rw [hs] at hst
      cases hst

end Site

end CameraDriver
