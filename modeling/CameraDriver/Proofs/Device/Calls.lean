/-
What a camera is asked, call by call.

The log of a device says what was asked of the camera for it, and names a
connection by its number. A `Call` is such a note with what the number leaves
out: the device, and the handle that was passed or given. `Served` is the
camera's side. It relates two states of a camera by the calls, the latest
first, that lead from the one to the other, each with the answer that the
camera gave; several devices may take turns in it.

So what is proved of the calls is proved of what the camera was asked, not
only of what was noted.
-/
import CameraDriver.Device.Site
import Mathlib.Data.List.Basic

namespace CameraDriver

variable {σ H F : Type}

-- ================================================================= events

namespace Event

/-- The connection that an open gave. -/
def opened? : Event → Option Nat
  | .opened (.ok n) => some n
  | _ => none

/-- The connection that was closed. -/
def closed? : Event → Option Nat
  | .closed n => some n
  | _ => none

/-- The connection that a call was made on, a close included. -/
def on? : Event → Option Nat
  | .read n .. => some n
  | .written n .. => some n
  | .grabbed n .. => some n
  | .closed n => some n
  | _ => none

/-- Only closing closes. -/
theorem eq_closed {e : Event} {n : Nat} (h : e.closed? = some n) : e = .closed n := by
  cases e with
  | closed m => rw [Option.some.inj h]
  | opened result => cases result <;> cases h
  | _ => cases h

end Event

-- ================================================================== calls

/-- Something asked of the camera, or sent, for a device. -/
structure Call (H : Type) where
  device : DeviceId
  event : Event
  /-- The handle that an open gave, or that the call was made on. -/
  handle : Option H := none

namespace Call

/-- An open that gave a connection. -/
def opened (id : DeviceId) (c : Connection H) : Call H :=
  { device := id, event := .opened (.ok c.number), handle := some c.handle }

/-- The close of a connection. -/
def closed (id : DeviceId) (c : Connection H) : Call H :=
  { device := id, event := .closed c.number, handle := some c.handle }

end Call

/-- The calls that lead a camera from a state to another one. -/
inductive Served [Camera σ H F] (start : σ) : List (Call H) → σ → Prop
  | nothing : Served start [] start
  | opened {calls : List (Call H)} {camera : σ} (id : DeviceId) (c : Connection H)
      (h : Served start calls camera) (hr : (Camera.openDevice id camera).1 = .ok c.handle) :
      Served start (.opened id c :: calls) (Camera.openDevice id camera).2
  | refused {calls : List (Call H)} {camera : σ} (id : DeviceId) (e : HardwareError)
      (h : Served start calls camera) (hr : (Camera.openDevice id camera).1 = .error e) :
      Served start ({ device := id, event := .opened (.error e) } :: calls)
        (Camera.openDevice id camera).2
  | read {calls : List (Call H)} {camera : σ} (id : DeviceId) (c : Connection H)
      (feature : String) (h : Served start calls camera) :
      Served start
        ({ device := id
           event := .read c.number feature (Camera.readFeature c.handle feature camera).1
           handle := some c.handle } :: calls)
        (Camera.readFeature c.handle feature camera).2
  | written {calls : List (Call H)} {camera : σ} (id : DeviceId) (c : Connection H)
      (feature value : String) (h : Served start calls camera) :
      Served start
        ({ device := id
           event := .written c.number feature value
             (Camera.writeFeature c.handle feature value camera).1
           handle := some c.handle } :: calls)
        (Camera.writeFeature c.handle feature value camera).2
  | grabbed {calls : List (Call H)} {camera : σ} (id : DeviceId) (c : Connection H)
      (format : String) (h : Served start calls camera) :
      Served start
        ({ device := id
           event := .grabbed c.number format
             ((Camera.grabImage c.handle format camera).1.map fun frame =>
               (Camera.frameBytes σ frame).length)
           handle := some c.handle } :: calls)
        (Camera.grabImage c.handle format camera).2
  | freed {calls : List (Call H)} {camera : σ} (id : DeviceId) (frame : F)
      (h : Served start calls camera) :
      Served start ({ device := id, event := .freed } :: calls) (Camera.freeImage frame camera)
  | closed {calls : List (Call H)} {camera : σ} (id : DeviceId) (c : Connection H)
      (h : Served start calls camera) :
      Served start (.closed id c :: calls) (Camera.closeDevice c.handle camera)
  /-- A request goes to the network; the camera is not asked. -/
  | posted {calls : List (Call H)} {camera : σ} (id : DeviceId) (request : Request)
      (h : Served start calls camera) :
      Served start ({ device := id, event := .posted request } :: calls) camera

/-- No calls leave the camera as it is. -/
theorem Served.eq_of_nil [Camera σ H F] {a b : σ} (h : Served a [] b) : b = a := by
  cases h
  rfl

/-- The latest call is made where the older ones have led to. -/
theorem Served.split [Camera σ H F] {a b : σ} {x : Call H} {calls : List (Call H)}
    (h : Served a (x :: calls) b) : ∃ m, Served a calls m ∧ Served m [x] b := by
  cases h with
  | opened id c h hr => exact ⟨_, h, .opened id c .nothing hr⟩
  | refused id e h hr => exact ⟨_, h, .refused id e .nothing hr⟩
  | read id c feature h => exact ⟨_, h, .read id c feature .nothing⟩
  | written id c feature value h => exact ⟨_, h, .written id c feature value .nothing⟩
  | grabbed id c format h => exact ⟨_, h, .grabbed id c format .nothing⟩
  | freed id frame h => exact ⟨_, h, .freed id frame .nothing⟩
  | closed id c h => exact ⟨_, h, .closed id c .nothing⟩
  | posted id request h => exact ⟨_, h, .posted id request .nothing⟩

/-- Calls after calls. -/
theorem Served.append [Camera σ H F] {a b c : σ} {older newer : List (Call H)}
    (h : Served a older b) (h' : Served b newer c) : Served a (newer ++ older) c := by
  induction h' with
  | nothing => exact h
  | opened id c _ hr ih => exact .opened id c ih hr
  | refused id e _ hr ih => exact .refused id e ih hr
  | read id c feature _ ih => exact .read id c feature ih
  | written id c feature value _ ih => exact .written id c feature value ih
  | grabbed id c format _ ih => exact .grabbed id c format ih
  | freed id frame _ ih => exact .freed id frame ih
  | closed id c _ ih => exact .closed id c ih
  | posted id request _ ih => exact .posted id request ih

-- ================================================================== order

/-- A connection among those of all devices: the device, and the number of
the connection. -/
abbrev Ticket := DeviceId × Nat

namespace Call

/-- The connections that the events of some kind are about. -/
def tickets (kind : Event → Option Nat) (calls : List (Call H)) : List Ticket :=
  calls.filterMap fun x => (kind x.event).map (x.device, ·)

/-- The connections that opens gave. -/
def opens (calls : List (Call H)) : List Ticket := tickets Event.opened? calls

/-- The connections that were closed. -/
def closes (calls : List (Call H)) : List Ticket := tickets Event.closed? calls

/-- The calls for one device. -/
def ofDevice (id : DeviceId) (calls : List (Call H)) : List (Call H) :=
  calls.filter (·.device = id)

/-- A call on a connection passes the handle that the open of the connection
gave, and comes before its close; a close comes once. -/
def Sound : List (Call H) → Prop
  | [] => True
  | x :: older => Sound older ∧ ∀ n, x.event.on? = some n →
      (∃ h, x.handle = some h ∧ .opened x.device ⟨n, h⟩ ∈ older) ∧ (x.device, n) ∉ closes older

theorem mem_tickets {kind : Event → Option Nat} {calls : List (Call H)} {id : DeviceId}
    {n : Nat} :
    (id, n) ∈ tickets kind calls ↔ ∃ x ∈ calls, x.device = id ∧ kind x.event = some n := by
  unfold tickets
  simp only [List.mem_filterMap, Option.map_eq_some_iff, Prod.mk.injEq]
  constructor
  · rintro ⟨x, hx, n', hn, hd, rfl⟩
    exact ⟨x, hx, hd, hn⟩
  · rintro ⟨x, hx, hd, hn⟩
    exact ⟨x, hx, n, hn, hd, rfl⟩

theorem mem_ofDevice {id : DeviceId} {calls : List (Call H)} {x : Call H} :
    x ∈ ofDevice id calls ↔ x ∈ calls ∧ x.device = id := by
  unfold ofDevice
  rw [List.mem_filter, decide_eq_true_eq]

/-- New calls of a device come before its older ones. -/
theorem ofDevice_append_own {id : DeviceId} {newer : List (Call H)}
    (h : ∀ x ∈ newer, x.device = id) (older : List (Call H)) :
    ofDevice id (newer ++ older) = newer ++ ofDevice id older := by
  unfold ofDevice
  rw [List.filter_append, List.filter_eq_self.mpr]
  intro x hx
  exact decide_eq_true (h x hx)

/-- To another device they are nothing. -/
theorem ofDevice_append_other {id other : DeviceId} (hne : other ≠ id) {newer : List (Call H)}
    (h : ∀ x ∈ newer, x.device = id) (older : List (Call H)) :
    ofDevice other (newer ++ older) = ofDevice other older := by
  unfold ofDevice
  rw [List.filter_append, List.filter_eq_nil_iff.mpr, List.nil_append]
  intro x hx heq
  exact hne ((of_decide_eq_true heq).symm.trans (h x hx))

/-- The connections of a device are those that its calls are about. -/
theorem tickets_ofDevice (kind : Event → Option Nat) (id : DeviceId) (calls : List (Call H)) :
    tickets kind (ofDevice id calls) = (tickets kind calls).filter (·.1 = id) := by
  unfold tickets ofDevice
  rw [List.filterMap_filter, List.filter_filterMap]
  refine List.filterMap_congr ?_
  intro x _
  by_cases hd : x.device = id
  · cases kind x.event <;> simp [hd, Option.filter]
  · cases kind x.event <;> simp [hd, Option.filter]

/-- A ticket occurs as often among the calls of its device as among all. -/
theorem count_tickets (kind : Event → Option Nat) (calls : List (Call H)) (t : Ticket) :
    (tickets kind (ofDevice t.1 calls)).count t = (tickets kind calls).count t := by
  rw [tickets_ofDevice]
  exact List.count_filter (decide_eq_true rfl)

theorem opens_append (newer older : List (Call H)) :
    opens (newer ++ older) = opens newer ++ opens older :=
  List.filterMap_append

/-- The closes of two runs are those of both. -/
theorem closes_append (newer older : List (Call H)) :
    closes (newer ++ older) = closes newer ++ closes older :=
  List.filterMap_append

/-- A call on a connection passes the handle that the open of the connection
gave. -/
theorem Sound.opened_of_mem {calls : List (Call H)} (h : Sound calls) {x : Call H}
    (hx : x ∈ calls) {n : Nat} (hn : x.event.on? = some n) :
    ∃ handle, x.handle = some handle ∧ .opened x.device ⟨n, handle⟩ ∈ calls := by
  induction calls with
  | nil => cases hx
  | cons y older ih =>
      obtain ⟨hold, hy⟩ := h
      rcases List.mem_cons.mp hx with rfl | hx
      · obtain ⟨⟨handle, hhandle, hm⟩, -⟩ := hy n hn
        exact ⟨handle, hhandle, List.mem_cons_of_mem _ hm⟩
      · obtain ⟨handle, hhandle, hm⟩ := ih hold hx
        exact ⟨handle, hhandle, List.mem_cons_of_mem _ hm⟩

/-- Calls stay sound when new ones are made on connections that were opened
before and are not closed, a close being the last of them. -/
theorem Sound.append {newer older : List (Call H)} (h : Sound older)
    (hlast : closes newer.tail = [])
    (hnew : ∀ x ∈ newer, ∀ n, x.event.on? = some n →
      (∃ h, x.handle = some h ∧ .opened x.device ⟨n, h⟩ ∈ older) ∧ (x.device, n) ∉ closes older) :
    Sound (newer ++ older) := by
  induction newer with
  | nil => exact h
  | cons x rest ih =>
      have hrest : closes rest = [] := hlast
      refine ⟨ih ?_ (fun y hy => hnew y (List.mem_cons_of_mem _ hy)), ?_⟩
      · cases rest with
        | nil => rfl
        | cons y rest =>
            have hcons : closes (y :: rest) = closes [y] ++ closes rest := closes_append [y] rest
            rw [hcons] at hrest
            exact (List.append_eq_nil_iff.mp hrest).2
      · intro n hn
        obtain ⟨⟨handle, hh, ho⟩, hc⟩ := hnew x List.mem_cons_self n hn
        refine ⟨⟨handle, hh, List.mem_append_right _ ho⟩, ?_⟩
        show (x.device, n) ∉ closes (rest ++ older)
        rw [closes_append, hrest, List.nil_append]
        exact hc

/-- Calls are sound if those of each device are. -/
theorem sound_of_devices {calls : List (Call H)} (h : ∀ id, Sound (ofDevice id calls)) :
    Sound calls := by
  induction calls with
  | nil => trivial
  | cons x older ih =>
      have hx : ofDevice x.device (x :: older) = x :: ofDevice x.device older :=
        List.filter_cons_of_pos (decide_eq_true rfl)
      refine ⟨ih ?_, ?_⟩
      · intro id
        have hs := h id
        by_cases hid : x.device = id
        · rw [← hid, hx] at hs
          rw [← hid]
          exact hs.1
        · unfold ofDevice at hs
          rw [List.filter_cons_of_neg (by rw [decide_eq_true_eq]; exact hid)] at hs
          exact hs
      · intro n hn
        have hs := h x.device
        rw [hx] at hs
        obtain ⟨⟨handle, hh, ho⟩, hc⟩ := hs.2 n hn
        refine ⟨⟨handle, hh, (mem_ofDevice.mp ho).1⟩, ?_⟩
        intro hm
        obtain ⟨y, hy, hd, hyn⟩ := mem_tickets.mp hm
        exact hc (mem_tickets.mpr ⟨y, mem_ofDevice.mpr ⟨hy, hd⟩, hd, hyn⟩)

end Call

end CameraDriver
