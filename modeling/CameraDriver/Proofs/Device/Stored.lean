/-
What a device is told to store in its features.

The log of a device notes every write together with the camera's answer, and so it
tells what was stored last. One kind of step stores something, a write of a feature
that the device itself has, and only if it succeeds (`Site.stores?`). All others
note no write, or note none that the camera has taken: `Reachable.apply_stores` says
so of every step, in terms of what the step notes.

The calls on a simulated camera and what they do to its features are another matter
(Proofs/Hardware/Simulated); the two meet where the calls of a step are those that
its log notes.
-/
import CameraDriver.Proofs.Device.Requests
import CameraDriver.Proofs.Hardware.Simulated

namespace CameraDriver

variable {σ H F : Type}

namespace Event

/-- Opening and closing a connection stores nothing. -/
theorem stored?_of_isLink {e : Event} (h : e.isLink = true) (feature : String) :
    e.stored? feature = none := by
  cases e with
  | written => cases h
  | _ => rfl

/-- A grab stores nothing. -/
theorem stored?_of_isGrab {e : Event} (h : e.isGrab = true) (feature : String) :
    e.stored? feature = none := by
  cases e with
  | written => cases h
  | _ => rfl

end Event

namespace Site

variable [Camera σ H F]

/-- The text that a step stores in a feature of the device itself. -/
def stores? (s : Site σ H F) (feature : String) : Step → Option String
  | .write target value =>
      if target = feature ∧ (s.write target value).1.isOk then value.wire.toOption else none
  | _ => none

/-- A write stores its text in the feature that it is to, if it succeeds. -/
theorem stores?_write (s : Site σ H F) (feature target : String) (value : Value) :
    s.stores? feature (.write target value)
      = if target = feature ∧ (s.write target value).1.isOk then value.wire.toOption else none :=
  rfl

omit [Camera σ H F] in
/-- The latest text stored in a feature since a state, as the log notes it. -/
def Stored (s : Site σ H F) (feature : String) (text? : Option String) (s' : Site σ H F) : Prop :=
  ∃ events, s'.device.log = events ++ s.device.log
    ∧ events.findSome? (Event.stored? feature) = text?

variable {s s' : Site σ H F} {feature : String}

omit [Camera σ H F] in
/-- Nothing is stored by events that store nothing. -/
theorem Stored.of_none (events : List Event) (hlog : s'.device.log = events ++ s.device.log)
    (h : ∀ e ∈ events, e.stored? feature = none) : s.Stored feature none s' :=
  ⟨events, hlog, List.findSome?_eq_none_iff.mpr h⟩

omit [Camera σ H F] in
/-- Nothing is stored without an event. -/
theorem Stored.of_silent (hlog : s'.device.log = s.device.log) : s.Stored feature none s' :=
  .of_none [] hlog fun e he => by cases he

-- ================================================================ one call

/-- A read that the camera was asked for stores nothing. -/
theorem Asked.stored?_of_get {target : String} {failure : Option HardwareError} {x : Call H}
    {camera : σ} (h : s.Asked (.get target) failure x camera) :
    x.event.stored? feature = none := by
  have hq := h.inquiry
  cases he : x.event with
  | written n t text result => rw [he] at hq; cases hq
  | _ => rfl

/-- A write that succeeds stores its text. -/
theorem Asked.stored?_of_set {target text : String} {x : Call H} {camera : σ}
    (h : s.Asked (.set target text) none x camera) :
    x.event.stored? feature = if target = feature then some text else none := by
  have hq := h.inquiry
  have hf := h.failure
  cases he : x.event with
  | written n t text' result =>
      rw [he] at hq hf
      cases hq
      cases result with
      | ok u => rfl
      | error e => cases hf
  | _ => rw [he] at hq; cases hq

/-- One that fails stores nothing. -/
theorem Asked.stored?_of_failure {target text : String} {e : HardwareError} {x : Call H}
    {camera : σ} (h : s.Asked (.set target text) (some e) x camera) :
    x.event.stored? feature = none := by
  have hf := h.failure
  cases he : x.event with
  | written n t text' result =>
      rw [he] at hf
      cases result with
      | ok u => cases hf
      | error e => rfl
  | _ => rfl

-- =================================================================== steps

/-- A read stores nothing, whatever becomes of the link. -/
theorem Reachable.read_stores (h : s.Reachable) (target : String) :
    s.Stored feature none (s.read target).2 := by
  obtain ⟨calls, hends⟩ := h.read_ends target
  refine .of_none _ hends.log ?_
  intro e he
  obtain ⟨x, hx, rfl⟩ := List.mem_map.mp he
  generalize hinquiry : Inquiry.get target = inquiry at hends
  generalize (s.read target).1 = answer at hends
  generalize (s.read target).2 = after at hends
  cases hends with
  | refused _ => cases hx
  | served _ _ _ => cases hx
  | triggered _ _ hq _ _ _ _ => rw [hq] at hinquiry; cases hinquiry
  | answered _ _ hasked =>
      subst hinquiry
      rw [List.mem_singleton.mp hx]
      exact hasked.stored?_of_get
  | soft _ _ _ hasked =>
      subst hinquiry
      rw [List.mem_singleton.mp hx]
      exact hasked.stored?_of_get
  | hard _ _ _ hasked =>
      subst hinquiry
      rw [List.mem_singleton.mp hx]
      exact hasked.stored?_of_get

/-- A write stores the text of its value if it succeeds. -/
theorem Reachable.write_stores (h : s.Reachable) (hf : VirtualFeature.ofName? feature = none)
    (target : String) (value : Value) :
    s.Stored feature (s.stores? feature (.write target value)) (s.write target value).2 := by
  cases hw : value.wire with
  | error kind =>
      have hnone : s.stores? feature (.write target value) = none := by
        rw [stores?_write, hw]
        exact ite_self _
      rw [hnone, write_unsupported hw]
      exact .of_silent rfl
  | ok text =>
      obtain ⟨calls, hends⟩ := h.write_ends hw target
      have hlog := hends.log
      rw [stores?_write, hw]
      generalize (s.write target value).2 = after at hends hlog ⊢
      generalize (s.write target value).1 = answer at hends ⊢
      refine ⟨_, hlog, ?_⟩
      generalize hinquiry : Inquiry.set target text = inquiry at hends
      -- a virtual feature is not the one that is asked about
      have hvirtual : ∀ {f}, VirtualFeature.ofName? target = some f → target ≠ feature := by
        rintro f htarget rfl
        rw [htarget] at hf
        cases hf
      cases hends with
      | refused _ => simp [Except.isOk, Except.toBool]
      | served _ htarget _ => simp [hvirtual htarget]
      | triggered _ htarget _ _ _ _ hcalls =>
          rw [if_neg fun hand => hvirtual htarget hand.1]
          refine List.findSome?_eq_none_iff.mpr ?_
          intro e he
          obtain ⟨x, hx, rfl⟩ := List.mem_map.mp he
          exact Event.stored?_of_isGrab (hcalls x hx) feature
      | answered _ _ hasked =>
          subst hinquiry
          simp [hasked.stored?_of_set, Except.isOk, Except.toBool, Except.toOption]
      | soft _ _ _ hasked =>
          subst hinquiry
          simp [hasked.stored?_of_failure, Except.isOk, Except.toBool]
      | hard _ _ _ hasked =>
          subst hinquiry
          simp [hasked.stored?_of_failure, Except.isOk, Except.toBool]

/-- An upload that is sent stores nothing. -/
theorem sendUpload_stores (timeout now generation : Nat) (s : Site σ H F) :
    s.Stored feature none (s.sendUpload timeout now generation) := by
  unfold sendUpload
  split
  next =>
    refine .of_none [.posted _, .freed] rfl ?_
    intro e he
    rcases List.mem_pair.mp he with rfl | rfl <;> rfl
  next => exact .of_silent rfl

/-- Of all steps a write alone stores something, if it succeeds. -/
theorem Reachable.apply_stores (h : s.Reachable) (hf : VirtualFeature.ofName? feature = none)
    (pace : Pace) (step : Step) :
    s.Stored feature (s.stores? feature step) (s.apply pace step) := by
  have hlink : step.isFeature = false → s.Stored feature none (s.apply pace step) := by
    intro hstep
    obtain ⟨calls, hch⟩ := apply_change pace s step
    refine .of_none _ hch.log ?_
    intro e he
    obtain ⟨x, hx, rfl⟩ := List.mem_map.mp he
    exact Event.stored?_of_isLink (calls_of_link hch hstep x hx) feature
  cases step with
  | read target => exact h.read_stores target
  | write target value => exact h.write_stores hf target value
  | target target => exact .of_silent rfl
  | sendUpload now generation => exact sendUpload_stores pace.timeout now generation s
  | finishUpload generation outcome =>
      show s.Stored feature none (s.finishUpload generation outcome)
      unfold finishUpload
      split <;> exact .of_silent rfl
  | _ => exact hlink rfl

end Site

end CameraDriver
