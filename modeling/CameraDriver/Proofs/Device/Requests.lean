/-
One request for each image that is captured, and none else.

A trigger to capture is dropped unless the device is connected, an endpoint is
stored and no upload is in flight. If it is not dropped it has an aim
(`Site.aim?`), and one image is asked for; if the image is given, the trigger
is a shot (`Site.shot?`). All of this is read off the state that the trigger
finds.

# The balance

What an upload holds it still has to send, and `Device.owed` collects these
requests. Over a run the shots are the requests that are owed and those that
went out, in the order of the shots (`Taken.balance`). A step keeps the balance
in one of three ways. A shot adds to what is owed, the step that sends moves a
request from what is owed to what went out, and every other step leaves both
alone, whatever it does to the stored endpoint, to the link or to the upload
whose request is out. So no request is lost and none is repeated.
-/
import CameraDriver.Proofs.Device.Effects
import CameraDriver.Proofs.Device.Uploads

namespace CameraDriver

variable {σ H F : Type}

-- ================================================================ requests

def Event.posted? : Event → Option Request
  | .posted request => some request
  | _ => none

/-- Whether a connection was opened or closed, or could not be opened. -/
def Event.isLink : Event → Bool
  | .opened _ => true
  | .closed _ => true
  | _ => false

/-- Opening and closing a connection is no grab. -/
theorem Event.isGrab_of_isLink {e : Event} (h : e.isLink = true) : e.isGrab = false := by
  cases e with
  | grabbed => cases h
  | _ => rfl

/-- What has nothing to do with images posts nothing. -/
theorem Event.posted?_of_isImage {e : Event} (h : e.isImage = false) : e.posted? = none := by
  cases e with
  | posted request => cases h
  | _ => rfl

/-- The request that an upload still has to send. -/
def Upload.owed? (σ : Type) [Camera σ H F] (u : Upload F) : Option Request :=
  match u.stage with
  | .captured frame => some (.ofImage u.endpoint (Camera.frameBytes σ frame))
  | .sent _ => none

namespace Device

/-- The requests that went out, the latest first. -/
def posts (d : Device H F) : List Request := d.log.filterMap Event.posted?

/-- The requests that are still to be sent. -/
def owed (σ : Type) [Camera σ H F] (d : Device H F) : List Request :=
  d.uploads.filterMap (Upload.owed? σ)

variable {d d' : Device H F}

/-- What happens beside uploads posts nothing. -/
theorem Aside.posts (h : d.Aside d') : d'.posts = d.posts := by
  obtain ⟨events, hlog, hnone⟩ := h.log
  have hnil : events.filterMap Event.posted? = [] :=
    List.filterMap_eq_nil_iff.mpr fun e he => Event.posted?_of_isImage (hnone e he)
  unfold Device.posts
  rw [hlog, List.filterMap_append, hnil, List.nil_append]

/-- What happens beside uploads owes no request, and leaves none out. -/
theorem Aside.owed [Camera σ H F] (h : d.Aside d') : d'.owed σ = d.owed σ := by
  unfold Device.owed
  rw [h.uploads]

/-- Without an upload nothing is being published. -/
theorem OneUpload.publishBusy_eq_false (h : d.OneUpload) (hnil : d.uploads = []) :
    d.record.publishBusy = false := by
  cases hbusy : d.record.publishBusy with
  | false => rfl
  | true =>
      obtain ⟨u, hu⟩ := h.eq_singleton hbusy
      rw [hnil] at hu
      cases hu

end Device

-- ==================================================================== shots

/-- What a trigger to capture is aimed at when it is not dropped. -/
structure Aim (H : Type) where
  mode : TriggerMode
  endpoint : Url
  connection : Connection H

/-- A trigger that was given an image, with the endpoint and the format that
were stored when it was written. -/
structure Shot (F : Type) where
  mode : TriggerMode
  endpoint : Url
  format : ImageFormat
  frame : F

/-- The request that reports a shot. -/
def Shot.request (σ : Type) [Camera σ H F] (shot : Shot F) : Request :=
  .ofImage shot.endpoint (Camera.frameBytes σ shot.frame)

namespace Site

variable [Camera σ H F]

omit [Camera σ H F] in
/-- The aim of a step that writes the trigger to capture: the device is
connected, an endpoint is stored, and no upload is in flight. -/
def aim? (s : Site σ H F) (step : Step) : Option (Aim H) :=
  match step.trigger?, s.device.record.capture.endpoint, s.device.record.handle with
  | some mode, some endpoint, some connection =>
      if mode.startsCapture && s.device.status.isConnected && s.device.uploads.isEmpty then
        some { mode, endpoint, connection }
      else none
  | _, _, _ => none

/-- What the camera answers to an aim, in the format that is stored. -/
def grab (s : Site σ H F) (a : Aim H) : Except HardwareError F × σ :=
  Camera.grabImage a.connection.handle s.device.record.capture.format.name s.camera

/-- The call that asks for the image. -/
def grabCall (s : Site σ H F) (a : Aim H) : Call H :=
  { device := s.device.id
    event := .grabbed a.connection.number s.device.record.capture.format.name
      ((s.grab a).1.map fun frame => (Camera.frameBytes σ frame).length)
    handle := some a.connection.handle }

/-- The shot that a step is, if it has an aim and is given an image. -/
def shot? (s : Site σ H F) (step : Step) : Option (Shot F) :=
  (s.aim? step).bind fun a =>
    match (s.grab a).1 with
    | .ok frame =>
        some { mode := a.mode, endpoint := a.endpoint
               format := s.device.record.capture.format, frame }
    | .error _ => none

/-- The shots of a run, the latest first. -/
def shots (trace : List (Moment σ H F)) : List (Shot F) :=
  trace.filterMap fun m => m.before.shot? m.step

variable {s : Site σ H F} {step : Step} {a : Aim H}

omit [Camera σ H F] in
/-- A step aims at an image exactly if it triggers a capture on a connected device that has
an endpoint, and no upload is under way. -/
theorem aim?_eq_some :
    s.aim? step = some a ↔ step.trigger? = some a.mode ∧ a.mode.startsCapture = true
      ∧ s.device.status = .connected ∧ s.device.record.capture.endpoint = some a.endpoint
      ∧ s.device.record.handle = some a.connection ∧ s.device.uploads = [] := by
  unfold aim?
  constructor
  · intro h
    split at h
    next mode endpoint connection hmode hendpoint hc =>
      split at h
      case isTrue hall =>
        simp only [Bool.and_eq_true, List.isEmpty_iff] at hall
        obtain ⟨⟨hcapture, hs⟩, hidle⟩ := hall
        obtain rfl := Option.some.inj h
        exact ⟨hmode, hcapture, status_of_isConnected hs, hendpoint, hc, hidle⟩
      case isFalse => cases h
    next => cases h
  · rintro ⟨hmode, hcapture, hs, hendpoint, hc, hidle⟩
    rw [hmode, hendpoint, hc]
    dsimp only
    rw [hcapture, hs, hidle]
    rfl

/-- An aim whose grab succeeds is a shot. -/
theorem shot?_of_grab {frame : F} (ha : s.aim? step = some a) (hg : (s.grab a).1 = .ok frame) :
    s.shot? step = some
      { mode := a.mode, endpoint := a.endpoint
        format := s.device.record.capture.format, frame } := by
  unfold shot?
  rw [ha, Option.bind_some, hg]

/-- A shot is an aim with the frame that was grabbed for it. -/
theorem shot?_eq_some {shot : Shot F} :
    s.shot? step = some shot ↔ ∃ a, s.aim? step = some a ∧ (s.grab a).1 = .ok shot.frame
      ∧ a.mode = shot.mode ∧ a.endpoint = shot.endpoint
      ∧ s.device.record.capture.format = shot.format := by
  constructor
  · intro h
    obtain ⟨a, ha, h⟩ := Option.bind_eq_some_iff.mp h
    split at h
    next frame hg =>
      obtain rfl := Option.some.inj h
      exact ⟨a, ha, hg, rfl, rfl, rfl⟩
    next => cases h
  · rintro ⟨a, ha, hg, hmode, hendpoint, hformat⟩
    rw [shot?_of_grab ha hg, hmode, hendpoint, hformat]

-- =============================================================== captures

/-- A grab is a call that the camera serves. -/
theorem grab_served (s : Site σ H F) (a : Aim H) :
    Served s.camera [s.grabCall a] (s.grab a).2 :=
  .grabbed s.device.id a.connection s.device.record.capture.format.name .nothing

/-- A trigger with an aim asks for one image. -/
theorem trigger_of_aim (hone : s.device.OneUpload) (ha : s.aim? step = some a) :
    s.trigger a.mode =
      match (s.grab a).1 with
      | .ok frame =>
          (.ok .started,
            { camera := (s.grab a).2
              device := s.device.captured a.connection a.mode a.endpoint frame
                (Camera.frameBytes σ frame).length })
      | .error e =>
          (.error e,
            { camera := (s.grab a).2, device := s.device.note (s.grabCall a).event }) := by
  obtain ⟨-, -, -, hendpoint, hc, hidle⟩ := aim?_eq_some.mp ha
  have hbusy := hone.publishBusy_eq_false hidle
  unfold trigger grabCall grab
  dsimp only
  rw [hendpoint]
  dsimp only
  rw [if_neg (by simp [hbusy]), hc]
  dsimp only
  generalize Camera.grabImage a.connection.handle s.device.record.capture.format.name s.camera
    = answer
  obtain ⟨result, camera⟩ := answer
  cases result <;> rfl

/-- A step that aims captures. -/
theorem apply_of_aim (pace : Pace) (ha : s.aim? step = some a) :
    s.apply pace step = s.writeTrigger a.mode := by
  obtain ⟨hmode, -, hs, -⟩ := aim?_eq_some.mp ha
  rw [apply_trigger pace s hmode, hs]
  rfl

/-- An image that is given is held by an upload. -/
theorem apply_of_given (pace : Pace) (hone : s.device.OneUpload) (ha : s.aim? step = some a)
    {frame : F} (hg : (s.grab a).1 = .ok frame) :
    s.apply pace step =
      { camera := (s.grab a).2
        device := s.device.captured a.connection a.mode a.endpoint frame
          (Camera.frameBytes σ frame).length } := by
  have ht := trigger_of_aim hone ha
  rw [hg] at ht
  rw [apply_of_aim pace ha, writeTrigger, if_pos (aim?_eq_some.mp ha).2.1, ht]

/-- An image that is not given leaves uploads and requests alone. -/
theorem apply_of_refused (pace : Pace) (hone : s.device.OneUpload) (ha : s.aim? step = some a)
    {e : HardwareError} (hg : (s.grab a).1 = .error e) :
    (s.apply pace step).camera = (s.grab a).2
      ∧ (s.apply pace step).device.log = (s.grabCall a).event :: s.device.log
      ∧ s.device.Aside (s.apply pace step).device := by
  have ht := trigger_of_aim hone ha
  rw [hg] at ht
  obtain ⟨hmode, hcapture, -⟩ := aim?_eq_some.mp ha
  refine ⟨?_, ?_, apply_trigger_failed pace hmode hcapture (by rw [ht])⟩
  all_goals
    rw [apply_of_aim pace ha, writeTrigger, if_pos hcapture, ht]
    dsimp only
    split
  · exact linkDown_camera _ _
  · rfl
  · exact linkDown_log _ _
  · rfl

/-- A trigger to capture that has no aim is dropped. -/
theorem apply_of_no_aim (pace : Pace) (hone : s.device.OneUpload) {mode : TriggerMode}
    (hstep : step.trigger? = some mode) (hmode : mode.startsCapture = true)
    (ha : s.aim? step = none) : s.apply pace step = s := by
  rw [apply_trigger pace s hstep]
  split
  case isFalse => rfl
  case isTrue hs =>
    rw [writeTrigger, if_pos hmode]
    unfold trigger
    dsimp only
    cases hendpoint : s.device.record.capture.endpoint with
    | none => rfl
    | some endpoint =>
      dsimp only
      cases hbusy : s.device.record.publishBusy with
      | true => rfl
      | false =>
        cases hc : s.device.record.handle with
        | none => rfl
        | some c =>
          have haim : s.aim? step = some { mode, endpoint, connection := c } :=
            aim?_eq_some.mpr ⟨hstep, hmode, status_of_isConnected hs, hendpoint, hc,
              hone.eq_nil hbusy⟩
          rw [ha] at haim
          cases haim

-- =================================================================== grabs

omit [Camera σ H F] in
/-- Link tasks open and close connections, and ask for nothing else. -/
theorem calls_of_link {pace : Pace} {d d' : Device H F} {calls : List (Call H)}
    (hch : Device.Change pace step d calls d') (hstep : step.isFeature = false) :
    ∀ x ∈ calls, x.event.isLink = true := by
  have hclosing : ∀ x ∈ d.closing, x.event.isLink = true := by
    intro x hx
    unfold Device.closing at hx
    obtain ⟨c, -, rfl⟩ := Option.map_eq_some_iff.mp (Option.mem_toList.mp hx)
    rfl
  cases hch with
  | beside hf _ => rw [hstep] at hf; cases hf
  | failed hf _ _ _ => rw [hstep] at hf; cases hf
  | stopped => exact hclosing
  | connected _ _ _ => exact hclosing
  | loopEnded _ _ _ => exact hclosing
  | loopSpent _ _ _ _ => exact hclosing
  | loopBegun _ _ _ _ => exact hclosing
  | opened _ _ handle => simp [Call.opened, Event.isLink]
  | refused _ _ e => simp [Event.isLink]
  | dropped _ _ _ => simp [Call.closed, Event.isLink]
  | _ => simp

/-- The calls of a step, as its log notes them, with no image asked for. -/
def Unseeing (s s' : Site σ H F) : Prop :=
  ∃ calls, Served s.camera calls s'.camera
    ∧ s'.device.log = calls.map (·.event) ++ s.device.log ∧ ∀ x ∈ calls, x.event.isGrab = false

/-- Without a call no image is seen. -/
theorem Unseeing.of_silent {s s' : Site σ H F} (hcamera : s'.camera = s.camera)
    (hlog : s'.device.log = s.device.log) : Unseeing s s' := by
  refine ⟨[], ?_, hlog, fun x hx => by cases hx⟩
  rw [hcamera]
  exact .nothing

/-- Without an aim a write asks for no image. -/
theorem write_unseeing (pace : Pace) (hr : s.Reachable) {feature : String} {value : Value}
    (ha : s.aim? (.write feature value) = none) :
    Unseeing s (s.apply pace (.write feature value)) := by
  cases hstep : (Step.write feature value).trigger? with
  | some mode =>
      by_cases hmode : mode.startsCapture = true
      · rw [apply_of_no_aim pace hr.oneUpload hstep hmode ha]
        exact .of_silent rfl rfl
      · rw [apply_trigger pace s hstep]
        split
        · rw [writeTrigger, if_neg hmode]
          exact .of_silent rfl rfl
        · exact .of_silent rfl rfl
  | none =>
      show Unseeing s (s.write feature value).2
      cases hw : value.wire with
      | error kind =>
          rw [write_unsupported hw]
          exact .of_silent rfl rfl
      | ok text =>
          obtain ⟨calls, hends⟩ := hr.write_ends hw feature
          refine ⟨calls, hends.calls_served, hends.log, ?_⟩
          rcases hends.grabs with hcalls | ⟨hf, _, mode, hq, hmode⟩
          · exact hcalls
          · cases hq
            rw [trigger?_write hf hw hmode] at hstep
            cases hstep

theorem sendUpload_unseeing (timeout now generation : Nat) (s : Site σ H F) :
    Unseeing s (s.sendUpload timeout now generation) := by
  cases hu : s.device.upload? generation with
  | none =>
      unfold sendUpload
      rw [hu]
      exact .of_silent rfl rfl
  | some u =>
      cases hst : u.stage with
      | captured frame =>
          rw [sendUpload_of_captured timeout now hu hst]
          refine ⟨_, .posted s.device.id _ (.freed s.device.id frame .nothing), rfl, ?_⟩
          simp [Event.isGrab]
      | sent deadline =>
          rw [sendUpload_of_sent timeout now hu hst]
          exact .of_silent rfl rfl

/-- Without an aim no step asks for an image. -/
theorem apply_unseeing (pace : Pace) (hr : s.Reachable) (ha : s.aim? step = none) :
    Unseeing s (s.apply pace step) := by
  have hlink : step.isFeature = false → Unseeing s (s.apply pace step) := by
    intro hstep
    obtain ⟨calls, hch, hserved⟩ := apply_does pace s step
    refine ⟨calls, hserved, hch.log, ?_⟩
    intro x hx
    exact Event.isGrab_of_isLink (calls_of_link hch hstep x hx)
  cases step with
  | read feature =>
      obtain ⟨calls, hends⟩ := hr.read_ends feature
      refine ⟨calls, hends.calls_served, hends.log, ?_⟩
      rcases hends.grabs with hcalls | ⟨-, _, _, hq, -⟩
      · exact hcalls
      · cases hq
  | write feature value => exact write_unseeing pace hr ha
  | target feature => exact .of_silent rfl rfl
  | sendUpload now generation => exact sendUpload_unseeing pace.timeout now generation s
  | finishUpload generation outcome =>
      show Unseeing s (s.finishUpload generation outcome)
      unfold finishUpload
      split <;> exact .of_silent rfl rfl
  | _ => exact hlink rfl

-- ================================================================= balance

/-- What a step does to the requests that are owed and those that went out. -/
inductive Settles (s : Site σ H F) (step : Step) (s' : Site σ H F) : Prop
  | shot {shot : Shot F} (hshot : s.shot? step = some shot) (hnone : s.device.owed σ = [])
      (howed : s'.device.owed σ = [shot.request σ]) (hposts : s'.device.posts = s.device.posts)
  | sent {now : Nat} {u : Upload F} {request : Request} (hshot : s.shot? step = none)
      (hstep : step = .sendUpload now u.generation) (hu : s.device.uploads = [u])
      (hrequest : u.owed? σ = some request) (howed : s'.device.owed σ = [])
      (hposts : s'.device.posts = request :: s.device.posts)
  | quiet (hshot : s.shot? step = none)
      (hstep : ∀ now, ∀ u ∈ s.device.uploads, step = .sendUpload now u.generation →
        u.owed? σ = none)
      (howed : s'.device.owed σ = s.device.owed σ) (hposts : s'.device.posts = s.device.posts)

/-- A step that triggers nothing makes no shot. -/
theorem shot?_of_trigger?_none (h : step.trigger? = none) : s.shot? step = none := by
  cases hshot : s.shot? step with
  | none => rfl
  | some shot =>
      obtain ⟨a, ha, -⟩ := shot?_eq_some.mp hshot
      rw [(aim?_eq_some.mp ha).1] at h
      cases h

/-- A shot owes one request, and posts none yet. -/
theorem settles_of_shot (pace : Pace) (hone : s.device.OneUpload) {shot : Shot F}
    (hshot : s.shot? step = some shot) : Settles s step (s.apply pace step) := by
  obtain ⟨a, ha, hg, -, hendpoint, -⟩ := shot?_eq_some.mp hshot
  obtain ⟨-, -, -, -, -, hidle⟩ := aim?_eq_some.mp ha
  refine .shot hshot ?_ ?_ ?_
  · unfold Device.owed
    rw [hidle]
    rfl
  · rw [apply_of_given pace hone ha hg]
    unfold Shot.request
    rw [← hendpoint]
    show (s.device.uploads ++ [_]).filterMap (Upload.owed? σ) = _
    rw [hidle]
    rfl
  · rw [apply_of_given pace hone ha hg]
    rfl

/-- What an upload holds is sent by its own step. -/
theorem settles_of_sendUpload (pace : Pace) (hone : s.device.OneUpload) (now generation : Nat) :
    Settles s (.sendUpload now generation) (s.apply pace (.sendUpload now generation)) := by
  have hshot : s.shot? (.sendUpload now generation) = none := shot?_of_trigger?_none rfl
  show Settles s _ (s.sendUpload pace.timeout now generation)
  cases hu : s.device.upload? generation with
  | none =>
      have hsame : s.sendUpload pace.timeout now generation = s := by
        unfold sendUpload
        rw [hu]
      rw [hsame]
      refine .quiet hshot ?_ rfl rfl
      -- no upload has the generation
      intro later u hm heq
      cases heq
      rw [Device.upload?_of_singleton (hone.eq_of_mem hm)] at hu
      cases hu
  | some u =>
      obtain ⟨hm, rfl⟩ := Device.mem_of_upload? hu
      have hsingle := hone.eq_of_mem hm
      cases hst : u.stage with
      | captured frame =>
          rw [sendUpload_of_captured pace.timeout now hu hst]
          have howed : u.owed? σ = some (.ofImage u.endpoint (Camera.frameBytes σ frame)) := by
            unfold Upload.owed?
            rw [hst]
          refine .sent hshot rfl hsingle howed ?_ rfl
          unfold Device.owed
          rw [Device.sent_uploads hsingle]
          rfl
      | sent deadline =>
          rw [sendUpload_of_sent pace.timeout now hu hst]
          refine .quiet hshot ?_ rfl rfl
          intro later v hv _
          rw [hsingle, List.mem_singleton] at hv
          unfold Upload.owed?
          rw [hv, hst]

/-- An upload that ends was sent before. -/
theorem owed_of_finished (hone : s.device.OneUpload) {generation deadline : Nat} {u : Upload F}
    (outcome : UploadOutcome) (hu : s.device.upload? generation = some u)
    (hst : u.stage = .sent deadline) :
    (s.device.finished u outcome).owed σ = s.device.owed σ := by
  have hsingle := hone.eq_of_mem (Device.mem_of_upload? hu).1
  have howed : u.owed? σ = none := by
    unfold Upload.owed?
    rw [hst]
  unfold Device.owed
  rw [Device.finished_uploads hsingle, hsingle, List.filterMap_cons_none howed]

/-- A step settles in one of the three ways. -/
theorem apply_settles (pace : Pace) (hone : s.device.OneUpload) (step : Step) :
    Settles s step (s.apply pace step) := by
  cases hshot : s.shot? step with
  | some shot => exact settles_of_shot pace hone hshot
  | none =>
      by_cases hsend : ∃ now generation, step = .sendUpload now generation
      · obtain ⟨now, generation, rfl⟩ := hsend
        exact settles_of_sendUpload pace hone now generation
      · have hother : ∀ now, ∀ u ∈ s.device.uploads, step = .sendUpload now u.generation →
            u.owed? σ = none := fun now u _ heq => absurd ⟨now, _, heq⟩ hsend
        obtain ⟨new, hp⟩ := apply_publishes pace s step
        generalize s.apply pace step = s' at hp ⊢
        cases hp with
        | aside h _ _ => exact .quiet hshot hother h.owed h.posts
        | halted _ _ => exact .quiet hshot hother rfl rfl
        | @started _ _ mode endpoint c frame camera hstep hmode hs hendpoint hbusy hc hgrab =>
            have ha : s.aim? step = some { mode, endpoint, connection := c } :=
              aim?_eq_some.mpr ⟨hstep, hmode, hs, hendpoint, hc, hone.eq_nil hbusy⟩
            rw [shot?_of_grab ha (congrArg Prod.fst hgrab)] at hshot
            cases hshot
        | sent _ _ => exact absurd ⟨_, _, rfl⟩ hsend
        | finished hu hst => exact .quiet hshot hother (owed_of_finished hone _ hu hst) rfl

/-- The shots of a run are the requests that are owed and those that went
out. -/
theorem Taken.balance {trace : List (Moment σ H F)} (h : Taken trace s) :
    (shots trace).map (Shot.request σ) = s.device.owed σ ++ s.device.posts := by
  induction h with
  | fresh camera id format maxRetry => rfl
  | camera camera _ ih => exact ih
  | @step trace s pace step htaken ih =>
      unfold shots at ih ⊢
      rw [List.filterMap_cons]
      cases apply_settles pace htaken.reachable.oneUpload step with
      | @shot shot hshot hnone howed hposts =>
          rw [hnone, List.nil_append] at ih
          dsimp only
          rw [hshot, howed, hposts, ← ih]
          rfl
      | @sent now u request hshot hstep hu hrequest howed hposts =>
          have howed' : s.device.owed σ = [request] := by
            unfold Device.owed
            rw [hu, List.filterMap_cons_some hrequest]
            rfl
          dsimp only
          rw [hshot, ih, howed, hposts, howed']
          rfl
      | quiet hshot _ howed hposts =>
          dsimp only
          rw [hshot, howed, hposts]
          exact ih

-- ============================================================= one request

/-- Over every run, the requests that went out and the one that an upload still
owes are those of the shots, one for each, in their order: each with the
endpoint that was stored when its trigger was written, and the frame that was
given then. A trigger with an aim asks for one image, in the stored format; if
the image is given its request is owed from then on, else nothing is owed and
nothing sent. Without an aim a step asks for no image. What is owed is sent by
the step of its upload and by no other one; every other step sends nothing and
leaves it owed, and so does every step once nothing is owed, whatever became of
the last request. -/
theorem Reachable.one_request_a_capture (h : s.Reachable) :
    (∃ trace, Taken trace s)
      ∧ (∀ trace, Taken trace s →
          (shots trace).map (Shot.request σ) = s.device.owed σ ++ s.device.posts)
      ∧ (∀ (pace : Pace) (step : Step) (a : Aim H), s.aim? step = some a →
          let s' := s.apply pace step
          Served s.camera [s.grabCall a] s'.camera
            ∧ s'.device.log = (s.grabCall a).event :: s.device.log
            ∧ (∀ frame, (s.grab a).1 = .ok frame →
                s'.device.owed σ = [.ofImage a.endpoint (Camera.frameBytes σ frame)])
            ∧ ∀ e, (s.grab a).1 = .error e →
                s'.device.uploads = s.device.uploads ∧ s'.device.posts = s.device.posts)
      ∧ (∀ (pace : Pace) (step : Step), s.aim? step = none → Unseeing s (s.apply pace step))
      ∧ (∀ (pace : Pace) (now : Nat), ∀ u ∈ s.device.uploads, ∀ request,
          u.owed? σ = some request →
          let s' := s.apply pace (.sendUpload now u.generation)
          s'.device.owed σ = [] ∧ s'.device.posts = request :: s.device.posts)
      ∧ ∀ (pace : Pace) (step : Step),
          (∀ now, ∀ u ∈ s.device.uploads, step = .sendUpload now u.generation →
            u.owed? σ = none) →
          let s' := s.apply pace step
          s'.device.posts = s.device.posts
            ∧ ∀ request ∈ s.device.owed σ, request ∈ s'.device.owed σ := by
  have hone := h.oneUpload
  refine ⟨h.taken, fun trace ht => ht.balance, ?_, fun pace step => apply_unseeing pace h, ?_, ?_⟩
  · -- a step that aims at the camera: one grab, and a frame or a refusal
    intro pace step a ha
    have hserved := grab_served s a
    cases hg : (s.grab a).1 with
    | ok frame =>
        have happly := apply_of_given pace hone ha hg
        obtain ⟨-, -, -, -, -, hidle⟩ := aim?_eq_some.mp ha
        dsimp only
        rw [happly]
        refine ⟨hserved, ?_, ?_, ?_⟩
        · -- the call is the one that was made
          unfold grabCall
          rw [hg]
          rfl
        · -- the frame is owed, and nothing else
          intro frame' hframe
          cases hframe
          show (s.device.uploads ++ [_]).filterMap (Upload.owed? σ) = _
          rw [hidle]
          rfl
        · intro e he
          cases he
    | error e =>
        obtain ⟨hcamera, hlog, haside⟩ := apply_of_refused pace hone ha hg
        refine ⟨hcamera ▸ hserved, hlog, ?_, ?_⟩
        · intro frame hframe
          cases hframe
        · -- a refusal leaves the uploads and the requests alone
          intro e' _
          exact ⟨haside.uploads, haside.posts⟩
  · -- what is owed is sent as it was taken
    intro pace now u hu request hrequest
    have hsettles := settles_of_sendUpload pace hone now u.generation
    cases hsettles with
    | shot hshot _ _ _ =>
        rw [shot?_of_trigger?_none rfl] at hshot
        cases hshot
    | sent _ _ hv hrequest' howed hposts =>
        rw [hv, List.mem_singleton] at hu
        rw [hu, hrequest'] at hrequest
        cases hrequest
        exact ⟨howed, hposts⟩
    | quiet _ hstep _ _ =>
        rw [hstep now u hu rfl] at hrequest
        cases hrequest
  · -- any other step sends nothing, and owes what it owed
    intro pace step hstep
    cases apply_settles pace hone step with
    | shot _ hnone _ hposts =>
        refine ⟨hposts, ?_⟩
        rw [hnone]
        exact fun _ hm => by cases hm
    | sent _ heq hu hrequest _ _ =>
        rw [hstep _ _ (hu ▸ List.mem_singleton_self _) heq] at hrequest
        cases hrequest
    | quiet _ _ howed hposts =>
        refine ⟨hposts, ?_⟩
        rw [howed]
        exact fun _ hm => hm

/-- The endpoint is rewritten and the device stopped before the request goes
out, and the request fails: it went to the endpoint of its trigger, once. -/
theorem Reachable.one_request_a_capture_before_stop :
    let camera := (simulated ⟨"a"⟩ 3).camera.setFrame ⟨"a"⟩ [1, 2]
    let captured := Site.run ⟨10, 100⟩ { simulated ⟨"a"⟩ 3 with camera }
      [.connect, .reach 0, .resume 0 0, .write "ImageURL" (.text "http://[::1]/"),
        .write "ImageTrigger" (.text "single"), .write "ImageURL" (.text "http://[::2]/"), .stop]
    let s := captured.run ⟨10, 100⟩ [.sendUpload 0 1, .finishUpload 1 .failed, .sendUpload 5 1]
    captured.device.posts = []
      ∧ s.device.posts.map (·.endpoint.text) = ["http://[::1]/"]
      ∧ ∃ trace, Taken trace s
        ∧ (shots trace).map (Shot.request SimulatedCamera) = s.device.posts := by
  intro camera captured s
  have hposts : s.device.posts.map (·.endpoint.text) = ["http://[::1]/"] := by decide +kernel
  have huploads : s.device.uploads.length = 0 := by decide +kernel
  have hr : s.Reachable := (((Reachable.fresh _ _ _ _).camera camera).run _ _).run _ _
  obtain ⟨⟨trace, htaken⟩, hbalance, -, -, -, -⟩ := Reachable.one_request_a_capture hr
  refine ⟨by decide +kernel, hposts, trace, htaken, ?_⟩
  have howed : s.device.owed SimulatedCamera = [] := by
    unfold Device.owed
    rw [List.eq_nil_of_length_eq_zero huploads]
    rfl
  rw [hbalance trace htaken, howed, List.nil_append]

end Site

end CameraDriver
