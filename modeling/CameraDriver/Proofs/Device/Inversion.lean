/-
Every step is a change: the inversion of `Site.apply`.

A feature call is told apart by what it does to the link (`Site.Called`): it
stays beside, or it fails hard and takes the link down. The link's own steps
are followed branch by branch to the constructor of `Device.Change` that
stands for the branch. The camera is followed along, so that the calls of the
change are those that the camera was asked.
-/
import CameraDriver.Proofs.Device.Links

namespace CameraDriver

variable {σ H F : Type}

namespace Site

variable [Camera σ H F]

/-- A step is a change, and its calls are what the camera was asked. -/
def Does (pace : Pace) (step : Step) (s s' : Site σ H F) : Prop :=
  ∃ calls, Device.Change pace step s.device calls s'.device ∧ Served s.camera calls s'.camera

/-- A change that asks nothing of the camera. -/
theorem Does.of_still {pace : Pace} {step : Step} {s s' : Site σ H F}
    (hc : s'.camera = s.camera) (h : Device.Change pace step s.device [] s'.device) :
    Does pace step s s' := by
  refine ⟨[], h, ?_⟩
  rw [hc]
  exact .nothing

-- ========================================================= feature calls

/-- What a feature call does to a device: it stays beside, unless the call
fails hard and takes the link down. -/
def Called (s s' : Site σ H F) : Prop :=
  ∃ calls, Served s.camera calls s'.camera
    ∧ (s.device.Beside calls s'.device
      ∨ s.device.status = .connected
        ∧ ∃ m, s.device.Beside calls m ∧ m.record.linkTask = none ∧ s'.device = m.lost)

/-- A call that asks nothing of the camera. -/
theorem Called.of_beside {s s' : Site σ H F} (hc : s'.camera = s.camera)
    (h : s.device.Beside [] s'.device) : Called s s' := by
  refine ⟨[], ?_, .inl h⟩
  rw [hc]
  exact .nothing

theorem Called.refl (s : Site σ H F) : Called s s := .of_beside rfl (Device.Beside.refl _)

omit [Camera σ H F] in
/-- A report of the link down is ignored or takes the link down. -/
theorem linkDown_device (epoch : Nat) (s : Site σ H F) :
    (s.linkDown epoch).2.device = s.device
      ∨ s.device.record.linkTask = none ∧ s.device.record.linkEpoch = epoch
        ∧ (s.linkDown epoch).2.device = s.device.lost := by
  unfold linkDown
  split
  case isTrue => exact .inl rfl
  case isFalse h =>
    right
    simp only [Bool.or_eq_true, decide_eq_true_eq, not_or, Option.not_isSome_iff_eq_none,
      ne_eq, Decidable.not_not] at h
    exact ⟨h.1, h.2, rfl⟩

omit [Camera σ H F] in
/-- A report of the link down does not reach the camera. -/
theorem linkDown_camera (epoch : Nat) (s : Site σ H F) :
    (s.linkDown epoch).2.camera = s.camera := by
  unfold linkDown
  split <;> rfl

/-- A call beside that reports the link down when it is over. -/
theorem Called.of_linkDown {s m : Site σ H F} {calls : List (Call H)} (epoch : Nat)
    (hs : s.device.status = .connected) (hserved : Served s.camera calls m.camera)
    (h : s.device.Beside calls m.device) : Called s (m.linkDown epoch).2 := by
  refine ⟨calls, ?_, ?_⟩
  · rw [linkDown_camera]
    exact hserved
  · rcases linkDown_device epoch m with hd | ⟨hr, -, hd⟩
    · rw [hd]
      exact .inl h
    · rw [hd]
      exact .inr ⟨hs, m.device, h, hr, rfl⟩

/-- A call that fails may report the link down as well. -/
theorem Called.of_failure {s m : Site σ H F} {calls : List (Call H)} (epoch : Nat)
    (action feature : String) (e : HardwareError) (hs : s.device.status = .connected)
    (hserved : Served s.camera calls m.camera) (h : s.device.Beside calls m.device) :
    Called s (m.failure epoch action feature e).2 := by
  unfold failure
  split
  case isTrue => exact Called.of_linkDown epoch hs hserved h
  case isFalse => exact ⟨calls, hserved, .inl h⟩

omit [Camera σ H F] in
/-- A status that passes the test of the calls. -/
theorem status_of_isConnected {d : Device H F} (h : d.status.isConnected = true) :
    d.status = .connected := by
  cases hs : d.status with
  | connected => rfl
  | disconnected => rw [hs] at h; cases h
  | reconnecting n => rw [hs] at h; cases h

omit [Camera σ H F] in
/-- The connection of a call is the one that the record holds. -/
theorem handle_of_connection {s : Site σ H F} {c : Connection H} (h : s.connection = .ok c) :
    s.device.record.handle = some c := by
  unfold connection at h
  split at h
  case isTrue => cases h
  case isFalse =>
    split at h
    next c' hc =>
      injection h with h
      rw [hc, h]
    next => cases h

/-- A change of the record that leaves alone what link tasks work with. -/
theorem beside_modifyRecord {d : Device H F}
    {f : Record (Connection H) → Record (Connection H)}
    (handle : (f d.record).handle = d.record.handle)
    (linkTask : (f d.record).linkTask = d.record.linkTask)
    (linkEpoch : (f d.record).linkEpoch = d.record.linkEpoch)
    (retryCount : (f d.record).retryCount = d.record.retryCount)
    (reconnectLoops : (f d.record).reconnectLoops = d.record.reconnectLoops) :
    d.Beside [] (d.modifyRecord f) :=
  { Device.Beside.refl d with handle, linkTask, linkEpoch, retryCount, reconnectLoops }

/-- So does a change of the record made on the site. -/
theorem Called.of_modifyRecord {s : Site σ H F}
    {f : Record (Connection H) → Record (Connection H)}
    (h : s.device.Beside [] (s.device.modifyRecord f)) :
    Called s (s.onDevice (·.modifyRecord f)) :=
  .of_beside rfl h

theorem readDevice_called {s : Site σ H F} {c : Connection H} (feature : String)
    (hs : s.device.status = .connected) (hc : s.device.record.handle = some c) :
    Called s (s.readDevice feature c).2 := by
  have hserved := Served.read s.device.id c feature (.nothing : Served s.camera [] _)
  unfold readDevice
  generalize Camera.readFeature c.handle feature s.camera = answer at hserved ⊢
  obtain ⟨result, camera⟩ := answer
  have hb := Device.beside_note (e := .read c.number feature result) hc rfl rfl rfl
  cases result with
  | ok value => exact ⟨_, hserved, .inl hb⟩
  | error e => exact Called.of_failure _ _ _ _ hs hserved hb

theorem writeDevice_called {s : Site σ H F} {c : Connection H} (feature text : String)
    (hs : s.device.status = .connected) (hc : s.device.record.handle = some c) :
    Called s (s.writeDevice feature text c).2 := by
  have hserved := Served.written s.device.id c feature text (.nothing : Served s.camera [] _)
  unfold writeDevice
  generalize Camera.writeFeature c.handle feature text s.camera = answer at hserved ⊢
  obtain ⟨result, camera⟩ := answer
  have hb := Device.beside_note (e := .written c.number feature text result) hc rfl rfl rfl
  cases result with
  | ok value => exact ⟨_, hserved, .inl hb⟩
  | error e => exact Called.of_failure _ _ _ _ hs hserved hb

/-- A trigger stays beside; it is its caller who reports the link down. -/
theorem trigger_beside (mode : TriggerMode) (s : Site σ H F) :
    ∃ calls, Served s.camera calls (s.trigger mode).2.camera
      ∧ s.device.Beside calls (s.trigger mode).2.device := by
  unfold trigger
  dsimp only
  split
  next => exact ⟨[], .nothing, Device.Beside.refl _⟩
  next endpoint _ =>
    split
    next => exact ⟨[], .nothing, Device.Beside.refl _⟩
    next =>
      split
      next => exact ⟨[], .nothing, Device.Beside.refl _⟩
      next c hc =>
        have hserved := Served.grabbed s.device.id c s.device.record.capture.format.name
          (.nothing : Served s.camera [] _)
        generalize Camera.grabImage c.handle s.device.record.capture.format.name s.camera = answer
          at hserved ⊢
        obtain ⟨result, camera⟩ := answer
        cases result with
        | error e => exact ⟨_, hserved, Device.beside_note hc rfl rfl rfl⟩
        | ok frame =>
            have hb := Device.beside_note
              (e := .grabbed c.number s.device.record.capture.format.name
                (.ok (Camera.frameBytes σ frame).length)) hc rfl rfl rfl
            exact ⟨_, hserved, { hb with }⟩

/-- A read makes calls on the connection held, if any. -/
theorem read_called (feature : String) (s : Site σ H F) : Called s (s.read feature).2 := by
  unfold read
  split
  case isTrue => exact .refl _
  case isFalse hs =>
    have hs : s.device.status = .connected := status_of_isConnected (by simpa using hs)
    split
    next => exact .refl _
    next =>
      split
      next => exact .refl _
      next c hc => exact readDevice_called feature hs (handle_of_connection hc)

theorem writeTrigger_called (mode : TriggerMode) (s : Site σ H F)
    (hs : s.device.status = .connected) : Called s (s.writeTrigger mode) := by
  unfold writeTrigger
  split
  case isTrue =>
    obtain ⟨calls, hserved, hb⟩ := trigger_beside mode s
    split
    next heq =>
      rw [heq] at hserved hb
      exact ⟨calls, hserved, .inl hb⟩
    next heq =>
      rw [heq] at hserved hb
      split
      case isTrue => exact Called.of_linkDown _ hs hserved hb
      case isFalse => exact ⟨calls, hserved, .inl hb⟩
  case isFalse => exact Called.of_modifyRecord (beside_modifyRecord rfl rfl rfl rfl rfl)

theorem writeVirtual_called (f : VirtualFeature) (text : String) (s : Site σ H F)
    (hs : s.device.status = .connected) : Called s (s.writeVirtual f text).2 := by
  unfold writeVirtual
  cases f with
  | imageTrigger =>
      cases VirtualFeature.triggerMode text with
      | ok mode => exact writeTrigger_called mode s hs
      | error e => exact .refl _
  | imageFormat =>
      cases VirtualFeature.format text with
      | ok format => exact Called.of_modifyRecord (beside_modifyRecord rfl rfl rfl rfl rfl)
      | error e => exact .refl _
  | imageUrl =>
      cases VirtualFeature.endpoint text with
      | ok endpoint => exact Called.of_modifyRecord (beside_modifyRecord rfl rfl rfl rfl rfl)
      | error e => exact .refl _
  | maxRetryTimes =>
      cases VirtualFeature.maxRetry text with
      | ok maxRetry => exact Called.of_modifyRecord (beside_modifyRecord rfl rfl rfl rfl rfl)
      | error e => exact .refl _

/-- A write makes calls on the connection held, if any. -/
theorem write_called (feature : String) (value : Value) (s : Site σ H F) :
    Called s (s.write feature value).2 := by
  unfold write
  split
  next => exact .refl _
  next text _ =>
    split
    case isTrue => exact .refl _
    case isFalse hs =>
      have hs : s.device.status = .connected := status_of_isConnected (by simpa using hs)
      split
      next f _ => exact writeVirtual_called f text s hs
      next =>
        split
        next => exact .refl _
        next c hc => exact writeDevice_called feature text hs (handle_of_connection hc)

-- =============================================================== uploads

/-- An upload gives its frame back and sends its request. -/
theorem sendUpload_called (timeout now generation : Nat) (s : Site σ H F) :
    Called s (s.sendUpload timeout now generation) := by
  unfold sendUpload
  split
  next g m endpoint frame _ =>
    have hserved := Served.posted s.device.id
      (Request.ofImage endpoint (Camera.frameBytes σ frame))
      (Served.freed s.device.id frame (.nothing : Served s.camera [] _))
    refine ⟨_, hserved, .inl { Device.Beside.refl s.device with log := rfl, calls := ?_ }⟩
    intro x hx
    rcases List.mem_cons.mp hx with rfl | hx
    · exact ⟨rfl, rfl, rfl, fun n hn => by cases hn⟩
    · rw [List.mem_singleton.mp hx]
      exact ⟨rfl, rfl, rfl, fun n hn => by cases hn⟩
  next => exact .refl _

theorem finishUpload_called (generation : Nat) (outcome : UploadOutcome) (s : Site σ H F) :
    Called s (s.finishUpload generation outcome) := by
  unfold finishUpload
  split
  next =>
    refine .of_beside rfl ?_
    refine { Device.Beside.refl s.device with
      handle := ?_, linkTask := ?_, linkEpoch := ?_, retryCount := ?_, reconnectLoops := ?_ }
    all_goals
      dsimp only [onDevice, Device.modifyRecord]
      split <;> rfl
  next => exact .refl _

-- ============================================================ link steps

/-- A device that closes a connection notes it. -/
theorem close?_device (s : Site σ H F) (c : Option (Connection H)) :
    (s.close? c).device = s.device.noteClosed c := by
  cases c with
  | none => rfl
  | some c => rfl

/-- Closing what the record of a device holds is a call for the device. -/
theorem close?_served (camera : σ) (d d' : Device H F) :
    Served camera d.closing (Site.close? { camera, device := d' } d.record.handle).camera := by
  unfold Device.closing
  cases d.record.handle with
  | none => exact .nothing
  | some c => exact .closed d.id c .nothing

/-- A stop leaves the stopped device. -/
theorem stop_device (s : Site σ H F) : s.stop.device = s.device.stopped := close?_device _ _

/-- A stop closes what the record holds. -/
theorem stop_served (s : Site σ H F) : Served s.camera s.device.closing s.stop.camera :=
  close?_served _ _ _

theorem stop_does (pace : Pace) (s : Site σ H F) : Does pace .stop s s.stop := by
  refine ⟨s.device.closing, ?_, stop_served s⟩
  rw [stop_device]
  exact .stopped _

theorem beginConnect_does (pace : Pace) (s : Site σ H F) :
    Does pace .connect s s.beginConnect.2 := by
  unfold beginConnect
  split
  case isTrue => exact .of_still rfl (.still _ _)
  case isFalse h =>
    simp only [Bool.or_eq_true, not_or, Option.not_isSome_iff_eq_none] at h
    refine .of_still rfl (.begun h.1 ?_)
    intro hs
    rw [hs] at h
    exact h.2 rfl

theorem linkDown_does (pace : Pace) (epoch : Nat) (s : Site σ H F) :
    Does pace (.linkDown epoch) s (s.linkDown epoch).2 := by
  refine .of_still (linkDown_camera epoch s) ?_
  rcases linkDown_device epoch s with hd | ⟨hr, he, hd⟩
  · rw [hd]
    exact .still _ _
  · rw [hd, ← he]
    exact .lost hr

/-- An open that reaches the camera does what a change says. -/
theorem reach_does (pace : Pace) (token : Token) (s : Site σ H F) :
    Does pace (.reach token) s (s.reach token) := by
  unfold reach
  split
  next k t cancelled attempt hk =>
    dsimp only
    have hstart : Served s.camera [] s.camera := .nothing
    cases hr : (Camera.openDevice s.device.id s.camera).1 with
    | ok handle => exact ⟨_, .opened hk rfl handle, .opened s.device.id ⟨_, handle⟩ hstart hr⟩
    | error e => exact ⟨_, .refused hk rfl e, .refused s.device.id e hstart hr⟩
  next => exact .of_still rfl (.still _ _)

/-- An open that breaks off does what a change says. -/
theorem lose_does (pace : Pace) (token : Token) (s : Site σ H F) :
    Does pace (.lose token) s (s.lose token) := by
  unfold lose
  split
  next k t cancelled attempt hk => exact .of_still rfl (.broken hk rfl _)
  next => exact .of_still rfl (.still _ _)

/-- A task goes on with what its open returned. -/
theorem settle_does (pace : Pace) (now : Nat) {s : Site σ H F} {token : Token}
    {k : LinkTask H} {attempt : Attempt} {result : Except HardwareError (Connection H)}
    (hk : s.device.link? token = some k) (ht : k.token = token)
    (hst : k.stage = .opened attempt result) :
    Does pace (.resume now token) s (s.settle pace.interval now k attempt result) := by
  unfold settle
  rw [ht]
  split
  case isTrue hc =>
    cases result with
    | ok c => exact ⟨_, .dropped hk (by rw [hst]; rfl) hc, .closed s.device.id c .nothing⟩
    | error e => exact .of_still rfl (.ended hk (.inl ⟨attempt, e, hst⟩) hc)
  case isFalse hc =>
    have hc : k.cancelled = false := by simpa using hc
    cases result with
    | ok c =>
        refine ⟨s.device.closing, ?_, close?_served _ _ _⟩
        dsimp only [install, onDevice]
        rw [close?_device]
        exact .connected hk (by rw [hst]; rfl) hc
    | error e =>
        cases attempt with
        | first => exact .of_still rfl (.handedOver hk hst hc)
        | retry number max =>
            dsimp only
            split
            case isTrue hlt => exact .of_still rfl (.retried hk hst hc hlt)
            case isFalse hge =>
              exact .of_still rfl (.exhausted hk hst hc (Nat.le_of_not_lt hge))

/-- A loop takes its first step. -/
theorem startLoop_does (pace : Pace) (now : Nat) {s : Site σ H F} {token : Token}
    {k : LinkTask H} (hk : s.device.link? token = some k) (ht : k.token = token)
    (hst : k.stage = .spawned) :
    Does pace (.resume now token) s (s.startLoop pace.interval now k) := by
  have hd : ((s.onDevice (·.modifyRecord ({ · with handle := none }))).close?
      s.device.record.handle).device = s.device.detached := close?_device _ _
  have hserved : Served s.camera s.device.closing
      ((s.onDevice (·.modifyRecord ({ · with handle := none }))).close?
        s.device.record.handle).camera := close?_served _ _ _
  have hmax : s.device.detached.record.maxRetry = s.device.record.maxRetry := by
    unfold Device.detached Device.noteClosed
    split <;> rfl
  unfold startLoop
  dsimp only [giveUp, onDevice] at hd hserved ⊢
  rw [ht, hd, hmax]
  split
  case isTrue hc => exact ⟨_, .loopEnded hk hst hc, hserved⟩
  case isFalse hc =>
    have hc : k.cancelled = false := by simpa using hc
    split
    case isTrue h0 => exact ⟨_, .loopSpent hk hst hc h0, hserved⟩
    case isFalse h0 => exact ⟨_, .loopBegun hk hst hc (Nat.pos_of_ne_zero h0), hserved⟩

/-- A task that goes on does what a change says. -/
theorem resume_does (pace : Pace) (now : Nat) (token : Token) (s : Site σ H F) :
    Does pace (.resume now token) s (s.resume pace.interval now token) := by
  unfold resume
  split
  next => exact .of_still rfl (.still _ _)
  next k hk =>
    have ht := (Device.mem_of_link? hk).2
    split
    next => exact .of_still rfl (.still _ _)
    next attempt result hst => exact settle_does pace now hk ht hst
    next hst => exact startLoop_does pace now hk ht hst
    next made max due hst =>
      split
      case isTrue hc => exact .of_still rfl (.ended hk (.inr ⟨made, max, due, hst⟩) hc)
      case isFalse hc =>
        have hc : k.cancelled = false := by simpa using hc
        split
        case isTrue hdue => exact .of_still rfl (.woken hk hst hc hdue)
        case isFalse => exact .of_still rfl (.still _ _)

-- =============================================================== changes

/-- Calls about features are what a change says. -/
theorem Called.does {pace : Pace} {step : Step} {s s' : Site σ H F}
    (hstep : step.isFeature = true) (h : Called s s') : Does pace step s s' := by
  obtain ⟨calls, hserved, h | ⟨hs, m, hm, hr, hd⟩⟩ := h
  · exact ⟨calls, .beside hstep h, hserved⟩
  · refine ⟨calls, ?_, hserved⟩
    rw [hd]
    exact .failed hstep hs hm hr

/-- Every step is a change of the device, whose calls the camera was asked. -/
theorem apply_does (pace : Pace) (s : Site σ H F) (step : Step) :
    Does pace step s (s.apply pace step) := by
  cases step with
  | connect => exact beginConnect_does pace s
  | linkDown epoch => exact linkDown_does pace epoch s
  | stop => exact stop_does pace s
  | read feature => exact (read_called feature s).does rfl
  | write feature value => exact (write_called feature value s).does rfl
  | target feature =>
      exact (Called.of_modifyRecord (beside_modifyRecord rfl rfl rfl rfl rfl)).does rfl
  | reach token => exact reach_does pace token s
  | lose token => exact lose_does pace token s
  | resume now token => exact resume_does pace now token s
  | sendUpload now generation => exact (sendUpload_called _ _ _ s).does rfl
  | finishUpload generation outcome => exact (finishUpload_called _ _ s).does rfl

/-- Every step is a change of the device. -/
theorem apply_change (pace : Pace) (s : Site σ H F) (step : Step) :
    ∃ calls, Device.Change pace step s.device calls (s.apply pace step).device := by
  obtain ⟨calls, hch, -⟩ := apply_does pace s step
  exact ⟨calls, hch⟩

end Site

end CameraDriver
