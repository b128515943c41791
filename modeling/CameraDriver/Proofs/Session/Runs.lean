/-
What happens to the client of a session.

A session schedules: it keeps a clock, lists of who sleeps and what is held, and a
receiver of uploads. To its client it does one thing only, it takes steps
(`Client.apply`). Each operation of a session makes the requests that it is asked to
make (`Start.requests`), and then lets the tasks of the devices work (`Works`). So what
is proved of every run of a client holds of what a session has done.
-/
import CameraDriver.Proofs.Client.Moves
import CameraDriver.Session.Basic

namespace CameraDriver

variable {σ H F : Type}

-- ================================================================== tasks

/-- Whether a step is one of a task, which no caller takes. -/
def Site.Step.isTask : Site.Step → Bool
  | .reach _ => true
  | .lose _ => true
  | .resume .. => true
  | .sendUpload .. => true
  | .finishUpload .. => true
  | _ => false

/-- Whether a step is one of a task of a device. -/
def Client.Step.isTask : Client.Step → Bool
  | .device _ step => step.isTask
  | _ => false

/-- What callers ask of the client when something is begun. -/
def Session.Start.requests : Session.Start → List Client.Step
  | .connect id => [.device id .connect]
  | .init common => [.initDevice common]
  | .wait _ => []

namespace Session

variable [Camera σ H F] {s s' s'' : Session σ H F}

/-- The tasks have worked: the client has taken steps of tasks, and nothing else has
happened to it. -/
def Works (s s' : Session σ H F) : Prop :=
  ∃ steps : List Client.Step, (∀ step ∈ steps, step.isTask = true)
    ∧ s'.client = s.client.run steps

namespace Works

/-- Nothing has happened to the client. -/
theorem of_client (h : s'.client = s.client) : Works s s' :=
  ⟨[], fun _ hm => (by cases hm), h⟩

theorem refl (s : Session σ H F) : Works s s := of_client rfl

theorem trans (h : Works s s') (h' : Works s' s'') : Works s s'' := by
  obtain ⟨steps, htask, hclient⟩ := h
  obtain ⟨steps', htask', hclient'⟩ := h'
  refine ⟨steps ++ steps', ?_, ?_⟩
  · intro step hm
    exact (List.mem_append.mp hm).elim (htask step) (htask' step)
  · rw [hclient', hclient]
    exact List.foldl_append.symm

/-- A task has taken a step. -/
theorem of_task (s : Session σ H F) {step : Client.Step} (h : step.isTask = true) :
    Works s (s.apply step) := by
  refine ⟨[step], ?_, rfl⟩
  intro other hm
  rw [List.mem_singleton.mp hm]
  exact h

/-- Work leaves a client in order. -/
theorem proper (h : Works s s') (hp : s.client.Proper) : s'.client.Proper := by
  obtain ⟨steps, -, hclient⟩ := h
  rw [hclient]
  exact hp.run steps

/-- What only lets tasks work does so for each of a list. -/
theorem foldl {α : Type} {f : Session σ H F → α → Session σ H F} (h : ∀ s a, Works s (f s a))
    (l : List α) (s : Session σ H F) : Works s (l.foldl f s) := by
  induction l generalizing s with
  | nil => exact refl s
  | cons a rest ih => exact (h s a).trans (ih (f s a))

end Works

-- ============================================================== link tasks

omit [Camera σ H F] in
/-- Who sleeps is noted beside the client. -/
@[simp] theorem noteSleep_client (s : Session σ H F) (key : LinkKey) :
    (s.noteSleep key).client = s.client := by
  unfold noteSleep
  dsimp only
  split <;> rfl

/-- A link task moves on by a step of its own. -/
theorem works_stepLink {key : LinkKey} (h : s.stepLink key = some s') : Works s s' := by
  have hresume : Works s ((s.apply (.device key.1 (.resume s.clock key.2))).noteSleep key) :=
    (Works.of_task s rfl).trans (.of_client (noteSleep_client _ key))
  unfold stepLink at h
  dsimp only at h
  split at h
  next => cases h
  next task _ =>
    split at h
    next =>
      -- an open is held, breaks off, is to be held from now on, or reaches the camera
      split at h
      case isTrue => cases h
      case isFalse =>
        split at h
        case isTrue => exact Option.some.inj h ▸ .of_task { s with breaking := false } rfl
        case isFalse =>
          split at h
          case isTrue => exact Option.some.inj h ▸ .of_client rfl
          case isFalse => exact Option.some.inj h ▸ .of_task s rfl
    next => exact Option.some.inj h ▸ hresume
    next => exact Option.some.inj h ▸ hresume
    next =>
      split at h
      case isTrue => exact Option.some.inj h ▸ hresume
      case isFalse => cases h

theorem works_runLink (key : LinkKey) (fuel : Nat) (s : Session σ H F) :
    Works s (s.runLink key fuel) := by
  induction fuel generalizing s with
  | zero => exact .refl s
  | succ fuel ih =>
      unfold runLink
      split
      next s' hstep => exact (works_stepLink hstep).trans (ih s')
      next => exact .refl s

-- ================================================================ uploads

theorem works_finishUpload (s : Session σ H F) (id : DeviceId) (generation : Nat)
    (outcome : UploadOutcome) : Works s (s.finishUpload id generation outcome) :=
  .of_task { s with collector := s.collector.forget id generation } rfl

theorem works_runUpload (s : Session σ H F) (key : DeviceId × Upload F) :
    Works s (s.runUpload key) := by
  obtain ⟨id, upload⟩ := key
  have hsent : Works s (s.apply (.device id (.sendUpload s.clock upload.generation))) :=
    .of_task s rfl
  unfold runUpload
  dsimp only
  split
  next => exact .refl s
  next =>
    split
    next => exact hsent
    next =>
      split
      next => exact hsent.trans (works_finishUpload _ id upload.generation _)
      next => exact hsent

/-- While a session settles the tasks work, and nothing else happens. -/
theorem works_settle (s : Session σ H F) : Works s s.settle :=
  (Works.foldl (fun s key => works_runLink key linkFuel s) _ s).trans
    (.foldl works_runUpload _ _)

-- ================================================================ waiting

/-- Gives an upload up if its deadline has come. -/
def expireUpload (s : Session σ H F) (key : DeviceId × Upload F) : Session σ H F :=
  match key.2.stage with
  | .sent deadline =>
      if deadline ≤ s.clock then s.finishUpload key.1 key.2.generation .failed else s
  | .captured _ => s

/-- Uploads expire one after the other. -/
theorem expire_eq (s : Session σ H F) : s.expire = s.uploads.foldl expireUpload s := rfl

theorem works_expireUpload (s : Session σ H F) (key : DeviceId × Upload F) :
    Works s (s.expireUpload key) := by
  unfold expireUpload
  split
  next =>
    split
    case isTrue => exact works_finishUpload s key.1 key.2.generation .failed
    case isFalse => exact .refl s
  next => exact .refl s

/-- While uploads expire nothing else happens. -/
theorem works_expire (s : Session σ H F) : Works s s.expire := .foldl works_expireUpload _ s

/-- While time passes the tasks work, and nothing else happens. -/
theorem works_pass (limit fuel : Nat) (s : Session σ H F) : Works s (s.pass limit fuel) := by
  induction fuel generalizing s with
  | zero => exact .of_client rfl
  | succ fuel ih =>
      unfold pass
      split
      case isTrue => exact .refl s
      case isFalse =>
        split
        next => exact .of_client rfl
        next due _ =>
          split
          case isTrue => exact .of_client rfl
          case isFalse =>
            have hexpired := works_expire { s with clock := max s.clock due }
            exact ((hexpired.trans (works_settle _)).trans (ih _))

/-- While a time passes nothing else happens than that the tasks work. -/
theorem works_passUntil (s : Session σ H F) (limit : Nat) : Works s (s.passUntil limit) :=
  works_pass limit _ s

-- ============================================================= operations

/-- A call, and then the tasks work. -/
theorem works_call {α : Type} (s : Session σ H F) (f : Client σ H F → α × Client σ H F) :
    Works { s with client := (f s.client).2 } (s.call f).2 :=
  works_settle { s with client := (f s.client).2 }

/-- What is begun makes its requests, and then the tasks work. -/
theorem works_start (s : Session σ H F) (what : Start) :
    Works { s with client := s.client.run what.requests } (s.start what).2 := by
  cases what with
  | connect id => exact works_settle _
  | init common => exact works_call s (·.initDevice common)
  | wait ms => exact works_passUntil s _

/-- What is finished lets the tasks work. -/
theorem works_finish (s : Session σ H F) (begun : Begun) : Works s (s.finish begun).2 := by
  cases begun with
  | connect id => exact works_settle s
  | init result => exact works_settle s
  | wait limit => exact (works_settle s).trans (works_passUntil s.settle limit)

/-- What is begun and finished makes its requests, and then the tasks work. -/
theorem works_perform (s : Session σ H F) (what : Start) :
    Works { s with client := s.client.run what.requests } (s.perform what).2 :=
  (works_start s what).trans (works_finish _ _)

/-- It does so with an open held. -/
theorem works_startHeld (s : Session σ H F) (what : Start) :
    Works { s with client := s.client.run what.requests } (s.startHeld what).2.2 :=
  works_start { s with armed := true } what

/-- An open that is let go lets the tasks work. -/
theorem works_release (s : Session σ H F) (begun : Begun) : Works s (s.release begun).2 :=
  works_finish { s with held := none } begun

/-- An answer to an upload lets the tasks work. -/
theorem works_respond (s : Session σ H F) (reply : Reply) : Works s (s.respond reply).2 := by
  unfold respond
  split
  next id generation _ outcome _ _ =>
    exact (works_finishUpload s id generation outcome).trans (works_settle _)
  next => exact .refl s
  next => exact .refl s

end Session

end CameraDriver
