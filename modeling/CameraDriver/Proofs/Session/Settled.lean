/-
What a session has come to when it has settled.

Settling moves the link tasks on one after the other, and then the uploads. What one
task has come to is not undone by the next (`Kept`), so in the end every link task waits
(`settle_waits`), and no loop stands in a queue (`settle_begun`).
-/
import CameraDriver.Proofs.Session.Waiting

namespace CameraDriver

variable {σ H F : Type}

namespace Session

variable {s s' s'' : Session σ H F} {key other : LinkKey} {k : LinkTask H}

-- =================================================================== kept

/-- Every loop that sleeps is noted as sleeping. -/
def Noted (s : Session σ H F) : Prop :=
  ∀ key k, s.link? key = some k → k.stage.isSleeping = true → key ∈ s.asleep

/-- While an open is to be held, none is. -/
def Orderly (s : Session σ H F) : Prop := s.armed = true → s.held = none

/-- What settling keeps. -/
structure Keeps (s s' : Session σ H F) : Prop where
  clock : s'.clock = s.clock
  settings : s'.client.settings = s.client.settings
  noted : s.Noted → s'.Noted
  orderly : s.Orderly → s'.Orderly

theorem Keeps.refl (s : Session σ H F) : Keeps s s := ⟨rfl, rfl, id, id⟩

theorem Keeps.trans (h : Keeps s s') (h' : Keeps s' s'') : Keeps s s'' where
  clock := h'.clock.trans h.clock
  settings := h'.settings.trans h.settings
  noted := fun hn => h'.noted (h.noted hn)
  orderly := fun ho => h'.orderly (h.orderly ho)

/-- The pause before an attempt is one of the settings. -/
theorem Keeps.interval_eq (h : Keeps s s') : s'.interval = s.interval :=
  congrArg (·.reconnectIntervalMs) h.settings

/-- What the moves of one link task keep: the other ones, and an open of theirs that is
held. -/
structure Kept (key : LinkKey) (s s' : Session σ H F) : Prop extends Keeps s s' where
  others : ∀ other, other ≠ key → s'.link? other = s.link? other
  held : s.Orderly → ∀ other, other ≠ key → s.held = some other → s'.held = some other
  uploads : ∀ id, s'.uploadsOf id = s.uploadsOf id

namespace Kept

theorem refl (key : LinkKey) (s : Session σ H F) : Kept key s s where
  toKeeps := .refl s
  others := fun _ _ => rfl
  held := fun _ _ _ => id
  uploads := fun _ => rfl

theorem trans (h : Kept key s s') (h' : Kept key s' s'') : Kept key s s'' where
  toKeeps := h.toKeeps.trans h'.toKeeps
  others := fun other hne => (h'.others other hne).trans (h.others other hne)
  held := fun ho other hne hh => h'.held (h.orderly ho) other hne (h.held ho other hne hh)
  uploads := fun id => (h'.uploads id).trans (h.uploads id)

/-- A link task that waits still does after moves of another one. -/
theorem waits (h : Kept key s s') (ho : s.Orderly) (hne : other ≠ key) (hw : s.Waits other) :
    s'.Waits other := by
  intro k hk
  rw [h.others other hne] at hk
  rw [h.clock]
  exact (hw k hk).imp_left fun ⟨attempt, hst, hheld⟩ => ⟨attempt, hst, h.held ho other hne hheld⟩

end Kept

/-- A move keeps what stands apart. -/
theorem Apart.kept (h : Apart key s s') : Kept key s s' where
  clock := h.clock
  settings := h.settings
  others := h.others
  noted := by
    intro hn other k hk hst
    by_cases heq : other = key
    · subst heq
      exact h.noted k hk hst
    · rw [h.others other heq] at hk
      exact h.asleep other heq (hn other k hk hst)
  orderly := by
    unfold Orderly
    rw [h.armed, h.held]
    exact id
  held := fun _ _ _ hh => h.held.trans hh
  uploads := h.uploads

/-- A task that moves on keeps what stands apart from it. -/
theorem Moved.kept (h : Moved s key k s') : Kept key s s' := by
  cases h with
  | held _ _ harmed =>
      refine ⟨⟨rfl, rfl, id, ?_⟩, fun _ _ => rfl, ?_, fun _ => rfl⟩
      · intro _ harmed'
        cases harmed'
      · intro ho other _ hh
        rw [ho harmed] at hh
        cases hh
  | back _ _ _ hapart => exact hapart.kept
  | gone _ _ hapart => exact hapart.kept

/-- No link task has moved. -/
structure Still (s s' : Session σ H F) : Prop where
  clock : s'.clock = s.clock
  settings : s'.client.settings = s.client.settings
  armed : s'.armed = s.armed
  held : s'.held = s.held
  asleep : s'.asleep = s.asleep
  links : ∀ key, s'.link? key = s.link? key

namespace Still

theorem refl (s : Session σ H F) : Still s s := ⟨rfl, rfl, rfl, rfl, rfl, fun _ => rfl⟩

theorem trans (h : Still s s') (h' : Still s' s'') : Still s s'' where
  clock := h'.clock.trans h.clock
  settings := h'.settings.trans h.settings
  armed := h'.armed.trans h.armed
  held := h'.held.trans h.held
  asleep := h'.asleep.trans h.asleep
  links := fun key => (h'.links key).trans (h.links key)

/-- What moves no link task moves none for each of a list. -/
theorem foldl {α : Type} {f : Session σ H F → α → Session σ H F}
    (h : ∀ s a, Still s (f s a)) (l : List α) (s : Session σ H F) : Still s (l.foldl f s) := by
  induction l generalizing s with
  | nil => exact refl s
  | cons a rest ih => exact (h s a).trans (ih (f s a))

/-- What moves no task keeps all. -/
theorem keeps (h : Still s s') : Keeps s s' where
  clock := h.clock
  settings := h.settings
  noted := by
    intro hn key k hk hst
    rw [h.links] at hk
    rw [h.asleep]
    exact hn key k hk hst
  orderly := by
    unfold Orderly
    rw [h.armed, h.held]
    exact id

/-- A task that waits still does if none has moved. -/
theorem waits (h : Still s s') (hw : s.Waits key) : s'.Waits key := by
  intro k hk
  rw [h.links] at hk
  rw [h.clock, h.held]
  exact hw k hk

end Still

variable [Camera σ H F]

-- ============================================================= link tasks

/-- A task that is moved on until it waits keeps the others. -/
theorem runLink_kept (key : LinkKey) (fuel : Nat) (s : Session σ H F) :
    Kept key s (s.runLink key fuel) := by
  induction fuel generalizing s with
  | zero => exact .refl key s
  | succ fuel ih =>
      unfold runLink
      cases hstep : s.stepLink key with
      | none => exact .refl key s
      | some s' =>
          obtain ⟨k, -, hmoved⟩ := moved_of_stepLink hstep
          exact hmoved.kept.trans (ih s')

/-- The link tasks of a list have moved, one after the other. -/
def runLinks (s : Session σ H F) (keys : List LinkKey) : Session σ H F :=
  keys.foldl (fun s key => s.runLink key linkFuel) s

/-- Tasks that are moved on one after the other keep all. -/
theorem runLinks_keeps (keys : List LinkKey) (s : Session σ H F) :
    Keeps s (s.runLinks keys) := by
  induction keys generalizing s with
  | nil => exact .refl s
  | cons key rest ih => exact (runLink_kept key linkFuel s).toKeeps.trans (ih _)

/-- What each link task comes to and keeps while others move, all of a list have come
to when the list has been gone through. -/
theorem runLinks_all {P : LinkKey → Session σ H F → Prop} {I : Session σ H F → Prop}
    (hI : ∀ s s', I s → Keeps s s' → I s')
    (hrun : ∀ s key, I s → P key (s.runLink key linkFuel))
    (hkept : ∀ s s' key other, other ≠ key → I s → Kept key s s' → P other s → P other s')
    {keys : List LinkKey} (hs : I s) (h : key ∈ keys ∨ P key s) : P key (s.runLinks keys) := by
  induction keys generalizing s with
  | nil => exact h.resolve_left List.not_mem_nil
  | cons first rest ih =>
      have hfirst := runLink_kept first linkFuel s
      refine ih (hI s _ hs hfirst.toKeeps) ?_
      by_cases heq : key = first
      · exact .inr (heq ▸ hrun s first hs)
      · rcases h with hm | hP
        · exact .inl ((List.mem_cons.mp hm).resolve_left heq)
        · exact .inr (hkept s _ first key heq hs hfirst hP)

-- ================================================================ uploads

/-- A step that leaves the link tasks of its device moves none. -/
theorem still_apply {id : DeviceId} {step : Site.Step}
    (h : ∀ pace (site : Site σ H F), (site.apply pace step).device.links = site.device.links)
    (s : Session σ H F) : Still s (s.apply (.device id step)) := by
  refine ⟨rfl, Client.apply_settings _ _, rfl, rfl, rfl, ?_⟩
  rintro ⟨id', token⟩
  by_cases hid : id' = id
  · subst hid
    cases hd : s.client.devices.get? id' with
    | none => rw [apply_unknown hd]
    | some d =>
        rw [link?_apply (id', token) hd, link?_eq (id', token) hd]
        exact Device.link?_congr (h _ _)
  · exact link?_apply_other hid step

theorem still_sendUpload (s : Session σ H F) (id : DeviceId) (now generation : Nat) :
    Still s (s.apply (.device id (.sendUpload now generation))) := by
  refine still_apply ?_ s
  intro pace site
  show (site.sendUpload pace.timeout now generation).device.links = _
  unfold Site.sendUpload
  split <;> rfl

/-- The end of an upload moves no link task. -/
theorem still_finishUpload (s : Session σ H F) (id : DeviceId) (generation : Nat)
    (outcome : UploadOutcome) : Still s (s.finishUpload id generation outcome) := by
  have hstill : Still { s with collector := s.collector.forget id generation }
      (s.finishUpload id generation outcome) := by
    refine still_apply ?_ _
    intro pace site
    show (site.finishUpload generation outcome).device.links = _
    unfold Site.finishUpload
    split <;> rfl
  exact ⟨hstill.clock, hstill.settings, hstill.armed, hstill.held, hstill.asleep, hstill.links⟩

/-- An upload that goes on moves no link task. -/
theorem still_runUpload (s : Session σ H F) (key : DeviceId × Upload F) :
    Still s (s.runUpload key) := by
  obtain ⟨id, upload⟩ := key
  have hsent := still_sendUpload s id s.clock upload.generation
  unfold runUpload
  dsimp only
  split
  next => exact .refl s
  next =>
    split
    next => exact hsent
    next =>
      have hreceived : ∀ collector, Still s
          { s.apply (.device id (.sendUpload s.clock upload.generation)) with collector } :=
        fun _ => ⟨hsent.clock, hsent.settings, hsent.armed, hsent.held, hsent.asleep, hsent.links⟩
      split
      next => exact (hreceived _).trans (still_finishUpload _ id upload.generation _)
      next => exact hreceived _

/-- An upload that is given up moves no link task. -/
theorem still_expireUpload (s : Session σ H F) (key : DeviceId × Upload F) :
    Still s (s.expireUpload key) := by
  unfold expireUpload
  split
  next =>
    split
    case isTrue => exact still_finishUpload s key.1 key.2.generation .failed
    case isFalse => exact .refl s
  next => exact .refl s

/-- When uploads expire no link task moves. -/
theorem still_expire (s : Session σ H F) : Still s s.expire :=
  .foldl still_expireUpload _ s

-- ================================================================ settled

/-- The link tasks in the order in which they are moved on. -/
def order (s : Session σ H F) : List LinkKey :=
  s.asleep ++ s.links.filter (!s.asleep.contains ·)

/-- After the link tasks have moved the uploads go on, and no link task moves. -/
theorem settle_still (s : Session σ H F) : Still (s.runLinks s.order) s.settle :=
  .foldl still_runUpload _ _

omit [Camera σ H F] in
/-- Every link task has its turn. -/
theorem mem_order (hk : s.link? key = some k) : key ∈ s.order := by
  unfold order
  rw [List.mem_append, List.mem_filter, Bool.not_eq_true', List.contains_eq_mem,
    decide_eq_false_iff_not]
  by_cases hm : key ∈ s.asleep
  · exact .inl hm
  · exact .inr ⟨mem_links hk, hm⟩

/-- Settling keeps all. -/
theorem settle_keeps (s : Session σ H F) : Keeps s s.settle :=
  (runLinks_keeps s.order s).trans (settle_still s).keeps

/-- When a session has settled, every link task waits. -/
theorem settle_waits (hinterval : 0 < s.interval) (ho : s.Orderly) (key : LinkKey) :
    s.settle.Waits key := by
  refine (settle_still s).waits ?_
  refine runLinks_all (I := fun s => s.Orderly ∧ 0 < s.interval)
    (P := fun key s => s.Waits key) ?_ ?_ ?_ ⟨ho, hinterval⟩ ?_
  · rintro s s' ⟨ho, hinterval⟩ hkeeps
    exact ⟨hkeeps.orderly ho, hkeeps.interval_eq ▸ hinterval⟩
  · rintro s key ⟨-, hinterval⟩
    exact runLink_waits (rank_le s key) hinterval
  · rintro s s' key other hne ⟨ho, -⟩ hkept hw
    exact hkept.waits ho hne hw
  · cases hk : s.link? key with
    | none => exact .inr fun k hk' => by rw [hk] at hk'; cases hk'
    | some k => exact .inl (mem_order hk)

/-- When a session has settled, no loop stands in a queue. -/
theorem settle_begun (hk : s.settle.link? key = some k) : k.stage.isSpawned = false := by
  rw [(settle_still s).links key] at hk
  revert k
  refine runLinks_all (I := fun _ => True)
    (P := fun key s => ∀ {k}, s.link? key = some k → k.stage.isSpawned = false)
    (fun _ _ _ _ => trivial) ?_ ?_ trivial ?_
  · intro s key _ k hk
    exact runLink_begun (toBegin_le s key) hk
  · intro s s' key other hne _ hkept hbegun k hk
    rw [hkept.others other hne] at hk
    exact hbegun hk
  · cases hk : s.link? key with
    | none => exact .inr fun hk' => by cases hk'
    | some k => exact .inl (mem_order hk)

end Session

end CameraDriver
