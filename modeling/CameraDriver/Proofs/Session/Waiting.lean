/-
A link task of a session is moved on until it waits.

The session gives it no more than `linkFuel` steps for that, and they are enough: every
step that the task takes (`Moved`) takes one off its `rank`, and no rank is above that
(`runLink_waits`). So it is with the steps until its loop has begun (`toBegin`,
`runLink_begun`); these are counted apart, since they are enough even for a loop that
does not pause between its attempts and so may never wait.

A step of one task leaves the others where they stand (`Apart`).
-/
import CameraDriver.Proofs.Client.Budget
import CameraDriver.Proofs.Device.Onward
import CameraDriver.Proofs.Session.Runs

namespace CameraDriver

variable {σ H F : Type}

/-- Whether a loop waits for its next attempt. -/
def LinkStage.isSleeping : LinkStage H → Bool
  | .sleeping .. => true
  | _ => false

namespace Session

variable {s s' s'' : Session σ H F} {key other : LinkKey} {k : LinkTask H}

-- ================================================================ look-up

/-- A link task that is there is known to its device. -/
theorem exists_of_link? (hk : s.link? key = some k) :
    ∃ d, s.client.devices.get? key.1 = some d ∧ d.link? key.2 = some k :=
  Option.bind_eq_some_iff.mp hk

/-- A link task of a known device stands in its list. -/
theorem link?_eq (key : LinkKey) {d : Device H F} (hd : s.client.devices.get? key.1 = some d) :
    s.link? key = d.link? key.2 := by
  unfold link?
  rw [hd]
  rfl

/-- The uploads of a device. -/
def uploadsOf (s : Session σ H F) (id : DeviceId) : List (Upload F) :=
  ((s.client.devices.get? id).map (·.uploads)).getD []

/-- The uploads of a known device stand in its list. -/
theorem uploadsOf_eq {id : DeviceId} {d : Device H F} (hd : s.client.devices.get? id = some d) :
    s.uploadsOf id = d.uploads := by
  unfold uploadsOf
  rw [hd]
  rfl

/-- A link task that is there is listed. -/
theorem mem_links (hk : s.link? key = some k) : key ∈ s.links := by
  obtain ⟨d, hd, hk⟩ := exists_of_link? hk
  obtain ⟨hm, ht⟩ := Device.mem_of_link? hk
  refine List.mem_flatMap.mpr ⟨(key.1, d), Registry.mem_entries_of_get? hd, ?_⟩
  exact List.mem_map.mpr ⟨k, hm, by rw [ht]⟩

section

variable [Camera σ H F]

/-- After a step of its device a link task stands where the device has put it. -/
theorem link?_apply (key : LinkKey) {d : Device H F} (hd : s.client.devices.get? key.1 = some d)
    (step : Site.Step) : (s.apply (.device key.1 step)).link? key
      = (Site.apply s.client.settings.pace { camera := s.client.camera, device := d }
          step).device.link? key.2 :=
  link?_eq key (Client.get?_apply_device hd step)

/-- A step of a device that is not known does nothing. -/
theorem apply_unknown {id : DeviceId} (hd : s.client.devices.get? id = none) (step : Site.Step) :
    s.apply (.device id step) = s := by
  unfold apply
  show { s with client := s.client.onDevice id _ } = s
  rw [Client.onDevice_unknown hd]

/-- A step of a device leaves the link tasks of others where they stand. -/
theorem link?_apply_other {id : DeviceId} (h : other.1 ≠ id) (step : Site.Step) :
    (s.apply (.device id step)).link? other = s.link? other := by
  unfold link? apply
  show Option.bind ((s.client.onDevice id _).devices.get? other.1) _ = _
  rw [Client.get?_onDevice_ne h]

/-- A step of one link task leaves the others where they stand. -/
theorem link?_apply_ne {step : Site.Step} (hstep : step.mover? = some key.2) (h : other ≠ key) :
    (s.apply (.device key.1 step)).link? other = s.link? other := by
  by_cases hid : other.1 = key.1
  · have ht : other.2 ≠ key.2 := fun ht => h (Prod.ext hid ht)
    rw [← hid]
    cases hd : s.client.devices.get? other.1 with
    | none => rw [apply_unknown hd]
    | some d =>
        obtain ⟨calls, hch⟩ := Site.apply_change s.client.settings.pace
          { camera := s.client.camera, device := d } step
        rw [link?_apply other hd, link?_eq other hd]
        exact hch.link?_ne hstep ht
  · exact link?_apply_other hid step

/-- After a step of a device its uploads are what the device has made of them. -/
theorem uploadsOf_apply {id : DeviceId} {d : Device H F}
    (hd : s.client.devices.get? id = some d) (step : Site.Step) :
    (s.apply (.device id step)).uploadsOf id
      = (Site.apply s.client.settings.pace { camera := s.client.camera, device := d }
          step).device.uploads :=
  uploadsOf_eq (Client.get?_apply_device hd step)

/-- A step of a device leaves the uploads of others alone. -/
theorem uploadsOf_apply_ne {id other : DeviceId} (h : other ≠ id) (step : Site.Step) :
    (s.apply (.device id step)).uploadsOf other = s.uploadsOf other := by
  unfold uploadsOf apply
  show (((s.client.onDevice id _).devices.get? other).map _).getD _ = _
  rw [Client.get?_onDevice_ne h]

/-- A device that is not known has no uploads, and no step of it gives it any. -/
theorem uploadsOf_apply_none {id : DeviceId} (hd : s.client.devices.get? id = none)
    (step : Site.Step) : (s.apply (.device id step)).uploadsOf id = [] := by
  rw [apply_unknown hd]
  unfold uploadsOf
  rw [hd]
  rfl

/-- A step of a link task leaves the uploads alone. -/
theorem uploadsOf_move {step : Site.Step} {token : Token} (hstep : step.mover? = some token)
    (s : Session σ H F) (id other : DeviceId) :
    (s.apply (.device id step)).uploadsOf other = s.uploadsOf other := by
  by_cases hid : other = id
  · subst hid
    cases hd : s.client.devices.get? other with
    | none => rw [apply_unknown hd]
    | some d =>
        obtain ⟨calls, hch⟩ := Site.apply_change s.client.settings.pace
          { camera := s.client.camera, device := d } step
        rw [uploadsOf_apply hd, uploadsOf_eq hd]
        exact (hch.aside (Site.Step.isFeature_of_mover? hstep)).uploads
  · exact uploadsOf_apply_ne hid step

end

-- ================================================================== moves

/-- Every other link task stands where it stood, and so do the clock and what is to be
held. -/
structure Apart (key : LinkKey) (s s' : Session σ H F) : Prop where
  clock : s'.clock = s.clock
  armed : s'.armed = s.armed
  held : s'.held = s.held
  settings : s'.client.settings = s.client.settings
  others : ∀ other, other ≠ key → s'.link? other = s.link? other
  asleep : ∀ other, other ≠ key → other ∈ s.asleep → other ∈ s'.asleep
  noted : ∀ k, s'.link? key = some k → k.stage.isSleeping = true → key ∈ s'.asleep
  uploads : ∀ id, s'.uploadsOf id = s.uploadsOf id

/-- The pause before a reconnect attempt. -/
def interval (s : Session σ H F) : Nat := s.client.settings.reconnectIntervalMs

/-- What a link task does when it moves on. -/
inductive Moved (s : Session σ H F) (key : LinkKey) (k : LinkTask H) : Session σ H F → Prop
  /-- Its open is held from now on. -/
  | held {attempt : Attempt} (hst : k.stage = .opening attempt) (hheld : s.held ≠ some key)
      (harmed : s.armed = true) : Moved s key k { s with armed := false, held := some key }
  /-- Its open comes back. -/
  | back {attempt : Attempt} {result : Except HardwareError (Connection H)}
      {s' : Session σ H F} (hst : k.stage = .opening attempt) (hheld : s.held ≠ some key)
      (hlink : s'.link? key = some { k with stage := .opened attempt result })
      (hapart : Apart key s s') : Moved s key k s'
  /-- It goes on. -/
  | gone {s' : Session σ H F} (hgo : k.goesOn s.clock = true)
      (hnext : k.Next s.interval s.clock (s'.link? key)) (hapart : Apart key s s') :
      Moved s key k s'

-- ================================================================= waiting

/-- Whether a link task waits: its open is held, or it sleeps and is not due. -/
def Waits (s : Session σ H F) (key : LinkKey) : Prop :=
  ∀ k, s.link? key = some k →
    (∃ attempt, k.stage = .opening attempt ∧ s.held = some key)
      ∨ ∃ made max due, k.stage = .sleeping made max due ∧ k.cancelled = false ∧ s.clock < due

/-- A link task that waits stands in no queue. -/
theorem Waits.isSpawned (h : s.Waits key) (hk : s.link? key = some k) :
    k.stage.isSpawned = false := by
  rcases h k hk with ⟨attempt, hst, -⟩ | ⟨made, max, due, hst, -, -⟩ <;> rw [hst] <;> rfl

-- ================================================================= counts

/-- The steps that a link task takes before it waits. -/
def rank (s : Session σ H F) (key : LinkKey) : Nat :=
  match s.link? key with
  | none => 0
  | some k => if k.stage.isOpening = true ∧ s.held = some key then 0 else k.ahead s.clock

theorem rank_eq (hk : s.link? key = some k) : s.rank key
    = if k.stage.isOpening = true ∧ s.held = some key then 0 else k.ahead s.clock := by
  unfold rank
  rw [hk]

/-- No rank is above the steps that a session gives a task. -/
theorem rank_le (s : Session σ H F) (key : LinkKey) : s.rank key ≤ linkFuel := by
  unfold rank linkFuel
  split
  next => exact Nat.zero_le _
  next k _ =>
    split
    case isTrue => exact Nat.zero_le _
    case isFalse =>
      unfold LinkTask.ahead
      split <;> (try split) <;> decide

/-- A task that moves leaves the pause before attempts. -/
theorem Moved.interval_eq (h : Moved s key k s') : s'.interval = s.interval := by
  unfold interval
  cases h with
  | held _ _ _ => rfl
  | back _ _ _ hapart => rw [hapart.settings]
  | gone _ _ hapart => rw [hapart.settings]

/-- A link task that moves on comes nearer to where it waits. -/
theorem Moved.rank_lt (h : Moved s key k s') (hk : s.link? key = some k)
    (hinterval : 0 < s.interval) : s'.rank key < s.rank key := by
  rw [rank_eq hk]
  cases h with
  | held hst hheld _ =>
      have hk' : Session.link? { s with armed := false, held := some key } key = some k := hk
      rw [rank_eq hk']
      simp [hst, hheld, LinkStage.isOpening, LinkTask.ahead]
  | back hst hheld hlink _ =>
      rw [rank_eq hlink]
      simp [hst, hheld, LinkStage.isOpening, LinkTask.ahead]
  | gone hgo hnext hapart =>
      rw [if_neg (by simp [LinkTask.isOpening_of_goesOn hgo])]
      cases hk' : s'.link? key with
      | none =>
          unfold rank
          rw [hk']
          exact LinkTask.ahead_pos hgo
      | some k' =>
          rw [hk'] at hnext
          rw [rank_eq hk', hapart.clock]
          refine Nat.lt_of_le_of_lt ?_ (hnext.ahead_lt hgo hinterval)
          split
          case isTrue => exact Nat.zero_le _
          case isFalse => exact Nat.le_refl _

/-- The steps until the loop of a link task has begun. -/
def toBegin (s : Session σ H F) (key : LinkKey) : Nat :=
  match s.link? key with
  | none => 0
  | some k =>
      if k.stage.toBegin = 0 then 0 else k.stage.toBegin + if s.armed = true then 1 else 0

theorem toBegin_eq (hk : s.link? key = some k) : s.toBegin key
    = if k.stage.toBegin = 0 then 0 else k.stage.toBegin + if s.armed = true then 1 else 0 := by
  unfold toBegin
  rw [hk]

/-- The steps until a loop has begun are not above those that a session gives a task. -/
theorem toBegin_le (s : Session σ H F) (key : LinkKey) : s.toBegin key ≤ linkFuel := by
  unfold toBegin linkFuel
  split
  next => exact Nat.zero_le _
  next k _ =>
    have hstage : k.stage.toBegin ≤ 3 := by
      unfold LinkStage.toBegin
      split <;> decide
    split
    case isTrue => exact Nat.zero_le _
    case isFalse => split <;> omega

/-- A link task that moves on comes nearer to its beginning, if it has not begun. -/
theorem Moved.toBegin_le (h : Moved s key k s') (hk : s.link? key = some k) :
    s'.toBegin key ≤ s.toBegin key - 1 := by
  rw [toBegin_eq hk]
  cases h with
  | held hst _ harmed =>
      have hk' : Session.link? { s with armed := false, held := some key } key = some k := hk
      rw [toBegin_eq hk', if_pos harmed]
      split <;> simp
  | @back attempt _ _ hst _ hlink hapart =>
      rw [toBegin_eq hlink, hapart.armed, hst]
      cases attempt <;> simp [LinkStage.toBegin]
  | gone hgo hnext hapart =>
      cases hk' : s'.link? key with
      | none =>
          unfold toBegin
          rw [hk']
          exact Nat.zero_le _
      | some k' =>
          rw [hk'] at hnext
          have hle := hnext.toBegin_le
          rw [toBegin_eq hk', hapart.armed]
          split
          case isTrue => exact Nat.zero_le _
          case isFalse =>
            have hpos : k.stage.toBegin ≠ 0 := by omega
            rw [if_neg hpos]
            omega

-- ================================================================= steps

/-- What a session notes of a task that has moved is who sleeps. -/
theorem noteSleep_eq (s : Session σ H F) (key : LinkKey) :
    ∃ asleep, s.noteSleep key = { s with asleep }
      ∧ (∀ other, other ≠ key → other ∈ s.asleep → other ∈ asleep)
      ∧ ∀ k, s.link? key = some k → k.stage.isSleeping = true → key ∈ asleep := by
  unfold noteSleep
  dsimp only
  split
  next =>
    refine ⟨_, rfl, ?_, fun _ _ _ => List.mem_append_right _ (List.mem_singleton_self _)⟩
    intro other hne hm
    exact List.mem_append_left _ (List.mem_filter.mpr ⟨hm, decide_eq_true hne⟩)
  next hno =>
    refine ⟨_, rfl, fun other hne hm => List.mem_filter.mpr ⟨hm, decide_eq_true hne⟩, ?_⟩
    intro k hk hst
    obtain ⟨token, cancelled, stage⟩ := k
    cases stage with
    | sleeping made max due => exact absurd hk (hno token cancelled made max due)
    | _ => cases hst

variable [Camera σ H F]

/-- The open of a link task comes back. -/
theorem moved_back {step : Site.Step} (hstep : step = .reach key.2 ∨ step = .lose key.2)
    (breaking : Bool) (hk : s.link? key = some k) {attempt : Attempt}
    (hst : k.stage = .opening attempt) (hheld : s.held ≠ some key) :
    Moved s key k ({ s with breaking }.apply (.device key.1 step)) := by
  have hmover : step.mover? = some key.2 := by
    rcases hstep with rfl | rfl <;> rfl
  obtain ⟨d, hd, hdk⟩ := exists_of_link? hk
  obtain ⟨result, hback⟩ := Site.back_link? (s := { camera := s.client.camera, device := d })
    hstep hdk hst s.client.settings.pace
  have hlink := (link?_apply (s := { s with breaking }) key hd step).trans hback
  refine .back hst hheld hlink ?_
  exact
    { clock := rfl
      armed := rfl
      held := rfl
      settings := Client.apply_settings _ _
      others := fun _ h => link?_apply_ne (s := { s with breaking }) hmover h
      asleep := fun _ _ hm => hm
      noted := fun k' hk' hsleeps => by
        rw [hlink] at hk'
        rw [← Option.some.inj hk'] at hsleeps
        cases hsleeps
      uploads := uploadsOf_move hmover { s with breaking } key.1 }

/-- A link task goes on. -/
theorem moved_resume (hk : s.link? key = some k) (hgo : k.goesOn s.clock = true) :
    Moved s key k ((s.apply (.device key.1 (.resume s.clock key.2))).noteSleep key) := by
  obtain ⟨d, hd, hdk⟩ := exists_of_link? hk
  have hnext := Site.resume_next (s := { camera := s.client.camera, device := d }) hdk hgo
    s.client.settings.pace.interval
  obtain ⟨asleep, heq, hothers, hself⟩ :=
    noteSleep_eq (s.apply (.device key.1 (.resume s.clock key.2))) key
  rw [heq]
  refine .gone hgo ?_ ?_
  · show k.Next _ _ ((s.apply (.device key.1 (.resume s.clock key.2))).link? key)
    rw [link?_apply key hd]
    exact hnext
  · have hmover : Site.Step.mover? (.resume s.clock key.2) = some key.2 := rfl
    exact
      { clock := rfl
        armed := rfl
        held := rfl
        settings := Client.apply_settings _ _
        others := fun _ h => link?_apply_ne hmover h
        asleep := hothers
        noted := hself
        uploads := uploadsOf_move hmover s key.1 }

/-- What a link task does that moves on. -/
theorem moved_of_stepLink (h : s.stepLink key = some s') :
    ∃ k, s.link? key = some k ∧ Moved s key k s' := by
  unfold stepLink at h
  dsimp only at h
  cases hk : s.link? key with
  | none =>
      rw [hk] at h
      cases h
  | some k =>
      rw [hk] at h
      dsimp only at h
      refine ⟨k, rfl, ?_⟩
      cases hst : k.stage with
      | opening attempt =>
          rw [hst] at h
          dsimp only at h
          split at h
          case isTrue => cases h
          case isFalse hheld =>
            split at h
            case isTrue => exact Option.some.inj h ▸ moved_back (.inr rfl) false hk hst hheld
            case isFalse =>
              split at h
              case isTrue harmed => exact Option.some.inj h ▸ .held hst hheld harmed
              case isFalse =>
                exact Option.some.inj h ▸ moved_back (.inl rfl) s.breaking hk hst hheld
      | opened attempt result =>
          rw [hst] at h
          exact Option.some.inj h ▸ moved_resume hk (by simp [LinkTask.goesOn, hst])
      | spawned =>
          rw [hst] at h
          exact Option.some.inj h ▸ moved_resume hk (by simp [LinkTask.goesOn, hst])
      | sleeping made max due =>
          rw [hst] at h
          dsimp only at h
          split at h
          case isTrue hdue =>
            exact Option.some.inj h ▸ moved_resume hk (by simpa [LinkTask.goesOn, hst] using hdue)
          case isFalse => cases h

/-- The tasks that wait are those that do not move. -/
theorem stepLink_eq_none : s.stepLink key = none ↔ s.Waits key := by
  unfold Waits stepLink
  dsimp only
  cases hk : s.link? key with
  | none => exact ⟨fun _ k hk => (by cases hk), fun _ => rfl⟩
  | some k =>
      simp only [Option.some.injEq, forall_eq']
      cases hst : k.stage with
      | opening attempt =>
          dsimp only
          by_cases hheld : s.held = some key
          · simp [hheld]
          · rw [if_neg hheld]
            refine iff_of_false ?_ (by simp [hheld])
            split
            case isTrue => exact nofun
            case isFalse => split <;> exact nofun
      | opened attempt result => simp
      | spawned => simp
      | sleeping made max due => simp

-- =================================================================== fuel

/-- A link task that may take as many steps as its rank waits in the end. -/
theorem runLink_waits {fuel : Nat} (hrank : s.rank key ≤ fuel) (hinterval : 0 < s.interval) :
    (s.runLink key fuel).Waits key := by
  induction fuel generalizing s with
  | zero =>
      refine stepLink_eq_none.mp ?_
      show s.stepLink key = none
      cases hstep : s.stepLink key with
      | none => rfl
      | some s' =>
          obtain ⟨k, hk, hmoved⟩ := moved_of_stepLink hstep
          have hlt := hmoved.rank_lt hk hinterval
          omega
  | succ fuel ih =>
      unfold runLink
      cases hstep : s.stepLink key with
      | none => exact stepLink_eq_none.mp hstep
      | some s' =>
          obtain ⟨k, hk, hmoved⟩ := moved_of_stepLink hstep
          have hlt := hmoved.rank_lt hk hinterval
          exact ih (by omega) (hmoved.interval_eq ▸ hinterval)

/-- A link task that may take as many steps as that stands in no queue in the end. -/
theorem runLink_begun {fuel : Nat} (hfuel : s.toBegin key ≤ fuel)
    (hk : (s.runLink key fuel).link? key = some k) : k.stage.isSpawned = false := by
  induction fuel generalizing s with
  | zero =>
      have hk : s.link? key = some k := hk
      rw [toBegin_eq hk] at hfuel
      refine LinkTask.isSpawned_of_toBegin ?_
      split at hfuel
      case isTrue h => exact h
      case isFalse => omega
  | succ fuel ih =>
      unfold runLink at hk
      cases hstep : s.stepLink key with
      | none =>
          rw [hstep] at hk
          exact (stepLink_eq_none.mp hstep).isSpawned hk
      | some s' =>
          rw [hstep] at hk
          obtain ⟨k', hk', hmoved⟩ := moved_of_stepLink hstep
          have hle := hmoved.toBegin_le hk'
          exact ih (by omega) hk

end Session
end CameraDriver
