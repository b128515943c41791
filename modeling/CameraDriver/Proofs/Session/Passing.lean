/-
Letting the time of a session pass.

Time passes from one thing that is due to the next: the clock is set to it, uploads that
are past their deadline are given up, and the session settles. Then nothing is due any
more (`Rested`), for a loop pauses before its next attempt and an upload is given time
for its answer. So the clock moves on each time, and as many turns are enough as there
are milliseconds to pass (`pass_rested`); `passUntil` has the fuel for them. Unless an
open is held the time has passed then, and what was due by then has been done
(`passUntil_rested`).
-/
import CameraDriver.Proofs.Device.Uploads
import CameraDriver.Proofs.Session.Settled

namespace CameraDriver

variable {σ H F : Type}

-- ================================================================ uploads

namespace Site

variable [Camera σ H F]

/-- An upload after one was sent: an old one, or one that is out from now on. -/
theorem mem_sendUpload {timeout now generation : Nat} {s : Site σ H F} {u : Upload F}
    (hu : u ∈ (s.sendUpload timeout now generation).device.uploads) :
    u ∈ s.device.uploads ∨ u.stage = .sent (now + timeout) := by
  unfold sendUpload at hu
  split at hu
  next =>
    obtain ⟨u', hu', rfl⟩ := List.mem_map.mp hu
    split
    case isTrue => exact .inr rfl
    case isFalse => exact .inl hu'
  next => exact .inl hu

omit [Camera σ H F] in
theorem mem_finishUpload {generation : Nat} {outcome : UploadOutcome} {s : Site σ H F}
    {u : Upload F} (hu : u ∈ (s.finishUpload generation outcome).device.uploads) :
    u ∈ s.device.uploads := by
  unfold finishUpload at hu
  split at hu
  next => exact (List.mem_filter.mp hu).1
  next => exact hu

end Site

namespace Session

variable {s s' : Session σ H F} {id : DeviceId} {u : Upload F}

/-- How long an upload is given for its answer. -/
def timeout (s : Session σ H F) : Nat := s.client.settings.publishTimeoutMs

/-- No upload is past its deadline. -/
def InTime (s : Session σ H F) : Prop :=
  ∀ id, ∀ u ∈ s.uploadsOf id, ∀ deadline, u.stage = .sent deadline → s.clock < deadline

/-- Nothing is due. -/
def Rested (s : Session σ H F) : Prop := ∀ due, s.nextDue? = some due → s.clock < due

variable [Camera σ H F]

/-- The uploads that are listed are those of the devices. -/
theorem mem_uploads (hp : s.client.Proper) : (id, u) ∈ s.uploads ↔ u ∈ s.uploadsOf id := by
  unfold uploads
  rw [List.mem_flatMap]
  constructor
  · rintro ⟨⟨id', d⟩, hd, hu⟩
    obtain ⟨u', hu', heq⟩ := List.mem_map.mp hu
    cases heq
    rwa [uploadsOf_eq (hp.ascending.mem_entries.mp hd)]
  · intro hu
    cases hd : s.client.devices.get? id with
    | none =>
        unfold uploadsOf at hu
        rw [hd] at hu
        cases hu
    | some d =>
        rw [uploadsOf_eq hd] at hu
        exact ⟨(id, d), hp.ascending.mem_entries.mpr hd, List.mem_map_of_mem hu⟩

/-- When every link task waits and no upload is past its deadline, nothing is due. -/
theorem rested_of_waits (hp : s.client.Proper) (hw : ∀ key, s.Waits key) (hi : s.InTime) :
    s.Rested := by
  intro due hdue
  unfold nextDue? at hdue
  dsimp only at hdue
  rcases List.mem_append.mp (List.min?_mem hdue) with hm | hm
  · -- a loop that sleeps
    obtain ⟨key, -, hwake⟩ := List.mem_filterMap.mp hm
    split at hwake
    next token cancelled made max due' hk =>
      obtain rfl := Option.some.inj hwake
      rcases hw key _ hk with ⟨attempt, hst, -⟩ | ⟨made', max', due', hst, -, hlt⟩
      · cases hst
      · cases hst
        exact hlt
    next => cases hwake
  · -- an upload that is out
    obtain ⟨⟨id, u⟩, hu, hdeadline⟩ := List.mem_filterMap.mp hm
    dsimp only at hdeadline
    cases hst : u.stage with
    | captured frame =>
        rw [hst] at hdeadline
        cases hdeadline
    | sent deadline =>
        rw [hst] at hdeadline
        cases hdeadline
        exact hi id u ((mem_uploads hp).mp hu) due hst

-- ================================================================ in time

/-- A step of a device that leaves its uploads, or sends one, leaves them in time. -/
theorem InTime.apply (h : s.InTime) (htimeout : 0 < s.timeout) {step : Site.Step}
    (hstep : ∀ (site : Site σ H F), ∀ u ∈ (site.apply s.client.settings.pace step).device.uploads,
      u ∈ site.device.uploads ∨ u.stage = .sent (s.clock + s.timeout)) :
    (s.apply (.device id step)).InTime := by
  intro other u hu deadline hst
  show s.clock < deadline
  by_cases hid : other = id
  · subst hid
    cases hd : s.client.devices.get? other with
    | none =>
        rw [uploadsOf_apply_none hd] at hu
        cases hu
    | some d =>
        rw [uploadsOf_apply hd] at hu
        rcases hstep _ u hu with hu | hsent
        · refine h other u ?_ deadline hst
          rw [uploadsOf_eq hd]
          exact hu
        · rw [hsent] at hst
          cases hst
          omega
  · rw [uploadsOf_apply_ne hid] at hu
    exact h other u hu deadline hst

omit [Camera σ H F] in
theorem InTime.collector (h : s.InTime) (collector : Collector) : { s with collector }.InTime := h

/-- An upload that ends makes no other one late. -/
theorem InTime.finishUpload (h : s.InTime) (htimeout : 0 < s.timeout) (id : DeviceId)
    (generation : Nat) (outcome : UploadOutcome) :
    (s.finishUpload id generation outcome).InTime :=
  InTime.apply (h.collector (s.collector.forget id generation)) htimeout
    fun _ _ hu => .inl (Site.mem_finishUpload hu)

/-- An upload that goes on is given its time. -/
theorem InTime.runUpload (h : s.InTime) (htimeout : 0 < s.timeout)
    (key : DeviceId × Upload F) : (s.runUpload key).InTime := by
  obtain ⟨id, upload⟩ := key
  have hsent : (s.apply (.device id (.sendUpload s.clock upload.generation))).InTime :=
    h.apply htimeout fun _ _ hu => Site.mem_sendUpload hu
  have htimeout' : 0 < (s.apply (.device id (.sendUpload s.clock upload.generation))).timeout := by
    have hsettings := (still_sendUpload s id s.clock upload.generation).settings
    unfold timeout
    rw [hsettings]
    exact htimeout
  unfold Session.runUpload
  dsimp only
  split
  next => exact h
  next =>
    generalize s.apply (.device id (.sendUpload s.clock upload.generation)) = sent
      at hsent htimeout' ⊢
    split
    next => exact hsent
    next =>
      split
      next => exact (hsent.collector _).finishUpload htimeout' id upload.generation _
      next => exact hsent.collector _

/-- Moves of link tasks leave uploads in time. -/
theorem InTime.runLinks (h : s.InTime) (keys : List LinkKey) : (s.runLinks keys).InTime := by
  induction keys generalizing s with
  | nil => exact h
  | cons key rest ih =>
      have hkept := runLink_kept key linkFuel s
      refine ih ?_
      intro id u hu deadline hst
      rw [hkept.uploads] at hu
      rw [hkept.clock]
      exact h id u hu deadline hst

/-- Settling sends uploads, and all are in time after it. -/
theorem InTime.settle (h : s.InTime) (htimeout : 0 < s.timeout) : s.settle.InTime := by
  have hlinks := h.runLinks s.order
  have htimeout : 0 < (s.runLinks s.order).timeout := by
    unfold timeout
    rw [(runLinks_keeps s.order s).settings]
    exact htimeout
  show ((s.runLinks s.order).uploads.foldl Session.runUpload (s.runLinks s.order)).InTime
  generalize (s.runLinks s.order).uploads = uploads
  generalize s.runLinks s.order = s' at hlinks htimeout ⊢
  induction uploads generalizing s' with
  | nil => exact hlinks
  | cons key rest ih =>
      refine ih _ (hlinks.runUpload htimeout key) ?_
      unfold timeout
      rw [(still_runUpload s' key).settings]
      exact htimeout

-- ================================================================= expiry

/-- Giving uploads up makes none. -/
theorem mem_expireUpload {key : DeviceId × Upload F}
    (hu : u ∈ (s.expireUpload key).uploadsOf id) : u ∈ s.uploadsOf id := by
  unfold expireUpload at hu
  split at hu
  next =>
    split at hu
    case isTrue =>
      by_cases hid : id = key.1
      · subst hid
        cases hd : s.client.devices.get? key.1 with
        | none =>
            have hnone := uploadsOf_apply_none
              (s := { s with collector := s.collector.forget key.1 key.2.generation }) hd
              (.finishUpload key.2.generation .failed)
            unfold Session.finishUpload at hu
            rw [hnone] at hu
            cases hu
        | some d =>
            have hdevice := uploadsOf_apply
              (s := { s with collector := s.collector.forget key.1 key.2.generation }) hd
              (.finishUpload key.2.generation .failed)
            unfold Session.finishUpload at hu
            rw [hdevice] at hu
            rw [uploadsOf_eq hd]
            exact Site.mem_finishUpload hu
      · have hother := uploadsOf_apply_ne
          (s := { s with collector := s.collector.forget key.1 key.2.generation }) hid
          (.finishUpload key.2.generation .failed)
        unfold Session.finishUpload at hu
        rw [hother] at hu
        exact hu
    case isFalse => exact hu
  next => exact hu

/-- An upload that is past its deadline is given up. -/
theorem not_mem_expireUpload (hp : s.client.Proper) {deadline : Nat}
    (hst : u.stage = .sent deadline) (hdue : deadline ≤ s.clock) :
    u ∉ (s.expireUpload (id, u)).uploadsOf id := by
  intro hu
  have hold := mem_expireUpload hu
  cases hd : s.client.devices.get? id with
  | none =>
      unfold uploadsOf at hold
      rw [hd] at hold
      cases hold
  | some d =>
      rw [uploadsOf_eq hd] at hold
      -- the device has this upload and no other one
      have hsingle := (hp.reachable hd).oneUpload.eq_of_mem hold
      have hfinish := Site.finishUpload_of_sent (s := { camera := s.client.camera, device := d })
        .failed (Device.upload?_of_singleton hsingle) hst
      have hdevice := uploadsOf_apply
        (s := { s with collector := s.collector.forget id u.generation }) hd
        (.finishUpload u.generation .failed)
      unfold expireUpload at hu
      simp only [hst, if_pos hdue] at hu
      unfold Session.finishUpload at hu
      rw [hdevice] at hu
      have hnone : (Site.apply s.client.settings.pace { camera := s.client.camera, device := d }
          (.finishUpload u.generation .failed)).device.uploads = [] := by
        show (Site.finishUpload u.generation .failed _).device.uploads = []
        rw [hfinish]
        exact Device.finished_uploads hsingle .failed
      rw [hnone] at hu
      cases hu

/-- After uploads of a list that are past their deadline were given up, none of the list
is. -/
theorem foldl_expireUpload (hp : s.client.Proper) (keys : List (DeviceId × Upload F)) :
    (∀ id, ∀ u ∈ (keys.foldl expireUpload s).uploadsOf id, u ∈ s.uploadsOf id)
      ∧ ∀ id u deadline, (id, u) ∈ keys → u.stage = .sent deadline → deadline ≤ s.clock →
        u ∉ (keys.foldl expireUpload s).uploadsOf id := by
  induction keys generalizing s with
  | nil => exact ⟨fun _ _ hu => hu, fun _ _ _ hm => by cases hm⟩
  | cons first rest ih =>
      obtain ⟨hfewer, hgone⟩ := ih ((works_expireUpload s first).proper hp)
      refine ⟨fun id u hu => mem_expireUpload (hfewer id u hu), ?_⟩
      intro id u deadline hm hst hdue
      rcases List.mem_cons.mp hm with rfl | hm
      · exact fun hu => not_mem_expireUpload hp hst hdue (hfewer id u hu)
      · exact hgone id u deadline hm hst ((still_expireUpload s first).clock ▸ hdue)

/-- When uploads have expired, all that are left are in time. -/
theorem expire_inTime (hp : s.client.Proper) : s.expire.InTime := by
  obtain ⟨hfewer, hgone⟩ := foldl_expireUpload hp s.uploads
  intro id u hu deadline hst
  rw [(still_expire s).clock]
  by_contra hle
  exact hgone id u deadline ((mem_uploads hp).mpr (hfewer id u hu)) hst (Nat.le_of_not_lt hle) hu

-- =================================================================== time

/-- A session whose client is in order, with all its sleepers noted and at most one open
held, and with times that let it wait. -/
structure Paced (s : Session σ H F) : Prop where
  proper : s.client.Proper
  orderly : s.Orderly
  noted : s.Noted
  interval : 0 < s.interval
  timeout : 0 < s.timeout

theorem Paced.next (h : Paced s) (hkeeps : Keeps s s') (hworks : Works s s') : Paced s' where
  proper := hworks.proper h.proper
  orderly := hkeeps.orderly h.orderly
  noted := hkeeps.noted h.noted
  interval := hkeeps.interval_eq ▸ h.interval
  timeout := by
    unfold Session.timeout
    rw [hkeeps.settings]
    exact h.timeout

/-- The session after what is due at a time. -/
def turn (s : Session σ H F) (time : Nat) : Session σ H F :=
  { s with clock := time }.expire.settle

/-- The time has passed until a limit and nothing is due any more, or an open is held. -/
structure Passed (limit : Nat) (s : Session σ H F) : Prop where
  waits : ∀ key, s.Waits key
  rested : s.held.isSome = true ∨ s.clock = limit ∧ s.Rested

/-- After what was due at a time every link task waits, and nothing is due any more. -/
theorem Paced.turn (h : Paced s) (time : Nat) :
    Paced (s.turn time) ∧ (s.turn time).clock = time ∧ (∀ key, (s.turn time).Waits key)
      ∧ (s.turn time).Rested := by
  have hs : Paced { s with clock := time } :=
    ⟨h.proper, h.orderly, h.noted, h.interval, h.timeout⟩
  have hexpired : Paced { s with clock := time }.expire :=
    hs.next (still_expire _).keeps (works_expire _)
  have hsettled : Paced (s.turn time) := hexpired.next (settle_keeps _) (works_settle _)
  have hwaits : ∀ key, (s.turn time).Waits key := settle_waits hexpired.interval hexpired.orderly
  refine ⟨hsettled, (settle_keeps _).clock.trans (still_expire _).clock, hwaits, ?_⟩
  exact rested_of_waits hsettled.proper hwaits ((expire_inTime hs.proper).settle hexpired.timeout)

omit [Camera σ H F] in
/-- When a loop that is noted as sleeping is due, the next thing is due by then. -/
theorem exists_nextDue? {key : LinkKey} {k : LinkTask H} (hk : s.link? key = some k)
    {made max due : Nat} (hst : k.stage = .sleeping made max due) (hm : key ∈ s.asleep) :
    ∃ first, s.nextDue? = some first ∧ first ≤ due := by
  have hleast : ∀ times : List Nat, due ∈ times → ∃ first, times.min? = some first ∧ first ≤ due :=
    fun _ h => ⟨_, (Option.some_get (List.isSome_min?_of_mem h)).symm, List.min?_get_le_of_mem h⟩
  unfold nextDue?
  refine hleast _ (List.mem_append_left _ (List.mem_filterMap.mpr ⟨key, hm, ?_⟩))
  obtain ⟨token, cancelled, stage⟩ := k
  cases hst
  rw [hk]

omit [Camera σ H F] in
/-- A link task waits at least until the next thing is due. -/
theorem Waits.later {key : LinkKey} (h : s.Waits key) (hn : s.Noted) {limit : Nat}
    (hlater : ∀ due, s.nextDue? = some due → limit < due) : { s with clock := limit }.Waits key := by
  intro k hk
  refine (h k hk).imp id ?_
  rintro ⟨made, max, due, hst, hc, -⟩
  obtain ⟨first, hfirst, hle⟩ := exists_nextDue? hk hst (hn key k hk (by rw [hst]; rfl))
  exact ⟨made, max, due, hst, hc, Nat.lt_of_lt_of_le (hlater first hfirst) hle⟩

omit [Camera σ H F] in
/-- Time passes when nothing is due until its limit. -/
theorem Passed.of_later (hn : s.Noted) (hw : ∀ key, s.Waits key) {limit : Nat}
    (h : ∀ due, s.nextDue? = some due → limit < due) : Passed limit { s with clock := limit } :=
  ⟨fun key => (hw key).later hn h, .inr ⟨rfl, h⟩⟩

/-- Time passes by a turn if it does after the turn. -/
theorem pass_turn {limit fuel : Nat}
    (ih : ∀ s : Session σ H F, Paced s → (∀ key, s.Waits key) → s.Rested → s.clock ≤ limit →
      limit ≤ s.clock + fuel → Passed limit (s.pass limit fuel))
    (h : Paced s) (hw : ∀ key, s.Waits key) (hle : s.clock ≤ limit)
    (hfuel : ∀ due, s.nextDue? = some due → limit ≤ max s.clock due + fuel) :
    Passed limit (s.pass limit (fuel + 1)) := by
  unfold pass
  split
  case isTrue hheld => exact ⟨hw, .inl hheld⟩
  case isFalse =>
    cases hdue : s.nextDue? with
    | none => exact .of_later h.noted hw fun due hd => by rw [hdue] at hd; cases hd
    | some due =>
        dsimp only
        split
        case isTrue hlater =>
          refine .of_later h.noted hw ?_
          intro due' hd
          obtain rfl := Option.some.inj (hdue.symm.trans hd)
          exact hlater
        case isFalse hnow =>
          obtain ⟨hpaced, hclock, hwaits, hrested⟩ := h.turn (max s.clock due)
          show Passed limit ((s.turn (max s.clock due)).pass limit fuel)
          refine ih _ hpaced hwaits hrested ?_ ?_
          · rw [hclock]
            omega
          · rw [hclock]
            exact hfuel due hdue

/-- From a session in which nothing is due as many turns are enough as there are
milliseconds to pass: each one takes the clock further. -/
theorem pass_rested {limit fuel : Nat} (h : Paced s) (hw : ∀ key, s.Waits key)
    (hrested : s.Rested) (hle : s.clock ≤ limit) (hfuel : limit ≤ s.clock + fuel) :
    Passed limit (s.pass limit fuel) := by
  induction fuel generalizing s with
  | zero =>
      refine .of_later h.noted hw ?_
      intro due hdue
      have hlater := hrested due hdue
      omega
  | succ fuel ih =>
      refine pass_turn (fun _ => ih) h hw hle ?_
      intro due hdue
      have hlater := hrested due hdue
      omega

/-- The fuel of `passUntil` is enough, whatever is due at first. -/
theorem passUntil_rested {limit : Nat} (h : Paced s) (hw : ∀ key, s.Waits key)
    (hle : s.clock ≤ limit) : Passed limit (s.passUntil limit) := by
  unfold passUntil
  have hturns : limit - s.clock + 1 ≤
      (limit - s.clock + 1) * (s.links.length + s.uploads.length + 1) :=
    Nat.le_mul_of_pos_right _ (Nat.succ_pos _)
  obtain ⟨fuel, hfuel⟩ := Nat.exists_eq_add_of_le' (Nat.le_trans (Nat.le_add_left 1 _) hturns)
  rw [hfuel] at hturns ⊢
  refine pass_turn (fun _ => pass_rested) h hw hle ?_
  intro due _
  omega

end Session

end CameraDriver
