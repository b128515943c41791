/-
The statuses that a device publishes, one after the other.

# The relation

`Status.LeadsTo` has the pairs of statuses that may be published in a row, one
constructor a pair. The status before a device's first one is disconnected: it
is what callers are shown until then, so a history is read as if it began with
it.

# Why no other pair occurs

A status is published by requests and by link tasks, and a cancelled task may
still be about when the next one runs. That it publishes nothing is the case
split on `Device.Change`: each constructor that publishes anything but
disconnected is a move of the task in charge, and `Phased` reads off the stage
of that task which status is shown. So the attempt number that a loop publishes
is one more than the number it has published itself (`Announces`).

# Whose attempts

Two loops could count in step and the statuses alone would not tell. `Noted`
records with each status the task that published it; while a device counts
attempts, its task in charge is the author of the last notice.
-/
import CameraDriver.Proofs.Device.Coherence
import Mathlib.Data.List.Chain

namespace CameraDriver

variable {σ H F : Type}

-- ============================================================== statuses

namespace Status

/-- The second status may be published right after the first. -/
inductive LeadsTo : Status → Status → Prop
  | stays : LeadsTo .disconnected .disconnected
  | connects : LeadsTo .disconnected .connected
  | tries : LeadsTo .disconnected (.reconnecting 1)
  | triesAgain (n : Nat) : LeadsTo (.reconnecting n) (.reconnecting (n + 1))
  | reconnects (n : Nat) : LeadsTo (.reconnecting n) .connected
  | givesUp (n : Nat) : LeadsTo (.reconnecting n) .disconnected
  | disconnects : LeadsTo .connected .disconnected

/-- Every status may lead to disconnected. -/
theorem leadsTo_disconnected (a : Status) : a.LeadsTo .disconnected := by
  cases a with
  | disconnected => exact .stays
  | connected => exact .disconnects
  | reconnecting n => exact .givesUp n

/-- Every other status may lead to connected. -/
theorem leadsTo_connected {a : Status} (h : a ≠ .connected) : a.LeadsTo .connected := by
  cases a with
  | disconnected => exact .connects
  | connected => exact absurd rfl h
  | reconnecting n => exact .reconnects n

end Status

/-- A loop that sleeps shows the attempts it has made, none as
disconnected. -/
theorem LinkStage.shown_sleeping_leadsTo (made max due : Nat) :
    (LinkStage.sleeping made max due : LinkStage H).shown.LeadsTo (.reconnecting (made + 1)) := by
  cases made with
  | zero => exact .tries
  | succ made => exact .triesAgain (made + 1)

-- ============================================================== one step

/-- The link task that a step moves on. -/
def Site.Step.author? : Site.Step → Option Token
  | .resume _ token => some token
  | _ => none

namespace Device

variable {d d' : Device H F} {calls : List (Call H)} {author : Option Token}

/-- What a step of an author publishes: nothing, or one status. While attempts
are counted only the task in charge counts on or connects, and it stays in
charge for as long as nothing is published. -/
def Announces (author : Option Token) (d d' : Device H F) : Prop :=
  d'.history = d.history
      ∧ (∀ n, d.status = .reconnecting n → d'.record.linkTask = d.record.linkTask)
    ∨ ∃ status, d'.history = status :: d.history ∧ d.status.LeadsTo status
      ∧ (status ≠ .disconnected → author = d.record.linkTask)
      ∧ ∀ n, status = .reconnecting n →
          ∃ token, author = some token ∧ d'.record.linkTask = some token

namespace Announces

/-- A step without a change of status announces nothing. -/
theorem of_silent (hh : d'.history = d.history)
    (hr : d'.record.linkTask = d.record.linkTask) : Announces author d d' :=
  .inl ⟨hh, fun _ _ => hr⟩

/-- Anyone may publish that a device is disconnected. -/
theorem of_disconnected (h : d'.history = .disconnected :: d.history) :
    Announces author d d' := by
  refine .inr ⟨.disconnected, h, d.status.leadsTo_disconnected, ?_, ?_⟩
  · intro hne
    exact absurd rfl hne
  · intro n hn
    cases hn

/-- What a change publishes, and on whose behalf. -/
theorem of_change {pace : Site.Pace} {step : Site.Step} (hx : d.Exclusive) (hp : d.Phased)
    (hch : Change pace step d calls d') : Announces step.author? d d' := by
  cases hch with
  | still => exact of_silent rfl rfl
  | beside _ hb => exact of_silent hb.history hb.linkTask
  | @failed _ _ m _ _ _ hb _ =>
      refine of_disconnected ?_
      show Status.disconnected :: m.history = _
      rw [hb.history]
  | begun hr _ =>
      refine .inl ⟨rfl, ?_⟩
      -- no loop counts while no task is in charge
      intro n hn
      rcases hp.idle hr with hs | ⟨hs, -⟩ <;> rw [hn] at hs <;> cases hs
  | lost _ => exact of_disconnected rfl
  | stopped => exact of_disconnected (stopped_history d)
  | opened _ _ handle => exact of_silent rfl rfl
  | refused _ _ e => exact of_silent rfl rfl
  | broken _ _ e => exact of_silent rfl rfl
  | dropped _ _ _ => exact of_silent rfl rfl
  | ended _ _ _ => exact of_silent rfl rfl
  | connected hk _ hc =>
      have hshown := (hp.busy _ (mem_of_link? hk).1 hc).shown
      refine .inr ⟨.connected, connectedBy_history _ _ _, ?_, ?_, ?_⟩
      · refine Status.leadsTo_connected ?_
        rw [hshown]
        exact LinkStage.shown_ne_connected _
      · exact fun _ => (hx.linkTask_eq hk hc).symm
      · intro n hn
        cases hn
  | handedOver _ _ _ => exact of_disconnected rfl
  | retried _ _ _ _ => exact of_silent rfl rfl
  | exhausted _ _ _ _ => exact of_disconnected rfl
  | loopEnded _ _ _ => exact of_silent (detached_history d) (detached_linkTask d)
  | loopSpent _ _ _ _ =>
      refine of_disconnected ?_
      show Status.disconnected :: d.detached.history = _
      rw [detached_history]
  | loopBegun _ _ _ _ => exact of_silent (detached_history d) (detached_linkTask d)
  | @woken _ _ _ made max due _ hk hst hc _ =>
      have hshown := (hp.busy _ (mem_of_link? hk).1 hc).shown
      have hauthor := hx.linkTask_eq hk hc
      refine .inr ⟨.reconnecting (made + 1), rfl, ?_, ?_, ?_⟩
      · rw [hshown, hst]
        exact LinkStage.shown_sleeping_leadsTo made max due
      · exact fun _ => hauthor.symm
      · exact fun _ _ => ⟨_, rfl, hauthor⟩

end Announces

end Device

-- =============================================================== notices

/-- A status that was published, and the link task that published it if one
did. -/
structure Notice where
  status : Status
  author : Option Token

/-- While attempts are counted, one loop publishes them all, and the connection
that ends them. -/
def Notice.SameLoop (earlier later : Notice) : Prop :=
  ∀ n, earlier.status = .reconnecting n → later.status ≠ .disconnected →
    ∃ token, earlier.author = some token ∧ later.author = some token

/-- The statuses that a step has published, the latest first. -/
def Device.news (d d' : Device H F) : List Status :=
  d'.history.take (d'.history.length - d.history.length)

namespace Site

variable [Camera σ H F]

/-- The states of a device whose steps are taken in any order, with what was
published on the way, the latest first. -/
inductive Noted : List Notice → Site σ H F → Prop
  | fresh (camera : σ) (id : DeviceId) (format : ImageFormat) (maxRetry : Nat) :
      Noted [] { camera, device := Device.fresh id format maxRetry }
  | step {notices : List Notice} {s : Site σ H F} (pace : Pace) (step : Step) :
      Noted notices s →
      Noted ((s.device.news (s.apply pace step).device).map (⟨·, step.author?⟩) ++ notices)
        (s.apply pace step)
  /-- Something happens to the camera. -/
  | camera {notices : List Notice} {s : Site σ H F} (camera : σ) :
      Noted notices s → Noted notices { s with camera }

theorem Noted.reachable {notices : List Notice} {s : Site σ H F} (h : Noted notices s) :
    s.Reachable := by
  induction h with
  | fresh camera id format maxRetry => exact .fresh camera id format maxRetry
  | step pace step _ ih => exact .step pace step ih
  | camera camera _ ih => exact .camera camera ih

theorem Reachable.noted {s : Site σ H F} (h : s.Reachable) : ∃ notices, Noted notices s := by
  induction h with
  | fresh camera id format maxRetry => exact ⟨[], .fresh camera id format maxRetry⟩
  | step pace step _ ih =>
      obtain ⟨notices, ih⟩ := ih
      exact ⟨_, .step pace step ih⟩
  | camera camera _ ih =>
      obtain ⟨notices, ih⟩ := ih
      exact ⟨notices, .camera camera ih⟩

end Site

-- ============================================================= one run

namespace Device

variable {d d' : Device H F} {notices : List Notice} {author : Option Token}

/-- What was published so far, read with the device that it was published of.
While attempts are counted the last notice is by the task in charge. -/
structure Told (notices : List Notice) (d : Device H F) : Prop where
  history : notices.map (·.status) = d.history
  legal : (d.history ++ [Status.disconnected]).IsChain (flip Status.LeadsTo)
  loops : notices.IsChain (flip Notice.SameLoop)
  author : ∀ n, d.status = .reconnecting n →
    ∃ token, d.record.linkTask = some token ∧ ∀ notice ∈ notices.head?, notice.author = some token

/-- The status is the first of the history, or else what stands at its end. -/
theorem head?_timeline (d : Device H F) :
    (d.history ++ [Status.disconnected]).head? = some d.status := by
  unfold Entry.status
  cases d.history <;> rfl

/-- A history that stays has no news. -/
theorem news_of_silent (h : d'.history = d.history) : d.news d' = [] := by
  unfold news
  rw [h, Nat.sub_self]
  rfl

/-- A status that is announced is the news. -/
theorem news_of_announced {status : Status} (h : d'.history = status :: d.history) :
    d.news d' = [status] := by
  unfold news
  rw [h, List.length_cons, Nat.add_sub_cancel_left]
  rfl

/-- A step that publishes nothing tells nothing new. -/
theorem Told.of_silent (h : d.Told notices) (hh : d'.history = d.history)
    (hr : ∀ n, d.status = .reconnecting n → d'.record.linkTask = d.record.linkTask) :
    d'.Told notices := by
  have hs : d'.status = d.status := by
    unfold Entry.status
    rw [hh]
  refine ⟨h.history.trans hh.symm, hh ▸ h.legal, h.loops, ?_⟩
  intro n hn
  rw [hs] at hn
  rw [hr n hn]
  exact h.author n hn

/-- A step that publishes a status that may come next tells it on its own
behalf. -/
theorem Told.of_announced (h : d.Told notices) {status : Status}
    (hh : d'.history = status :: d.history) (hlegal : d.status.LeadsTo status)
    (hauthor : status ≠ .disconnected → author = d.record.linkTask)
    (hcounts : ∀ n, status = .reconnecting n →
      ∃ token, author = some token ∧ d'.record.linkTask = some token) :
    d'.Told (⟨status, author⟩ :: notices) := by
  have hs : d'.status = status := by
    unfold Entry.status
    rw [hh]
    rfl
  refine ⟨?_, ?_, ?_, ?_⟩
  · rw [hh, List.map_cons, h.history]
  · rw [hh, List.cons_append, List.isChain_cons]
    refine ⟨?_, h.legal⟩
    intro earlier hhead
    rw [head?_timeline, Option.mem_some_iff] at hhead
    rw [← hhead]
    exact hlegal
  · rw [List.isChain_cons]
    refine ⟨?_, h.loops⟩
    intro earlier hhead n hn hne
    -- the notice before this one has the status of the device
    have hcounting : d.status = .reconnecting n := by
      unfold Entry.status
      rw [← h.history, List.headD_eq_head?_getD, List.head?_map, Option.mem_def.mp hhead]
      exact hn
    obtain ⟨token, htask, hlast⟩ := h.author n hcounting
    exact ⟨token, hlast earlier hhead, (hauthor hne).trans htask⟩
  · intro n hn
    obtain ⟨token, hauthor, htask⟩ := hcounts n (hs.symm.trans hn)
    refine ⟨token, htask, ?_⟩
    intro notice hhead
    rw [← Option.some.inj hhead]
    exact hauthor

/-- Every step tells what it publishes. -/
theorem Told.step (h : d.Told notices) (ha : Announces author d d') :
    d'.Told ((d.news d').map (⟨·, author⟩) ++ notices) := by
  rcases ha with ⟨hh, hr⟩ | ⟨status, hh, hlegal, hauthor, hcounts⟩
  · rw [news_of_silent hh]
    exact h.of_silent hh hr
  · rw [news_of_announced hh]
    exact h.of_announced hh hlegal hauthor hcounts

end Device

namespace Site

variable [Camera σ H F]

/-- Every run tells what it has published. -/
theorem Noted.told {notices : List Notice} {s : Site σ H F} (h : Noted notices s) :
    s.device.Told notices := by
  induction h with
  | fresh camera id format maxRetry =>
      refine ⟨rfl, List.isChain_singleton _, .nil, ?_⟩
      intro n hn
      cases hn
  | @step notices s pace step hnoted ih =>
      obtain ⟨calls, hch⟩ := apply_change pace s step
      have hr := hnoted.reachable
      exact ih.step (.of_change hr.exclusive hr.phased hch)
  | camera camera _ ih => exact ih

/-- In every state, any two statuses that were published in a row are one of
the seven pairs, the first of all being published to callers who are shown
disconnected. And whatever was published on the way, and by which tasks:
attempts that are counted in a row are those of one loop, which also made the
connection that ends them. -/
theorem Reachable.legal_history {s : Site σ H F} (h : s.Reachable) :
    (Status.disconnected :: s.device.history.reverse).IsChain Status.LeadsTo
      ∧ (∃ notices, Noted notices s)
      ∧ ∀ notices, Noted notices s →
          notices.map (·.status) = s.device.history
            ∧ notices.reverse.IsChain Notice.SameLoop := by
  refine ⟨?_, h.noted, ?_⟩
  · obtain ⟨notices, hnoted⟩ := h.noted
    rw [← List.reverse_concat, List.isChain_reverse]
    exact hnoted.told.legal
  · intro notices hnoted
    refine ⟨hnoted.told.history, ?_⟩
    rw [List.isChain_reverse]
    exact hnoted.told.loops

/-- A device that is connected by the second attempt of a loop, and stopped
while the next loop is at its first. -/
theorem Reachable.legal_history_of_two_loops :
    let s := (simulated ⟨"a"⟩ 3).run ⟨10, 100⟩
      [.connect, .lose 0, .resume 0 0, .resume 0 0, .resume 10 0, .lose 0, .resume 10 0,
        .resume 20 0, .reach 0, .resume 20 0, .linkDown 1, .resume 30 1, .resume 40 1, .stop]
    s.device.history.reverse =
        [.disconnected, .reconnecting 1, .reconnecting 2, .connected, .disconnected,
          .reconnecting 1, .disconnected]
      ∧ (Status.disconnected :: s.device.history.reverse).IsChain Status.LeadsTo := by
  intro s
  have hhistory : s.device.history.reverse =
      [.disconnected, .reconnecting 1, .reconnecting 2, .connected, .disconnected,
        .reconnecting 1, .disconnected] := by
    decide +kernel
  have hr : s.Reachable := (Reachable.fresh _ _ _ _).run _ _
  obtain ⟨hlegal, -, -⟩ := Reachable.legal_history hr
  exact ⟨hhistory, hlegal⟩

end Site

end CameraDriver
