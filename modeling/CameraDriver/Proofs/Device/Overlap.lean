/-
How many connections of a device are open at a time, and what else is under way
when an open starts.

An open is under way from the call until its task goes on with what it gave. The
task in charge starts its opens one at a time, and only where the record holds
nothing. But a stop takes the task out of charge at once and does not wait for
the open that the task has under way. Such an open is a stray: nobody looks for
it until it comes back, and a device that is connected again meanwhile is opened
beside it.

Strays are all that stands in the way of one connection a device. Of the
connections that are open at most one is not a stray's, and an open that starts
finds nothing held and strays only. Whether there are any is up to the stops: a
task keeps its open from change to change, and a stop that finds the open under
way is what makes a stray of it (`Change.origin`). So as long as no stop leaves an
open behind, there is one connection at most, and an open starts with no other
one on the way and with nothing left to close.
-/
import CameraDriver.Proofs.Device.Coherence
import CameraDriver.Proofs.Device.Ledger

namespace CameraDriver

variable {σ H F : Type}

namespace Device

/-- The tasks that have an open under way: it has not come back, or the task has
not gone on with what it gave. -/
def underWay (d : Device H F) : List (LinkTask H) := d.links.filter (·.stage.isWaiting)

/-- The tasks that were cancelled and have an open under way. -/
def strays (d : Device H F) : List (LinkTask H) := d.underWay.filter (·.cancelled)

/-- Where an open may start: nobody is in charge of a device that is not
connected, or the task in charge sleeps. -/
def Openable (d : Device H F) : Prop :=
  d.record.linkTask = none ∧ d.status ≠ .connected
    ∨ ∃ k ∈ d.links, k.cancelled = false ∧ ∃ made max due, k.stage = .sleeping made max due

variable {d d' : Device H F} {k : LinkTask H} {token : Token} {calls : List (Call H)}

theorem mem_underWay : k ∈ d.underWay ↔ k ∈ d.links ∧ k.stage.isWaiting = true := List.mem_filter

theorem mem_strays : k ∈ d.strays ↔ k ∈ d.underWay ∧ k.cancelled = true := List.mem_filter

-- ================================================================ counting

/-- A connection that waits is that of an open under way. -/
theorem length_waiting_le (d : Device H F) : d.waiting.length ≤ d.underWay.length := by
  have hopen : d.waiting = d.underWay.filterMap (·.stage.connection?) := by
    unfold waiting underWay
    rw [List.filterMap_filter]
    refine List.filterMap_congr ?_
    intro k _
    cases k.stage <;> rfl
  rw [hopen]
  exact List.length_filterMap_le _ _

/-- The task in charge has nothing held while its open is under way. -/
theorem Phased.bare_of_underWay (hp : d.Phased) (hk : k ∈ d.underWay)
    (hc : k.cancelled = false) : d.record.handle = none := by
  obtain ⟨hm, hw⟩ := mem_underWay.mp hk
  refine (hp.busy k hm hc).bare ?_
  cases hst : k.stage with
  | spawned => rw [hst] at hw; cases hw
  | _ => rfl

/-- What is held and what is under way is one thing at most, apart from
strays. -/
theorem Phased.held_and_underWay (hp : d.Phased) (hx : d.Exclusive) :
    d.held.length + d.underWay.length ≤ 1 + d.strays.length := by
  have hsplit := List.length_eq_length_filter_add (l := d.underWay) (·.cancelled)
  have hlive : d.underWay.filter (!·.cancelled) = d.live.filter (·.stage.isWaiting) := by
    unfold underWay live
    exact List.filter_comm _ _ _
  have hheld : d.held.length ≤ 1 := by
    unfold held
    cases d.record.handle with
    | none => exact Nat.zero_le _
    | some c => exact Nat.le_refl _
  have hone : d.held.length + (d.live.filter (·.stage.isWaiting)).length ≤ 1 := by
    cases hr : d.record.linkTask with
    | none =>
        rw [hx.live_eq_nil hr]
        exact hheld
    | some t =>
        obtain ⟨k, hk, -⟩ := hx.live_eq_singleton hr
        obtain ⟨hm, hc⟩ := mem_live.mp (hk ▸ List.mem_singleton.mpr rfl)
        rw [hk]
        cases hw : k.stage.isWaiting with
        | false =>
            rw [List.filter_cons_of_neg (by rw [hw]; exact Bool.false_ne_true)]
            exact hheld
        | true =>
            unfold held
            rw [hp.bare_of_underWay (mem_underWay.mpr ⟨hm, hw⟩) hc, Option.toList_none,
              List.length_nil, Nat.zero_add]
            exact List.length_filter_le _ [k]
  rw [hlive] at hsplit
  unfold strays
  omega

/-- Beside the connection in use there is one for each stray at most. -/
theorem Phased.length_connections_le (hp : d.Phased) (hx : d.Exclusive) :
    d.connections.length ≤ 1 + d.strays.length := by
  have hcount := hp.held_and_underWay hx
  have hwaiting := length_waiting_le d
  unfold connections
  rw [List.length_append]
  omega

/-- Where an open may start nothing is held, and what is under way are
strays. -/
theorem Phased.openable (hp : d.Phased) (hx : d.Exclusive) (h : d.Openable) :
    d.record.handle = none ∧ ∀ k ∈ d.underWay, k ∈ d.strays := by
  rcases h with ⟨hr, hs⟩ | ⟨k, hk, hc, made, max, due, hst⟩
  · -- no task in charge: the device is down, and who is under way was cancelled
    refine ⟨?_, ?_⟩
    · rcases hp.idle hr with hcon | ⟨-, hnone⟩
      · exact absurd hcon hs
      · exact hnone
    · intro k hk
      refine mem_strays.mpr ⟨hk, ?_⟩
      cases hc : k.cancelled with
      | true => rfl
      | false =>
          have := (hx.live k (mem_underWay.mp hk).1).mp hc
          rw [hr] at this
          cases this
  · -- the task in charge sleeps, so only others are under way
    refine ⟨(hp.busy k hk hc).bare (by rw [hst]; rfl), ?_⟩
    intro k' hk'
    refine mem_strays.mpr ⟨hk', ?_⟩
    cases hc' : k'.cancelled with
    | true => rfl
    | false =>
        obtain ⟨hm', hw⟩ := mem_underWay.mp hk'
        rw [hx.eq_of_live hm' hk hc' hc, hst] at hw
        cases hw

-- ================================================================= origin

/-- Where the open of a task comes from that is under way after a step. -/
inductive Origin (d : Device H F) (step : Site.Step) (k : LinkTask H) : Prop
  /-- It was under way before. -/
  | kept {k₀ : LinkTask H} (hk₀ : k₀ ∈ d.underWay) (ht : k₀.token = k.token)
      (ho : k.stage.isOpening = true → k₀.stage.isOpening = true)
      (hc : k.cancelled = k₀.cancelled)
  /-- It was under way before, and its task was in charge until the stop. -/
  | stopped {k₀ : LinkTask H} (hk₀ : k₀ ∈ d.underWay) (ht : k₀.token = k.token)
      (ho : k.stage.isOpening = true → k₀.stage.isOpening = true)
      (hstep : step = .stop) (hr : d.record.linkTask = some k.token)
  /-- It was started. -/
  | started (hopen : d.Openable) (hc : k.cancelled = false) (ho : k.stage.isOpening = true)

namespace Origin

variable {step : Site.Step}

/-- An open that was under way, and still is, has stayed. -/
theorem of_mem (hk : k ∈ d.links) (hw : k.stage.isWaiting = true) : Origin d step k :=
  .kept (mem_underWay.mpr ⟨hk, hw⟩) rfl id rfl

/-- An open that is under way has stayed when another task ends. -/
theorem of_endLink (hk : k ∈ (d.endLink token).links) (hw : k.stage.isWaiting = true) :
    Origin d step k :=
  of_mem (mem_endLink.mp hk).1 hw

/-- A new loop has no open yet. -/
theorem of_spawned {links : List (LinkTask H)} {t : Token}
    (hold : ∀ k ∈ links, k.stage.isWaiting = true → Origin d step k)
    (hk : k ∈ links ++ [{ token := t, stage := .spawned }]) (hw : k.stage.isWaiting = true) :
    Origin d step k := by
  rcases List.mem_append.mp hk with hk | hk
  · exact hold k hk hw
  · rw [List.mem_singleton.mp hk] at hw
    cases hw

/-- A task that sleeps has no open. -/
theorem of_sleeping {made max due : Nat}
    (hk : k ∈ (d.setStage token (.sleeping made max due)).links)
    (hw : k.stage.isWaiting = true) : Origin d step k := by
  rcases mem_setStage hk with ⟨k₀, -, -, rfl⟩ | ⟨hk, -⟩
  · cases hw
  · exact of_mem hk hw

/-- An open that has come back was on the way. -/
theorem of_opened (hx : d.Exclusive) {k' : LinkTask H} {attempt : Attempt}
    (hk' : d.link? token = some k') (hst : k'.stage = .opening attempt)
    {result : Except HardwareError (Connection H)}
    (hk : k ∈ (d.setStage token (.opened attempt result)).links)
    (hw : k.stage.isWaiting = true) : Origin d step k := by
  rcases mem_setStage hk with ⟨k₀, hk₀, ht, rfl⟩ | ⟨hk, -⟩
  · have hw₀ : k₀.stage.isWaiting = true := by
      rw [hx.eq_of_link? hk' hk₀ ht, hst]
      rfl
    exact .kept (mem_underWay.mpr ⟨hk₀, hw₀⟩) rfl (fun h => by cases h) rfl
  · exact of_mem hk hw

end Origin

/-- An open that is under way after a change was so before, unless the change
has started it; it becomes a stray by a stop. -/
theorem Change.origin {pace : Site.Pace} {step : Site.Step} (hch : Change pace step d calls d')
    (hx : d.Exclusive) : ∀ k ∈ d'.underWay, Origin d step k := by
  intro k hk
  obtain ⟨hk, hw⟩ := mem_underWay.mp hk
  cases hch with
  | still => exact .of_mem hk hw
  | beside _ hb => exact .of_mem (hb.links ▸ hk) hw
  | failed _ _ hb _ =>
      exact .of_spawned (fun k hk hw => .of_mem (hb.links ▸ hk) hw) hk hw
  | begun hr hs =>
      rcases List.mem_append.mp hk with hk | hk
      · exact .of_mem hk hw
      · rw [List.mem_singleton.mp hk]
        exact .started (.inl ⟨hr, hs⟩) rfl rfl
  | lost _ => exact .of_spawned (fun k hk hw => .of_mem hk hw) hk hw
  | stopped =>
      rw [stopped_links, withdrawn_links] at hk
      obtain ⟨k₀, hk₀, rfl⟩ := List.mem_map.mp hk
      split at hw
      case isTrue hr =>
        rw [if_pos hr]
        exact .stopped (mem_underWay.mpr ⟨hk₀, hw⟩) rfl id rfl hr
      case isFalse hr =>
        rw [if_neg hr]
        exact .of_mem hk₀ hw
  | opened hk' hst handle => exact .of_opened hx hk' hst hk hw
  | refused hk' hst e => exact .of_opened hx hk' hst hk hw
  | broken hk' hst e => exact .of_opened hx hk' hst hk hw
  | dropped _ _ _ => exact .of_endLink hk hw
  | ended _ _ _ => exact .of_endLink hk hw
  | connected _ _ _ => exact .of_endLink (connectedBy_links d _ _ ▸ hk) hw
  | handedOver _ _ _ => exact .of_spawned (fun k hk hw => .of_endLink hk hw) hk hw
  | retried _ _ _ _ => exact .of_sleeping hk hw
  | exhausted _ _ _ _ => exact .of_endLink hk hw
  | loopEnded _ _ _ => exact .of_endLink (endLink_links_congr (detached_links d) ▸ hk) hw
  | loopSpent _ _ _ _ => exact .of_endLink (endLink_links_congr (detached_links d) ▸ hk) hw
  | loopBegun _ _ _ _ => exact .of_sleeping (setStage_links_congr _ (detached_links d) ▸ hk) hw
  | woken hk' hst hc _ =>
      rcases mem_setStage hk with ⟨k₀, hk₀, ht, rfl⟩ | ⟨hk, -⟩
      · have hc₀ : k₀.cancelled = false := by
          rw [hx.eq_of_link? hk' hk₀ ht]
          exact hc
        exact .started (.inr ⟨_, (mem_of_link? hk').1, hc, _, _, _, hst⟩) hc₀ rfl
      · exact .of_mem hk hw

/-- Where a change starts an open, it may start. -/
theorem Change.openable {pace : Site.Pace} {step : Site.Step} (hch : Change pace step d calls d')
    (hx : d.Exclusive) (h' : d'.isOpening token = true) (h : d.isOpening token = false) :
    d.Openable := by
  unfold isOpening at h'
  obtain ⟨k, hk, ho⟩ := List.any_eq_true.mp h'
  rw [Bool.and_eq_true, beq_iff_eq] at ho
  obtain ⟨rfl, ho⟩ := ho
  have hw : k.stage.isWaiting = true := by
    rw [LinkStage.isWaiting, ho, Bool.true_or]
  -- an open that was there before would have been on the way
  have hold : ∀ k₀ ∈ d.underWay, k₀.token = k.token → k₀.stage.isOpening = true → d.Openable := by
    intro k₀ hk₀ ht ho₀
    rw [← ht, hx.isOpening_eq (mem_underWay.mp hk₀).1, ho₀] at h
    cases h
  cases hch.origin hx k (mem_underWay.mpr ⟨hk, hw⟩) with
  | kept hk₀ ht ho₀ _ => exact hold _ hk₀ ht (ho₀ ho)
  | stopped hk₀ ht ho₀ _ _ => exact hold _ hk₀ ht (ho₀ ho)
  | started hopen _ _ => exact hopen

end Device

-- ================================================================== a run

namespace Moment

/-- A stop that leaves an open behind: that of the task in charge. -/
def Strands (m : Moment σ H F) (token : Token) : Prop :=
  m.step = .stop ∧ m.before.device.record.linkTask = some token
    ∧ ∃ k ∈ m.before.device.underWay, k.token = token

end Moment

namespace Site

variable [Camera σ H F] {s : Site σ H F} {trace : List (Moment σ H F)}

/-- Whether a step calls an open of the device. -/
def StartsOpen (pace : Pace) (s : Site σ H F) (step : Step) : Prop :=
  ∃ token, (s.apply pace step).device.isOpening token = true ∧ s.device.isOpening token = false

/-- Every stray was left behind by a stop. -/
theorem Taken.strands (h : Taken trace s) :
    ∀ k ∈ s.device.strays, ∃ m ∈ trace, m.Strands k.token := by
  induction h with
  | fresh camera id format maxRetry =>
      intro k hk
      cases hk
  | @step trace s pace step h ih =>
      intro k hk
      obtain ⟨hk, hc⟩ := Device.mem_strays.mp hk
      obtain ⟨calls, hch⟩ := apply_change pace s step
      cases hch.origin h.reachable.exclusive k hk with
      | kept hk₀ ht _ hc₀ =>
          obtain ⟨m, hm, hstrands⟩ := ih _ (Device.mem_strays.mpr ⟨hk₀, hc₀ ▸ hc⟩)
          exact ⟨m, List.mem_cons_of_mem _ hm, ht ▸ hstrands⟩
      | stopped hk₀ ht _ hstep hr =>
          exact ⟨_, List.mem_cons_self, hstep, hr, _, hk₀, ht⟩
      | started _ hc₀ _ =>
          rw [hc₀] at hc
          cases hc
  | camera camera _ ih => exact ih

/-- What a device has is accounted for in every state. -/
theorem Reachable.accounted (h : s.Reachable) : ∃ calls, s.device.Accounted calls := by
  have hall : s.device.Exclusive ∧ ∃ calls, s.device.Accounted calls := by
    refine Reachable.invariant (P := fun d => d.Exclusive ∧ ∃ calls, d.Accounted calls) ?_ ?_ h
    · intro id format maxRetry
      have hr := Reachable.fresh s.camera id format maxRetry
      exact ⟨hr.exclusive, [], .fresh id format maxRetry⟩
    · intro pace step d calls d' ⟨hx, old, ha⟩ hch
      exact ⟨hx.change hch, calls ++ old, ha.step (hx.conserves hch)⟩
  exact hall.2

/-- What a device has is what was opened for it and not closed, each connection
once. -/
theorem Reachable.open_connections (h : s.Reachable) :
    (∀ n, (∃ c ∈ s.device.connections, c.number = n)
        ↔ Event.opened (.ok n) ∈ s.device.log ∧ Event.closed n ∉ s.device.log)
      ∧ (s.device.connections.map (·.number)).Nodup := by
  obtain ⟨calls, ha⟩ := h.accounted
  refine ⟨?_, ?_⟩
  · -- a connection is there if it was opened and not closed since
    intro n
    constructor
    · -- a connection that is there was given, and no close passed it
      rintro ⟨c, hc, rfl⟩
      rw [ha.log]
      refine ⟨List.mem_map_of_mem (ha.given c hc), ?_⟩
      intro hclosed
      obtain ⟨x, hx, hevent⟩ := List.mem_map.mp hclosed
      refine ha.not_closed hc (Call.mem_tickets.mpr ⟨x, hx, ha.own x hx, ?_⟩)
      rw [hevent]
      rfl
    · -- what was given and not closed is still there
      rintro ⟨hopened, hclosed⟩
      rcases ha.closed_or_has hopened with h | h
      · exact absurd h hclosed
      · exact h
  · -- no number occurs twice
    have hnodup := (List.nodup_append.mp (ha.balance.nodup_iff.mpr ha.nodup)).1
    have hnumbers : s.device.connections.map s.device.ticket
        = (s.device.connections.map (·.number)).map fun n => (s.device.id, n) := by
      rw [List.map_map]
      rfl
    rw [hnumbers] at hnodup
    exact List.Nodup.of_map _ hnodup

-- ======================================================== one connection

/-- The connections that a device has are those that were opened and not closed.
Apart from strays, it holds a connection or has an open under way, one of the
two and one thing only; so strays are all there is beside one connection. An
open that starts finds nothing held and nothing but strays under way. Every stray
was left behind by a stop; if no stop has left an open behind, there is one
connection at most, and an open starts when none is under way and no connection
is open. -/
theorem Taken.one_connection (h : Taken trace s) :
    ((∀ n, (∃ c ∈ s.device.connections, c.number = n)
          ↔ Event.opened (.ok n) ∈ s.device.log ∧ Event.closed n ∉ s.device.log)
        ∧ (s.device.connections.map (·.number)).Nodup)
      ∧ s.device.held.length + s.device.underWay.length ≤ 1 + s.device.strays.length
      ∧ s.device.connections.length ≤ 1 + s.device.strays.length
      ∧ (∀ (pace : Pace) (step : Step), s.StartsOpen pace step →
          s.device.record.handle = none ∧ ∀ k ∈ s.device.underWay, k ∈ s.device.strays)
      ∧ (∀ k ∈ s.device.strays, ∃ m ∈ trace, m.Strands k.token)
      ∧ ((∀ m ∈ trace, ∀ token, ¬ m.Strands token) →
          s.device.connections.length ≤ 1
            ∧ ∀ (pace : Pace) (step : Step), s.StartsOpen pace step →
                s.device.underWay = [] ∧ s.device.connections = []) := by
  have hx := h.reachable.exclusive
  have hp := h.reachable.phased
  have hstart : ∀ (pace : Pace) (step : Step), s.StartsOpen pace step →
      s.device.record.handle = none ∧ ∀ k ∈ s.device.underWay, k ∈ s.device.strays := by
    rintro pace step ⟨token, hafter, hbefore⟩
    obtain ⟨calls, hch⟩ := apply_change pace s step
    exact hp.openable hx (hch.openable hx hafter hbefore)
  refine ⟨h.reachable.open_connections, hp.held_and_underWay hx, hp.length_connections_le hx, hstart,
    h.strands, ?_⟩
  intro hquiet
  have hstrays : s.device.strays = [] := by
    rw [List.eq_nil_iff_forall_not_mem]
    intro k hk
    obtain ⟨m, hm, hstrands⟩ := h.strands k hk
    exact hquiet m hm _ hstrands
  refine ⟨?_, ?_⟩
  · have hcount := hp.length_connections_le hx
    rwa [hstrays] at hcount
  · intro pace step hopen
    obtain ⟨hnone, hunder⟩ := hstart pace step hopen
    rw [hstrays] at hunder
    have hunder : s.device.underWay = [] := List.eq_nil_iff_forall_not_mem.mpr fun k hk => by
      cases hunder k hk
    refine ⟨hunder, ?_⟩
    have hcount := s.device.length_waiting_le
    rw [hunder, List.length_nil, Nat.le_zero, List.length_eq_zero_iff] at hcount
    unfold Device.connections Device.held
    rw [hcount, hnone]
    rfl

/-- A device that was connected, stopped when its open had come back, and is
connected again. -/
theorem Taken.one_connection_after_stop :
    let s := (simulated ⟨"a"⟩ 3).run ⟨10, 100⟩ [.connect, .reach 0, .resume 0 0, .stop]
    s.StartsOpen ⟨10, 100⟩ .connect ∧ s.device.underWay = [] ∧ s.device.connections = [] := by
  intro s
  have hopen : s.StartsOpen ⟨10, 100⟩ .connect := ⟨1, by decide +kernel, by decide +kernel⟩
  have h := ((((Taken.fresh (({} : SimulatedCamera).attach ⟨"a"⟩) ⟨"a"⟩ .jpeg 3).step ⟨10, 100⟩
    .connect).step ⟨10, 100⟩ (.reach 0)).step ⟨10, 100⟩ (.resume 0 0)).step ⟨10, 100⟩ .stop
  obtain ⟨-, -, -, -, -, hquiet⟩ := Taken.one_connection h
  refine ⟨hopen, (hquiet ?_).2 _ _ hopen⟩
  intro m hm token
  rintro ⟨hstop, hlink, -⟩
  -- the one stop finds nobody in charge
  rcases List.mem_cons.mp hm with rfl | hm
  · have hnone : ((simulated ⟨"a"⟩ 3).run ⟨10, 100⟩
        [.connect, .reach 0, .resume 0 0]).device.record.linkTask = none := by decide +kernel
    cases hnone.symm.trans hlink
  · simp only [List.mem_cons, List.not_mem_nil, or_false] at hm
    rcases hm with rfl | rfl | rfl <;> cases hstop

/-- A device that is stopped while it is opened, and connected again: the second
open starts with the first on the way, and then both connections are open. -/
theorem two_connections_of_stopped_open :
    let s := (simulated ⟨"a"⟩ 3).run ⟨10, 100⟩ [.connect, .stop]
    let s' := s.run ⟨10, 100⟩ [.connect, .reach 1, .resume 0 1, .reach 0]
    s.device.isOpening 0 = true ∧ s.StartsOpen ⟨10, 100⟩ .connect
      ∧ s'.device.connections.length = 2 ∧ s'.camera.openHandles ⟨"a"⟩ = 2 := by
  intro s s'
  have hopen : s.StartsOpen ⟨10, 100⟩ .connect := ⟨1, by decide +kernel, by decide +kernel⟩
  exact ⟨by decide +kernel, hopen, by decide +kernel, by decide +kernel⟩

end Site

end CameraDriver
