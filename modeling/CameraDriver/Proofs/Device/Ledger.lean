/-
Every connection that an open of a device gave is in one place: the record
holds it, it waits in the result of an open whose task has not gone on, or it
was closed.

# The step and the balance

`Conserves` says it of one change and its calls. What the device has after
the change, together with what the change closed, is what it had before,
together with what the change opened. Over a run this adds up to `Accounted`:
what the device has, with all that was closed, is all that was opened, each
connection once. Since calls are made on what the device has, none is made on
a connection that was closed.

Tasks are found by their tokens, so a task that moves or ends takes its own
result along and no other one; this is where `Exclusive` is used.
-/
import CameraDriver.Proofs.Device.Exclusive

namespace CameraDriver

variable {σ H F : Type}

namespace Device

variable {d d' : Device H F} {token : Token} {k : LinkTask H} {calls new : List (Call H)}

-- ================================================================= places

/-- The connection of the record. -/
def held (d : Device H F) : List (Connection H) := d.record.handle.toList

/-- The connections that opens gave to tasks that have not gone on. -/
def waiting (d : Device H F) : List (Connection H) := d.links.filterMap (·.stage.connection?)

/-- All connections that a device has. -/
def connections (d : Device H F) : List (Connection H) := d.held ++ d.waiting

/-- A connection of a device among those of all devices. -/
def ticket (d : Device H F) (c : Connection H) : Ticket := (d.id, c.number)

/-- A task that is found by its token splits the list of tasks. When it ends
it is left out, when it moves it is replaced. -/
theorem Exclusive.links_split (h : d.Exclusive) (hk : d.link? token = some k) :
    ∃ front back, d.links = front ++ k :: back
      ∧ (d.endLink token).links = front ++ back
      ∧ ∀ stage, (d.setStage token stage).links = front ++ { k with stage } :: back := by
  obtain ⟨hm, ht⟩ := mem_of_link? hk
  obtain ⟨front, back, hsplit⟩ := List.append_of_mem hm
  have hne : ∀ k' ∈ front ++ back, k'.token ≠ token := by
    intro k' hk' heq
    have hnodup := h.nodup
    rw [hsplit, List.map_append, List.map_cons, List.nodup_middle, List.nodup_cons,
      ← List.map_append, ht, ← heq] at hnodup
    exact hnodup.1 (List.mem_map_of_mem hk')
  have hfront : ∀ k' ∈ front, k'.token ≠ token := fun k' hk' =>
    hne k' (List.mem_append_left _ hk')
  have hback : ∀ k' ∈ back, k'.token ≠ token := fun k' hk' =>
    hne k' (List.mem_append_right _ hk')
  refine ⟨front, back, hsplit, ?_, ?_⟩
  · unfold endLink
    rw [hsplit, List.filter_append, List.filter_cons_of_neg (by simp [ht]), ← List.filter_append]
    exact List.filter_eq_self.mpr fun k' hk' => decide_eq_true (hne k' hk')
  · intro stage
    have hself : ∀ l : List (LinkTask H), (∀ k' ∈ l, k'.token ≠ token) →
        l.map (fun k' => if k'.token = token then { k' with stage } else k') = l := by
      intro l hl
      rw [List.map_congr_left fun k' hk' => if_neg (hl k' hk')]
      exact List.map_id l
    show d.links.map _ = _
    rw [hsplit, List.map_append, List.map_cons, if_pos ht, hself front hfront, hself back hback]

/-- What waits, with the result of one task apart. -/
theorem Exclusive.waiting_perm (h : d.Exclusive) (hk : d.link? token = some k) :
    d.waiting.Perm (k.stage.connection?.toList ++ (d.endLink token).waiting) := by
  obtain ⟨front, back, hsplit, hend, -⟩ := h.links_split hk
  unfold waiting
  rw [hend, hsplit, List.filterMap_append, List.filterMap_append, List.filterMap_cons]
  cases k.stage.connection? with
  | none => exact List.Perm.refl _
  | some c => exact List.perm_middle

/-- What waits when a task was put into a stage. -/
theorem Exclusive.waiting_setStage (h : d.Exclusive) (hk : d.link? token = some k)
    (stage : LinkStage H) :
    (d.setStage token stage).waiting.Perm
      (stage.connection?.toList ++ (d.endLink token).waiting) := by
  obtain ⟨front, back, -, hend, hset⟩ := h.links_split hk
  unfold waiting
  rw [hend, hset, List.filterMap_append, List.filterMap_append, List.filterMap_cons]
  dsimp only
  cases stage.connection? with
  | none => exact List.Perm.refl _
  | some c => exact List.perm_middle

/-- What waits depends on the tasks alone. -/
theorem waiting_congr (hl : d'.links = d.links) : d'.waiting = d.waiting := by
  unfold waiting
  rw [hl]

/-- A new task has nothing yet. -/
theorem waiting_append (hst : k.stage.connection? = none) (hl : d'.links = d.links ++ [k]) :
    d'.waiting = d.waiting := by
  have hnone : [k].filterMap (·.stage.connection?) = [] := List.filterMap_cons_none hst
  unfold waiting
  rw [hl, List.filterMap_append, hnone, List.append_nil]

/-- A cancelled task keeps its result. -/
theorem waiting_withdrawn (d : Device H F) : d.withdrawn.waiting = d.waiting := by
  unfold waiting
  rw [withdrawn_links, List.filterMap_map]
  refine List.filterMap_congr ?_
  intro k' _
  dsimp only [Function.comp]
  split <;> rfl

/-- A task that has no result ends. -/
theorem Exclusive.waiting_of_ended (h : d.Exclusive) (hk : d.link? token = some k)
    (hst : k.stage.connection? = none) (hl : d'.links = (d.endLink token).links) :
    d'.waiting.Perm d.waiting := by
  have hp := h.waiting_perm hk
  rw [hst] at hp
  rw [waiting_congr hl]
  exact hp.symm

/-- A task that has no result moves on, and has none then. -/
theorem Exclusive.waiting_of_moved (h : d.Exclusive) (hk : d.link? token = some k)
    (hst : k.stage.connection? = none) {stage : LinkStage H} (hst' : stage.connection? = none)
    (hl : d'.links = (d.setStage token stage).links) : d'.waiting.Perm d.waiting := by
  have hp := h.waiting_setStage hk stage
  rw [hst'] at hp
  rw [waiting_congr hl]
  exact hp.trans (h.waiting_of_ended hk hst rfl)

-- ============================================================== one change

/-- What a change does to connections. What the device has afterwards and what
was closed is what it had before and what was opened; calls are made on what
it had, and a close is the last of them. -/
structure Conserves (d : Device H F) (new : List (Call H)) (d' : Device H F) : Prop where
  id : d'.id = d.id
  log : d'.log = new.map (·.event) ++ d.log
  own : ∀ x ∈ new, x.device = d.id
  balance : (d'.connections.map d.ticket ++ Call.closes new).Perm
    (d.connections.map d.ticket ++ Call.opens new)
  opened : Call.opens new = [] ∧ d'.opened = d.opened
    ∨ Call.opens new = [(d.id, d.opened + 1)] ∧ d'.opened = d.opened + 1
  kept : ∀ c ∈ d'.connections, c ∈ d.connections ∨ .opened d.id c ∈ new
  last : Call.closes new.tail = []
  made : ∀ x ∈ new, ∀ n, x.event.on? = some n →
    ∃ c ∈ d.connections, c.number = n ∧ x.handle = some c.handle

theorem closing_opens (d : Device H F) : Call.opens d.closing = [] := by
  unfold closing
  cases d.record.handle <;> rfl

theorem closing_closes (d : Device H F) : Call.closes d.closing = d.held.map d.ticket := by
  unfold closing held
  cases d.record.handle <;> rfl

namespace Conserves

/-- Nothing is opened or closed, and no connection changes its place. -/
theorem of_quiet (hid : d'.id = d.id) (hlog : d'.log = new.map (·.event) ++ d.log)
    (hown : ∀ x ∈ new, x.device = d.id ∧ x.event.opened? = none ∧ x.event.closed? = none ∧
      ∀ n, x.event.on? = some n →
        ∃ c, d.record.handle = some c ∧ c.number = n ∧ x.handle = some c.handle)
    (hopened : d'.opened = d.opened) (hh : d'.record.handle = d.record.handle)
    (hw : d'.waiting.Perm d.waiting) : d.Conserves new d' := by
  have hopens : Call.opens new = [] := by
    refine List.filterMap_eq_nil_iff.mpr ?_
    intro x hx
    rw [(hown x hx).2.1]
    rfl
  have hcloses : Call.closes new = [] := by
    refine List.filterMap_eq_nil_iff.mpr ?_
    intro x hx
    rw [(hown x hx).2.2.1]
    rfl
  have hperm : d'.connections.Perm d.connections := by
    unfold connections held
    rw [hh]
    exact hw.append_left _
  refine ⟨hid, hlog, fun x hx => (hown x hx).1, ?_, .inl ⟨hopens, hopened⟩, ?_, ?_, ?_⟩
  · rw [hopens, hcloses, List.append_nil, List.append_nil]
    exact hperm.map _
  · intro c hc
    exact .inl (hperm.mem_iff.mp hc)
  · refine List.filterMap_eq_nil_iff.mpr ?_
    intro x hx
    exact List.filterMap_eq_nil_iff.mp hcloses x (List.mem_of_mem_tail hx)
  · intro x hx n hn
    obtain ⟨c, hc, hnum, hhandle⟩ := (hown x hx).2.2.2 n hn
    refine ⟨c, List.mem_append_left _ ?_, hnum, hhandle⟩
    unfold held
    rw [hc]
    exact List.mem_singleton.mpr rfl

/-- Neither is the camera asked for anything. -/
theorem of_silent (hid : d'.id = d.id) (hlog : d'.log = d.log) (hopened : d'.opened = d.opened)
    (hh : d'.record.handle = d.record.handle) (hw : d'.waiting.Perm d.waiting) :
    d.Conserves [] d' :=
  of_quiet hid hlog (fun x hx => by cases hx) hopened hh hw

/-- The connection of the record is closed. What the device has afterwards
was waiting. -/
theorem of_closing (hid : d'.id = d.id) (hlog : d'.log = d.closing.map (·.event) ++ d.log)
    (hopened : d'.opened = d.opened) (hp : d'.connections.Perm d.waiting) :
    d.Conserves d.closing d' := by
  have hmem : ∀ x ∈ d.closing, ∃ c ∈ d.held, x = .closed d.id c := by
    intro x hx
    unfold closing at hx
    unfold held
    cases hh : d.record.handle with
    | none => rw [hh] at hx; cases hx
    | some c =>
        rw [hh] at hx
        exact ⟨c, List.mem_singleton.mpr rfl, List.mem_singleton.mp hx⟩
  refine ⟨hid, hlog, ?_, ?_, .inl ⟨closing_opens d, hopened⟩, ?_, ?_, ?_⟩
  · intro x hx
    obtain ⟨c, -, rfl⟩ := hmem x hx
    rfl
  · -- what was held moves to the closed ones, what waited stays
    have hc : d.connections.map d.ticket = d.held.map d.ticket ++ d.waiting.map d.ticket :=
      List.map_append
    rw [closing_opens, closing_closes, List.append_nil, hc]
    exact ((hp.map _).append_right _).trans List.perm_append_comm
  · -- what is left was there
    intro c hc
    exact .inl (List.mem_append_right _ (hp.mem_iff.mp hc))
  · unfold closing
    cases d.record.handle <;> rfl
  · -- the close passes the handle of what was held
    intro x hx n hn
    obtain ⟨c, hc, rfl⟩ := hmem x hx
    exact ⟨c, List.mem_append_left _ hc, Option.some.inj hn, rfl⟩

/-- The connection of the record is closed, and the record holds none. -/
theorem of_released (hid : d'.id = d.id) (hlog : d'.log = d.closing.map (·.event) ++ d.log)
    (hopened : d'.opened = d.opened) (hh : d'.record.handle = none)
    (hw : d'.waiting.Perm d.waiting) : d.Conserves d.closing d' := by
  refine of_closing hid hlog hopened ?_
  unfold connections held
  rw [hh]
  exact hw

/-- A connection that waited is closed. -/
theorem of_dropped {c : Connection H} (hid : d'.id = d.id)
    (hlog : d'.log = .closed c.number :: d.log) (hopened : d'.opened = d.opened)
    (hp : d.connections.Perm (c :: d'.connections)) : d.Conserves [.closed d.id c] d' := by
  refine ⟨hid, hlog, ?_, ?_, .inl ⟨rfl, hopened⟩, ?_, rfl, ?_⟩
  · intro x hx
    rw [List.mem_singleton.mp hx]
    rfl
  · have hopens : Call.opens [Call.closed d.id c] = [] := rfl
    have hcloses : Call.closes [Call.closed d.id c] = [d.ticket c] := rfl
    rw [hopens, hcloses, List.append_nil]
    exact List.perm_append_comm.trans (hp.map d.ticket).symm
  · intro c' hc'
    exact .inl (hp.mem_iff.mpr (List.mem_cons_of_mem _ hc'))
  · intro x hx n hn
    rw [List.mem_singleton.mp hx] at hn ⊢
    exact ⟨c, hp.mem_iff.mpr List.mem_cons_self, Option.some.inj hn, rfl⟩

/-- A connection is opened, and waits. -/
theorem of_opened {c : Connection H} (hnum : c.number = d.opened + 1) (hid : d'.id = d.id)
    (hlog : d'.log = .opened (.ok c.number) :: d.log) (hopened : d'.opened = d.opened + 1)
    (hp : d'.connections.Perm (c :: d.connections)) : d.Conserves [.opened d.id c] d' := by
  have hopens : Call.opens [Call.opened d.id c] = [(d.id, d.opened + 1)] := by
    rw [← hnum]
    rfl
  have hcloses : Call.closes [Call.opened d.id c] = [] := rfl
  refine ⟨hid, hlog, ?_, ?_, .inr ⟨hopens, hopened⟩, ?_, rfl, ?_⟩
  · intro x hx
    rw [List.mem_singleton.mp hx]
    rfl
  · -- the new connection is on both sides
    rw [hopens, hcloses, List.append_nil, ← hnum]
    exact (hp.map d.ticket).trans (List.perm_append_singleton _ _).symm
  · -- the connection is the new one, or an old one
    intro c' hc'
    rcases List.mem_cons.mp (hp.mem_iff.mp hc') with rfl | hc'
    · exact .inr (List.mem_singleton.mpr rfl)
    · exact .inl hc'
  · -- an open passes no handle
    intro x hx n hn
    rw [List.mem_singleton.mp hx] at hn
    cases hn

end Conserves

/-- Every change conserves connections. -/
theorem Exclusive.conserves {pace : Site.Pace} {step : Site.Step} (h : d.Exclusive)
    (hch : Change pace step d new d') : d.Conserves new d' := by
  cases hch with
  | still => exact .of_silent rfl rfl rfl rfl (.refl _)
  | beside _ hb =>
      exact .of_quiet hb.id hb.log hb.calls hb.opened hb.handle (.of_eq (waiting_congr hb.links))
  | failed _ _ hb _ =>
      refine .of_quiet hb.id hb.log hb.calls hb.opened hb.handle (.of_eq ?_)
      exact (waiting_append (by rfl) rfl).trans (waiting_congr hb.links)
  | begun _ _ => exact .of_silent rfl rfl rfl rfl (.of_eq (waiting_append (by rfl) rfl))
  | lost _ => exact .of_silent rfl rfl rfl rfl (.of_eq (waiting_append (by rfl) rfl))
  | stopped =>
      refine .of_released (stopped_id d) (stopped_log d) (stopped_opened d) ?_ (.of_eq ?_)
      · rw [stopped_record]
      · rw [waiting_congr (stopped_links d), waiting_withdrawn]
  | @opened _ _ k attempt hk hst handle =>
      have hrest := (h.waiting_perm hk).symm
      rw [hst] at hrest
      refine .of_opened rfl rfl rfl rfl ?_
      refine ((h.waiting_setStage hk _).append_left d.held).trans ?_
      exact List.perm_middle.trans ((hrest.append_left d.held).cons _)
  | refused hk hst e =>
      refine .of_quiet rfl rfl ?_ rfl rfl (h.waiting_of_moved hk (by rw [hst]; rfl) rfl rfl)
      intro x hx
      rw [List.mem_singleton.mp hx]
      exact ⟨rfl, rfl, rfl, fun n hn => by cases hn⟩
  | broken hk hst e =>
      exact .of_silent rfl rfl rfl rfl (h.waiting_of_moved hk (by rw [hst]; rfl) rfl rfl)
  | dropped hk hst hc =>
      have hp := h.waiting_perm hk
      rw [hst] at hp
      exact .of_dropped rfl rfl rfl ((hp.append_left d.held).trans List.perm_middle)
  | ended hk hst hc =>
      refine .of_silent rfl rfl rfl rfl (h.waiting_of_ended hk ?_ rfl)
      rcases hst with ⟨_, _, hst⟩ | ⟨_, _, _, hst⟩ <;> rw [hst] <;> rfl
  | @connected _ now token k c hk hst hc =>
      have hp := h.waiting_perm hk
      rw [hst] at hp
      refine .of_closing (connectedBy_id _ _ _) (connectedBy_log _ _ _)
        (connectedBy_opened _ _ _) ?_
      unfold connections held
      rw [connectedBy_record, waiting_congr (connectedBy_links d token c)]
      exact hp.symm
  | handedOver hk hst hc =>
      refine .of_silent rfl rfl rfl rfl ?_
      rw [waiting_append (d := d.endLink _) (by rfl) rfl]
      exact h.waiting_of_ended hk (by rw [hst]; rfl) rfl
  | retried hk hst _ _ =>
      exact .of_silent rfl rfl rfl rfl (h.waiting_of_moved hk (by rw [hst]; rfl) rfl rfl)
  | exhausted hk hst _ _ =>
      exact .of_silent rfl rfl rfl rfl (h.waiting_of_ended hk (by rw [hst]; rfl) rfl)
  | loopEnded hk hst _ =>
      refine .of_released (detached_id d) (detached_log d) (detached_opened d)
        (detached_handle d) ?_
      exact h.waiting_of_ended hk (by rw [hst]; rfl) (endLink_links_congr (detached_links d))
  | loopSpent hk hst _ _ =>
      refine .of_released (detached_id d) (detached_log d) (detached_opened d)
        (detached_handle d) ?_
      exact h.waiting_of_ended hk (by rw [hst]; rfl) (endLink_links_congr (detached_links d))
  | loopBegun hk hst _ _ =>
      refine .of_released (detached_id d) (detached_log d) (detached_opened d)
        (detached_handle d) ?_
      exact h.waiting_of_moved hk (by rw [hst]; rfl) rfl
        (setStage_links_congr _ (detached_links d))
  | woken hk hst _ _ =>
      exact .of_silent rfl rfl rfl rfl (h.waiting_of_moved hk (by rw [hst]; rfl) rfl rfl)

-- ================================================================== a run

/-- What a device has, with what was closed, is what was opened, and it was
opened once; the calls are those of the device's log, and they are sound. -/
structure Accounted (calls : List (Call H)) (d : Device H F) : Prop where
  log : d.log = calls.map (·.event)
  own : ∀ x ∈ calls, x.device = d.id
  balance : (d.connections.map d.ticket ++ Call.closes calls).Perm (Call.opens calls)
  nodup : (Call.opens calls).Nodup
  bound : ∀ t ∈ Call.opens calls, t.2 ≤ d.opened
  given : ∀ c ∈ d.connections, .opened d.id c ∈ calls
  sound : Call.Sound calls

namespace Accounted

/-- A new device has nothing. -/
theorem fresh (id : DeviceId) (format : ImageFormat) (maxRetry : Nat) :
    (Device.fresh id format maxRetry : Device H F).Accounted [] where
  log := rfl
  own := fun x hx => by cases hx
  balance := .refl _
  nodup := List.nodup_nil
  bound := fun t ht => by cases ht
  given := fun c hc => by cases hc
  sound := trivial

/-- What a device has was not closed. -/
theorem not_closed (h : d.Accounted calls) {c : Connection H} (hc : c ∈ d.connections) :
    d.ticket c ∉ Call.closes calls := by
  have hnodup := h.balance.nodup_iff.mpr h.nodup
  have hdisjoint := (List.nodup_append.mp hnodup).2.2
  intro hm
  exact hdisjoint _ (List.mem_map_of_mem hc) _ hm rfl

/-- What a device has is accounted for after a change. -/
theorem step (h : d.Accounted calls) (hc : d.Conserves new d') :
    d'.Accounted (new ++ calls) := by
  have hticket : d'.ticket = d.ticket := by
    unfold ticket
    rw [hc.id]
  refine ⟨?_, ?_, ?_, ?_, ?_, ?_, ?_⟩
  · -- the log tells the calls in their order
    rw [hc.log, h.log, List.map_append]
  · -- every call is on the device's own connections
    intro x hx
    rw [hc.id]
    rcases List.mem_append.mp hx with hx | hx
    · exact hc.own x hx
    · exact h.own x hx
  · -- what is open and what was closed are what was opened
    rw [hticket, Call.closes_append, Call.opens_append, ← List.append_assoc]
    have hswap : (d.connections.map d.ticket ++ Call.opens new ++ Call.closes calls).Perm
        (Call.opens new ++ (d.connections.map d.ticket ++ Call.closes calls)) := by
      rw [← List.append_assoc]
      exact List.perm_append_comm.append_right _
    exact ((hc.balance.append_right _).trans hswap).trans (h.balance.append_left _)
  · -- an open that succeeds has a number above all before it
    rw [Call.opens_append]
    rcases hc.opened with ⟨ho, -⟩ | ⟨ho, -⟩
    · rw [ho]
      exact h.nodup
    · rw [ho]
      refine List.nodup_cons.mpr ⟨?_, h.nodup⟩
      intro hm
      exact Nat.not_succ_le_self _ (h.bound _ hm)
  · -- and no number is above the last
    rw [Call.opens_append]
    intro t ht
    rcases hc.opened with ⟨ho, hn⟩ | ⟨ho, hn⟩ <;> rw [ho] at ht <;> rw [hn]
    · exact h.bound t ht
    · rcases List.mem_cons.mp ht with rfl | ht
      · exact Nat.le_refl _
      · exact Nat.le_succ_of_le (h.bound t ht)
  · -- a connection that is there was given by an open
    intro c hm
    rw [hc.id]
    rcases hc.kept c hm with hm | hm
    · exact List.mem_append_right _ (h.given c hm)
    · exact List.mem_append_left _ hm
  · -- the calls of the step follow those before as they must
    refine h.sound.append hc.last ?_
    intro x hx n hn
    obtain ⟨c, hm, rfl, hhandle⟩ := hc.made x hx n hn
    rw [hc.own x hx]
    exact ⟨⟨c.handle, hhandle, h.given c hm⟩, h.not_closed hm⟩

/-- What an open has given was closed, or the device has it. -/
theorem closed_or_has (h : d.Accounted calls) {n : Nat} (hn : Event.opened (.ok n) ∈ d.log) :
    Event.closed n ∈ d.log ∨ ∃ c ∈ d.connections, c.number = n := by
  rw [h.log] at hn ⊢
  obtain ⟨x, hx, hevent⟩ := List.mem_map.mp hn
  have hopened : (d.id, n) ∈ Call.opens calls :=
    Call.mem_tickets.mpr ⟨x, hx, h.own x hx, by rw [hevent]; rfl⟩
  rcases List.mem_append.mp (h.balance.mem_iff.mpr hopened) with hhas | hclosed
  · obtain ⟨c, hc, hticket⟩ := List.mem_map.mp hhas
    exact .inr ⟨c, hc, (Prod.mk.inj hticket).2⟩
  · obtain ⟨y, hy, -, hyn⟩ := Call.mem_tickets.mp hclosed
    exact .inl (List.mem_map.mpr ⟨y, hy, Event.eq_closed hyn⟩)

end Accounted

end Device

/-- A step of a device does not change its identifier. -/
theorem Site.Reachable.apply_id [Camera σ H F] {s : Site σ H F} (h : s.Reachable)
    (pace : Site.Pace) (step : Site.Step) : (s.apply pace step).device.id = s.device.id := by
  obtain ⟨calls, hch⟩ := Site.apply_change pace s step
  exact (h.exclusive.conserves hch).id

end CameraDriver
