/-
The list of a device's link tasks under the operations that steps are made
of: putting a task into a stage, cancelling the one in charge, ending one,
appending one. Each operation is told by membership, since the place of a task
in the list means nothing.

Most fields of the devices that changes end in are read off by `rfl`; where a
case distinction stands in the way (a connection to close, a task to cancel)
the field gets a lemma.
-/
import CameraDriver.Proofs.Device.Change

namespace CameraDriver

variable {σ H F : Type}

namespace Device

variable {d : Device H F} {token : Token}

-- ============================================================ noteClosed

/-- A note of a closed connection goes to the log only. -/
@[simp] theorem noteClosed_entry (d : Device H F) (c : Option (Connection H)) :
    (d.noteClosed c).toEntry = d.toEntry := by
  cases c <;> rfl

/-- A note of a closed connection moves no task. -/
@[simp] theorem noteClosed_links (d : Device H F) (c : Option (Connection H)) :
    (d.noteClosed c).links = d.links := by
  cases c <;> rfl

@[simp] theorem noteClosed_nextToken (d : Device H F) (c : Option (Connection H)) :
    (d.noteClosed c).nextToken = d.nextToken := by
  cases c <;> rfl

@[simp] theorem noteClosed_opened (d : Device H F) (c : Option (Connection H)) :
    (d.noteClosed c).opened = d.opened := by
  cases c <;> rfl

@[simp] theorem noteClosed_uploads (d : Device H F) (c : Option (Connection H)) :
    (d.noteClosed c).uploads = d.uploads := by
  cases c <;> rfl

/-- The note is one event, if there is a connection. -/
theorem noteClosed_log (d : Device H F) (c : Option (Connection H)) :
    (d.noteClosed c).log = (c.map fun c => Event.closed c.number).toList ++ d.log := by
  cases c <;> rfl

/-- What closes the connection of the record is noted as such. -/
theorem closing_events (d : Device H F) :
    d.closing.map (·.event)
      = (d.record.handle.map fun c => Event.closed c.number).toList := by
  unfold closing
  cases d.record.handle <;> rfl

-- ============================================================= withdrawn

/-- Cancelling the task in charge touches the list of tasks only. -/
@[simp] theorem withdrawn_entry (d : Device H F) : d.withdrawn.toEntry = d.toEntry := by
  unfold withdrawn
  split <;> rfl

@[simp] theorem withdrawn_nextToken (d : Device H F) : d.withdrawn.nextToken = d.nextToken := by
  unfold withdrawn
  split <;> rfl

@[simp] theorem withdrawn_opened (d : Device H F) : d.withdrawn.opened = d.opened := by
  unfold withdrawn
  split <;> rfl

@[simp] theorem withdrawn_uploads (d : Device H F) : d.withdrawn.uploads = d.uploads := by
  unfold withdrawn
  split <;> rfl

@[simp] theorem withdrawn_log (d : Device H F) : d.withdrawn.log = d.log := by
  unfold withdrawn
  split <;> rfl

/-- The task in charge is cancelled, the others stay. -/
theorem withdrawn_links (d : Device H F) :
    d.withdrawn.links = d.links.map fun k =>
      if d.record.linkTask = some k.token then { k with cancelled := true } else k := by
  unfold withdrawn
  split
  next t ht =>
    refine List.map_congr_left ?_
    intro k _
    rw [ht]
    by_cases hk : k.token = t
    · rw [if_pos hk, if_pos (by rw [hk])]
    · rw [if_neg hk, if_neg (fun h => hk (Option.some.inj h).symm)]
  next ht =>
    rw [ht]
    simp

-- =============================================================== endings

/-- Closing the connection of the record touches the record's handle and the log. -/
@[simp] theorem detached_id (d : Device H F) : d.detached.id = d.id := by
  unfold detached
  rw [noteClosed_entry]
  rfl

/-- Closing the connection of the record is noted, if there is one. -/
theorem detached_log (d : Device H F) :
    d.detached.log = d.closing.map (·.event) ++ d.log := by
  unfold detached
  rw [noteClosed_log, closing_events]
  rfl

/-- A detached device has its record, without the connection. -/
@[simp] theorem detached_record (d : Device H F) :
    d.detached.record = { d.record with handle := none } := by
  unfold detached
  rw [noteClosed_entry]
  rfl

/-- A detached device holds nothing. -/
@[simp] theorem detached_handle (d : Device H F) : d.detached.record.handle = none := by
  rw [detached_record]

/-- A detached device keeps the task in charge. -/
@[simp] theorem detached_linkTask (d : Device H F) :
    d.detached.record.linkTask = d.record.linkTask := by
  rw [detached_record]

/-- A detached device keeps its epoch. -/
@[simp] theorem detached_linkEpoch (d : Device H F) :
    d.detached.record.linkEpoch = d.record.linkEpoch := by
  rw [detached_record]

/-- A detached device keeps its count of attempts. -/
@[simp] theorem detached_retryCount (d : Device H F) :
    d.detached.record.retryCount = d.record.retryCount := by
  rw [detached_record]

@[simp] theorem detached_maxRetry (d : Device H F) :
    d.detached.record.maxRetry = d.record.maxRetry := by
  rw [detached_record]

/-- That a connection is closed is not announced. -/
@[simp] theorem detached_history (d : Device H F) : d.detached.history = d.history := by
  unfold detached
  rw [noteClosed_entry]
  rfl

/-- A detached device shows the status it showed. -/
@[simp] theorem detached_status (d : Device H F) : d.detached.status = d.status := by
  unfold Entry.status
  rw [detached_history]

/-- A detached device has its tasks where they stood. -/
@[simp] theorem detached_links (d : Device H F) : d.detached.links = d.links := by
  unfold detached
  rw [noteClosed_links]
  rfl

@[simp] theorem detached_nextToken (d : Device H F) : d.detached.nextToken = d.nextToken := by
  unfold detached
  rw [noteClosed_nextToken]
  rfl

@[simp] theorem detached_opened (d : Device H F) : d.detached.opened = d.opened := by
  unfold detached
  rw [noteClosed_opened]
  rfl

@[simp] theorem detached_uploads (d : Device H F) : d.detached.uploads = d.uploads := by
  unfold detached
  rw [noteClosed_uploads]
  rfl

/-- A stopped device is the same device. -/
@[simp] theorem stopped_id (d : Device H F) : d.stopped.id = d.id := by
  unfold stopped
  rw [noteClosed_entry]
  show d.withdrawn.id = _
  rw [withdrawn_entry]

/-- A stop is noted as the closing of the connection, if there is one. -/
theorem stopped_log (d : Device H F) : d.stopped.log = d.closing.map (·.event) ++ d.log := by
  unfold stopped
  rw [noteClosed_log, closing_events]
  show _ ++ d.withdrawn.log = _
  rw [withdrawn_log]

/-- The record of a stopped device has neither a task in charge nor a connection, and counts
no attempts. -/
@[simp] theorem stopped_record (d : Device H F) :
    d.stopped.record = { d.record with linkTask := none, retryCount := 0, handle := none } := by
  unfold stopped
  rw [noteClosed_entry]
  show ({ d.withdrawn.record with linkTask := none, retryCount := 0, handle := none } :
    Record (Connection H)) = _
  rw [withdrawn_entry]

/-- A stop is announced. -/
@[simp] theorem stopped_history (d : Device H F) :
    d.stopped.history = .disconnected :: d.history := by
  unfold stopped
  rw [noteClosed_entry]
  show Status.disconnected :: d.withdrawn.history = _
  rw [withdrawn_entry]

/-- A stopped device is disconnected. -/
@[simp] theorem stopped_status (d : Device H F) : d.stopped.status = .disconnected := by
  unfold Entry.status
  rw [stopped_history]
  rfl

/-- A stopped device has its tasks, and the one in charge is cancelled. -/
@[simp] theorem stopped_links (d : Device H F) : d.stopped.links = d.withdrawn.links := by
  unfold stopped
  rw [noteClosed_links]
  rfl

@[simp] theorem stopped_nextToken (d : Device H F) : d.stopped.nextToken = d.nextToken := by
  unfold stopped
  rw [noteClosed_nextToken]
  exact withdrawn_nextToken d

@[simp] theorem stopped_opened (d : Device H F) : d.stopped.opened = d.opened := by
  unfold stopped
  rw [noteClosed_opened]
  exact withdrawn_opened d

@[simp] theorem stopped_uploads (d : Device H F) : d.stopped.uploads = d.uploads := by
  unfold stopped
  rw [noteClosed_uploads]
  exact withdrawn_uploads d

/-- A device that was connected is the same device. -/
@[simp] theorem connectedBy_id (d : Device H F) (token : Token) (c : Connection H) :
    (d.connectedBy token c).id = d.id := by
  show (Device.noteClosed _ _).id = _
  rw [noteClosed_entry]
  rfl

/-- A connection that is replaced is noted as closed. -/
theorem connectedBy_log (d : Device H F) (token : Token) (c : Connection H) :
    (d.connectedBy token c).log = d.closing.map (·.event) ++ d.log := by
  show (Device.noteClosed _ _).log = _
  rw [noteClosed_log, closing_events]
  rfl

/-- The record of a device that was connected holds the new connection in a new epoch, no
task is in charge, and no attempts are counted. -/
@[simp] theorem connectedBy_record (d : Device H F) (token : Token) (c : Connection H) :
    (d.connectedBy token c).record =
      { d.record with
        linkEpoch := d.record.linkEpoch + 1
        handle := some c
        linkTask := none
        retryCount := 0 } := by
  show ({ (Device.noteClosed _ _).record with linkTask := none, retryCount := 0 } :
    Record (Connection H)) = _
  rw [noteClosed_entry]
  rfl

/-- That a device is connected is announced. -/
@[simp] theorem connectedBy_history (d : Device H F) (token : Token) (c : Connection H) :
    (d.connectedBy token c).history = .connected :: d.history := by
  show Status.connected :: (Device.noteClosed _ _).history = _
  rw [noteClosed_entry]
  rfl

/-- A device that was connected shows it. -/
@[simp] theorem connectedBy_status (d : Device H F) (token : Token) (c : Connection H) :
    (d.connectedBy token c).status = .connected := by
  unfold Entry.status
  rw [connectedBy_history]
  rfl

/-- The task that has connected a device has ended. -/
@[simp] theorem connectedBy_links (d : Device H F) (token : Token) (c : Connection H) :
    (d.connectedBy token c).links = (d.endLink token).links := by
  show (Device.noteClosed _ _).links = _
  rw [noteClosed_links]
  rfl

/-- Connecting a device gives out no token. -/
@[simp] theorem connectedBy_nextToken (d : Device H F) (token : Token) (c : Connection H) :
    (d.connectedBy token c).nextToken = d.nextToken := by
  show (Device.noteClosed _ _).nextToken = _
  rw [noteClosed_nextToken]
  rfl

/-- Connecting a device opens nothing: the open was counted before. -/
@[simp] theorem connectedBy_opened (d : Device H F) (token : Token) (c : Connection H) :
    (d.connectedBy token c).opened = d.opened := by
  show (Device.noteClosed _ _).opened = _
  rw [noteClosed_opened]
  rfl

/-- Connecting a device leaves its uploads. -/
@[simp] theorem connectedBy_uploads (d : Device H F) (token : Token) (c : Connection H) :
    (d.connectedBy token c).uploads = d.uploads := by
  show (Device.noteClosed _ _).uploads = _
  rw [noteClosed_uploads]
  rfl

/-- Links after a task has ended depend on the links before it alone. -/
theorem endLink_links_congr {d d' : Device H F} (h : d'.links = d.links) :
    (d'.endLink token).links = (d.endLink token).links := by
  unfold endLink
  rw [h]

/-- So do links after a task was put into a stage. -/
theorem setStage_links_congr {d d' : Device H F} (stage : LinkStage H)
    (h : d'.links = d.links) :
    (d'.setStage token stage).links = (d.setStage token stage).links := by
  unfold setStage
  rw [h]

-- ============================================================== membership

/-- A task after one was put into a stage: that one, or an old one. -/
theorem mem_setStage {stage : LinkStage H} {k : LinkTask H}
    (hk : k ∈ (d.setStage token stage).links) :
    (∃ k₀ ∈ d.links, k₀.token = token ∧ k = { k₀ with stage }) ∨ k ∈ d.links ∧ k.token ≠ token := by
  obtain ⟨k₀, hk₀, rfl⟩ := List.mem_map.mp hk
  by_cases ht : k₀.token = token
  · rw [if_pos ht]
    exact .inl ⟨k₀, hk₀, ht, rfl⟩
  · rw [if_neg ht]
    exact .inr ⟨hk₀, ht⟩

/-- A task is still there, perhaps in the new stage. -/
theorem setStage_mem {k : LinkTask H} (stage : LinkStage H) (hk : k ∈ d.links) :
    (if k.token = token then { k with stage } else k) ∈ (d.setStage token stage).links :=
  List.mem_map_of_mem hk

/-- When a task has ended those with another token are left. -/
theorem mem_endLink {k : LinkTask H} :
    k ∈ (d.endLink token).links ↔ k ∈ d.links ∧ k.token ≠ token := by
  unfold endLink
  rw [List.mem_filter]
  simp

/-- A task after the one in charge was cancelled is cancelled if it was, or if
it was in charge. -/
theorem mem_withdrawn {k : LinkTask H} (hk : k ∈ d.withdrawn.links) :
    ∃ k₀ ∈ d.links, k.token = k₀.token ∧ k.stage = k₀.stage
      ∧ (k.cancelled = true ↔ k₀.cancelled = true ∨ d.record.linkTask = some k₀.token) := by
  rw [withdrawn_links] at hk
  obtain ⟨k₀, hk₀, rfl⟩ := List.mem_map.mp hk
  refine ⟨k₀, hk₀, ?_⟩
  by_cases hc : d.record.linkTask = some k₀.token
  · rw [if_pos hc]
    exact ⟨rfl, rfl, by simp [hc]⟩
  · rw [if_neg hc]
    exact ⟨rfl, rfl, by simp [hc]⟩

/-- What is found is there, under its token. -/
theorem mem_of_link? {k : LinkTask H} (hk : d.link? token = some k) :
    k ∈ d.links ∧ k.token = token := by
  unfold link? at hk
  exact ⟨List.mem_of_find?_eq_some hk, by simpa using List.find?_some hk⟩

/-- A task that was put into a stage is there in that stage. -/
theorem mem_of_setStage {k : LinkTask H} (stage : LinkStage H) (hk : d.link? token = some k) :
    { k with stage } ∈ (d.setStage token stage).links := by
  obtain ⟨hm, ht⟩ := mem_of_link? hk
  have hmem : (if k.token = token then { k with stage } else k)
      ∈ (d.setStage token stage).links := setStage_mem stage hm
  rw [if_pos ht] at hmem
  exact hmem

-- =============================================================== look-up

/-- What is found under a token depends on the tasks alone. -/
theorem link?_congr {d' : Device H F} (h : d'.links = d.links) : d'.link? token = d.link? token := by
  unfold link?
  rw [h]

/-- A task that was put into a stage is found in it. -/
theorem link?_setStage_self {k : LinkTask H} (stage : LinkStage H)
    (hk : d.link? token = some k) : (d.setStage token stage).link? token = some { k with stage } := by
  obtain ⟨token', cancelled, old⟩ := k
  obtain rfl : token' = token := (mem_of_link? hk).2
  unfold link? at hk ⊢
  unfold setStage
  rw [List.find?_map]
  have hkeeps : ((fun k : LinkTask H => k.token == token') ∘ fun k : LinkTask H =>
      if k.token = token' then { k with stage } else k) = fun k => k.token == token' := by
    funext k
    dsimp only [Function.comp]
    split <;> rfl
  rw [hkeeps, hk, Option.map_some, if_pos rfl]

/-- The others are found as they were. -/
theorem link?_setStage_ne {other : Token} (stage : LinkStage H) (h : other ≠ token) :
    (d.setStage token stage).link? other = d.link? other := by
  unfold link? setStage
  rw [List.find?_map]
  have hkeeps : ((fun k : LinkTask H => k.token == other) ∘ fun k : LinkTask H =>
      if k.token = token then { k with stage } else k) = fun k => k.token == other := by
    funext k
    dsimp only [Function.comp]
    split <;> rfl
  rw [hkeeps]
  cases hf : d.links.find? (fun k => k.token == other) with
  | none => rfl
  | some k =>
      have ht : k.token = other := by simpa using List.find?_some hf
      rw [Option.map_some, if_neg (ht ▸ h)]

/-- A task that has ended is not found. -/
theorem link?_endLink_self (d : Device H F) (token : Token) :
    (d.endLink token).link? token = none := by
  unfold link?
  rw [List.find?_eq_none]
  intro k hk
  simpa using (mem_endLink.mp hk).2

/-- The others are found as they were. -/
theorem link?_endLink_ne {other : Token} (h : other ≠ token) :
    (d.endLink token).link? other = d.link? other := by
  unfold link? endLink
  rw [List.find?_filter]
  congr 1
  funext k
  by_cases ht : k.token = other
  · simp [ht, h]
  · simp [ht]

/-- A task that is added is found if no other one stands under its token. -/
theorem link?_concat {d' : Device H F} {k : LinkTask H} (h : d'.links = d.links ++ [k]) :
    d'.link? token = (d.link? token).or (if k.token = token then some k else none) := by
  unfold link?
  rw [h, List.find?_append, List.find?_singleton]
  simp only [beq_iff_eq]

-- ================================================================ tokens

/-- A task keeps its token when it moves to another stage. -/
theorem setStage_tokens (stage : LinkStage H) :
    (d.setStage token stage).links.map (·.token) = d.links.map (·.token) := by
  unfold setStage
  rw [List.map_map]
  refine List.map_congr_left ?_
  intro k _
  dsimp only [Function.comp]
  split <;> rfl

/-- A task keeps its token when it is cancelled. -/
theorem withdrawn_tokens : d.withdrawn.links.map (·.token) = d.links.map (·.token) := by
  rw [withdrawn_links, List.map_map]
  refine List.map_congr_left ?_
  intro k _
  dsimp only [Function.comp]
  split <;> rfl

/-- No token is new when a task ends. -/
theorem endLink_tokens_sublist :
    ((d.endLink token).links.map (·.token)).Sublist (d.links.map (·.token)) :=
  List.filter_sublist.map _

end Device

end CameraDriver
