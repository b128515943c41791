/-
What a plan comes to: how many opens are made by a task in charge, until when,
and what happens after that.

A task that has ended does not come back, and its token is not handed out again
(`Gone`). While it is in charge no other task begins to open the device; opens
that an earlier task was cancelled in may still come back, and the tokens of
those are known beforehand (`abandoned`). Beginnings are here too: a caller of
connect, and the loss of a link.
-/
import CameraDriver.Proofs.Device.Plan

namespace CameraDriver

variable {σ H F : Type}

-- ================================================================== ended

namespace Device

variable {p : Plan} {made : List (Try H)} {now : Nat} {d d' : Device H F}
  {calls : List (Call H)}

/-- A change hands out the next token at most; all other tasks go by tokens of
before. -/
theorem Change.tokens {pace : Site.Pace} {step : Site.Step} (hch : Change pace step d calls d') :
    d.nextToken ≤ d'.nextToken
      ∧ ∀ k ∈ d'.links, k.token = d.nextToken ∨ ∃ k₀ ∈ d.links, k₀.token = k.token := by
  have hold : ∀ k ∈ d.links, k.token = d.nextToken ∨ ∃ k₀ ∈ d.links, k₀.token = k.token :=
    fun k hk => .inr ⟨k, hk, rfl⟩
  have hset : ∀ token stage, ∀ k ∈ (d.setStage token stage).links,
      k.token = d.nextToken ∨ ∃ k₀ ∈ d.links, k₀.token = k.token := by
    intro token stage k hk
    rcases mem_setStage hk with ⟨k₀, hk₀, -, rfl⟩ | ⟨hk, -⟩
    · exact .inr ⟨k₀, hk₀, rfl⟩
    · exact hold k hk
  have hend : ∀ token, ∀ k ∈ (d.endLink token).links,
      k.token = d.nextToken ∨ ∃ k₀ ∈ d.links, k₀.token = k.token :=
    fun token k hk => hold k (mem_endLink.mp hk).1
  have hnew : ∀ stage, ∀ k ∈ d.links ++ [{ token := d.nextToken, stage }],
      k.token = d.nextToken ∨ ∃ k₀ ∈ d.links, k₀.token = k.token := by
    intro stage k hk
    rcases List.mem_append.mp hk with hk | hk
    · exact hold k hk
    · exact .inl (congrArg LinkTask.token (List.mem_singleton.mp hk))
  cases hch with
  | still => exact ⟨Nat.le_refl _, hold⟩
  | beside _ hb => exact ⟨Nat.le_of_eq hb.nextToken.symm, fun k hk => hold k (hb.links ▸ hk)⟩
  | @failed _ _ m _ _ _ hb _ =>
      refine ⟨hb.nextToken ▸ Nat.le_succ _, ?_⟩
      intro k hk
      rcases List.mem_append.mp hk with hk | hk
      · exact hold k (hb.links ▸ hk)
      · rw [List.mem_singleton.mp hk]
        exact .inl hb.nextToken
  | begun _ _ => exact ⟨Nat.le_succ _, hnew _⟩
  | lost _ => exact ⟨Nat.le_succ _, hnew _⟩
  | stopped =>
      refine ⟨Nat.le_of_eq (stopped_nextToken d).symm, ?_⟩
      intro k hk
      rw [stopped_links] at hk
      obtain ⟨k₀, hk₀, ht, -⟩ := mem_withdrawn hk
      exact .inr ⟨k₀, hk₀, ht.symm⟩
  | opened _ _ handle => exact ⟨Nat.le_refl _, hset _ _⟩
  | refused _ _ e => exact ⟨Nat.le_refl _, hset _ _⟩
  | broken _ _ e => exact ⟨Nat.le_refl _, hset _ _⟩
  | dropped _ _ _ => exact ⟨Nat.le_refl _, hend _⟩
  | ended _ _ _ => exact ⟨Nat.le_refl _, hend _⟩
  | @connected _ _ token _ c _ _ _ =>
      refine ⟨Nat.le_of_eq (connectedBy_nextToken d token c).symm, ?_⟩
      rw [connectedBy_links]
      exact hend token
  | @handedOver _ _ token k _ hk _ _ =>
      refine ⟨Nat.le_refl _, ?_⟩
      intro k' hk'
      rcases List.mem_append.mp hk' with hk' | hk'
      · exact hend token k' hk'
      · -- the loop takes over the token of the task that has failed
        obtain ⟨hm, ht⟩ := mem_of_link? hk
        rw [List.mem_singleton.mp hk']
        exact .inr ⟨k, hm, ht⟩
  | retried _ _ _ _ => exact ⟨Nat.le_refl _, hset _ _⟩
  | exhausted _ _ _ _ => exact ⟨Nat.le_refl _, hend _⟩
  | loopEnded _ _ _ =>
      refine ⟨Nat.le_of_eq (detached_nextToken d).symm, ?_⟩
      rw [endLink_links_congr (detached_links d)]
      exact hend _
  | @loopSpent _ _ token _ _ _ _ _ =>
      refine ⟨Nat.le_of_eq (detached_nextToken d).symm, ?_⟩
      intro k hk
      exact hend token k (endLink_links_congr (detached_links d) ▸ hk)
  | loopBegun _ _ _ _ =>
      refine ⟨Nat.le_of_eq (detached_nextToken d).symm, ?_⟩
      rw [setStage_links_congr _ (detached_links d)]
      exact hset _ _
  | woken _ _ _ _ => exact ⟨Nat.le_refl _, hset _ _⟩

/-- A task that is gone does not come back. -/
theorem Gone.change {pace : Site.Pace} {step : Site.Step} (h : d.Gone p)
    (hch : Change pace step d calls d') : d'.Gone p := by
  obtain ⟨hnext, htokens⟩ := hch.tokens
  refine ⟨?_, Nat.lt_of_lt_of_le h.past hnext⟩
  intro k hk ht
  rcases htokens k hk with hnew | ⟨k₀, hk₀, ht₀⟩
  · exact Nat.ne_of_lt h.past (ht.symm.trans hnew)
  · exact h.absent k₀ hk₀ (ht₀.trans ht)

end Device

namespace Site

variable [Camera σ H F] {p : Plan} {s : Site σ H F}

/-- A loop that is gone does not come back. -/
theorem apply_gone (h : s.device.Gone p) (pace : Pace) (step : Step) :
    (s.apply pace step).device.Gone p := by
  obtain ⟨calls, hch⟩ := apply_change pace s step
  exact h.change hch

/-- A task that is gone makes no tries. -/
theorem own_tried?_of_gone (h : s.device.Gone p) (now : Nat) (step : Step) :
    p.own (s.tried? now step).toList = [] := by
  cases htried : s.tried? now step with
  | none => rfl
  | some t =>
      obtain ⟨k, hk, ht, -⟩ := opening_of_tried? htried
      have hne := h.absent k hk
      rw [ht] at hne
      simp [Plan.own, hne]

end Site

-- =================================================================== bounds

namespace Plan

variable {p : Plan} {made : List (Try H)} {attempt : Attempt}

/-- The next attempt is within the budget. -/
theorem Next.number_le (h : p.Next made attempt)
    (hin : (LinkStage.opening attempt : LinkStage H).InBudget) : attempt.number ≤ p.max := by
  cases attempt with
  | first => exact Nat.zero_le _
  | retry n max =>
      have hle : n ≤ max := hin.2
      rw [h.budget n max rfl] at hle
      exact hle

/-- The tries that were made have the numbers from the first one on. -/
theorem Scheduled.exists_number {n : Nat} (h : p.Scheduled made) (hfirst : p.first ≤ n)
    (hlt : n < p.first + made.length) : ∃ t ∈ made, t.number = n := by
  induction made with
  | nil =>
      rw [List.length_nil] at hlt
      omega
  | cons t earlier ih =>
      obtain ⟨hnumber, -, -, hrest⟩ := h
      rw [List.length_cons] at hlt
      by_cases heq : t.number = n
      · exact ⟨t, List.mem_cons_self, heq⟩
      · obtain ⟨e, he, hen⟩ := ih hrest (by omega)
        exact ⟨e, List.mem_cons_of_mem _ he, hen⟩

/-- The tries of a task that has ended: the last one has succeeded, or all have
failed and the budget is spent. -/
def Finished (p : Plan) (made : List (Try H)) : Prop :=
  (∃ last earlier, made = last :: earlier ∧ last.succeeded = true)
    ∨ (∀ t ∈ made, t.succeeded = false) ∧ p.first + made.length = p.max + 1

end Plan

namespace Device

variable {p : Plan} {made : List (Try H)} {now later : Nat} {d : Device H F}

/-- Whether every task that is not cancelled sleeps until a time or longer. -/
def SleepsUntil (later : Nat) (d : Device H F) : Prop :=
  ∀ k ∈ d.links, k.cancelled = false → ∃ made max due,
    k.stage = .sleeping made max due ∧ later ≤ due

/-- A loop that sleeps until a time sleeps until an earlier one. -/
theorem SleepsUntil.mono {due : Nat} (h : d.SleepsUntil due) (hle : later ≤ due) :
    d.SleepsUntil later := by
  intro k hk hc
  obtain ⟨made, max, due', hst, hle'⟩ := h k hk hc
  exact ⟨made, max, due', hst, Nat.le_trans hle hle'⟩

/-- While the task in charge sleeps the clock may move on. -/
theorem Live.wait (h : d.Live p made now) (hx : d.Exclusive) (hs : d.SleepsUntil later) :
    d.Live p made later := by
  refine ⟨h.charged, h.budget, h.scheduled, ?_⟩
  intro k hk ht
  have hc : k.cancelled = false := by
    rw [hx.live k hk, ht]
    exact h.charged
  obtain ⟨n, max, due, hst, hle⟩ := hs k hk hc
  have hstands := h.stands k hk ht
  rw [hst] at hstands ⊢
  obtain ⟨hfailed, hnumber, hmax, hdue, -⟩ := hstands
  exact ⟨hfailed, hnumber, hmax, hdue, hle⟩

/-- While a task is in charge it has made no more tries than it may, and the
clock is not past the time of its next one, nor of its last one. -/
theorem Live.bounds (h : d.Live p made now) (hx : d.Exclusive) (hp : d.Phased) :
    p.first + made.length ≤ p.max + 1 ∧ now ≤ p.due (p.first + made.length)
      ∧ now ≤ p.due p.max := by
  obtain ⟨k, hk, -, -, hc, hstands⟩ := h.task hx
  have hin := (hp.busy k hk hc).inBudget
  cases hst : k.stage with
  | opening attempt =>
      rw [hst] at hstands hin
      obtain ⟨-, hnext, rfl⟩ := hstands
      have hle := hnext.number_le hin
      have hnumber := hnext.number
      refine ⟨by omega, p.due_le (by omega), p.due_le hle⟩
  | opened attempt result =>
      rw [hst] at hstands hin
      obtain ⟨t, earlier, rfl, -, -, hnext, rfl⟩ := hstands
      have hle := hnext.number_le ((LinkStage.inBudget_opened attempt result).mp hin)
      have hnumber := hnext.number
      rw [List.length_cons]
      refine ⟨by omega, p.due_le (by omega), p.due_le hle⟩
  | spawned =>
      rw [hst] at hstands
      obtain ⟨-, hone, rfl⟩ := hstands
      refine ⟨by omega, ?_, ?_⟩
      · exact Nat.le_add_right _ _
      · exact Nat.le_add_right _ _
  | sleeping n max due =>
      rw [hst] at hstands hin
      obtain ⟨-, hnumber, rfl, rfl, hle⟩ := hstands
      have hlt : n < p.max := hin
      refine ⟨by omega, ?_, Nat.le_trans hle (p.due_le hlt)⟩
      rw [← hnumber]
      exact hle

/-- A loop that has settled has finished as it should. -/
theorem Settled.finished (h : d.Settled p made) : p.Finished made := by
  rcases h.outcome with ⟨last, earlier, c, hmade, hresult, -⟩ | ⟨hfailed, hspent, -⟩
  · refine .inl ⟨last, earlier, hmade, ?_⟩
    rw [Try.succeeded, hresult]
    rfl
  · exact .inr ⟨hfailed, hspent⟩

/-- A task that is gone is not in charge. -/
theorem Gone.not_charged (h : d.Gone p) (hx : d.Exclusive) :
    d.record.linkTask ≠ some p.token := by
  intro hr
  obtain ⟨k, hk, ht⟩ := hx.charged _ hr
  exact h.absent k hk ht

end Device

-- ============================================================= other opens

namespace Device

variable {p : Plan} {token : Token} {old : List Token} {d d' : Device H F}
  {calls : List (Call H)}

/-- The cancelled tasks that have an open on the way. -/
def abandoned (d : Device H F) : List Token :=
  (d.links.filter fun k => k.cancelled && k.stage.isOpening).map (·.token)

/-- Whether the opens on the way are those of one task and of some old ones. -/
def OpensOnly (token : Token) (old : List Token) (d : Device H F) : Prop :=
  ∀ k ∈ d.links, k.stage.isOpening = true → k.token = token ∨ k.token ∈ old

/-- The task in charge is the only one whose open was not abandoned. -/
theorem opensOnly_abandoned (hx : d.Exclusive) (hr : d.record.linkTask = some token) :
    d.OpensOnly token d.abandoned := by
  intro k hk ho
  cases hc : k.cancelled with
  | false =>
      have ht := (hx.live k hk).mp hc
      rw [hr] at ht
      exact .inl (Option.some.inj ht).symm
  | true =>
      refine .inr (List.mem_map_of_mem (List.mem_filter.mpr ⟨hk, ?_⟩))
      rw [hc, ho]
      rfl

/-- An open that is on the way after a change was so before, or is that of the
task in charge. -/
theorem Change.opening {pace : Site.Pace} {step : Site.Step} (hch : Change pace step d calls d')
    (hx : d.Exclusive) : ∀ k ∈ d'.links, k.stage.isOpening = true →
      (∃ k₀ ∈ d.links, k₀.token = k.token ∧ k₀.stage.isOpening = true)
        ∨ d'.record.linkTask = some k.token := by
  have hold : ∀ k ∈ d.links, k.stage.isOpening = true →
      (∃ k₀ ∈ d.links, k₀.token = k.token ∧ k₀.stage.isOpening = true)
        ∨ d'.record.linkTask = some k.token := fun k hk ho => .inl ⟨k, hk, rfl, ho⟩
  have hset : ∀ token (stage : LinkStage H), stage.isOpening = false →
      ∀ k ∈ (d.setStage token stage).links, k.stage.isOpening = true →
      (∃ k₀ ∈ d.links, k₀.token = k.token ∧ k₀.stage.isOpening = true)
        ∨ d'.record.linkTask = some k.token := by
    intro token stage hstage k hk ho
    rcases mem_setStage hk with ⟨k₀, -, -, rfl⟩ | ⟨hk, -⟩
    · rw [hstage] at ho
      cases ho
    · exact hold k hk ho
  have hend : ∀ token, ∀ k ∈ (d.endLink token).links, k.stage.isOpening = true →
      (∃ k₀ ∈ d.links, k₀.token = k.token ∧ k₀.stage.isOpening = true)
        ∨ d'.record.linkTask = some k.token :=
    fun token k hk => hold k (mem_endLink.mp hk).1
  cases hch with
  | still => exact hold
  | beside _ hb => exact fun k hk => hold k (hb.links ▸ hk)
  | failed _ _ hb _ =>
      intro k hk ho
      rcases List.mem_append.mp hk with hk | hk
      · exact hold k (hb.links ▸ hk) ho
      · rw [List.mem_singleton.mp hk] at ho
        cases ho
  | begun _ _ =>
      intro k hk ho
      rcases List.mem_append.mp hk with hk | hk
      · exact hold k hk ho
      · rw [List.mem_singleton.mp hk]
        exact .inr rfl
  | lost _ =>
      intro k hk ho
      rcases List.mem_append.mp hk with hk | hk
      · exact hold k hk ho
      · rw [List.mem_singleton.mp hk] at ho
        cases ho
  | stopped =>
      intro k hk ho
      rw [stopped_links] at hk
      obtain ⟨k₀, hk₀, ht, hst, -⟩ := mem_withdrawn hk
      exact .inl ⟨k₀, hk₀, ht.symm, hst ▸ ho⟩
  | opened _ _ handle => exact hset _ _ rfl
  | refused _ _ e => exact hset _ _ rfl
  | broken _ _ e => exact hset _ _ rfl
  | dropped _ _ _ => exact hend _
  | ended _ _ _ => exact hend _
  | @connected _ _ token _ c _ _ _ =>
      rw [connectedBy_links]
      exact hend token
  | @handedOver _ _ token _ _ _ _ _ =>
      intro k hk ho
      rcases List.mem_append.mp hk with hk | hk
      · exact hend token k hk ho
      · rw [List.mem_singleton.mp hk] at ho
        cases ho
  | retried _ _ _ _ => exact hset _ _ rfl
  | exhausted _ _ _ _ => exact hend _
  | loopEnded _ _ _ =>
      rw [endLink_links_congr (detached_links d)]
      exact hend _
  | @loopSpent _ _ token _ _ _ _ _ =>
      exact fun k hk => hend token k (endLink_links_congr (detached_links d) ▸ hk)
  | loopBegun _ _ _ _ =>
      rw [setStage_links_congr _ (detached_links d)]
      exact hset _ _ rfl
  | woken hk' _ hc _ =>
      intro k hk ho
      rcases mem_setStage hk with ⟨k₀, -, ht, rfl⟩ | ⟨hk, -⟩
      · right
        show d.record.linkTask = some k₀.token
        rw [ht]
        exact hx.linkTask_eq hk' hc
      · exact hold k hk ho

/-- While one task is in charge no other one starts an open. -/
theorem OpensOnly.change {pace : Site.Pace} {step : Site.Step} (h : d.OpensOnly token old)
    (hx : d.Exclusive) (hch : Change pace step d calls d')
    (hr : ∀ t, d'.record.linkTask = some t → t = token) : d'.OpensOnly token old := by
  intro k hk ho
  rcases hch.opening hx k hk ho with ⟨k₀, hk₀, ht, ho₀⟩ | hcharged
  · rw [← ht]
    exact h k₀ hk₀ ho₀
  · exact .inl (hr _ hcharged)

end Device

-- ============================================================== beginnings

namespace Device

variable {p : Plan} {now interval : Nat} {d d' : Device H F}

/-- A task that is added and put in charge begins its plan. -/
theorem Live.of_new (hx : d.Exclusive) {stage : LinkStage H} (ht : p.token = d.nextToken)
    (hl : d'.links = d.links ++ [{ token := d.nextToken, stage }])
    (hr : d'.record.linkTask = some d.nextToken) (hb : d'.record.maxRetry = p.max)
    (hst : p.Stands [] now stage) : d'.Live p [] now where
  charged := by
    rw [ht]
    exact hr
  budget := hb
  scheduled := trivial
  stands := by
    intro k hk hkt
    rw [hl] at hk
    rcases List.mem_append.mp hk with hk | hk
    · exact absurd (hkt.trans ht) (Nat.ne_of_lt (hx.fresh k hk))
    · rw [List.mem_singleton.mp hk]
      exact hst

/-- A caller of connect begins with an open at once. -/
theorem live_begun (hx : d.Exclusive) (now interval : Nat) :
    d.begun.Live ⟨d.nextToken, now, 0, d.record.maxRetry, interval⟩ [] now := by
  refine .of_new hx rfl rfl rfl rfl ⟨fun _ ht => (List.not_mem_nil ht).elim, ⟨rfl, ?_⟩, ?_⟩
  · intro n max h
    cases h
  · exact (Plan.due_zero ⟨d.nextToken, now, 0, d.record.maxRetry, interval⟩).symm

/-- A device that has lost its link begins with a pause. -/
theorem live_lost (hx : d.Exclusive) (now interval : Nat) :
    d.lost.Live ⟨d.nextToken, now, 1, d.record.maxRetry, interval⟩ [] now :=
  .of_new hx rfl rfl rfl rfl ⟨fun _ ht => (List.not_mem_nil ht).elim, rfl, rfl⟩

/-- A connected device stays connected, or has lost its link, unless it is
stopped. -/
theorem Change.of_connected {pace : Site.Pace} {step : Site.Step} {calls : List (Call H)}
    (hch : Change pace step d calls d') (hx : d.Exclusive) (hp : d.Phased)
    (hs : d.status = .connected) (hstop : step ≠ .stop) :
    d'.status = .connected ∨ ∃ m : Device H F, m.Exclusive ∧ d' = m.lost := by
  have hfree := hp.linkTask_of_connected hx hs
  -- no task is in charge, so that all are cancelled
  have hlive : ∀ {token k}, d.link? token = some k → k.cancelled = false → False := by
    intro token k hk hc
    have hr := hx.linkTask_eq hk hc
    rw [hfree] at hr
    cases hr
  cases hch with
  | still => exact .inl hs
  | beside _ hb => exact .inl (hb.status.trans hs)
  | failed _ _ hb _ => exact .inr ⟨_, hx.of_same hb.links hb.nextToken hb.linkTask, rfl⟩
  | begun _ hne => exact absurd hs hne
  | lost _ => exact .inr ⟨d, hx, rfl⟩
  | stopped => exact absurd rfl hstop
  | opened _ _ handle => exact .inl hs
  | refused _ _ e => exact .inl hs
  | broken _ _ e => exact .inl hs
  | dropped _ _ _ => exact .inl hs
  | ended _ _ _ => exact .inl hs
  | loopEnded _ _ _ => exact .inl ((detached_status d).trans hs)
  | connected hk _ hc => exact (hlive hk hc).elim
  | handedOver hk _ hc => exact (hlive hk hc).elim
  | retried hk _ hc _ => exact (hlive hk hc).elim
  | exhausted hk _ hc _ => exact (hlive hk hc).elim
  | loopSpent hk _ hc _ => exact (hlive hk hc).elim
  | loopBegun hk _ hc _ => exact (hlive hk hc).elim
  | woken hk _ hc _ => exact (hlive hk hc).elim

end Device

-- ============================================================== following

/-- A device keeps to a plan, with some tries behind it: the task is in charge
and nothing else is opened but what was abandoned before, or the task has ended
and has done its part. -/
def Device.Follows (p : Plan) (old : List Token) (tries : List (Try H)) (now : Nat)
    (d : Device H F) : Prop :=
  (d.Live p (p.own tries) now ∧ d.OpensOnly p.token old
      ∧ ∀ t ∈ tries, t.token = p.token ∨ t.token ∈ old)
    ∨ d.Gone p ∧ p.Finished (p.own tries) ∧ p.Scheduled (p.own tries)
      ∧ p.first + (p.own tries).length ≤ p.max + 1

/-- A plan is followed while its loop sleeps. -/
theorem Device.Follows.wait {p : Plan} {old : List Token} {tries : List (Try H)} {now later : Nat}
    {d : Device H F} (h : d.Follows p old tries now) (hx : d.Exclusive)
    (hs : d.SleepsUntil later) : d.Follows p old tries later := by
  rcases h with ⟨hlive, ho, ht⟩ | hgone
  · exact .inl ⟨hlive.wait hx hs, ho, ht⟩
  · exact .inr hgone

namespace Site

variable [Camera σ H F] {p : Plan} {old : List Token} {tries : List (Try H)} {now : Nat}
  {s : Site σ H F}

/-- A step with the task in charge leaves it there, or ends it. -/
theorem apply_charged (h : s.device.Live p (p.own tries) now)
    (ho : s.device.OpensOnly p.token old)
    (ht : ∀ t ∈ tries, t.token = p.token ∨ t.token ∈ old) (hr : s.Reachable) {pace : Pace}
    (hpace : pace.interval = p.interval) {step : Step} (hat : step.At now)
    (hstop : step ≠ .stop) :
    let d' := (s.apply pace step).device
    let tries' := (s.tried? now step).toList ++ tries
    (d'.Live p (p.own tries') now ∧ d'.OpensOnly p.token old
        ∧ ∀ t ∈ tries', t.token = p.token ∨ t.token ∈ old)
      ∨ s.tried? now step = none ∧ d'.Settled p (p.own tries) ∧ d'.Gone p
        ∧ d'.OpensOnly p.token old := by
  obtain ⟨calls, hch⟩ := apply_change pace s step
  rcases apply_live h hr hpace hat hstop with hlive | ⟨⟨token, rfl⟩, hsettled, hgone⟩
  · -- the task is still in charge
    left
    refine ⟨?_, ho.change hr.exclusive hch ?_, ?_⟩
    · rw [Plan.own, List.filter_append]
      exact hlive
    · -- another task that opens is an old one
      intro t ht
      rw [hlive.charged] at ht
      exact (Option.some.inj ht).symm
    · -- a new try is that of a task that was opening
      intro t hm
      rcases List.mem_append.mp hm with hm | hm
      · obtain ⟨k, hk, hkt, hst⟩ := opening_of_tried? (Option.mem_toList.mp hm)
        rw [← hkt]
        exact ho k hk hst
      · exact ht t hm
  · -- the task has ended, and settled
    refine .inr ⟨rfl, hsettled, hgone, ho.change hr.exclusive hch ?_⟩
    intro t ht
    rw [hsettled.linkTask] at ht
    cases ht

/-- A device that keeps to a plan goes on doing so. -/
theorem apply_follows (h : s.device.Follows p old tries now) (hr : s.Reachable) {pace : Pace}
    (hpace : pace.interval = p.interval) {step : Step} (hat : step.At now)
    (hstop : step ≠ .stop) :
    (s.apply pace step).device.Follows p old ((s.tried? now step).toList ++ tries) now := by
  rcases h with ⟨hlive, ho, ht⟩ | ⟨hgone, hdone⟩
  · rcases apply_charged hlive ho ht hr hpace hat hstop with h | ⟨htried, hsettled, hgone, -⟩
    · exact .inl h
    · rw [htried]
      obtain ⟨hbudget, -, -⟩ := hlive.bounds hr.exclusive hr.phased
      exact .inr ⟨hgone, hsettled.finished, hlive.scheduled, hbudget⟩
  · right
    rw [Plan.own, List.filter_append, ← Plan.own, own_tried?_of_gone hgone, List.nil_append]
    exact ⟨apply_gone hgone pace step, hdone⟩

/-- Calls are nothing to it. -/
theorem apply_follows_of_call (h : s.device.Follows p old tries now) (hr : s.Reachable)
    (pace : Pace) {step : Step} (hcall : step.isCall = true) :
    (s.apply pace step).device.Follows p old tries now := by
  rcases h with ⟨hlive, ho, ht⟩ | ⟨hgone, hdone⟩
  · have hlive' := apply_live_of_call hlive hr pace hcall
    obtain ⟨calls, hch⟩ := apply_change pace s step
    refine .inl ⟨hlive', ho.change hr.exclusive hch ?_, ht⟩
    intro t ht
    rw [hlive'.charged] at ht
    exact (Option.some.inj ht).symm
  · exact .inr ⟨apply_gone hgone pace step, hdone⟩

omit [Camera σ H F] in
/-- A device with no task in charge that is not connected gets one from a caller
of connect. -/
theorem beginConnect_of_free (hr : s.device.record.linkTask = none)
    (hs : s.device.status ≠ .connected) :
    s.beginConnect = (some s.device.nextToken, { s with device := s.device.begun }) := by
  unfold beginConnect
  rw [if_neg]
  · rfl
  · rw [hr, Option.isSome_none, Bool.false_or]
    exact fun hc => hs (status_of_isConnected hc)

/-- A connected device goes on being so, or has a loop in charge that begins. -/
theorem connected_or_live (hr : s.Reachable) (hs : s.device.status = .connected) (pace : Pace)
    {step : Step} (hstop : step ≠ .stop) (interval : Nat) :
    (s.apply pace step).device.status = .connected
      ∨ ∃ token, (s.apply pace step).device.Live
          ⟨token, now, 1, (s.apply pace step).device.record.maxRetry, interval⟩ [] now := by
  obtain ⟨calls, hch⟩ := apply_change pace s step
  rcases hch.of_connected hr.exclusive hr.phased hs hstop with hs' | ⟨m, hm, heq⟩
  · exact .inl hs'
  · rw [heq]
    exact .inr ⟨m.nextToken, m.live_lost hm now interval⟩

end Site

end CameraDriver
