/-
One link task at most is in charge of a device, whatever the order of steps.

# The invariant

`Exclusive` ties the token that the record holds to the whole list of tasks,
cancelled ones included:

- tokens are handed out in ascending order and name one task each;
- a task is not cancelled exactly if the record holds its token;
- the token that the record holds is that of a task in the list.

A change touches it in one of seven ways (`Exclusive.of_same` to
`Exclusive.of_handedOver`): the tasks stay, one is added while none is in
charge, the one in charge is cancelled, one moves to another stage, a
cancelled one ends, the one in charge ends and clears the record, the one in
charge hands its token to a loop.
-/
import CameraDriver.Proofs.Device.Reachable
import Mathlib.Data.List.Nodup

namespace CameraDriver

variable {σ H F : Type}

namespace Device

/-- The token of the record and the tasks of the list agree. -/
structure Exclusive (d : Device H F) : Prop where
  fresh : ∀ k ∈ d.links, k.token < d.nextToken
  nodup : (d.links.map (·.token)).Nodup
  live : ∀ k ∈ d.links, k.cancelled = false ↔ d.record.linkTask = some k.token
  charged : ∀ t, d.record.linkTask = some t → ∃ k ∈ d.links, k.token = t

namespace Exclusive

variable {d d' : Device H F} {token : Token} {k : LinkTask H} {calls : List (Call H)}

-- ================================================================ reading

/-- A token names one task. -/
theorem eq_of_token (h : d.Exclusive) {k k' : LinkTask H} (hk : k ∈ d.links)
    (hk' : k' ∈ d.links) (ht : k.token = k'.token) : k = k' :=
  List.inj_on_of_nodup_map h.nodup hk hk' ht

/-- A task that is there is found under its token. -/
theorem link?_eq (h : d.Exclusive) (hk : k ∈ d.links) : d.link? k.token = some k := by
  cases hf : d.link? k.token with
  | none =>
      unfold link? at hf
      have := List.find?_eq_none.mp hf k hk
      simp at this
  | some k' =>
      obtain ⟨hk', ht⟩ := mem_of_link? hf
      rw [h.eq_of_token hk' hk ht]

/-- A task that is not cancelled is the one in charge. -/
theorem linkTask_eq (h : d.Exclusive) (hk : d.link? token = some k) (hc : k.cancelled = false) :
    d.record.linkTask = some token := by
  obtain ⟨hm, ht⟩ := mem_of_link? hk
  rw [← ht]
  exact (h.live k hm).mp hc

/-- Two tasks that are not cancelled are one. -/
theorem eq_of_live (h : d.Exclusive) {k k' : LinkTask H} (hk : k ∈ d.links)
    (hk' : k' ∈ d.links) (hc : k.cancelled = false) (hc' : k'.cancelled = false) : k = k' := by
  have ht := (h.live k hk).mp hc
  rw [(h.live k' hk').mp hc'] at ht
  exact h.eq_of_token hk hk' (Option.some.inj ht).symm

-- =========================================================== preservation

theorem of_same (h : d.Exclusive) (hl : d'.links = d.links)
    (hn : d'.nextToken = d.nextToken) (hr : d'.record.linkTask = d.record.linkTask) :
    d'.Exclusive := by
  obtain ⟨h1, h2, h3, h4⟩ := h
  refine ⟨?_, ?_, ?_, ?_⟩ <;> rw [hl]
  · rw [hn]
    exact h1
  · exact h2
  · rw [hr]
    exact h3
  · rw [hr]
    exact h4

/-- A task is added and put in charge. -/
theorem of_new (h : d.Exclusive) (hfree : d.record.linkTask = none) (stage : LinkStage H)
    (hl : d'.links = d.links ++ [{ token := d.nextToken, stage }])
    (hn : d'.nextToken = d.nextToken + 1) (hr : d'.record.linkTask = some d.nextToken) :
    d'.Exclusive := by
  have hnew : ∀ k ∈ d'.links, k ∈ d.links ∨ k = { token := d.nextToken, stage } := by
    intro k hk
    rw [hl] at hk
    rcases List.mem_append.mp hk with hk | hk
    · exact .inl hk
    · exact .inr (List.mem_singleton.mp hk)
  refine ⟨?_, ?_, ?_, ?_⟩
  · -- the new token is above every old one
    intro k hk
    rw [hn]
    rcases hnew k hk with hk | rfl
    · exact Nat.lt_succ_of_lt (h.fresh k hk)
    · exact Nat.lt_succ_self _
  · -- so no token occurs twice
    rw [hl, List.map_append, List.nodup_append]
    refine ⟨h.nodup, List.nodup_singleton _, ?_⟩
    intro t ht t' ht'
    obtain ⟨k, hk, rfl⟩ := List.mem_map.mp ht
    rw [List.mem_singleton.mp ht']
    exact Nat.ne_of_lt (h.fresh k hk)
  · -- only the new task is live
    intro k hk
    rw [hr]
    rcases hnew k hk with hk | rfl
    · -- no task was in charge, so every old one is cancelled
      have hc : ¬ k.cancelled = false := by
        rw [h.live k hk, hfree]
        exact fun h => by cases h
      have ht : some d.nextToken ≠ some k.token := by
        intro ht
        have := h.fresh k hk
        rw [← Option.some.inj ht] at this
        exact Nat.lt_irrefl _ this
      exact ⟨fun h => absurd h hc, fun h => absurd h ht⟩
    · exact ⟨fun _ => rfl, fun _ => rfl⟩
  · -- and the token in the record is its own
    intro t ht
    rw [hr] at ht
    refine ⟨{ token := d.nextToken, stage }, ?_, Option.some.inj ht⟩
    rw [hl]
    exact List.mem_concat_self

/-- The task in charge is cancelled. -/
theorem of_withdrawn (h : d.Exclusive) (hl : d'.links = d.withdrawn.links)
    (hn : d'.nextToken = d.nextToken) (hr : d'.record.linkTask = none) : d'.Exclusive := by
  refine ⟨?_, ?_, ?_, ?_⟩
  · intro k hk
    rw [hl] at hk
    obtain ⟨k₀, hk₀, ht, -, -⟩ := mem_withdrawn hk
    rw [hn, ht]
    exact h.fresh k₀ hk₀
  · rw [hl, withdrawn_tokens]
    exact h.nodup
  · intro k hk
    rw [hl] at hk
    obtain ⟨k₀, hk₀, -, -, hc⟩ := mem_withdrawn hk
    have hc : k.cancelled = true := by
      rw [hc]
      cases hk₀c : k₀.cancelled with
      | true => exact .inl rfl
      | false => exact .inr ((h.live k₀ hk₀).mp hk₀c)
    rw [hr, hc]
    simp
  · intro t ht
    rw [hr] at ht
    cases ht

/-- A task moves to another stage. -/
theorem of_setStage (h : d.Exclusive) (stage : LinkStage H)
    (hl : d'.links = (d.setStage token stage).links) (hn : d'.nextToken = d.nextToken)
    (hr : d'.record.linkTask = d.record.linkTask) : d'.Exclusive := by
  refine ⟨?_, ?_, ?_, ?_⟩
  · -- tokens stay below the next one
    intro k hk
    rw [hl] at hk
    rw [hn]
    rcases mem_setStage hk with ⟨k₀, hk₀, -, rfl⟩ | ⟨hk, -⟩
    · exact h.fresh k₀ hk₀
    · exact h.fresh k hk
  · -- the stage changes, the tokens do not
    rw [hl, setStage_tokens]
    exact h.nodup
  · -- nor does who is cancelled
    intro k hk
    rw [hl] at hk
    rw [hr]
    rcases mem_setStage hk with ⟨k₀, hk₀, -, rfl⟩ | ⟨hk, -⟩
    · exact h.live k₀ hk₀
    · exact h.live k hk
  · -- the task in charge is there, whatever its stage
    intro t ht
    rw [hr] at ht
    obtain ⟨k, hk, rfl⟩ := h.charged t ht
    refine ⟨_, hl ▸ setStage_mem stage hk, ?_⟩
    split <;> rfl

/-- A cancelled task ends. -/
theorem of_ended (h : d.Exclusive) (hk : d.link? token = some k) (hc : k.cancelled = true)
    (hl : d'.links = (d.endLink token).links) (hn : d'.nextToken = d.nextToken)
    (hr : d'.record.linkTask = d.record.linkTask) : d'.Exclusive := by
  refine ⟨?_, ?_, ?_, ?_⟩
  · intro k' hk'
    rw [hl] at hk'
    rw [hn]
    exact h.fresh k' (mem_endLink.mp hk').1
  · rw [hl]
    exact h.nodup.sublist endLink_tokens_sublist
  · intro k' hk'
    rw [hl] at hk'
    rw [hr]
    exact h.live k' (mem_endLink.mp hk').1
  · intro t ht
    rw [hr] at ht
    obtain ⟨k', hk', rfl⟩ := h.charged t ht
    refine ⟨k', hl ▸ mem_endLink.mpr ⟨hk', ?_⟩, rfl⟩
    intro htok
    -- the task that ended would have been in charge
    obtain ⟨hm, htk⟩ := mem_of_link? hk
    have := (h.live k hm).mpr (by rw [htk, ht, htok])
    rw [hc] at this
    cases this

/-- The task in charge ends and clears the record. -/
theorem of_cleared (h : d.Exclusive) (hk : d.link? token = some k) (hc : k.cancelled = false)
    (hl : d'.links = (d.endLink token).links) (hn : d'.nextToken = d.nextToken)
    (hr : d'.record.linkTask = none) : d'.Exclusive := by
  have ht := h.linkTask_eq hk hc
  refine ⟨?_, ?_, ?_, ?_⟩
  · intro k' hk'
    rw [hl] at hk'
    rw [hn]
    exact h.fresh k' (mem_endLink.mp hk').1
  · rw [hl]
    exact h.nodup.sublist endLink_tokens_sublist
  · intro k' hk'
    rw [hl] at hk'
    obtain ⟨hk', hne⟩ := mem_endLink.mp hk'
    have hc' : ¬ k'.cancelled = false := by
      rw [h.live k' hk', ht]
      exact fun h => hne (Option.some.inj h).symm
    rw [hr]
    exact ⟨fun h => absurd h hc', fun h => by cases h⟩
  · intro t ht
    rw [hr] at ht
    cases ht

/-- The task in charge ends, and a loop takes over its token. -/
theorem of_handedOver (h : d.Exclusive) (hk : d.link? token = some k)
    (hc : k.cancelled = false) : (d.handedOver token).Exclusive := by
  have ht := h.linkTask_eq hk hc
  obtain ⟨hm, htk⟩ := mem_of_link? hk
  have hnew : ∀ k' ∈ (d.handedOver token).links,
      (k' ∈ d.links ∧ k'.token ≠ token) ∨ k' = { token, stage := .spawned } := by
    intro k' hk'
    rcases List.mem_append.mp hk' with hk' | hk'
    · exact .inl (mem_endLink.mp hk')
    · exact .inr (List.mem_singleton.mp hk')
  refine ⟨?_, ?_, ?_, ?_⟩
  · -- the loop takes the token of its caller, which was given out
    intro k' hk'
    rcases hnew k' hk' with ⟨hk', -⟩ | rfl
    · exact h.fresh k' hk'
    · exact htk ▸ h.fresh k hm
  · -- the caller is gone, so the token occurs once
    have hl : (d.handedOver token).links
        = (d.endLink token).links ++ [{ token, stage := .spawned }] := rfl
    rw [hl, List.map_append, List.nodup_append]
    refine ⟨h.nodup.sublist endLink_tokens_sublist, List.nodup_singleton _, ?_⟩
    intro t ht t' ht'
    obtain ⟨k', hk', rfl⟩ := List.mem_map.mp ht
    rw [List.mem_singleton.mp ht']
    exact (mem_endLink.mp hk').2
  · -- the loop is as live as the caller was
    intro k' hk'
    show k'.cancelled = false ↔ d.record.linkTask = some k'.token
    rcases hnew k' hk' with ⟨hk', -⟩ | rfl
    · exact h.live k' hk'
    · exact ⟨fun _ => ht, fun _ => rfl⟩
  · -- and it is the task in charge
    intro t ht'
    have ht' : d.record.linkTask = some t := ht'
    rw [ht] at ht'
    refine ⟨{ token, stage := .spawned }, ?_, Option.some.inj ht'⟩
    exact List.mem_concat_self

/-- Every change keeps the token of the record and the tasks of the list in
agreement. -/
theorem change {pace : Site.Pace} {step : Site.Step} (h : d.Exclusive)
    (hch : Change pace step d calls d') : d'.Exclusive := by
  cases hch with
  | still => exact h
  | beside _ hb => exact h.of_same hb.links hb.nextToken hb.linkTask
  | failed _ _ hb hm =>
      exact (h.of_same hb.links hb.nextToken hb.linkTask).of_new hm .spawned rfl rfl rfl
  | begun hr _ => exact h.of_new hr (.opening .first) rfl rfl rfl
  | lost hr => exact h.of_new hr .spawned rfl rfl rfl
  | stopped =>
      exact h.of_withdrawn (stopped_links d) (stopped_nextToken d) (by rw [stopped_record])
  | opened _ _ handle => exact h.of_setStage _ rfl rfl rfl
  | refused _ _ e => exact h.of_setStage _ rfl rfl rfl
  | broken _ _ e => exact h.of_setStage _ rfl rfl rfl
  | dropped hk _ hc => exact h.of_ended hk hc rfl rfl rfl
  | ended hk _ hc => exact h.of_ended hk hc rfl rfl rfl
  | connected hk _ hc =>
      exact h.of_cleared hk hc (connectedBy_links _ _ _) (connectedBy_nextToken _ _ _) rfl
  | handedOver hk _ hc => exact h.of_handedOver hk hc
  | retried _ _ _ _ => exact h.of_setStage _ rfl rfl rfl
  | exhausted hk _ hc _ => exact h.of_cleared hk hc rfl rfl rfl
  | loopEnded hk _ hc =>
      exact h.of_ended hk hc (endLink_links_congr (detached_links d)) (detached_nextToken d)
        (detached_linkTask d)
  | loopSpent hk _ hc _ =>
      exact h.of_cleared hk hc (endLink_links_congr (detached_links d)) (detached_nextToken d) rfl
  | loopBegun _ _ _ _ =>
      exact h.of_setStage _ (setStage_links_congr _ (detached_links d)) (detached_nextToken d)
        (detached_linkTask d)
  | woken _ _ _ _ => exact h.of_setStage _ rfl rfl rfl

end Exclusive

end Device

/-- In every state the token of the record and the tasks agree. -/
theorem Site.Reachable.exclusive [Camera σ H F] {s : Site σ H F} (h : s.Reachable) :
    s.device.Exclusive := by
  refine h.invariant ?_ ?_
  · -- a device that was just created has no task
    intro id format maxRetry
    refine ⟨?_, List.nodup_nil, ?_, ?_⟩
    · intro k hk
      cases hk
    · intro k hk
      cases hk
    · intro t ht
      cases ht
  · -- one step
    intro pace step d calls d' hd hch
    exact hd.change hch

-- ============================================================ live tasks

namespace Device

/-- The tasks that are not cancelled. -/
def live (d : Device H F) : List (LinkTask H) := d.links.filter (!·.cancelled)

theorem mem_live {d : Device H F} {k : LinkTask H} :
    k ∈ d.live ↔ k ∈ d.links ∧ k.cancelled = false := by
  unfold live
  rw [List.mem_filter]
  simp

/-- Without a token in the record every task is cancelled. -/
theorem Exclusive.live_eq_nil {d : Device H F} (h : d.Exclusive)
    (hr : d.record.linkTask = none) : d.live = [] := by
  rw [List.eq_nil_iff_forall_not_mem]
  intro k hk
  obtain ⟨hk, hc⟩ := mem_live.mp hk
  have := (h.live k hk).mp hc
  rw [hr] at this
  cases this

/-- With a token in the record one task is not cancelled, and the token is
its own. -/
theorem Exclusive.live_eq_singleton {d : Device H F} {t : Token} (h : d.Exclusive)
    (hr : d.record.linkTask = some t) : ∃ k, d.live = [k] ∧ k.token = t := by
  obtain ⟨k, hk, ht⟩ := h.charged t hr
  have hc : k.cancelled = false := (h.live k hk).mpr (by rw [hr, ht])
  refine ⟨k, ?_, ht⟩
  have hall : ∀ k' ∈ d.live, k' = k := by
    intro k' hk'
    obtain ⟨hk', hc'⟩ := mem_live.mp hk'
    exact h.eq_of_live hk' hk hc' hc
  have hnodup : d.live.Nodup := (List.Nodup.of_map _ h.nodup).filter _
  have hrep := List.eq_replicate_of_mem hall
  have hlen : d.live.length ≤ 1 := by
    rw [hrep] at hnodup
    exact List.nodup_replicate.mp hnodup
  have hpos : 0 < d.live.length := List.length_pos_of_mem (mem_live.mpr ⟨hk, hc⟩)
  have hone : d.live.length = 1 := by omega
  rw [hrep, hone]
  rfl

end Device

-- =============================================================== endings

/-- Whether an open is an attempt of a reconnect loop. -/
def Attempt.isRetry : Attempt → Bool
  | .first => false
  | .retry .. => true

/-- Whether a stage is one of a reconnect loop, not of a caller of connect. -/
def LinkStage.isLoop : LinkStage H → Bool
  | .opening attempt => attempt.isRetry
  | .opened attempt _ => attempt.isRetry
  | _ => true

namespace Device

/-- Whether a task is among those of a device: one of its token and kind. -/
def Runs (d : Device H F) (k : LinkTask H) : Prop :=
  ∃ k' ∈ d.links, k'.token = k.token ∧ k'.stage.isLoop = k.stage.isLoop

variable {d d' : Device H F} {token : Token} {k k' : LinkTask H}
  {calls : List (Call H)}

theorem runs_of_mem (hk : k ∈ d.links) : d.Runs k := ⟨k, hk, rfl, rfl⟩

theorem runs_endLink (hk : k ∈ d.links) (ht : k.token ≠ token) : (d.endLink token).Runs k :=
  runs_of_mem (mem_endLink.mpr ⟨hk, ht⟩)

/-- A task outlives a move to a stage of its kind. -/
theorem Exclusive.runs_setStage (h : d.Exclusive) (hk' : d.link? token = some k')
    (stage : LinkStage H) (hst : stage.isLoop = k'.stage.isLoop) (hk : k ∈ d.links) :
    (d.setStage token stage).Runs k := by
  refine ⟨_, setStage_mem stage hk, ?_, ?_⟩
  · split <;> rfl
  · split
    case isTrue ht =>
      obtain ⟨hm, ht'⟩ := mem_of_link? hk'
      rw [h.eq_of_token hk hm (ht.trans ht'.symm)]
      exact hst
    case isFalse => rfl

/-- How a task ends: cancelled, or with the record cleared, or with a loop
that has taken over its token. -/
def EndsWell (d d' : Device H F) (k : LinkTask H) : Prop :=
  k.cancelled = true
    ∨ d.record.linkTask = some k.token ∧ d'.record.linkTask = none
    ∨ k.stage.isLoop = false ∧ d'.record.linkTask = some k.token
      ∧ { token := k.token, stage := .spawned } ∈ d'.links

/-- A task that is ended is the one that was found under its token. -/
theorem Exclusive.eq_of_link? (h : d.Exclusive) (hk' : d.link? token = some k')
    (hk : k ∈ d.links) (ht : k.token = token) : k = k' := by
  obtain ⟨hm, ht'⟩ := mem_of_link? hk'
  exact h.eq_of_token hk hm (ht.trans ht'.symm)

/-- Where one task ends well, every task goes on or ends well. -/
theorem Exclusive.runs_or_of_endLink (h : d.Exclusive) (hk' : d.link? token = some k')
    (hl : d'.links = (d.endLink token).links) (hend : EndsWell d d' k') (hk : k ∈ d.links) :
    d'.Runs k ∨ EndsWell d d' k := by
  by_cases ht : k.token = token
  · right
    rw [h.eq_of_link? hk' hk ht]
    exact hend
  · left
    obtain ⟨l, hl', hl''⟩ := runs_endLink hk ht
    exact ⟨l, hl ▸ hl', hl''⟩

/-- The task in charge ends well if the record is cleared. -/
theorem Exclusive.endsWell_of_cleared (h : d.Exclusive) (hk : d.link? token = some k)
    (hc : k.cancelled = false) (hr : d'.record.linkTask = none) : EndsWell d d' k := by
  right; left
  refine ⟨?_, hr⟩
  rw [(mem_of_link? hk).2]
  exact h.linkTask_eq hk hc

/-- After a change a task is still there or has ended well. -/
theorem Exclusive.runs_or_endsWell (h : d.Exclusive) {pace : Site.Pace} {step : Site.Step}
    (hch : Change pace step d calls d') (hk : k ∈ d.links) : d'.Runs k ∨ EndsWell d d' k := by
  cases hch with
  | still => exact .inl (runs_of_mem hk)
  | beside _ hb => exact .inl (runs_of_mem (hb.links ▸ hk))
  | failed _ _ hb _ => exact .inl (runs_of_mem (List.mem_append_left _ (hb.links ▸ hk)))
  | begun _ _ => exact .inl (runs_of_mem (List.mem_append_left _ hk))
  | lost _ => exact .inl (runs_of_mem (List.mem_append_left _ hk))
  | stopped =>
      left
      have hm := List.mem_map_of_mem
        (f := fun k => if d.record.linkTask = some k.token then { k with cancelled := true } else k)
        hk
      rw [← withdrawn_links, ← stopped_links] at hm
      refine ⟨_, hm, ?_, ?_⟩ <;> split <;> rfl
  | opened hk' hst handle => exact .inl (h.runs_setStage hk' _ (by rw [hst]; rfl) hk)
  | refused hk' hst e => exact .inl (h.runs_setStage hk' _ (by rw [hst]; rfl) hk)
  | broken hk' hst e => exact .inl (h.runs_setStage hk' _ (by rw [hst]; rfl) hk)
  | dropped hk' _ hc => exact h.runs_or_of_endLink hk' rfl (.inl hc) hk
  | ended hk' _ hc => exact h.runs_or_of_endLink hk' rfl (.inl hc) hk
  | connected hk' _ hc =>
      exact h.runs_or_of_endLink hk' (connectedBy_links _ _ _)
        (h.endsWell_of_cleared hk' hc rfl) hk
  | @handedOver _ _ token k' _ hk' hst hc =>
      by_cases ht : k.token = token
      · -- the caller hands the device to a task of the same token
        right; right; right
        refine ⟨?_, ?_, ?_⟩
        · -- any other task goes on beside it
          rw [h.eq_of_link? hk' hk ht, hst]
          rfl
        · rw [ht]
          exact h.linkTask_eq hk' hc
        · rw [ht]
          exact List.mem_concat_self
      · left
        obtain ⟨l, hl, hl'⟩ := runs_endLink hk ht
        exact ⟨l, List.mem_append_left _ hl, hl'⟩
  | retried hk' hst _ _ => exact .inl (h.runs_setStage hk' _ (by rw [hst]; rfl) hk)
  | exhausted hk' _ hc _ =>
      exact h.runs_or_of_endLink hk' rfl (h.endsWell_of_cleared hk' hc rfl) hk
  | loopEnded hk' _ hc =>
      exact h.runs_or_of_endLink hk' (endLink_links_congr (detached_links d)) (.inl hc) hk
  | loopSpent hk' _ hc _ =>
      exact h.runs_or_of_endLink hk' (endLink_links_congr (detached_links d))
        (h.endsWell_of_cleared hk' hc rfl) hk
  | @loopBegun _ now _ _ hk' hst _ _ =>
      left
      obtain ⟨l, hl, hl'⟩ := h.runs_setStage hk'
        (.sleeping 0 d.record.maxRetry (now + pace.interval)) (by rw [hst]; rfl) hk
      exact ⟨l, setStage_links_congr _ (detached_links d) ▸ hl, hl'⟩
  | woken hk' hst _ _ => exact .inl (h.runs_setStage hk' _ (by rw [hst]; rfl) hk)

end Device

-- ========================================================= the one task

namespace Site

/-- While a task is in charge a caller of connect is turned away. -/
theorem beginConnect_of_linkTask {s : Site σ H F}
    (h : s.device.record.linkTask.isSome = true) : s.beginConnect = (none, s) := by
  unfold beginConnect
  rw [if_pos (by rw [h, Bool.true_or])]

/-- While a task is in charge reports of the link down are ignored. -/
theorem linkDown_of_linkTask {s : Site σ H F} (epoch : Nat)
    (h : s.device.record.linkTask.isSome = true) : s.linkDown epoch = (false, s) := by
  unfold linkDown
  rw [if_pos (by rw [h, Bool.true_or])]

/-- In every state, the record holds a token exactly if one task is not
cancelled, and then the token is that task's; there are never two such tasks.
While the record holds a token, callers of connect and reports of the link
down change nothing, neither device nor camera. And a step that ends a task
ends it well. -/
theorem Reachable.one_link_task [Camera σ H F] {s : Site σ H F} (h : s.Reachable) :
    (∀ t, s.device.record.linkTask = some t ↔ ∃ k, s.device.live = [k] ∧ k.token = t)
      ∧ s.device.live.length ≤ 1
      ∧ (s.device.record.linkTask.isSome = true →
          s.beginConnect = (none, s) ∧ ∀ epoch, s.linkDown epoch = (false, s))
      ∧ ∀ (pace : Pace) (step : Step), ∀ k ∈ s.device.links,
          (s.apply pace step).device.Runs k
            ∨ Device.EndsWell s.device (s.apply pace step).device k := by
  have hx := h.exclusive
  refine ⟨?_, ?_, ?_, ?_⟩
  · -- the token is that of the only live task
    intro t
    constructor
    · -- there is at most one live task
      exact hx.live_eq_singleton
    · -- a caller of connect, or a report, finds a task in charge
      rintro ⟨k, hk, rfl⟩
      obtain ⟨hm, hc⟩ := Device.mem_live.mp (hk ▸ List.mem_singleton.mpr rfl)
      exact (hx.live k hm).mp hc
  · -- the tasks that a step ends
    cases hr : s.device.record.linkTask with
    | none =>
        rw [hx.live_eq_nil hr]
        exact Nat.zero_le _
    | some t =>
        obtain ⟨k, hk, -⟩ := hx.live_eq_singleton hr
        rw [hk]
        exact Nat.le_refl _
  · intro hr
    exact ⟨beginConnect_of_linkTask hr, fun epoch => linkDown_of_linkTask epoch hr⟩
  · intro pace step k hk
    obtain ⟨calls, hch⟩ := apply_change pace s step
    exact hx.runs_or_endsWell hch hk

/-- A device that was stopped while it was opened, and is connected again: of
the two tasks the second one is in charge. -/
theorem Reachable.one_link_task_of_two :
    let s := (simulated ⟨"a"⟩ 3).run ⟨10, 100⟩ [.connect, .stop, .connect]
    s.device.links.length = 2 ∧ (∃ k, s.device.live = [k] ∧ k.token = 1)
      ∧ s.beginConnect = (none, s) := by
  intro s
  have hlen : s.device.links.length = 2 := by decide +kernel
  have hlink : s.device.record.linkTask = some 1 := by decide +kernel
  have hr : s.Reachable := (Reachable.fresh _ _ _ _).run _ _
  obtain ⟨hone, -, hbusy, -⟩ := Reachable.one_link_task hr
  refine ⟨hlen, (hone 1).mp hlink, (hbusy ?_).1⟩
  rw [hlink]
  rfl

end Site

end CameraDriver
