/-
What a merge keeps of the settings.

A setting has a path: four texts are fields of the three parts, and the settings of
the protocol are a JSON value that keys lead into. With blobs that are records, a
merge gives each path what its blob has there, and leaves it where the blob has
`null` or nothing (`TextFollows`, `SettingsFollow`). This is read off the edit that
the blobs ask.

The three parts of the edit have nothing to do with each other, so it can be made
part by part (`singles`). Each of the three calls maps its own part and leaves the
others (`after_common`, `after_visitor`, `after_protocol`), so they can be made in
any order (`run_of_perm`).

# Equality by value

A merge stores nothing if what it would store equals what is there. For numbers
that is equality by value, and zero equals negative zero. So a call that only turns
one into the other leaves what was there, while the same change is made together
with another one. Hence what is given is found up to that equality, and one call and
three agree up to it.
-/
import CameraDriver.Proofs.Store.Histories

namespace CameraDriver

namespace Json

-- ================================================================== paths

/-- What a patch has at a path; `null` if that is nothing. -/
def given (patch : Json) (path : List String) : Json := (patch.at? path).getD .null

/-- Null gives nothing at any path. -/
theorem given_null (path : List String) : Json.null.given path = .null := by
  cases path <;> rfl

/-- An object gives at a path what the value under its first key gives at the rest. -/
theorem given_obj (ps : Members) (key : String) (rest : List String) :
    (Json.obj ps).given (key :: rest) = (ps.value key).given rest := by
  unfold given Members.value
  rw [at?_obj]
  cases ps.get? key with
  | none => exact (given_null rest).symm
  | some patch => rfl

/-- Members that are equal by value have equal values under a key. -/
theorem exists_get?_of_same {as bs : Members} (h : sameMembers as bs = true) {key : String}
    {v : Json} (hv : as.get? key = some v) : ∃ w, bs.get? key = some w ∧ v.same w = true := by
  induction as generalizing bs with
  | nil => cases hv
  | cons e as ih =>
      obtain ⟨k, a⟩ := e
      cases bs with
      | nil => cases h
      | cons e bs =>
          obtain ⟨k', b⟩ := e
          have h : (k == k' && a.same b && sameMembers as bs) = true := h
          rw [Bool.and_eq_true, Bool.and_eq_true, beq_iff_eq] at h
          obtain ⟨⟨rfl, hab⟩, hrest⟩ := h
          by_cases heq : key = k
          · subst heq
            rw [Members.get?_cons_self] at hv ⊢
            cases hv
            exact ⟨b, rfl, hab⟩
          · rw [Members.get?_cons_ne _ _ heq] at hv ⊢
            exact ih hrest hv

/-- Values that are equal have equal values at a path. -/
theorem exists_at?_of_same {a b : Json} (h : a.same b = true) {path : List String} {v : Json}
    (hv : a.at? path = some v) : ∃ w, b.at? path = some w ∧ v.same w = true := by
  induction path generalizing a b with
  | nil =>
      cases hv
      exact ⟨b, rfl, h⟩
  | cons key rest ih =>
      obtain ⟨as, a, rfl, hget, ha⟩ := exists_obj_of_at? hv
      cases b with
      | obj bs =>
          obtain ⟨b, hget', hab⟩ := exists_get?_of_same h hget
          obtain ⟨w, hw, hsame⟩ := ih hab ha
          refine ⟨w, ?_, hsame⟩
          rw [at?_obj, hget']
          exact hw
      | _ => cases h

-- ================================================================= follows

/-- A text is what a patch gives for it, if that is not `null`, and else what it
was before. -/
def TextFollows (given : Json) (before after : String) : Prop :=
  match given with
  | .null => after = before
  | j => j = .str after

/-- What becomes of a value under a patch, path by path. A change that is `stored`
takes over what is given as it is. -/
structure SettingsFollow (patch before after : Json) (stored : Bool) : Prop where
  /-- Where the patch has `null` or nothing on the way, a value stays. -/
  kept : ∀ path v, patch.spares path = true → before.at? path = some v → after.at? path = some v
  /-- There nothing but `null` is new, from within a member that is new. -/
  unset : ∀ path, patch.spares path = true → before.at? path = none →
    after.at? path = none ∨ after.at? path = some .null
  /-- What the patch ends in, if it is neither `null` nor an object, is stored. -/
  given : ∀ path v, patch.at? path = some v → v.isLeaf = true →
    ∃ w, after.at? path = some w ∧ v.same w = true ∧ (stored = true → w = v)

/-- A text that is edited follows what the patch gives for it. -/
theorem textFollows_of_edit {patch : Json} {f : String → String} (h : patch.textEdit = .ok f)
    (s : String) : TextFollows patch s (f s) := by
  rcases textEdit_cases h with ⟨rfl, rfl⟩ | ⟨t, rfl, rfl⟩ <;> rfl

/-- A value within a proper one is proper. -/
theorem at?_proper {j v : Json} (hj : j.Proper) {path : List String} (hv : j.at? path = some v) :
    v.Proper := by
  induction path generalizing j with
  | nil =>
      cases hv
      exact hj
  | cons key rest ih =>
      obtain ⟨ms, w, rfl, hget, hw⟩ := exists_obj_of_at? hv
      exact ih (hj.get? hget) hw

/-- What a proper patch gives is proper. -/
theorem given_proper {patch : Json} (hp : patch.Proper) (path : List String) :
    (patch.given path).Proper := by
  unfold given
  cases hv : patch.at? path with
  | none => exact .null
  | some v => exact at?_proper hp hv

/-- An overlay gives every path what the patch has there. -/
theorem settingsFollow_merge (base : Json) {patch : Json} (hp : patch.Proper) :
    SettingsFollow patch base (base.merge patch) true where
  kept _ _ hs hv := at?_merge_of_spares hp hs hv
  unset _ hs hv := at?_merge_of_spares_none hp hs hv
  given _ v hv hleaf :=
    ⟨v, at?_merge_of_leaf hp hv hleaf, Proper.same_self (at?_proper hp hv), fun _ => rfl⟩

/-- So does a value that is left because the overlay would equal it. -/
theorem settingsFollow_of_same {base patch : Json} (hp : patch.Proper)
    (hsame : (base.merge patch).same base = true) : SettingsFollow patch base base false where
  kept _ _ _ hv := hv
  unset _ _ hv := .inl hv
  given _ _ hv hleaf := by
    obtain ⟨w, hw, hvw⟩ := exists_at?_of_same hsame (at?_merge_of_leaf hp hv hleaf)
    exact ⟨w, hw, hvw, fun h => by cases h⟩

end Json

open Json

-- =================================================================== parts

/-- Blobs that are records, with records in them; a blob may be absent, and it or
a record in it may be `null`. -/
structure Blobs.Records (blobs : Blobs) : Prop where
  common : (Configuration.patchOf blobs.common).isLeaf = false
  values : ((Configuration.patchOf blobs.common).given ["customizedValues"]).isLeaf = false
  visitor : (Configuration.patchOf blobs.visitor).isLeaf = false
  data : ((Configuration.patchOf blobs.visitor).given ["configData"]).isLeaf = false
  protocol : (Configuration.patchOf blobs.protocol).isLeaf = false

theorem CommonConfig.edit_follows {patch : Json} {f : CommonConfig → CommonConfig}
    (h : edit patch = .ok f) (hp : patch.isLeaf = false)
    (hvalues : (patch.given ["customizedValues"]).isLeaf = false) (c : CommonConfig) :
    TextFollows (patch.given ["customizedValues", "deviceSN"]) c.deviceSerial
      (f c).deviceSerial := by
  rcases edit_cases h with ⟨rfl, rfl⟩ | ⟨ps, rfl, hv⟩ | ⟨hleaf, -⟩
  · rfl
  · rw [given_obj] at hvalues ⊢
    rcases editValues_cases hv with ⟨hnull, rfl⟩ | ⟨qs, serial, hqs, ht, rfl⟩ | ⟨hleaf, -⟩
    · rw [hnull]
      rfl
    · rw [hqs, given_obj]
      exact textFollows_of_edit ht c.deviceSerial
    · exact absurd hleaf (Bool.eq_false_iff.mp hvalues)
  · exact absurd hleaf (Bool.eq_false_iff.mp hp)

theorem VisitorConfig.edit_follows {patch : Json} {f : VisitorConfig → VisitorConfig}
    (h : edit patch = .ok f) (hp : patch.isLeaf = false)
    (hdata : (patch.given ["configData"]).isLeaf = false) (c : VisitorConfig) :
    TextFollows (patch.given ["protocolName"]) c.protocolName (f c).protocolName
      ∧ TextFollows (patch.given ["configData", "FeatureName"]) c.featureName
        (f c).featureName := by
  rcases edit_cases h with ⟨rfl, rfl⟩ | ⟨ps, feature, protocol, rfl, hd, ht, rfl⟩ | ⟨hleaf, -⟩
  · exact ⟨rfl, rfl⟩
  · rw [given_obj] at hdata ⊢
    refine ⟨textFollows_of_edit ht c.protocolName, ?_⟩
    rw [given_obj]
    rcases editBy_cases hd with ⟨hnull, rfl⟩ | ⟨qs, hqs, hf⟩ | ⟨hleaf, -⟩
    · rw [hnull]
      rfl
    · rw [hqs, given_obj]
      exact textFollows_of_edit hf c.featureName
    · exact absurd hleaf (Bool.eq_false_iff.mp hdata)
  · exact absurd hleaf (Bool.eq_false_iff.mp hp)

theorem ProtocolConfig.edit_follows {patch : Json} {f : ProtocolConfig → ProtocolConfig}
    (h : edit patch = .ok f) (hp : patch.isLeaf = false) (c : ProtocolConfig) :
    TextFollows (patch.given ["protocolName"]) c.protocolName (f c).protocolName
      ∧ Json.obj (f c).configData = (Json.obj c.configData).merge (patch.given ["configData"]) := by
  rcases edit_cases h with ⟨rfl, rfl⟩ | ⟨ps, data, protocol, rfl, hd, ht, rfl⟩ | ⟨hleaf, -⟩
  · exact ⟨rfl, (merge_null _).symm⟩
  · rw [given_obj, given_obj]
    refine ⟨textFollows_of_edit ht c.protocolName, ?_⟩
    show _ = (Json.obj c.configData).merge (ps.value "configData")
    rcases editData_cases hd with ⟨hnull, rfl⟩ | ⟨qs, hqs, rfl⟩
    · rw [hnull]
      exact (merge_null _).symm
    · rw [hqs]
      exact (merge_obj _ _).symm
  · exact absurd hleaf (Bool.eq_false_iff.mp hp)

namespace Store

variable {s s' : Store} {blobs : Blobs} {c : Configuration} {stored : Bool}

-- ============================================================ part by part

/-- The calls that merge the blobs one by one. -/
def singles (blobs : Blobs) : List Blobs :=
  [{ common := blobs.common }, { visitor := blobs.visitor }, { protocol := blobs.protocol }]

/-- The store after calls, if they all succeed. -/
def mergeAll (s : Store) (calls : List Blobs) : Except DriverError Store :=
  calls.foldlM (fun s blobs => (s.merge blobs).map (·.2.2)) s

/-- Blobs that can be decoded are all merged, one after the other. -/
theorem mergeAll_eq {calls : List Blobs} (h : ∀ b ∈ calls, ∃ f, Configuration.edit b = .ok f)
    (s : Store) : s.mergeAll calls = .ok (s.run calls) := by
  induction calls generalizing s with
  | nil => rfl
  | cons b rest ih =>
      obtain ⟨f, hf⟩ := h b List.mem_cons_self
      have hfirst : (s.merge b).map (·.2.2) = .ok (s.after b) := by
        unfold after
        rw [merge_of_edit hf]
        rfl
      unfold mergeAll
      rw [List.foldlM_cons, hfirst]
      exact ih (fun b hb => h b (List.mem_cons_of_mem _ hb)) (s.after b)

/-- What blobs ask of each part, and what each of them asks on its own. -/
structure Asks (blobs : Blobs) (common : CommonConfig → CommonConfig)
    (visitor : VisitorConfig → VisitorConfig) (protocol : ProtocolConfig → ProtocolConfig) :
    Prop where
  common : Configuration.edit { common := blobs.common }
    = .ok fun c => { c with common := common c.common }
  visitor : Configuration.edit { visitor := blobs.visitor }
    = .ok fun c => { c with visitor := visitor c.visitor }
  protocol : Configuration.edit { protocol := blobs.protocol }
    = .ok fun c => { c with protocol := protocol c.protocol }

/-- An edit changes each part by what the blobs ask of it. -/
theorem exists_asks {f : Configuration → Configuration} (h : Configuration.edit blobs = .ok f) :
    ∃ common visitor protocol, Asks blobs common visitor protocol
      ∧ f = fun c =>
        { common := common c.common, visitor := visitor c.visitor, protocol := protocol c.protocol } := by
  obtain ⟨common, visitor, protocol, hc, hv, hp, rfl⟩ := Configuration.edit_parts h
  refine ⟨common, visitor, protocol, ⟨?_, ?_, ?_⟩, rfl⟩
  · unfold Configuration.edit
    rw [hc]
    rfl
  · unfold Configuration.edit
    rw [hv]
    rfl
  · unfold Configuration.edit
    rw [hp]
    rfl

/-- A part that is edited on its own, which is left if it would equal what it is. -/
def settled (protocol : ProtocolConfig → ProtocolConfig) (c : ProtocolConfig) : ProtocolConfig :=
  if (protocol c).same c then c else protocol c

section Asks

variable {common : CommonConfig → CommonConfig} {visitor : VisitorConfig → VisitorConfig}
  {protocol : ProtocolConfig → ProtocolConfig} (h : Asks blobs common visitor protocol)

include h

theorem after_common (s : Store) :
    s.after { common := blobs.common }
      = ⟨{ s.current with common := common s.current.common }⟩ := by
  rw [after_of_edit h.common]
  split
  case isTrue hsame =>
    have heq := (Configuration.same_iff.mp hsame).1
    dsimp only at heq
    rw [heq]
  case isFalse => rfl

theorem after_visitor (s : Store) :
    s.after { visitor := blobs.visitor }
      = ⟨{ s.current with visitor := visitor s.current.visitor }⟩ := by
  rw [after_of_edit h.visitor]
  split
  case isTrue hsame =>
    have heq := (Configuration.same_iff.mp hsame).2.1
    dsimp only at heq
    rw [heq]
  case isFalse => rfl

theorem after_protocol (s : Store) :
    s.after { protocol := blobs.protocol }
      = ⟨{ s.current with protocol := settled protocol s.current.protocol }⟩ := by
  rw [after_of_edit h.protocol]
  unfold settled
  split
  case isTrue hsame =>
    have hprotocol := (Configuration.same_iff.mp hsame).2.2
    rw [if_pos hprotocol]
  case isFalse hsame =>
    rw [if_neg fun hprotocol => hsame (Configuration.same_iff.mpr ⟨rfl, rfl, hprotocol⟩)]

/-- The three calls lead to the same store in any order. -/
theorem run_of_perm {order : List Blobs} (hperm : order.Perm (singles blobs)) (s : Store) :
    s.run order = ⟨{
      common := common s.current.common
      visitor := visitor s.current.visitor
      protocol := settled protocol s.current.protocol }⟩ := by
  have hcomm : ∀ a ∈ order, ∀ b ∈ order, ∀ s : Store, (s.after a).after b = (s.after b).after a := by
    intro a ha b hb s
    have ha := hperm.mem_iff.mp ha
    have hb := hperm.mem_iff.mp hb
    unfold singles at ha hb
    simp only [List.mem_cons, List.not_mem_nil, or_false] at ha hb
    rcases ha with rfl | rfl | rfl <;> rcases hb with rfl | rfl | rfl <;>
      simp only [after_common h, after_visitor h, after_protocol h]
  unfold run
  rw [hperm.foldl_eq' hcomm s]
  show ((s.after _).after _).after _ = _
  rw [after_common h, after_visitor h, after_protocol h]

end Asks

/-- Part by part, in any order, a merge gives what it gives at once. -/
theorem mergeAll_of_merge (hs : s.current.Proper) (h : s.merge blobs = .ok (c, stored, s'))
    {order : List Blobs} (hperm : order.Perm (singles blobs)) :
    ∃ s'', s.mergeAll order = .ok s'' ∧ s''.current.same c = true := by
  obtain ⟨f, he, -, hc⟩ := merge_cases h
  have hproper : (f s.current).Proper := Configuration.edit_proper hs he
  obtain ⟨common, visitor, protocol, hasks, rfl⟩ := exists_asks he
  have hall : ∀ b ∈ order, ∃ f, Configuration.edit b = .ok f := by
    intro b hb
    have hb := hperm.mem_iff.mp hb
    unfold singles at hb
    simp only [List.mem_cons, List.not_mem_nil, or_false] at hb
    rcases hb with rfl | rfl | rfl
    · exact ⟨_, hasks.common⟩
    · exact ⟨_, hasks.visitor⟩
    · exact ⟨_, hasks.protocol⟩
  refine ⟨_, mergeAll_eq hall s, ?_⟩
  rw [run_of_perm hasks hperm, Configuration.same_iff]
  unfold settled
  rcases hc with ⟨-, rfl⟩ | ⟨-, rfl, hsame⟩
  · -- the new configuration was stored
    refine ⟨rfl, rfl, ?_⟩
    split
    case isTrue hsame => exact (ProtocolConfig.same_comm _ _).trans hsame
    case isFalse => exact ProtocolConfig.same_self hproper
  · -- nothing was stored, so each part is left on its own too
    obtain ⟨hcommon, hvisitor, hprotocol⟩ := Configuration.same_iff.mp hsame
    refine ⟨hcommon, hvisitor, ?_⟩
    rw [if_pos hprotocol]
    exact ProtocolConfig.same_self hs

end Store

-- =================================================================== whole

namespace Configuration

/-- What becomes of the settings under blobs. -/
structure Follows (blobs : Blobs) (before after : Configuration) (stored : Bool) : Prop where
  deviceSerial : TextFollows ((patchOf blobs.common).given ["customizedValues", "deviceSN"])
    before.common.deviceSerial after.common.deviceSerial
  visitorProtocol : TextFollows ((patchOf blobs.visitor).given ["protocolName"])
    before.visitor.protocolName after.visitor.protocolName
  featureName : TextFollows ((patchOf blobs.visitor).given ["configData", "FeatureName"])
    before.visitor.featureName after.visitor.featureName
  protocol : TextFollows ((patchOf blobs.protocol).given ["protocolName"])
    before.protocol.protocolName after.protocol.protocolName
  settings : SettingsFollow ((patchOf blobs.protocol).given ["configData"])
    (.obj before.protocol.configData) (.obj after.protocol.configData) stored

/-- What becomes of the parts that have no blob. -/
structure LeavesAbsent (blobs : Blobs) (before after : Configuration) : Prop where
  common : blobs.common = none → after.common = before.common
  visitor : blobs.visitor = none → after.visitor = before.visitor
  protocol : blobs.protocol = none → after.protocol = before.protocol

variable {blobs : Blobs} {f : Configuration → Configuration}

/-- Blobs ask the settings to be overlaid. -/
theorem settings_of_edit (h : edit blobs = .ok f) (ho : blobs.Records) (c : Configuration) :
    Json.obj (f c).protocol.configData
      = (Json.obj c.protocol.configData).merge ((patchOf blobs.protocol).given ["configData"]) := by
  obtain ⟨common, visitor, protocol, -, -, hp, rfl⟩ := edit_cases h
  exact (ProtocolConfig.edit_follows hp ho.protocol c.protocol).2

/-- What blobs ask is what they give, path by path. -/
theorem follows_of_edit (h : edit blobs = .ok f) (ho : blobs.Records) (c : Configuration) :
    Follows blobs c (f c) true := by
  have hsettings := settings_of_edit h ho c
  obtain ⟨common, visitor, protocol, hc, hv, hp, rfl⟩ := edit_cases h
  obtain ⟨hvisitor, hfeature⟩ := VisitorConfig.edit_follows hv ho.visitor ho.data c.visitor
  refine ⟨?_, hvisitor, hfeature, ?_, ?_⟩
  · exact CommonConfig.edit_follows hc ho.common ho.values c.common
  · exact (ProtocolConfig.edit_follows hp ho.protocol c.protocol).1
  · rw [hsettings]
    exact settingsFollow_merge _ (given_proper (patchOf_proper _) _)

/-- A configuration that equals what blobs ask of it follows them as well. -/
theorem follows_of_same (h : edit blobs = .ok f) (ho : blobs.Records) {c : Configuration}
    (hsame : (f c).same c = true) : Follows blobs c c false := by
  obtain ⟨hserial, hvisitorName, hfeature, hprotocolName, -⟩ := follows_of_edit h ho c
  have hsettings := settings_of_edit h ho c
  obtain ⟨hcommon, hvisitor, hprotocol⟩ := same_iff.mp hsame
  unfold ProtocolConfig.same at hprotocol
  rw [Bool.and_eq_true, beq_iff_eq] at hprotocol
  obtain ⟨hname, hdata⟩ := hprotocol
  rw [hcommon] at hserial
  rw [hvisitor] at hvisitorName hfeature
  rw [hname] at hprotocolName
  refine ⟨hserial, hvisitorName, hfeature, hprotocolName, ?_⟩
  refine settingsFollow_of_same (given_proper (patchOf_proper _) _) ?_
  rw [← hsettings]
  exact hdata

/-- An absent blob asks for nothing. -/
theorem eq_id_of_absent {α : Type} {edit : Json → Except Misfit (α → α)} {g : α → α}
    {blob : Option Bytes} (hnull : edit .null = .ok id) (h : edit (patchOf blob) = .ok g)
    (hb : blob = none) : g = id := by
  subst hb
  exact Except.ok.inj (h.symm.trans hnull)

/-- Of a part that has no blob, nothing is asked. -/
theorem leavesAbsent_of_edit (h : edit blobs = .ok f) (c : Configuration) :
    LeavesAbsent blobs c (f c) := by
  obtain ⟨common, visitor, protocol, hc, hv, hp, rfl⟩ := edit_cases h
  refine ⟨fun hb => ?_, fun hb => ?_, fun hb => ?_⟩
  · rw [eq_id_of_absent rfl hc hb]
    rfl
  · rw [eq_id_of_absent rfl hv hb]
    rfl
  · rw [eq_id_of_absent rfl hp hb]
    rfl

end Configuration

/-- With blobs that are records, a merge gives every known text and every path of the
settings what its blob has there, unless that is `null` or nothing, and then leaves
what was there. It leaves the parts that have no blob. And the blobs can be merged
one by one, in any order, with the same configuration in the end. -/
theorem Store.Reachable.merge_keeps_settings {s s' : Store} (hs : s.Reachable) {blobs : Blobs}
    (ho : blobs.Records) {c : Configuration} {stored : Bool}
    (h : s.merge blobs = .ok (c, stored, s')) :
    s'.current = c
      ∧ Configuration.Follows blobs s.current c stored
      ∧ Configuration.LeavesAbsent blobs s.current c
      ∧ ∀ order : List Blobs, order.Perm (Store.singles blobs) →
          ∃ s'', s.mergeAll order = .ok s'' ∧ s''.current.same c = true := by
  obtain ⟨f, he, rfl, hc⟩ := merge_cases h
  refine ⟨rfl, ?_, ?_, fun order hperm => mergeAll_of_merge hs.proper h hperm⟩
  · -- the fields that the blobs give
    rcases hc with ⟨rfl, rfl⟩ | ⟨rfl, rfl, hsame⟩
    · -- stored
      exact Configuration.follows_of_edit he ho s.current
    · -- or the same as before, and not stored
      exact Configuration.follows_of_same he ho hsame
  · -- the parts that they leave out
    rcases hc with ⟨-, rfl⟩ | ⟨-, rfl, -⟩
    · exact Configuration.leavesAbsent_of_edit he s.current
    · exact ⟨fun _ => rfl, fun _ => rfl, fun _ => rfl⟩

/-- A member that is given next to one that is `null`, both inside one that is
stored. -/
theorem Store.Reachable.merge_keeps_settings_of_nested :
    let text := Text.Utf8.encode
    let s : Store := ({} : Store).run
      [{ visitor := some (text "\x7b\"protocolName\":\"GigEVision\"\x7d")
         protocol := some (text "\x7b\"configData\":\x7b\"trigger\":\x7b\"mode\":1\x7d\x7d\x7d") }]
    let blobs : Blobs :=
      { common := some (text "\x7b\"customizedValues\":\x7b\"deviceSN\":\"a\"\x7d\x7d")
        visitor := some (text "\x7b\"configData\":\x7b\"FeatureName\":\"Gain\"\x7d\x7d")
        protocol := some (text
          "\x7b\"configData\":\x7b\"trigger\":\x7b\"mode\":null,\"armed\":true\x7d\x7d\x7d") }
    ∃ (c : Configuration) (s' s'' : Store), s.merge blobs = .ok (c, true, s')
      ∧ c.common = ⟨"a"⟩ ∧ c.visitor = ⟨"GigEVision", "Gain"⟩
      ∧ ((Json.obj c.protocol.configData).at? ["trigger", "mode"]).any (·.same (.int 1)) = true
      ∧ ((Json.obj c.protocol.configData).at? ["trigger", "armed"]).any (·.same (.bool true)) = true
      ∧ s.mergeAll (Store.singles blobs).reverse = .ok s'' ∧ s''.current.same c = true := by
  intro text s blobs
  have hs : s.Reachable := ⟨_, rfl⟩
  have ho : blobs.Records := by constructor <;> decide +kernel
  have hread : ((s.merge blobs).toOption.map fun r => (r.1.common, r.1.visitor, r.2.1))
      = some (⟨"a"⟩, ⟨"GigEVision", "Gain"⟩, true) := by decide +kernel
  have hmode : ((Json.obj s.current.protocol.configData).at? ["trigger", "mode"]).any
      (·.same (.int 1)) = true := by decide +kernel
  have hspares : ((Configuration.patchOf blobs.protocol).given ["configData"]).spares
      ["trigger", "mode"] = true := by decide +kernel
  have harmed : (((Configuration.patchOf blobs.protocol).given ["configData"]).at?
      ["trigger", "armed"]).any (fun v => v.isLeaf && v.same (.bool true)) = true := by
    decide +kernel
  cases hm : s.merge blobs with
  | error e =>
      rw [hm] at hread
      cases hread
  | ok r =>
      obtain ⟨c, stored, s'⟩ := r
      rw [hm] at hread
      obtain ⟨hcommon, hvisitor, hstored⟩ : c.common = ⟨"a"⟩ ∧ c.visitor = ⟨"GigEVision", "Gain"⟩
          ∧ stored = true := by
        simpa only [Except.toOption, Option.map_some, Option.some.injEq, Prod.mk.injEq] using hread
      obtain ⟨-, hfollows, -, horder⟩ := Store.Reachable.merge_keeps_settings hs ho hm
      obtain ⟨v, hv, hone⟩ := (Option.any_eq_true _ _).mp hmode
      obtain ⟨w, hw, hleaf⟩ := (Option.any_eq_true _ _).mp harmed
      rw [Bool.and_eq_true] at hleaf
      obtain ⟨u, hu, -, heq⟩ := hfollows.settings.given _ w hw hleaf.1
      obtain ⟨s'', hall, hsame⟩ := horder _ (List.reverse_perm _)
      refine ⟨c, s', s'', ?_, hcommon, hvisitor, ?_, ?_, hall, hsame⟩
      · rw [hstored]
      · rw [hfollows.settings.kept _ v hspares hv]
        exact hone
      · rw [hu, heq hstored]
        exact hleaf.2

end CameraDriver
