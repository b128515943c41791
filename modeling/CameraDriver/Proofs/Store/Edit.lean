/-
A merge as an edit of the configuration.

A part is encoded, overlaid with the patch and decoded again. What comes of it
splits in two: whether the patch fits, and with which complaint, is a matter of
the patch alone; if it fits, each field of the part is left, replaced, or, for the
settings of the protocol, overlaid. So a blob denotes an edit, or an error, without
any configuration at hand (`Configuration.edit`), and a merge applies it
(`merge_eq_edit`).

# Where the base goes

Encoded, a part is an object with all its fields in it. Laid on that object, a
patch that is an object reaches each field separately, a patch that is `null` reaches none,
and any other patch takes the place of the whole. This repeats one level down, for
the records inside the common and the visitor part. Decoding looks at the fields
in the order of their keys, which fixes the complaint that is made first
(`asRecord_obj`).
-/
import CameraDriver.Proofs.General
import CameraDriver.Proofs.Store.Overlay

namespace CameraDriver

namespace Json

-- ================================================================= records

variable {α : Type} {names : List String} (fields : List String)
  {set : String → Json → α → Except Misfit α}

/-- An object is read field by field, in the order of the names of the fields. -/
theorem asRecord_obj {ms : Members} (h : ms.Ascending) (hf : fields.Pairwise (· < ·))
    (hset : ∀ k, k ∉ fields → ∀ j r, set k j r = .ok r) (expected : String) (default : α) :
    asRecord expected names set default (.obj ms)
      = fields.foldlM (fun r name => (ms.get? name).elim (.ok r) (set name · r)) default :=
  h.keyed.foldlM_fields fields hf hset default

/-- An object with a patch on it is read field by field, each with what the patch
says of it. -/
theorem asRecord_merge {bs ps : Members} (hb : bs.Ascending) (hp : ps.Ascending)
    (hf : fields.Pairwise (· < ·)) (hset : ∀ k, k ∉ fields → ∀ j r, set k j r = .ok r)
    (expected : String) (default : α) :
    asRecord expected names set default (.obj (mergeMembers bs ps))
      = fields.foldlM (fun r name =>
          (overlaid? (bs.get? name) (ps.value name)).elim (.ok r) (set name · r)) default := by
  rw [asRecord_obj fields (ascending_mergeMembers hb ps) hf hset]
  refine congrArg (fields.foldlM · default) ?_
  funext r name
  rw [get?_mergeMembers hp]

/-- A record of one field. -/
theorem asRecord_merge_one {field : String} {b : Json} {ps : Members} (hp : ps.Ascending)
    (hset : ∀ k, k ≠ field → ∀ j r, set k j r = .ok r) (expected : String) (default : α) :
    asRecord expected names set default (.obj (mergeMembers [(field, b)] ps))
      = set field (b.merge (ps.value field)) default := by
  rw [asRecord_merge [field] (List.pairwise_singleton _ _) hp (List.pairwise_singleton _ _)
    fun k hk => hset k (List.ne_of_not_mem_cons hk)]
  simp only [List.foldlM_cons, List.foldlM_nil, bind_pure]
  rw [Members.get?_cons_self]
  rfl

/-- A record of two fields; the one that comes first among the keys is read
first. -/
theorem asRecord_merge_two {first second : String} {b b' : Json} {ps : Members}
    (hlt : first < second) (hp : ps.Ascending)
    (hset : ∀ k, k ≠ first → k ≠ second → ∀ j r, set k j r = .ok r) (expected : String)
    (default : α) :
    asRecord expected names set default (.obj (mergeMembers [(first, b), (second, b')] ps))
      = (set first (b.merge (ps.value first)) default >>=
          set second (b'.merge (ps.value second))) := by
  have hne : second ≠ first := fun heq => String.lt_irrefl _ (heq ▸ hlt)
  have hbase : Members.Ascending [(first, b), (second, b')] := List.pairwise_pair.mpr hlt
  rw [asRecord_merge [first, second] hbase hp (List.pairwise_pair.mpr hlt) ?_]
  · simp only [List.foldlM_cons, List.foldlM_nil, bind_pure]
    rw [Members.get?_cons_self, Members.get?_cons_ne b _ hne, Members.get?_cons_self]
    rfl
  · intro k hk
    obtain ⟨hfirst, hrest⟩ := List.ne_and_not_mem_of_not_mem_cons hk
    exact hset k hfirst (List.ne_of_not_mem_cons hrest)

-- =================================================================== edits

/-- What a patch asks of a record: `null` leaves it, an object edits its fields,
and anything else is read as the whole. -/
def editBy (whole : Json → Except Misfit α) (members : Members → Except Misfit (α → α)) :
    Json → Except Misfit (α → α)
  | .null => .ok id
  | .obj ps => members ps
  | j => (whole j).map fun a _ => a

/-- What a patch asks of a text: `null` leaves it, and a text replaces it. -/
def textEdit : Json → Except Misfit (String → String)
  | .null => .ok id
  | j => (j.asText "a string").map fun t _ => t

/-- What a patch can ask of a record. -/
theorem editBy_cases {whole : Json → Except Misfit α} {members : Members → Except Misfit (α → α)}
    {patch : Json} {f : α → α} (h : editBy whole members patch = .ok f) :
    (patch = .null ∧ f = id) ∨ (∃ ps : Members, patch = .obj ps ∧ members ps = .ok f)
      ∨ (patch.isLeaf = true ∧ ∃ a, whole patch = .ok a ∧ f = fun _ => a) := by
  cases patch with
  | null => exact .inl ⟨rfl, (Except.ok.inj h).symm⟩
  | obj ps => exact .inr (.inl ⟨ps, rfl, h⟩)
  | _ =>
      obtain ⟨a, hw, rfl⟩ := of_map_eq_ok h
      exact .inr (.inr ⟨rfl, a, hw, rfl⟩)

/-- What a patch can ask of a text. -/
theorem textEdit_cases {patch : Json} {f : String → String} (h : patch.textEdit = .ok f) :
    (patch = .null ∧ f = id) ∨ ∃ t, patch = .str t ∧ f = fun _ => t := by
  cases patch with
  | null => exact .inl ⟨rfl, (Except.ok.inj h).symm⟩
  | str t => exact .inr ⟨t, rfl, (Except.ok.inj h).symm⟩
  | _ => cases h

/-- A text over which a patch is laid is the text that is edited. -/
theorem asText_merge (s : String) (patch : Json) :
    ((Json.str s).merge patch).asText "a string" = patch.textEdit.map (· s) := by
  cases patch <;> rfl

/-- A record that is overlaid and decoded is edited, if that holds of patches that
are objects. -/
theorem decode_merge_eq {decode : Json → Except Misfit α}
    {members : Members → Except Misfit (α → α)} {bs : Members} {a : α} {patch : Json}
    (hbase : decode (.obj bs) = .ok a)
    (hobj : ∀ ps : Members, patch = .obj ps →
      decode (.obj (mergeMembers bs ps)) = (members ps).map (· a)) :
    decode ((Json.obj bs).merge patch) = (editBy decode members patch).map (· a) := by
  have hwhole : ∀ j, decode j = ((decode j).map fun a (_ : α) => a).map (· a) := by
    intro j
    cases decode j <;> rfl
  cases patch with
  | null =>
      rw [merge_null]
      exact hbase
  | obj ps =>
      rw [merge_obj]
      exact hobj ps rfl
  | _ => exact hwhole _

end Json

open Json

-- ================================================================== common

namespace CommonConfig

/-- What a patch asks of the values inside the common part. -/
def editValues : Json → Except Misfit (CommonConfig → CommonConfig) :=
  editBy decodeValues fun ps =>
    (ps.value "deviceSN").textEdit.map fun f c => { c with deviceSerial := f c.deviceSerial }

/-- What a patch asks of the common part. -/
def edit : Json → Except Misfit (CommonConfig → CommonConfig) :=
  editBy decode fun ps => editValues (ps.value "customizedValues")

variable {patch : Json}

theorem decodeValues_merge (c : CommonConfig) (hp : patch.Proper) :
    decodeValues ((object [("deviceSN", .str c.deviceSerial)]).merge patch)
      = (editValues patch).map (· c) := by
  refine decode_merge_eq rfl ?_
  rintro ps rfl
  unfold decodeValues
  refine (asRecord_merge_one hp.ascending ?_ _ _).trans ?_
  · intro k hk j r
    split
    · exact absurd rfl hk
    · rfl
  · rw [asText_merge]
    cases (ps.value "deviceSN").textEdit <;> rfl

/-- A patch on the common part edits it. -/
theorem decode_merge (c : CommonConfig) (hp : patch.Proper) :
    decode (c.encode.merge patch) = (edit patch).map (· c) := by
  refine decode_merge_eq rfl ?_
  rintro ps rfl
  unfold decode
  refine (asRecord_merge_one hp.ascending ?_ _ _).trans ?_
  · intro k hk j r
    split
    · exact absurd rfl hk
    · rfl
  · exact decodeValues_merge c (hp.value _)

/-- What a patch can ask of the values. -/
theorem editValues_cases {f : CommonConfig → CommonConfig} (h : editValues patch = .ok f) :
    (patch = .null ∧ f = id)
      ∨ (∃ (ps : Members) (serial : String → String), patch = .obj ps
          ∧ (ps.value "deviceSN").textEdit = .ok serial
          ∧ f = fun c => { c with deviceSerial := serial c.deviceSerial })
      ∨ (patch.isLeaf = true ∧ ∃ c, decodeValues patch = .ok c ∧ f = fun _ => c) := by
  rcases editBy_cases h with hnull | ⟨ps, hps, hf⟩ | hwhole
  · exact .inl hnull
  · obtain ⟨serial, ht, rfl⟩ := of_map_eq_ok hf
    exact .inr (.inl ⟨ps, serial, hps, ht, rfl⟩)
  · exact .inr (.inr hwhole)

/-- What a patch can ask of the common part. -/
theorem edit_cases {f : CommonConfig → CommonConfig} (h : edit patch = .ok f) :
    (patch = .null ∧ f = id)
      ∨ (∃ ps : Members, patch = .obj ps ∧ editValues (ps.value "customizedValues") = .ok f)
      ∨ (patch.isLeaf = true ∧ ∃ c, decode patch = .ok c ∧ f = fun _ => c) :=
  editBy_cases h

end CommonConfig

-- ================================================================= visitor

namespace VisitorConfig

/-- What a patch asks of the feature inside the visitor part. -/
def editData : Json → Except Misfit (String → String) :=
  editBy decodeData fun ps => (ps.value "FeatureName").textEdit

/-- What a patch asks of the visitor part. -/
def edit : Json → Except Misfit (VisitorConfig → VisitorConfig) :=
  editBy decode fun ps => do
    let feature ← editData (ps.value "configData")
    let protocol ← (ps.value "protocolName").textEdit
    return fun c =>
      { protocolName := protocol c.protocolName, featureName := feature c.featureName }

variable {patch : Json}

theorem decodeData_merge (feature : String) (hp : patch.Proper) :
    decodeData ((object [("FeatureName", .str feature)]).merge patch)
      = (editData patch).map (· feature) := by
  refine decode_merge_eq rfl ?_
  rintro ps rfl
  unfold decodeData
  refine (asRecord_merge_one hp.ascending ?_ _ _).trans (asText_merge _ _)
  intro k hk j r
  split
  · exact absurd rfl hk
  · rfl

/-- A patch on the visitor part edits it. -/
theorem decode_merge (c : VisitorConfig) (hp : patch.Proper) :
    decode (c.encode.merge patch) = (edit patch).map (· c) := by
  refine decode_merge_eq rfl ?_
  rintro ps rfl
  unfold decode
  refine (asRecord_merge_two (by decide) hp.ascending ?_ _ _).trans ?_
  · intro k hk hk' j r
    split
    · exact absurd rfl hk'
    · exact absurd rfl hk
    · rfl
  · dsimp only
    rw [asText_merge, decodeData_merge _ (hp.value _)]
    cases editData (ps.value "configData") with
    | error m => rfl
    | ok feature => cases (ps.value "protocolName").textEdit <;> rfl

/-- What a patch can ask of the visitor part. -/
theorem edit_cases {f : VisitorConfig → VisitorConfig} (h : edit patch = .ok f) :
    (patch = .null ∧ f = id)
      ∨ (∃ (ps : Members) (feature protocol : String → String), patch = .obj ps
          ∧ editData (ps.value "configData") = .ok feature
          ∧ (ps.value "protocolName").textEdit = .ok protocol
          ∧ f = fun c =>
            { protocolName := protocol c.protocolName, featureName := feature c.featureName })
      ∨ (patch.isLeaf = true ∧ ∃ c, decode patch = .ok c ∧ f = fun _ => c) := by
  rcases editBy_cases h with hnull | ⟨ps, hps, hf⟩ | hwhole
  · exact .inl hnull
  · obtain ⟨feature, hd, hf⟩ := of_bind_eq_ok hf
    obtain ⟨protocol, ht, hf⟩ := of_bind_eq_ok hf
    exact .inr (.inl ⟨ps, feature, protocol, hps, hd, ht, (Except.ok.inj hf).symm⟩)
  · exact .inr (.inr hwhole)

end VisitorConfig

-- ================================================================ protocol

namespace ProtocolConfig

/-- What a patch asks of the settings inside the protocol part. -/
def editData : Json → Except Misfit (Members → Members) :=
  editBy decodeData fun ps => .ok fun ms => mergeMembers ms ps

/-- What a patch asks of the protocol part. -/
def edit : Json → Except Misfit (ProtocolConfig → ProtocolConfig) :=
  editBy decode fun ps => do
    let data ← editData (ps.value "configData")
    let protocol ← (ps.value "protocolName").textEdit
    return fun c => { protocolName := protocol c.protocolName, configData := data c.configData }

variable {patch : Json}

theorem decodeData_merge (ms : Members) :
    decodeData ((Json.obj ms).merge patch) = (editData patch).map (· ms) := by
  refine decode_merge_eq rfl ?_
  rintro ps rfl
  rfl

/-- A patch on the protocol part edits it. -/
theorem decode_merge (c : ProtocolConfig) (hp : patch.Proper) :
    decode (c.encode.merge patch) = (edit patch).map (· c) := by
  refine decode_merge_eq rfl ?_
  rintro ps rfl
  unfold decode
  refine (asRecord_merge_two (by decide) hp.ascending ?_ _ _).trans ?_
  · intro k hk hk' j r
    split
    · exact absurd rfl hk'
    · exact absurd rfl hk
    · rfl
  · dsimp only
    rw [asText_merge, decodeData_merge]
    cases editData (ps.value "configData") with
    | error m => rfl
    | ok data => cases (ps.value "protocolName").textEdit <;> rfl

/-- What a patch can ask of the settings. -/
theorem editData_cases {g : Members → Members} (h : editData patch = .ok g) :
    (patch = .null ∧ g = id) ∨ ∃ ps : Members, patch = .obj ps ∧ g = (mergeMembers · ps) := by
  rcases editBy_cases h with hnull | ⟨ps, rfl, hg⟩ | ⟨-, ms, hd, -⟩
  · exact .inl hnull
  · exact .inr ⟨ps, rfl, (Except.ok.inj hg).symm⟩
  · cases patch with
    | obj ps => exact .inr ⟨ps, rfl, (Except.ok.inj h).symm⟩
    | _ => cases hd

/-- What a patch can ask of the protocol part. -/
theorem edit_cases {f : ProtocolConfig → ProtocolConfig} (h : edit patch = .ok f) :
    (patch = .null ∧ f = id)
      ∨ (∃ (ps : Members) (data : Members → Members) (protocol : String → String), patch = .obj ps
          ∧ editData (ps.value "configData") = .ok data
          ∧ (ps.value "protocolName").textEdit = .ok protocol
          ∧ f = fun c =>
            { protocolName := protocol c.protocolName, configData := data c.configData })
      ∨ (patch.isLeaf = true ∧ ∃ c, decode patch = .ok c ∧ f = fun _ => c) := by
  rcases editBy_cases h with hnull | ⟨ps, hps, hf⟩ | hwhole
  · exact .inl hnull
  · obtain ⟨data, hd, hf⟩ := of_bind_eq_ok hf
    obtain ⟨protocol, ht, hf⟩ := of_bind_eq_ok hf
    exact .inr (.inl ⟨ps, data, protocol, hps, hd, ht, (Except.ok.inj hf).symm⟩)
  · exact .inr (.inr hwhole)

end ProtocolConfig

-- =================================================================== blobs

namespace Configuration

variable {α : Type}

/-- What a blob asks of a part; without a blob the part is left. -/
def editPart (part : ConfigPart) (edit : Json → Except Misfit (α → α)) :
    Option Bytes → Except DriverError (α → α)
  | none => .ok id
  | some bytes =>
      match Json.parse bytes with
      | .error e => .error (.decode part e.message)
      | .ok patch => (edit patch).mapError fun m => .decode part m.message

/-- What the blobs of a call ask. -/
def edit (blobs : Blobs) : Except DriverError (Configuration → Configuration) := do
  let common ← editPart .common CommonConfig.edit blobs.common
  let visitor ← editPart .visitor VisitorConfig.edit blobs.visitor
  let protocol ← editPart .protocol ProtocolConfig.edit blobs.protocol
  return fun c =>
    { common := common c.common, visitor := visitor c.visitor, protocol := protocol c.protocol }

variable {blobs : Blobs} {f : Configuration → Configuration}

/-- What blobs ask is what each of them asks of its part. -/
theorem edit_parts (h : edit blobs = .ok f) :
    ∃ common visitor protocol, editPart .common CommonConfig.edit blobs.common = .ok common
      ∧ editPart .visitor VisitorConfig.edit blobs.visitor = .ok visitor
      ∧ editPart .protocol ProtocolConfig.edit blobs.protocol = .ok protocol
      ∧ f = fun c =>
        { common := common c.common, visitor := visitor c.visitor, protocol := protocol c.protocol } := by
  obtain ⟨common, hc, h⟩ := of_bind_eq_ok h
  obtain ⟨visitor, hv, h⟩ := of_bind_eq_ok h
  obtain ⟨protocol, hp, h⟩ := of_bind_eq_ok h
  exact ⟨common, visitor, protocol, hc, hv, hp, (Except.ok.inj h).symm⟩

/-- A part is merged by editing it, if its records are read the way they are edited. -/
theorem mergePart_eq {part : ConfigPart} {decode : Json → Except Misfit α}
    {edit : Json → Except Misfit (α → α)} {base : α} {encoded : Json}
    (h : ∀ patch : Json, patch.Proper → decode (encoded.merge patch) = (edit patch).map (· base))
    (blob : Option Bytes) :
    mergePart part decode base encoded blob = (editPart part edit blob).map (· base) := by
  unfold mergePart editPart
  cases blob with
  | none => rfl
  | some bytes =>
      dsimp only
      cases hp : Json.parse bytes with
      | error e => rfl
      | ok patch =>
          dsimp only
          rw [h patch (parse_proper hp)]
          cases edit patch <;> rfl

/-- A merge applies what the blobs ask. -/
theorem merge_eq_edit (c : Configuration) (blobs : Blobs) :
    c.merge blobs = (edit blobs).map (· c) := by
  unfold merge
  by_cases hempty : blobs.isEmpty = true
  · rw [if_pos hempty]
    obtain ⟨common, visitor, protocol⟩ := blobs
    unfold Blobs.isEmpty at hempty
    simp only [Bool.and_eq_true, Option.isNone_iff_eq_none] at hempty
    obtain ⟨⟨rfl, rfl⟩, rfl⟩ := hempty
    rfl
  · rw [if_neg hempty, mergePart_eq fun patch hp => CommonConfig.decode_merge c.common hp,
      mergePart_eq fun patch hp => VisitorConfig.decode_merge c.visitor hp,
      mergePart_eq fun patch hp => ProtocolConfig.decode_merge c.protocol hp]
    unfold edit
    cases editPart .common CommonConfig.edit blobs.common with
    | error e => rfl
    | ok common =>
        cases editPart .visitor VisitorConfig.edit blobs.visitor with
        | error e => rfl
        | ok visitor => cases editPart .protocol ProtocolConfig.edit blobs.protocol <;> rfl

end Configuration

end CameraDriver
