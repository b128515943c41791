/-
What layers give the settings.

A layer gives a setting what it assigns to its key, or to its name in a table that it
assigns to the section (`Layer.given`). The layers looked at here are plain: whatever
they assign to a setting is a scalar. Other assignments are let in as long as they
lead past all settings.

Laid over a tree, an assignment changes the settings that it gives and no other
(`Sectioned.set`); from that, by induction over the assignments of a layer, the last
one that gives a setting counts, and if there is none the setting stays
(`Sectioned.laid_over`). So layer by layer the topmost one that gives a setting tells what
stands there (`Layer.stack_spec`).

# The invariant

Settings are looked up in a tree whose sections are tables (`Sectioned`). A plain
layer keeps it so: it can turn no section into a scalar or a list.
-/
import CameraDriver.Proofs.Settings.Setting
import CameraDriver.Settings.Layer

namespace CameraDriver.Settings

-- ============================================================= assignments

/-- A value without parts. -/
def Tree.IsLeaf : Tree → Prop
  | .leaf .. => True
  | _ => False

/-- A path leads past a setting: to another name at the top, or to another name in
the section. -/
def KeyPath.Passes (p : KeyPath) (s : Setting) : Prop :=
  p.root ≠ s.table ∨ ∃ name steps, p.steps = .member name :: steps ∧ name ≠ s.field

/-- An assignment that gives scalars to the settings it reaches. -/
inductive Plain : KeyPath → Tree → Prop
  | setting (s : Setting) {value : Tree} (h : value.IsLeaf) : Plain s.path value
  | table {name : String} {ms : Members} {origin : Option Origin}
      (h : ∀ s : Setting, s.table = name → ∀ value, (s.field, value) ∈ ms → value.IsLeaf) :
      Plain (.name name) (.table ms origin)
  | elsewhere {p : KeyPath} {value : Tree} (h : ∀ s, p.Passes s) : Plain p value

instance (t : Tree) : Decidable t.IsLeaf :=
  match t with
  | .leaf .. => isTrue trivial
  | .list .. => isFalse id
  | .table .. => isFalse id

instance (p : KeyPath) (s : Setting) : Decidable (p.Passes s) :=
  match hsteps : p.steps with
  | .member name :: _ =>
      decidable_of_iff (p.root ≠ s.table ∨ name ≠ s.field) <| or_congr_right
        ⟨fun hname => ⟨name, _, hsteps, hname⟩, fun ⟨_, _, heq, hname⟩ => by
          cases hsteps.symm.trans heq
          exact hname⟩
  | [] | .item _ :: _ =>
      decidable_of_iff (p.root ≠ s.table) <| (or_iff_left fun ⟨_, _, heq, _⟩ => by
        cases hsteps.symm.trans heq).symm

/-- The values of a name among members. -/
def Members.under (ms : Members) (name : String) : List Tree :=
  (ms.filter (·.1 = name)).map (·.2)

/-- What an assignment gives a setting. -/
def Setting.givenBy (s : Setting) (p : KeyPath) (value : Tree) : List Tree :=
  if p = s.path then [value]
  else if p = .name s.table then value.members.under s.field
  else []

/-- What a layer gives a setting, in the order of the assignments. -/
def Layer.given (layer : Layer) (s : Setting) : List Tree :=
  layer.flatMap fun e => s.givenBy (KeyPath.ofText e.1) e.2

variable {s s' : Setting} {p : KeyPath} {name : String} {t u value : Tree} {ms : Members}
  {layer : Layer}

/-- Two settings have different paths. -/
theorem Setting.path_inj : s.path = s'.path ↔ s = s' := by
  refine ⟨fun h => ?_, fun h => h ▸ rfl⟩
  obtain ⟨htable, hsteps⟩ := KeyPath.mk.inj h
  exact eq_of_field htable (KeyStep.member.inj (List.cons.inj hsteps).1)

/-- An assignment to the path of a setting gives that setting a value, and no other one. -/
theorem Setting.givenBy_path (s s' : Setting) (value : Tree) :
    s'.givenBy s.path value = if s' = s then [value] else [] := by
  have hname : s.path ≠ .name s'.table := fun h => nomatch (KeyPath.mk.inj h).2
  unfold givenBy
  rw [if_neg hname]
  exact if_congr (path_inj.trans eq_comm) rfl rfl

/-- An assignment to the name of a section gives a setting what the assigned table has under
its field. -/
theorem Setting.givenBy_name (s : Setting) (name : String) (value : Tree) :
    s.givenBy (.name name) value = if s.table = name then value.members.under s.field else [] := by
  have hpath : KeyPath.name name ≠ s.path := fun h => nomatch (KeyPath.mk.inj h).2
  have hname : KeyPath.name name = .name s.table ↔ s.table = name :=
    ⟨fun h => (KeyPath.mk.inj h).1.symm, fun h => h ▸ rfl⟩
  unfold givenBy
  rw [if_neg hpath]
  exact if_congr hname rfl rfl

/-- An assignment that leads past a setting gives it nothing. -/
theorem Setting.givenBy_of_passes (h : p.Passes s) (value : Tree) : s.givenBy p value = [] := by
  have hpath : p ≠ s.path := by
    rintro rfl
    rcases h with hroot | ⟨name, steps, hsteps, hname⟩
    · exact hroot rfl
    · exact hname (KeyStep.member.inj (List.cons.inj hsteps).1).symm
  have hname : p ≠ .name s.table := by
    rintro rfl
    rcases h with hroot | ⟨name, steps, hsteps, -⟩
    · exact hroot rfl
    · cases hsteps
  unfold givenBy
  rw [if_neg hpath, if_neg hname]

/-- The values of a name are those of its members. -/
theorem Members.mem_under : value ∈ ms.under name ↔ (name, value) ∈ ms := by
  unfold Members.under
  rw [List.mem_map]
  constructor
  · rintro ⟨e, he, rfl⟩
    obtain ⟨hmem, hname⟩ := List.mem_filter.mp he
    obtain rfl := of_decide_eq_true hname
    exact hmem
  · intro hmem
    exact ⟨(name, value), List.mem_filter.mpr ⟨hmem, decide_eq_true rfl⟩, rfl⟩

/-- A table that is assigned to a name at the top has scalars for settings. -/
def isPlainTable (p : KeyPath) (value : Tree) : Bool :=
  match p.steps, value with
  | [], .table ms _ =>
      Setting.all.all fun s =>
        decide (s.table ≠ p.root) || (Members.under ms s.field).all fun v => decide v.IsLeaf
  | _, _ => false

/-- Whether an assignment is plain can be read off its path and its value. -/
theorem plain_iff : Plain p value ↔ (∃ s ∈ Setting.all, p = s.path ∧ value.IsLeaf)
    ∨ isPlainTable p value = true ∨ ∀ s ∈ Setting.all, p.Passes s := by
  constructor
  · -- each way to be plain is tested for
    intro h
    cases h with
    | setting s hvalue => exact .inl ⟨s, s.mem_all, rfl, hvalue⟩
    | elsewhere hpass => exact .inr (.inr fun s _ => hpass s)
    | table hms =>
        refine .inr (.inl (List.all_eq_true.mpr fun s _ => ?_))
        rw [Bool.or_eq_true, decide_eq_true_eq, List.all_eq_true, or_iff_not_imp_left, not_not]
        intro hname v hv
        exact decide_eq_true (hms s hname v (Members.mem_under.mp hv))
  · -- and each test finds one
    rintro (⟨s, -, rfl, hvalue⟩ | htable | hpass)
    · exact .setting s hvalue
    · obtain ⟨root, steps⟩ := p
      unfold isPlainTable at htable
      split at htable
      next hsteps =>
        obtain rfl : steps = [] := hsteps
        refine .table fun s hname v hv => ?_
        have hs := List.all_eq_true.mp htable s s.mem_all
        rw [Bool.or_eq_true, decide_eq_true_eq, List.all_eq_true] at hs
        exact of_decide_eq_true
          ((hs.resolve_left (not_not.mpr hname)) v (Members.mem_under.mpr hv))
      next => cases htable
    · exact .elsewhere fun s => hpass s s.mem_all

instance (p : KeyPath) (value : Tree) : Decidable (Plain p value) :=
  decidable_of_iff _ plain_iff.symm

/-- The values of a name come in the order of the members. -/
theorem Members.under_cons (k : String) (value : Tree) (ms : Members) (name : String) :
    Members.under ((k, value) :: ms) name
      = (if k = name then [value] else []) ++ ms.under name := by
  unfold Members.under
  rw [List.filter_cons]
  by_cases h : k = name
  · rw [if_pos h, if_pos (decide_eq_true h)]
    rfl
  · rw [if_neg h, if_neg (by simpa using h)]
    rfl

-- ================================================================== tables

namespace Tree

/-- Insertion of a member is the one of keyed lists. -/
theorem insert_eq (name : String) (value : Tree) (ms : Members) :
    Members.insert name value ms = Keyed.insert name value ms := by
  induction ms with
  | nil => rfl
  | cons e rest ih =>
      unfold Members.insert Keyed.insert
      rw [ih]

/-- A bare tree is a table. -/
theorem isTable_bare : bare.IsTable := ⟨[], none, rfl, .nil⟩

/-- A table stays one when a member is put into it. -/
theorem IsTable.put (h : t.IsTable) (name : String) (value : Tree) :
    (t.put name value).IsTable := by
  obtain ⟨ms, origin, rfl, hms⟩ := h
  refine ⟨_, origin, rfl, ?_⟩
  rw [insert_eq]
  exact hms.insert name value

/-- What was put into a table is found under its name, and nothing else changes. -/
theorem IsTable.get?_put (h : t.IsTable) (name : String) (value : Tree) (other : String) :
    (t.put name value).get? other = if other = name then some value else t.get? other := by
  obtain ⟨ms, origin, rfl, -⟩ := h
  show (Members.insert name value ms).lookup other = _
  rw [insert_eq]
  by_cases heq : other = name
  · rw [if_pos heq, heq, Keyed.lookup_insert_self]
  · rw [if_neg heq, Keyed.lookup_insert_ne value ms heq]
    rfl

/-- A value is assigned by putting one in, a scalar as it is. -/
theorem exists_assign (t : Tree) (name : String) (value : Tree) :
    ∃ w, t.assign name value = t.put name w ∧ (value.IsLeaf → w = value) := by
  cases value with
  | leaf v origin => exact ⟨_, by rw [assign], fun _ => rfl⟩
  | list items origin => exact ⟨_, by rw [assign], fun _ => rfl⟩
  | table ms origin => exact ⟨_, by rw [assign], False.elim⟩

/-- What a path assigns, it puts under the name at the top. -/
theorem exists_put (t : Tree) (p : KeyPath) (value : Tree) :
    ∃ w, t.set p value = t.put p.root w := by
  unfold Tree.set
  split
  · obtain ⟨w, hw, -⟩ := exists_assign t p.root value
    exact ⟨w, hw⟩
  · exact ⟨_, rfl⟩

/-- A table stays one when members are assigned to it. -/
theorem IsTable.assignAll (h : t.IsTable) (ms : Members) : (t.assignAll ms).IsTable := by
  induction ms generalizing t with
  | nil => rwa [Tree.assignAll]
  | cons e rest ih =>
      obtain ⟨w, hw, -⟩ := exists_assign t e.1 e.2
      rw [Tree.assignAll, hw]
      exact ih (h.put e.1 w)

/-- Of scalars that are assigned to one name, the last counts. -/
theorem IsTable.get?_assignAll (h : t.IsTable)
    (hms : ∀ value, (name, value) ∈ ms → value.IsLeaf) :
    (t.assignAll ms).get? name = (ms.under name).getLast?.or (t.get? name) := by
  induction ms generalizing t with
  | nil =>
      rw [Tree.assignAll]
      rfl
  | cons e rest ih =>
      obtain ⟨k, value⟩ := e
      obtain ⟨w, hw, hleaf⟩ := exists_assign t k value
      rw [Tree.assignAll, hw, ih (h.put k w) fun v hv => hms v (List.mem_cons_of_mem _ hv),
        h.get?_put, Members.under_cons]
      by_cases heq : k = name
      · subst heq
        rw [if_pos rfl, if_pos rfl, hleaf (hms value List.mem_cons_self), List.getLast?_append,
          Option.or_assoc]
        rfl
      · rw [if_neg heq, if_neg (Ne.symm heq)]
        rfl

-- ================================================================ sections

/-- The section of a name, a bare one if there is none. -/
def part (t : Tree) (name : String) : Tree := (t.get? name).getD bare

namespace Sectioned

/-- A bare tree has its sections in order. -/
theorem bare : Tree.bare.Sectioned := ⟨isTable_bare, fun _ _ h => nomatch h⟩

/-- The section of a setting is a table. -/
theorem isTable_part (h : t.Sectioned) (s : Setting) : (t.part s.table).IsTable := by
  unfold part
  cases hget : t.get? s.table with
  | none => exact isTable_bare
  | some part => exact h.sections s part hget

/-- A setting is found in its section. -/
theorem get?_part (t : Tree) (s : Setting) : (t.part s.table).get? s.field = t.at? s := by
  unfold part at?
  cases t.get? s.table <;> rfl

/-- A section that is not there is begun as a bare one. -/
theorem asTable_part (h : t.Sectioned) (s : Setting) :
    ((t.get? s.table).getD unset).asTable = t.part s.table := by
  unfold part
  cases hget : t.get? s.table with
  | none => rfl
  | some part =>
      obtain ⟨ms, origin, rfl, -⟩ := h.sections s part hget
      rfl

/-- Another section in the place of one changes its settings. -/
theorem put_part (h : t.Sectioned) (hu : u.IsTable) (name : String) :
    (t.put name u).Sectioned
      ∧ ∀ s, (t.put name u).at? s = if s.table = name then u.get? s.field else t.at? s := by
  refine ⟨⟨h.isTable.put name u, ?_⟩, ?_⟩
  · intro s part hpart
    rw [h.isTable.get?_put] at hpart
    split at hpart
    · cases hpart
      exact hu
    · exact h.sections s part hpart
  · intro s
    unfold at?
    rw [h.isTable.get?_put]
    split <;> rfl

/-- What is not in a section changes no setting. -/
theorem put_other (h : t.Sectioned) (hname : ∀ s : Setting, s.table ≠ name) (value : Tree) :
    (t.put name value).Sectioned ∧ ∀ s, (t.put name value).at? s = t.at? s := by
  refine ⟨⟨h.isTable.put name value, ?_⟩, ?_⟩
  · intro s part hpart
    rw [h.isTable.get?_put, if_neg (hname s)] at hpart
    exact h.sections s part hpart
  · intro s
    unfold at?
    rw [h.isTable.get?_put, if_neg (hname s)]

-- ========================================================== one assignment

/-- What a path into a section assigns, it puts under the first name there. -/
theorem exists_set (h : t.Sectioned) (s : Setting) (name : String) (steps : List KeyStep)
    (value : Tree) : ∃ w, t.set ⟨s.table, .member name :: steps⟩ value
      = t.put s.table ((t.part s.table).put name w) ∧ (steps = [] → value.IsLeaf → w = value) := by
  cases steps with
  | nil =>
      obtain ⟨w, hw, hleaf⟩ := exists_assign (t.part s.table) name value
      refine ⟨w, ?_, fun _ => hleaf⟩
      show t.put s.table (assignStep ((t.get? s.table).getD unset) value (.member name) []) = _
      rw [assignStep, h.asTable_part, hw]
  | cons step rest =>
      refine ⟨assignStep (((t.part s.table).get? name).getD unset) value step rest, ?_,
        fun hnil => (nomatch hnil)⟩
      show t.put s.table (assignStep ((t.get? s.table).getD unset) value (.member name)
        (step :: rest)) = _
      rw [assignStep, h.asTable_part]

/-- An assignment to a setting gives it the value, and leaves the others alone. -/
theorem set_setting (h : t.Sectioned) (s : Setting) (hvalue : value.IsLeaf) :
    (t.set s.path value).Sectioned
      ∧ ∀ s', (t.set s.path value).at? s' = (s'.givenBy s.path value).getLast?.or (t.at? s') := by
  obtain ⟨w, hset, hleaf⟩ := h.exists_set s s.field [] value
  obtain rfl := hleaf rfl hvalue
  unfold Setting.path
  rw [hset]
  obtain ⟨hsectioned, hat⟩ := h.put_part ((h.isTable_part s).put s.field w) s.table
  refine ⟨hsectioned, ?_⟩
  intro s'
  have hgiven : s'.givenBy ⟨s.table, [.member s.field]⟩ w = if s' = s then [w] else [] :=
    Setting.givenBy_path s s' w
  rw [hat, hgiven, (h.isTable_part s).get?_put]
  by_cases heq : s' = s
  · subst heq
    rw [if_pos rfl, if_pos rfl, if_pos rfl]
    rfl
  · rw [if_neg heq]
    by_cases htable : s'.table = s.table
    · rw [if_pos htable, if_neg fun hfield => heq (Setting.eq_of_field htable hfield), ← htable,
        get?_part]
      rfl
    · rw [if_neg htable]
      rfl

/-- An assignment to a section gives its settings what the table has for them, the last of
each name. -/
theorem set_table (h : t.Sectioned) (origin : Option Origin)
    (hms : ∀ s : Setting, s.table = name → ∀ value, (s.field, value) ∈ ms → value.IsLeaf) :
    (t.set (.name name) (.table ms origin)).Sectioned
      ∧ ∀ s, (t.set (.name name) (.table ms origin)).at? s
        = (s.givenBy (.name name) (.table ms origin)).getLast?.or (t.at? s) := by
  have hset : t.set (.name name) (.table ms origin) = t.put name ((t.part name).assignAll ms) := by
    show t.assign name (.table ms origin) = _
    rw [assign]
    rfl
  rw [hset]
  by_cases hsection : ∃ s : Setting, s.table = name
  · obtain ⟨s, rfl⟩ := hsection
    have hpart := h.isTable_part s
    obtain ⟨hsectioned, hat⟩ := h.put_part (hpart.assignAll ms) s.table
    refine ⟨hsectioned, ?_⟩
    intro s'
    rw [hat, Setting.givenBy_name]
    by_cases htable : s'.table = s.table
    · rw [if_pos htable, if_pos htable, hpart.get?_assignAll (hms s' htable), ← htable, get?_part]
      rfl
    · rw [if_neg htable, if_neg htable]
      rfl
  · have hname : ∀ s : Setting, s.table ≠ name := fun s hs => hsection ⟨s, hs⟩
    obtain ⟨hsectioned, hat⟩ := h.put_other hname ((t.part name).assignAll ms)
    refine ⟨hsectioned, ?_⟩
    intro s
    rw [hat, Setting.givenBy_name, if_neg (hname s)]
    rfl

/-- An assignment that leads past all settings leaves them alone. -/
theorem set_elsewhere (h : t.Sectioned) (hp : ∀ s, p.Passes s) (value : Tree) :
    (t.set p value).Sectioned ∧ ∀ s, (t.set p value).at? s = t.at? s := by
  by_cases hsection : ∃ s : Setting, s.table = p.root
  · -- the first step leads to a name in the section that no setting has
    obtain ⟨s, hroot⟩ := hsection
    obtain ⟨root, steps⟩ := p
    dsimp only at hroot
    subst hroot
    have hfirst : ∃ name rest, steps = .member name :: rest := by
      rcases hp s with hne | ⟨name, rest, hsteps, -⟩
      · exact absurd rfl hne
      · exact ⟨name, rest, hsteps⟩
    obtain ⟨name, rest, rfl⟩ := hfirst
    obtain ⟨w, hset, -⟩ := h.exists_set s name rest value
    rw [hset]
    obtain ⟨hsectioned, hat⟩ := h.put_part ((h.isTable_part s).put name w) s.table
    refine ⟨hsectioned, ?_⟩
    intro s'
    rw [hat]
    by_cases htable : s'.table = s.table
    · -- the same table, under a name that is not the setting's
      have hne : s'.field ≠ name := by
        rcases hp s' with hne | ⟨name', rest', hsteps, hne⟩
        · exact absurd htable.symm hne
        · cases hsteps
          exact hne.symm
      rw [if_pos htable, (h.isTable_part s).get?_put, if_neg hne, ← htable, get?_part]
    · -- another table
      rw [if_neg htable]
  · -- the first step leads elsewhere
    obtain ⟨w, hw⟩ := exists_put t p value
    rw [hw]
    exact h.put_other (fun s hs => hsection ⟨s, hs⟩) w

/-- An assignment changes the settings that it gives. -/
theorem set (h : t.Sectioned) (hp : Plain p value) :
    (t.set p value).Sectioned
      ∧ ∀ s, (t.set p value).at? s = (s.givenBy p value).getLast?.or (t.at? s) := by
  cases hp with
  | setting s hvalue => exact h.set_setting s hvalue
  | table hms => exact h.set_table _ hms
  | elsewhere hpass =>
      obtain ⟨hsectioned, hat⟩ := h.set_elsewhere hpass value
      refine ⟨hsectioned, ?_⟩
      intro s
      rw [hat, Setting.givenBy_of_passes (hpass s)]
      rfl

-- ================================================================== layers

/-- Of what a layer gives a setting, the last counts. -/
theorem laid_over (h : t.Sectioned) (hlayer : ∀ e ∈ layer, Plain (KeyPath.ofText e.1) e.2) :
    (layer.over t).Sectioned
      ∧ ∀ s, (layer.over t).at? s = (layer.given s).getLast?.or (t.at? s) := by
  induction layer generalizing t with
  | nil => exact ⟨h, fun s => rfl⟩
  | cons e rest ih =>
      obtain ⟨hfirst, hrest⟩ := List.forall_mem_cons.mp hlayer
      obtain ⟨hset, hat⟩ := h.set hfirst
      obtain ⟨hsectioned, hover⟩ := ih hset hrest
      refine ⟨hsectioned, ?_⟩
      intro s
      refine (hover s).trans ?_
      rw [hat, ← Option.or_assoc, ← List.getLast?_append]
      rfl

end Sectioned

end Tree

/-- The topmost of layers that gives a setting counts. -/
def Layer.topmost? (layers : List Layer) (s : Setting) : Option Tree :=
  layers.foldl (fun below layer => (layer.given s).getLast?.or below) none

/-- Of layers that lie one over the other, a setting has what the topmost one gives that
gives it anything. -/
theorem Layer.stack_spec {layers : List Layer}
    (h : ∀ layer ∈ layers, ∀ e ∈ layer, Plain (KeyPath.ofText e.1) e.2) :
    (Layer.stack layers).Sectioned
      ∧ ∀ s, (Layer.stack layers).at? s = Layer.topmost? layers s := by
  suffices hfrom : ∀ (t : Tree) (below : Setting → Option Tree), t.Sectioned →
      (∀ s, t.at? s = below s) →
      (layers.foldl (fun t layer => layer.over t) t).Sectioned
        ∧ ∀ s, (layers.foldl (fun t layer => layer.over t) t).at? s
          = layers.foldl (fun below layer => (layer.given s).getLast?.or below) (below s) from
    hfrom .bare (fun _ => none) .bare fun _ => rfl
  induction layers with
  | nil => exact fun t below ht hbelow => ⟨ht, hbelow⟩
  | cons layer rest ih =>
      intro t below ht hbelow
      obtain ⟨hfirst, hrest⟩ := List.forall_mem_cons.mp h
      obtain ⟨hover, hat⟩ := ht.laid_over hfirst
      refine ih hrest _ _ hover ?_
      intro s
      rw [hat, hbelow]

end CameraDriver.Settings
