/-
Which source of a configuration counts.

A configuration is built from its defaults, a file and environment variables. For
every setting on its own, the variable counts that is named for it, else what the file
assigns, else the default (`Setting.winner`); and the configuration is read from these
alone (`build_eq_settle`). So a value that another one covers has no part in the
result, and neither has the order of the variables.

# Variables

A variable is named for a setting if its name is that of the setting in some case
(`Environment.nameOf`). Where no two names differ in their case only, at most one
variable is, and then nothing depends on their order.

# Refused files

A file is read as a whole before anything of it counts. If its own reader refuses it,
the build fails with that fault and no variable can help (`build_of_refused`); every
other file provides a layer (`provides_or_refuses`).
-/
import CameraDriver.Proofs.General
import CameraDriver.Proofs.Settings.Layers
import CameraDriver.Settings.Build

namespace CameraDriver.Settings

-- ================================================================ defaults

/-- How a configuration assigns a setting. -/
def Setting.scalar : Setting → Config → Scalar
  | level, c => .text c.logging.level
  | showTarget, c => .bool c.logging.showTarget
  | reconnectInterval, c => Tree.integer c.driver.reconnectIntervalMs
  | maxRetryTimes, c => Tree.integer c.driver.maxRetryTimes
  | publishTimeout, c => Tree.integer c.driver.publishTimeoutMs
  | defaultImageFormat, c => .text c.driver.defaultImageFormat
  | libraryPath, c => .text c.driver.libraryPath

/-- An assignment of scalars to settings, among others that reach none. -/
def Layer.Plain (layer : Layer) : Prop :=
  ∀ e ∈ layer, Settings.Plain (KeyPath.ofText e.1) e.2

instance (layer : Layer) : Decidable layer.Plain :=
  inferInstanceAs (Decidable (∀ e ∈ layer, _))

/-- A configuration as a layer has its two sections, and their settings in order. -/
theorem Layer.ofConfig_eq (c : Config) : Layer.ofConfig c =
    [("driver", .table
      [("default_image_format", .leaf (Setting.defaultImageFormat.scalar c) none),
       ("library_path", .leaf (Setting.libraryPath.scalar c) none),
       ("max_retry_times", .leaf (Setting.maxRetryTimes.scalar c) none),
       ("publish_timeout_ms", .leaf (Setting.publishTimeout.scalar c) none),
       ("reconnect_interval_ms", .leaf (Setting.reconnectInterval.scalar c) none)] none),
     ("logging", .table
      [("level", .leaf (Setting.level.scalar c) none),
       ("show_target", .leaf (Setting.showTarget.scalar c) none)] none)] := rfl

theorem KeyPath.ofText_driver : KeyPath.ofText "driver" = .name "driver" :=
  Setting.ofText_table .libraryPath

theorem KeyPath.ofText_logging : KeyPath.ofText "logging" = .name "logging" :=
  Setting.ofText_table .level

/-- A configuration is a layer of plain assignments. -/
theorem Layer.plain_ofConfig (c : Config) : (Layer.ofConfig c).Plain := by
  unfold Layer.Plain
  rw [ofConfig_eq]
  simp only [List.forall_mem_cons, List.not_mem_nil, false_implies, implies_true, and_true]
  rw [KeyPath.ofText_driver, KeyPath.ofText_logging]
  constructor
  all_goals
    refine .table fun s _ value hv => ?_
    simp only [List.mem_cons, Prod.mk.injEq, List.not_mem_nil, or_false] at hv
  · rcases hv with ⟨-, rfl⟩ | ⟨-, rfl⟩ | ⟨-, rfl⟩ | ⟨-, rfl⟩ | ⟨-, rfl⟩ <;> trivial
  · rcases hv with ⟨-, rfl⟩ | ⟨-, rfl⟩ <;> trivial

/-- A configuration assigns every setting. -/
theorem Layer.given_ofConfig (c : Config) (s : Setting) :
    (Layer.ofConfig c).given s = [.leaf (s.scalar c) none] := by
  unfold Layer.given
  rw [ofConfig_eq, List.flatMap_cons, List.flatMap_cons, KeyPath.ofText_driver,
    KeyPath.ofText_logging, Setting.givenBy_name, Setting.givenBy_name]
  cases s <;> rfl

-- =============================================================== precedence

/-- What counts for a setting: what the environment gives, else what the file gives,
else the default. -/
def Setting.winner (ofFile ofEnvironment : Layer) (s : Setting) : Tree :=
  (ofEnvironment.given s).getLast?.getD
    ((ofFile.given s).getLast?.getD (.leaf (s.scalar {}) none))

/-- The configuration that values of the settings give. -/
def settle (view : Setting → Tree) : Except CoreError Config := do
  let c ← (Setting.readAll view).mapError fun m => .config m.message
  c.driver.validate
  return c

variable {view : Setting → Tree} {c : Config} {ofFile ofEnvironment : Layer}

theorem validate_eq_ok {c : DriverConfig} :
    c.validate = .ok () ↔ c.reconnectIntervalMs ≠ 0 ∧ c.publishTimeoutMs ≠ 0 := by
  unfold DriverConfig.validate
  split
  case isTrue h => exact ⟨fun h => (nomatch h), fun hne => absurd h hne.1⟩
  case isFalse h =>
    split
    case isTrue h' => exact ⟨fun h => (nomatch h), fun hne => absurd h' hne.2⟩
    case isFalse h' => exact ⟨fun _ => ⟨h, h'⟩, fun _ => rfl⟩

theorem settle_of_error {m : Mismatch} (h : Setting.readAll view = .error m) :
    settle view = .error (.config m.message) := by
  unfold settle
  rw [h]
  rfl

theorem settle_of_ok (h : Setting.readAll view = .ok c) :
    settle view = c.driver.validate.map fun _ => c := by
  unfold settle
  rw [h]
  show (c.driver.validate >>= fun _ => pure c) = _
  cases c.driver.validate <;> rfl

/-- What is built has every setting converted, and both times positive. -/
theorem settle_eq_ok : settle view = .ok c ↔
    (∀ s : Setting, s.convert (view s) = .ok (s.get c))
      ∧ c.driver.reconnectIntervalMs ≠ 0 ∧ c.driver.publishTimeoutMs ≠ 0 := by
  rw [← Setting.readAll_eq_ok, ← validate_eq_ok]
  cases h : Setting.readAll view with
  | error m =>
      rw [settle_of_error h]
      exact ⟨fun h => (nomatch h), fun h => (nomatch h.1)⟩
  | ok c' =>
      rw [settle_of_ok h]
      cases hv : c'.driver.validate with
      | error e =>
          refine ⟨fun h => (nomatch h), ?_⟩
          rintro ⟨heq, hok⟩
          cases heq
          rw [hv] at hok
          cases hok
      | ok u =>
          constructor
          · intro heq
            cases heq
            exact ⟨rfl, hv⟩
          · rintro ⟨heq, -⟩
            cases heq
            rfl

/-- Nothing is built exactly if a value does not convert or a time is zero. -/
theorem settle_eq_error : (∃ e, settle view = .error e) ↔
    (∃ (s : Setting) (cause : Cause), s.convert (view s) = .error cause)
      ∨ (view .reconnectInterval).toNatural = .ok 0 ∨ (view .publishTimeout).toNatural = .ok 0 := by
  rw [← Setting.readAll_eq_error]
  cases h : Setting.readAll view with
  | error m => exact ⟨fun _ => .inl ⟨m, rfl⟩, fun _ => ⟨_, settle_of_error h⟩⟩
  | ok c =>
      have hread := Setting.readAll_eq_ok.mp h
      have hinterval : (view .reconnectInterval).toNatural = .ok c.driver.reconnectIntervalMs :=
        hread .reconnectInterval
      have htimeout : (view .publishTimeout).toNatural = .ok c.driver.publishTimeoutMs :=
        hread .publishTimeout
      rw [settle_of_ok h, hinterval, htimeout, Except.ok.injEq, Except.ok.injEq]
      have hvalid := validate_eq_ok (c := c.driver)
      cases hv : c.driver.validate with
      | error e =>
          have hzero : ¬ (c.driver.reconnectIntervalMs ≠ 0 ∧ c.driver.publishTimeoutMs ≠ 0) := by
            rw [← hvalid, hv]
            exact fun h => nomatch h
          exact ⟨fun _ => .inr (by omega), fun _ => ⟨e, rfl⟩⟩
      | ok u =>
          obtain ⟨hinterval, htimeout⟩ := hvalid.mp hv
          refine ⟨fun ⟨e, he⟩ => (nomatch he), ?_⟩
          rintro (⟨m, hm⟩ | hzero | hzero)
          · cases hm
          · exact absurd hzero hinterval
          · exact absurd hzero htimeout

/-- Plain layers over the defaults give what counts for the settings. -/
theorem assemble_eq_settle (hfile : ofFile.Plain) (henvironment : ofEnvironment.Plain) :
    assemble [Layer.ofConfig {}, ofFile, ofEnvironment]
      = settle fun s => s.winner ofFile ofEnvironment := by
  have hlayers : ∀ layer ∈ [Layer.ofConfig {}, ofFile, ofEnvironment], Layer.Plain layer := by
    simp only [List.forall_mem_cons, List.not_mem_nil, false_implies, implies_true, and_true]
    exact ⟨Layer.plain_ofConfig {}, hfile, henvironment⟩
  obtain ⟨hsectioned, hat⟩ := Layer.stack_spec hlayers
  have hview : ∀ s, (Layer.stack [Layer.ofConfig {}, ofFile, ofEnvironment]).at? s
      = some (s.winner ofFile ofEnvironment) := by
    intro s
    rw [hat]
    show (ofEnvironment.given s).getLast?.or ((ofFile.given s).getLast?.or
      (((Layer.ofConfig {}).given s).getLast?.or none)) = _
    rw [Layer.given_ofConfig]
    unfold Setting.winner
    cases (ofEnvironment.given s).getLast? with
    | some t => rfl
    | none => cases (ofFile.given s).getLast? <;> rfl
  unfold assemble settle
  rw [hsectioned.toConfig_eq hview]

-- ================================================================== sources

/-- What a file that is asked for assigns; one that is missing assigns nothing. -/
inductive Provides (files : List (String × Bytes)) : Option String → Layer → Prop
  | unasked : Provides files none []
  | missing {path : String} (h : File.find? files path = .ok none) : Provides files (some path) []
  | found {path : String} {f : File} {layer : Layer} (h : File.find? files path = .ok (some f))
      (hlayer : f.layer = .ok layer) : Provides files (some path) layer

/-- What a file that is asked for is refused for: there is no file to be read there, or
its own reader does not take it. -/
inductive Refuses (files : List (String × Bytes)) : Option String → String → Prop
  | unfound {path fault : String} (h : File.find? files path = .error fault) :
      Refuses files (some path) fault
  | unread {path fault : String} {f : File} (h : File.find? files path = .ok (some f))
      (hlayer : f.layer = .error fault) : Refuses files (some path) fault

/-- A file that is asked for is read, missing or refused. -/
theorem provides_or_refuses (files : List (String × Bytes)) (path : Option String) :
    (∃ layer, Provides files path layer) ∨ ∃ fault, Refuses files path fault := by
  cases path with
  | none => exact .inl ⟨[], .unasked⟩
  | some path =>
      cases hfind : File.find? files path with
      | error fault => exact .inr ⟨fault, .unfound hfind⟩
      | ok found =>
          cases found with
          | none => exact .inl ⟨[], .missing hfind⟩
          | some f =>
              cases hlayer : f.layer with
              | error fault => exact .inr ⟨fault, .unread hfind hlayer⟩
              | ok layer => exact .inl ⟨layer, .found hfind hlayer⟩

/-- A file that is found and read. -/
theorem exists_provides {files : List (String × Bytes)} {path : String}
    (h : ((File.find? files path).toOption.join.bind fun f => f.layer.toOption).any
      (fun layer => decide layer.Plain) = true) :
    ∃ layer, Provides files (some path) layer ∧ layer.Plain := by
  obtain ⟨layer, hlayer, hplain⟩ := (Option.any_eq_true _ _).mp h
  obtain ⟨f, hf, hread⟩ := Option.bind_eq_some_iff.mp hlayer
  have hfind : File.find? files path = .ok (some f) :=
    eq_ok_of_toOption (Option.join_eq_some_iff.mp hf)
  exact ⟨layer, .found hfind (eq_ok_of_toOption hread), of_decide_eq_true hplain⟩

/-- With a file that provides its layer, a build assembles the defaults, the file and the
variables. -/
theorem build_eq_assemble {files : List (String × Bytes)} {path : Option String}
    (h : Provides files path ofFile) (environment : Option Environment) :
    build files path environment = assemble
      [Layer.ofConfig {}, ofFile, (environment.map (·.layer)).getD []] := by
  cases h with
  | unasked => rfl
  | missing h =>
      unfold build
      dsimp only
      rw [h]
      rfl
  | found h hlayer =>
      unfold build
      dsimp only
      rw [h]
      dsimp only [Except.mapError, bind, Except.bind]
      rw [hlayer]

namespace Environment

variable {e : Environment} {s s' : Setting} {name : String}

/-- The name of the variable for a setting, in small letters. -/
def nameOf (e : Environment) (s : Setting) : String :=
  Text.lower (e.prefixName ++ "__") ++ (s.table ++ ("__" ++ s.field))

/-- Variables for settings, among others that reach none; no two names differ in their
case only. -/
structure Assigns (e : Environment) : Prop where
  spelled : ∀ v ∈ e.entries, ∀ key, e.key? v.1 = some key →
    (∃ s, Text.lower v.1 = e.nameOf s) ∨ ∀ s, (KeyPath.ofText key).Passes s
  distinct : (e.entries.map fun v => Text.lower v.1).Nodup

/-- Behind a prefix stands what follows it. -/
theorem afterPrefix?_append (lead cs : List Char) : afterPrefix? lead (lead ++ cs) = some cs := by
  induction lead with
  | nil => cases cs <;> rfl
  | cons c rest ih =>
      show (if c = c then _ else _) = _
      rw [if_pos rfl]
      exact ih

/-- The variable for a setting assigns to its key. -/
theorem key?_of_name (h : Text.lower name = e.nameOf s) : e.key? name = some s.key := by
  have hdotted : String.ofList (dotted (s.table ++ ("__" ++ s.field)).toList) = s.key := by
    cases s <;> decide
  unfold key?
  dsimp only
  rw [h]
  unfold nameOf
  rw [String.toList_append, afterPrefix?_append, Option.map_some, hdotted]

/-- A variable gives a setting its value exactly if it is named for it. -/
theorem givenBy_of_spelled {key : String} (hkey : e.key? name = some key)
    (h : (∃ s, Text.lower name = e.nameOf s) ∨ ∀ s, (KeyPath.ofText key).Passes s) (s : Setting)
    (value : Tree) : s.givenBy (KeyPath.ofText key) value
      = if Text.lower name = e.nameOf s then [value] else [] := by
  have hnamed : ∀ s : Setting, Text.lower name = e.nameOf s → key = s.key := by
    intro s hname
    exact Option.some.inj (hkey.symm.trans (key?_of_name hname))
  rcases h with ⟨s', hname'⟩ | hpass
  · obtain rfl := hnamed s' hname'
    have hname : s = s' ↔ Text.lower name = e.nameOf s := by
      refine ⟨fun h => h ▸ hname', fun h => ?_⟩
      have hpath := congrArg KeyPath.ofText (hnamed s h)
      rw [Setting.ofText_key, Setting.ofText_key] at hpath
      exact (Setting.path_inj.mp hpath).symm
    rw [Setting.ofText_key, Setting.givenBy_path]
    exact if_congr hname rfl rfl
  · have hname : Text.lower name ≠ e.nameOf s := by
      intro hname
      -- the key would lead to the setting and past it
      have hpath := hpass s
      rw [hnamed s hname, Setting.ofText_key] at hpath
      have hnone := Setting.givenBy_of_passes hpath value
      rw [Setting.givenBy_path, if_pos rfl] at hnone
      cases hnone
    rw [Setting.givenBy_of_passes (hpass s), if_neg hname]

/-- The value that a variable assigns, -/
def valueOf (v : String × String) : Tree := .leaf (scalar v.2) (some .environment)

/-- and the assignment it makes, if it counts. -/
def assignment? (e : Environment) (v : String × String) : Option (String × Tree) :=
  (e.key? v.1).map fun key => (key, valueOf v)

theorem layer_eq (e : Environment) : e.layer = e.entries.filterMap e.assignment? := rfl

/-- What the variables give a setting: the values of those that are named for it. -/
theorem given_layer (h : e.Assigns) (s : Setting) : e.layer.given s
    = (e.entries.filter fun v => Text.lower v.1 = e.nameOf s).map valueOf := by
  have hspelled := h.spelled
  rw [layer_eq]
  generalize e.entries = entries at hspelled
  induction entries with
  | nil => rfl
  | cons v rest ih =>
      obtain ⟨hfirst, hrest⟩ := List.forall_mem_cons.mp hspelled
      have ih := ih hrest
      rw [List.filter_cons]
      cases hkey : e.key? v.1 with
      | none =>
          have hname : Text.lower v.1 ≠ e.nameOf s := by
            intro hname
            rw [key?_of_name hname] at hkey
            cases hkey
          have hnone : e.assignment? v = none := by
            unfold assignment?
            rw [hkey]
            rfl
          rw [List.filterMap_cons_none hnone, if_neg (by simpa using hname), ih]
      | some key =>
          have hsome : e.assignment? v = some (key, valueOf v) := by
            unfold assignment?
            rw [hkey]
            rfl
          have hgiven := givenBy_of_spelled hkey (hfirst key hkey) s (valueOf v)
          rw [List.filterMap_cons_some hsome]
          show s.givenBy (KeyPath.ofText key) (valueOf v) ++ Layer.given _ s = _
          rw [hgiven, ih]
          by_cases hname : Text.lower v.1 = e.nameOf s
          · rw [if_pos hname, if_pos (decide_eq_true hname)]
            rfl
          · rw [if_neg hname, if_neg (by simpa using hname)]
            rfl

/-- At most one variable is named for a setting. -/
theorem Assigns.once (h : e.Assigns) (s : Setting) : (e.layer.given s).length ≤ 1 := by
  rw [given_layer h, List.length_map, ← List.countP_eq_length_filter]
  have hcount := List.nodup_iff_count_le_one.mp h.distinct (e.nameOf s)
  rw [List.count, List.countP_map] at hcount
  exact hcount

/-- The variable that is named for a setting counts for it. -/
theorem Assigns.winner_eq (h : e.Assigns) (ofFile : Layer) {v : String × String}
    (hv : v ∈ e.entries) (hname : Text.lower v.1 = e.nameOf s) :
    s.winner ofFile e.layer = valueOf v := by
  have hgiven : valueOf v ∈ e.layer.given s := by
    rw [given_layer h]
    exact List.mem_map_of_mem (List.mem_filter.mpr ⟨hv, decide_eq_true hname⟩)
  have honce := h.once s
  unfold Setting.winner
  match hlist : e.layer.given s with
  | [] =>
      rw [hlist] at hgiven
      cases hgiven
  | [t] =>
      rw [hlist] at hgiven
      exact (List.mem_singleton.mp hgiven).symm
  | _ :: _ :: rest =>
      rw [hlist, List.length_cons, List.length_cons] at honce
      omega

/-- Variables make plain assignments. -/
theorem Assigns.plain (h : e.Assigns) : e.layer.Plain := by
  intro a ha
  rw [layer_eq] at ha
  obtain ⟨v, hv, hassign⟩ := List.mem_filterMap.mp ha
  obtain ⟨key, hkey, rfl⟩ := Option.map_eq_some_iff.mp hassign
  rcases h.spelled v hv key hkey with ⟨s, hname⟩ | hpass
  · obtain rfl := Option.some.inj ((key?_of_name hname).symm.trans hkey)
    dsimp only
    rw [Setting.ofText_key]
    exact .setting s trivial
  · exact .elsewhere hpass

/-- The variables give each setting the same in any order. -/
theorem Assigns.given_of_perm (h : e.Assigns) {order : List (String × String)}
    (hperm : order.Perm e.entries) :
    ({ e with entries := order } : Environment).Assigns
      ∧ ∀ s, ({ e with entries := order } : Environment).layer.given s = e.layer.given s := by
  have horder : ({ e with entries := order } : Environment).Assigns :=
    ⟨fun v hv => h.spelled v (hperm.mem_iff.mp hv), (hperm.map _).nodup_iff.mpr h.distinct⟩
  refine ⟨horder, ?_⟩
  intro s
  have hgiven : (({ e with entries := order } : Environment).layer.given s).Perm
      (e.layer.given s) := by
    rw [given_layer h, given_layer horder]
    exact (hperm.filter _).map _
  have honce := h.once s
  cases hlist : e.layer.given s with
  | nil =>
      rw [hlist] at hgiven
      exact hgiven.eq_nil
  | cons t rest =>
      rw [hlist] at hgiven honce
      obtain rfl := List.eq_nil_of_length_eq_zero (l := rest) (by simpa using honce)
      exact List.perm_singleton.mp hgiven

end Environment

/-- What optional variables assign. -/
def Environment.layerOf (environment : Option Environment) : Layer :=
  (environment.map (·.layer)).getD []

variable {files : List (String × Bytes)} {path : Option String} {environment : Option Environment}

/-- A configuration is settled by what counts for each setting. -/
theorem build_eq_settle (hfile : Provides files path ofFile) (hplain : ofFile.Plain)
    (henvironment : ∀ e, environment = some e → e.Assigns) :
    build files path environment
      = settle fun s => s.winner ofFile (Environment.layerOf environment) := by
  have hvariables : (Environment.layerOf environment).Plain := by
    cases environment with
    | none => exact fun _ h => nomatch h
    | some e => exact (henvironment e rfl).plain
  rw [build_eq_assemble hfile]
  exact assemble_eq_settle hplain hvariables

/-- For every setting the environment counts, else the file, else the default, each
converted to what the setting is. A configuration is missing exactly if a value that
counts does not convert or one of the times is zero. What a file assigns under a
variable does not matter, and the order of the variables does not either. -/
theorem build_of_winners (hfile : Provides files path ofFile) (hplain : ofFile.Plain)
    (henvironment : ∀ e, environment = some e → e.Assigns) :
    let winner := fun s : Setting => s.winner ofFile (Environment.layerOf environment)
    (∀ c, build files path environment = .ok c ↔
        (∀ s : Setting, s.convert (winner s) = .ok (s.get c))
          ∧ c.driver.reconnectIntervalMs ≠ 0 ∧ c.driver.publishTimeoutMs ≠ 0)
      ∧ ((∃ error, build files path environment = .error error) ↔
        (∃ (s : Setting) (cause : Cause), s.convert (winner s) = .error cause)
          ∨ (winner .reconnectInterval).toNatural = .ok 0
          ∨ (winner .publishTimeout).toNatural = .ok 0)
      ∧ (∀ files' path' ofFile', Provides files' path' ofFile' → ofFile'.Plain →
          (∀ s, (Environment.layerOf environment).given s = [] → ofFile'.given s = ofFile.given s) →
          build files' path' environment = build files path environment)
      ∧ ∀ e order, environment = some e → order.Perm e.entries →
          build files path (some { e with entries := order }) = build files path environment := by
  have hbuild := build_eq_settle hfile hplain henvironment
  refine ⟨?_, ?_, ?_, ?_⟩
  · -- the settings that the client starts with
    intro c
    rw [hbuild]
    exact settle_eq_ok
  · -- why it does not start
    rw [hbuild]
    exact settle_eq_error
  · -- what the variables cover does not matter in the file
    intro files' path' ofFile' hfile' hplain' hsame
    rw [hbuild, build_eq_settle hfile' hplain' henvironment]
    refine congrArg settle (funext fun s => ?_)
    unfold Setting.winner
    cases hgiven : (Environment.layerOf environment).given s with
    | nil => rw [hsame s hgiven]
    | cons t rest =>
        rw [List.getLast?_cons]
        rfl
  · -- nor does the order of the variables
    rintro e order rfl hperm
    obtain ⟨horder, hgiven⟩ := (henvironment e rfl).given_of_perm hperm
    have hvariables : ∀ e', some ({ e with entries := order } : Environment) = some e' →
        e'.Assigns := by
      rintro e' ⟨rfl⟩
      exact horder
    rw [hbuild, build_eq_settle hfile hplain hvariables]
    refine congrArg settle (funext fun s => ?_)
    have hlayers : (Environment.layerOf (some { e with entries := order })).given s
        = (Environment.layerOf (some e)).given s := hgiven s
    unfold Setting.winner
    rw [hlayers]

/-- What a file is refused for is what the build fails with, whatever the variables
give: a variable covers the value of a file, never a fault of its text. -/
theorem build_of_refused {fault : String} (h : Refuses files path fault)
    (environment : Option Environment) :
    build files path environment = .error (.config fault) := by
  unfold build
  cases h with
  | unfound h =>
      dsimp only
      rw [h]
      rfl
  | unread h hlayer =>
      dsimp only
      rw [h]
      dsimp only [Except.mapError, bind, Except.bind]
      rw [hlayer]

/-- A number of retries in a file that is no number, under a variable that gives
one. -/
theorem build_of_winners_of_covered :
    let files := [("mapper.toml", Text.Utf8.encode
      "[driver]\nmax_retry_times = \"many\"\nreconnect_interval_ms = 250\n")]
    let e : Environment := ⟨"MAPPERFLOW",
      [("MAPPERFLOW__DRIVER__MAX_RETRY_TIMES", "7"), ("MAPPERFLOW__Logging__Level", "trace")]⟩
    let c : Config :=
      { logging := { level := "trace" }
        driver := { reconnectIntervalMs := 250, maxRetryTimes := 7 } }
    build files (some "mapper.toml") (some e) = .ok c
      ∧ build files (some "mapper.toml") (some { e with entries := e.entries.reverse }) = .ok c := by
  intro files e c
  have hvariables : e.Assigns := by
    refine ⟨?_, by decide +kernel⟩
    intro v hv key _
    simp only [e, List.mem_cons, List.not_mem_nil, or_false] at hv
    rcases hv with rfl | rfl
    · exact .inl ⟨.maxRetryTimes, by decide +kernel⟩
    · exact .inl ⟨.level, by decide +kernel⟩
  have henvironment : ∀ e', some e = some e' → e'.Assigns := by
    rintro e' ⟨rfl⟩
    exact hvariables
  obtain ⟨layer, hfile, hplain⟩ : ∃ layer, Provides files (some "mapper.toml") layer ∧ layer.Plain :=
    exists_provides (by decide +kernel)
  have hbuild : (build files (some "mapper.toml") (some e)).toOption = some c := by decide +kernel
  obtain ⟨-, -, -, horder⟩ := build_of_winners hfile hplain henvironment
  have hok : build files (some "mapper.toml") (some e) = .ok c := eq_ok_of_toOption hbuild
  exact ⟨hok, (horder e _ rfl (List.reverse_perm _)).trans hok⟩

end CameraDriver.Settings
