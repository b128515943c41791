/-
The settings one by one.

A setting is a field of one of the two sections. It has a key, a type that values
convert to, and a place in a configuration, which holds nothing else (`Setting.ext`).
So a configuration can be read setting by setting, each from a tree of its own
(`Setting.readAll`): what comes of it is told by the single conversions
(`readAll_eq_ok`, `readAll_eq_error`).

A tree of settings is read like that (`Tree.Sectioned.toConfig_eq`). The reader goes
through all members that tables have; as these stand in the order of their names, and
unknown ones are passed over, it comes upon the settings in the order of their keys.
-/
import CameraDriver.Proofs.Keyed
import CameraDriver.Settings.Convert
import CameraDriver.Settings.KeyPath

namespace CameraDriver.Settings

/-- The settings that a configuration has. -/
inductive Setting where
  | level
  | showTarget
  | reconnectInterval
  | maxRetryTimes
  | publishTimeout
  | defaultImageFormat
  | libraryPath
deriving DecidableEq, Repr

namespace Setting

-- =================================================================== names

/-- The section that has a setting. -/
def table : Setting → String
  | level | showTarget => "logging"
  | _ => "driver"

/-- The name of a setting in its section. -/
def field : Setting → String
  | level => "level"
  | showTarget => "show_target"
  | reconnectInterval => "reconnect_interval_ms"
  | maxRetryTimes => "max_retry_times"
  | publishTimeout => "publish_timeout_ms"
  | defaultImageFormat => "default_image_format"
  | libraryPath => "library_path"

/-- The key of a setting, -/
def key (s : Setting) : String := s.table ++ ("." ++ s.field)

/-- and where it leads. -/
def path (s : Setting) : KeyPath := ⟨s.table, [.member s.field]⟩

/-- All settings, in the order of their keys. -/
def all : List Setting :=
  [defaultImageFormat, libraryPath, maxRetryTimes, publishTimeout, reconnectInterval, level,
   showTarget]

variable {s s' : Setting} {c c' : Config}

theorem mem_all (s : Setting) : s ∈ all := by cases s <;> decide

/-- No setting is listed twice. -/
theorem nodup_all : all.Nodup := by decide

theorem ofText_key (s : Setting) : KeyPath.ofText s.key = s.path := by
  cases s <;> decide +kernel

theorem ofText_table (s : Setting) : KeyPath.ofText s.table = .name s.table := by
  cases s <;> decide +kernel

/-- A section and a name in it tell the setting. -/
theorem eq_of_field (htable : s.table = s'.table) (hfield : s.field = s'.field) : s = s' := by
  revert htable hfield
  cases s <;> cases s' <;> decide

-- ================================================================== values

/-- What a value converts to. -/
def Value : Setting → Type
  | level | defaultImageFormat | libraryPath => String
  | showTarget => Bool
  | reconnectInterval | maxRetryTimes | publishTimeout => Nat

/-- Converts a value for a setting. -/
def convert : (s : Setting) → Tree → Except Cause s.Value
  | level, t => t.toText
  | showTarget, t => t.toBool
  | reconnectInterval, t => t.toNatural
  | maxRetryTimes, t => do return (← t.toNatural) % (maxNatural32 + 1)
  | publishTimeout, t => t.toNatural
  | defaultImageFormat, t => t.toText
  | libraryPath, t => t.toText

/-- A setting of a configuration. -/
def get : (s : Setting) → Config → s.Value
  | level, c => c.logging.level
  | showTarget, c => c.logging.showTarget
  | reconnectInterval, c => c.driver.reconnectIntervalMs
  | maxRetryTimes, c => c.driver.maxRetryTimes
  | publishTimeout, c => c.driver.publishTimeoutMs
  | defaultImageFormat, c => c.driver.defaultImageFormat
  | libraryPath, c => c.driver.libraryPath

/-- A configuration with one setting changed. -/
def set : (s : Setting) → s.Value → Config → Config
  | level, v, c => { c with logging := { c.logging with level := v } }
  | showTarget, v, c => { c with logging := { c.logging with showTarget := v } }
  | reconnectInterval, v, c => { c with driver := { c.driver with reconnectIntervalMs := v } }
  | maxRetryTimes, v, c => { c with driver := { c.driver with maxRetryTimes := v } }
  | publishTimeout, v, c => { c with driver := { c.driver with publishTimeoutMs := v } }
  | defaultImageFormat, v, c => { c with driver := { c.driver with defaultImageFormat := v } }
  | libraryPath, v, c => { c with driver := { c.driver with libraryPath := v } }

theorem get_set (s : Setting) (v : s.Value) (c : Config) : s.get (s.set v c) = v := by
  cases s <;> rfl

theorem get_set_ne (h : s' ≠ s) (v : s.Value) (c : Config) : s'.get (s.set v c) = s'.get c := by
  cases s <;> cases s' <;> first | rfl | exact absurd rfl h

/-- A configuration is what its settings are. -/
theorem ext (h : ∀ s : Setting, s.get c = s.get c') : c = c' := by
  obtain ⟨⟨level, target⟩, ⟨interval, retries, timeout, format, library⟩⟩ := c
  obtain ⟨⟨level', target'⟩, ⟨interval', retries', timeout', format', library'⟩⟩ := c'
  cases h .level
  cases h .showTarget
  cases h .reconnectInterval
  cases h .maxRetryTimes
  cases h .publishTimeout
  cases h .defaultImageFormat
  cases h .libraryPath
  rfl

-- ================================================================= reading

/-- Reads one setting. A value that does not convert is reported with the key and
where it was read. -/
def read (s : Setting) (t : Tree) (c : Config) : Except Mismatch Config :=
  match s.convert t with
  | .ok v => .ok (s.set v c)
  | .error cause => .error { cause, key := some s.key, origin := t.origin }

/-- Reads settings, each from its own tree. -/
def readThese (settings : List Setting) (view : Setting → Tree) (c : Config) :
    Except Mismatch Config :=
  settings.foldlM (fun c s => s.read (view s) c) c

/-- Reads all settings. -/
def readAll (view : Setting → Tree) : Except Mismatch Config := readThese all view {}

variable {view : Setting → Tree} {settings : List Setting} {m : Mismatch}

/-- Settings are read one after the other. -/
theorem readThese_cons (s : Setting) (settings : List Setting) (view : Setting → Tree)
    (c : Config) : readThese (s :: settings) view c = s.read (view s) c >>= readThese settings view :=
  List.foldlM_cons

/-- Settings that are read are what their values convert to; the others stay. -/
theorem readThese_eq_ok (hnodup : settings.Nodup) : readThese settings view c = .ok c' ↔
    (∀ s ∈ settings, s.convert (view s) = .ok (s.get c'))
      ∧ ∀ s, s ∉ settings → s.get c' = s.get c := by
  induction settings generalizing c with
  | nil =>
      refine ⟨fun h => ?_, fun h => ?_⟩
      · -- no setting is read, and none changes
        cases h
        exact ⟨fun s hs => (nomatch hs), fun s _ => rfl⟩
      · rw [ext fun s => h.2 s List.not_mem_nil]
        rfl
  | cons s rest ih =>
      obtain ⟨hs, hrest⟩ := List.nodup_cons.mp hnodup
      rw [readThese_cons, List.forall_mem_cons]
      unfold read
      cases hv : s.convert (view s) with
      | error cause =>
          exact ⟨fun h => (nomatch h), fun h => (nomatch h.1.1)⟩
      | ok v =>
          show readThese rest view (s.set v c) = _ ↔ _
          rw [ih hrest]
          constructor
          · -- what was read first is not read over
            rintro ⟨hread, hstay⟩
            refine ⟨⟨?_, hread⟩, ?_⟩
            · rw [hstay s hs, get_set]
            · intro s' hs'
              obtain ⟨hne, hs'⟩ := List.ne_and_not_mem_of_not_mem_cons hs'
              rw [hstay s' hs', get_set_ne hne]
          · -- and what is there is what would have been read
            rintro ⟨⟨hfirst, hread⟩, hstay⟩
            refine ⟨hread, ?_⟩
            intro s' hs'
            by_cases heq : s' = s
            · subst heq
              rw [get_set]
              exact (Except.ok.inj hfirst).symm
            · rw [hstay s' (List.not_mem_cons_of_ne_of_not_mem heq hs'), get_set_ne heq]

/-- What is reported is a value that does not convert. -/
theorem readThese_eq_error (h : readThese settings view c = .error m) :
    ∃ s cause, s.convert (view s) = .error cause
      ∧ m = { cause, key := some s.key, origin := (view s).origin } := by
  induction settings generalizing c with
  | nil => cases h
  | cons s rest ih =>
      rw [readThese_cons] at h
      unfold read at h
      cases hv : s.convert (view s) with
      | error cause =>
          rw [hv] at h
          exact ⟨s, cause, hv, (Except.error.inj h).symm⟩
      | ok v =>
          rw [hv] at h
          exact ih h

/-- All settings are what their values convert to. -/
theorem readAll_eq_ok :
    readAll view = .ok c ↔ ∀ s : Setting, s.convert (view s) = .ok (s.get c) := by
  unfold readAll
  rw [readThese_eq_ok nodup_all]
  exact ⟨fun h s => h.1 s (mem_all s),
    fun h => ⟨fun s _ => h s, fun s hs => absurd (mem_all s) hs⟩⟩

/-- One of the values does not convert exactly if there is a report. -/
theorem readAll_eq_error : (∃ m, readAll view = .error m) ↔
    ∃ (s : Setting) (cause : Cause), s.convert (view s) = .error cause := by
  constructor
  · rintro ⟨m, hm⟩
    obtain ⟨s, cause, hs, -⟩ := readThese_eq_error hm
    exact ⟨s, cause, hs⟩
  · rintro ⟨s, cause, hs⟩
    cases h : readAll view with
    | error m => exact ⟨m, rfl⟩
    | ok c =>
        rw [readAll_eq_ok.mp h s] at hs
        cases hs

end Setting

namespace Tree

variable {t : Tree} {name : String} {ms : Members}

-- =================================================================== trees

/-- What stands at a setting. -/
def at? (t : Tree) (s : Setting) : Option Tree := (t.get? s.table).bind (·.get? s.field)

/-- A tree is a table with its members in order. -/
def IsTable (t : Tree) : Prop := ∃ ms origin, t = .table ms origin ∧ Keyed.Ascending ms

/-- A tree is a table with its members in order, and so is each section in it. -/
structure Sectioned (t : Tree) : Prop where
  isTable : t.IsTable
  sections : ∀ (s : Setting) (part : Tree), t.get? s.table = some part → part.IsTable

/-- The settings of the `driver` section, in the order of their names. -/
def driverSettings : List Setting :=
  [.defaultImageFormat, .libraryPath, .maxRetryTimes, .publishTimeout, .reconnectInterval]

/-- The settings of the `logging` section, in the order of their names. -/
def loggingSettings : List Setting := [.level, .showTarget]

section Sections

variable {α : Type} {set : String → Tree → α → Except Cause α} {put : α → Config}
  {settings : List Setting} {view : Setting → Tree}

/-- What a field of a section gives, with the key and the place of what does not
convert. -/
def reported (name : String) (set : String → Tree → α → Except Cause α) (k : String) (t : Tree)
    (r : α) : Except Mismatch α :=
  (set k t r).mapError fun cause =>
    { cause, key := some (name ++ ("." ++ k)), origin := t.origin }

/-- So the field of a setting is read. -/
theorem reported_eq_read {s : Setting}
    (hset : ∀ t r, (set s.field t r).map put = (s.convert t).map fun v => s.set v (put r))
    (t : Tree) (r : α) : (reported s.table set s.field t r).map put = s.read t (put r) := by
  have h := hset t r
  unfold reported Setting.read
  cases hr : set s.field t r with
  | error cause =>
      cases hv : s.convert t with
      | error cause' =>
          rw [hr, hv] at h
          cases h
          rfl
      | ok v =>
          rw [hr, hv] at h
          cases h
  | ok r' =>
      cases hv : s.convert t with
      | error cause =>
          rw [hr, hv] at h
          cases h
      | ok v =>
          rw [hr, hv] at h
          exact congrArg Except.ok (Except.ok.inj h)

/-- A section whose fields are settings is read setting by setting. -/
theorem IsTable.toSection_eq (h : t.IsTable) (expected : String) (names : List String) (r : α)
    (hsorted : (settings.map (·.field)).Pairwise (· < ·))
    (hrest : ∀ k, k ∉ settings.map (·.field) → ∀ t r, set k t r = .ok r)
    (hname : ∀ s ∈ settings, s.table = name)
    (hset : ∀ s : Setting, s.table = name → ∀ t r,
      (set s.field t r).map put = (s.convert t).map fun v => s.set v (put r))
    (hview : ∀ s : Setting, s.table = name → t.get? s.field = some (view s)) :
    (t.toSection name expected names set r).map put = Setting.readThese settings view (put r) := by
  obtain ⟨ms, origin, rfl, hms⟩ := h
  have hrest' : ∀ k, k ∉ settings.map (·.field) → ∀ t r, reported name set k t r = .ok r := by
    intro k hk t r
    unfold reported
    rw [hrest k hk]
    rfl
  have hfields : Tree.toSection name expected names set r (.table ms origin) = _ :=
    hms.foldlM_fields _ hsorted hrest' r
  rw [hfields]
  clear hfields hrest hrest' hsorted
  induction settings generalizing r with
  | nil => rfl
  | cons s rest ih =>
      obtain ⟨rfl, hname⟩ := List.forall_mem_cons.mp hname
      have hlookup : ms.lookup s.field = some (view s) := hview s rfl
      rw [List.map_cons, List.foldlM_cons, hlookup, Setting.readThese_cons,
        ← reported_eq_read (hset s rfl)]
      dsimp only [Option.elim]
      cases reported s.table set s.field (view s) r with
      | error m => rfl
      | ok r' => exact ih r' hname

end Sections

/-- A name that is no setting of the driver is not read. -/
theorem readDriver_rest {k : String} (hk : k ∉ driverSettings.map (·.field)) (t : Tree)
    (r : DriverConfig) : readDriver k t r = .ok r := by
  unfold readDriver
  split
  all_goals first | rfl | exact absurd (by decide) hk

/-- A name that is no setting of the log is not read. -/
theorem readLogging_rest {k : String} (hk : k ∉ loggingSettings.map (·.field)) (t : Tree)
    (r : LoggingConfig) : readLogging k t r = .ok r := by
  unfold readLogging
  split
  all_goals first | rfl | exact absurd (by decide) hk

/-- A member of the driver's section is read as its setting. -/
theorem readDriver_eq {s : Setting} (h : s.table = "driver") (c : Config) (t : Tree)
    (r : DriverConfig) : (readDriver s.field t r).map (fun driver => { c with driver })
      = (s.convert t).map fun v => s.set v { c with driver := r } := by
  cases s with
  | level | showTarget => exact absurd h (by decide)
  | defaultImageFormat | libraryPath =>
      show (t.toText >>= _ : Except Cause DriverConfig).map _ = t.toText.map _
      cases t.toText <;> rfl
  | reconnectInterval | publishTimeout =>
      show (t.toNatural >>= _ : Except Cause DriverConfig).map _ = t.toNatural.map _
      cases t.toNatural <;> rfl
  | maxRetryTimes =>
      show (t.toNatural >>= _ : Except Cause DriverConfig).map _
        = (t.toNatural >>= _ : Except Cause Nat).map _
      cases t.toNatural <;> rfl

/-- A member of the log's section is read as its setting. -/
theorem readLogging_eq {s : Setting} (h : s.table = "logging") (c : Config) (t : Tree)
    (r : LoggingConfig) : (readLogging s.field t r).map (fun logging => { c with logging })
      = (s.convert t).map fun v => s.set v { c with logging := r } := by
  cases s with
  | level =>
      show (t.toText >>= _ : Except Cause LoggingConfig).map _ = t.toText.map _
      cases t.toText <;> rfl
  | showTarget =>
      show (t.toBool >>= _ : Except Cause LoggingConfig).map _ = t.toBool.map _
      cases t.toBool <;> rfl
  | _ => exact absurd h (by decide)

/-- Reads a section. -/
def readSection (name : String) (t : Tree) (c : Config) : Except Mismatch Config :=
  match name with
  | "logging" => (t.toSection name "struct LoggingConfig" LoggingConfig.fields readLogging {}).map
      fun logging => { c with logging }
  | "driver" => (t.toSection name "struct DriverConfig" DriverConfig.fields readDriver {}).map
      fun driver => { c with driver }
  | _ => .ok c

/-- A name that is no section is not read. -/
theorem readSection_rest {k : String} (hk : k ∉ ["driver", "logging"]) (t : Tree) (c : Config) :
    readSection k t c = .ok c := by
  unfold readSection
  split
  all_goals first | rfl | exact absurd (by decide) hk

/-- A configuration is read section by section, over the defaults. -/
theorem toConfig_table (ms : Members) (origin : Option Origin) :
    (Tree.table ms origin).toConfig = ms.foldlM (fun c e => readSection e.1 e.2 c) {} := by
  unfold toConfig readSection
  rfl

/-- A tree is read setting by setting. -/
theorem Sectioned.toConfig_eq (h : t.Sectioned) {view : Setting → Tree}
    (hview : ∀ s, t.at? s = some (view s)) : t.toConfig = Setting.readAll view := by
  obtain ⟨⟨ms, origin, rfl, hms⟩, hsections⟩ := h
  obtain ⟨driver, hdriver, -⟩ := Option.bind_eq_some_iff.mp (hview .libraryPath)
  obtain ⟨logging, hlogging, -⟩ := Option.bind_eq_some_iff.mp (hview .level)
  have hfield : ∀ (s : Setting) (name : String) (u : Tree), s.table = name →
      (Tree.table ms origin).get? name = some u → u.get? s.field = some (view s) := by
    rintro s name u rfl hu
    have hs := hview s
    unfold at? at hs
    rw [hu] at hs
    exact hs
  have hreadDriver : readSection "driver" driver {} = Setting.readThese driverSettings view {} :=
    (hsections .libraryPath driver hdriver).toSection_eq _ _ _ (by decide)
      (fun k hk => readDriver_rest hk) (by decide) (fun s hs => readDriver_eq hs {})
      (fun s hs => hfield s _ driver hs hdriver)
  have hreadLogging : ∀ driver : DriverConfig, readSection "logging" logging { driver }
      = Setting.readThese loggingSettings view { driver } := fun driver =>
    (hsections .level logging hlogging).toSection_eq _ _ _ (by decide)
      (fun k hk => readLogging_rest hk) (by decide) (fun s hs => readLogging_eq hs { driver })
      (fun s hs => hfield s _ logging hs hlogging)
  have hall : Setting.readAll view = Setting.readThese driverSettings view {} >>=
      Setting.readThese loggingSettings view := by
    unfold Setting.readAll Setting.readThese
    rw [← List.foldlM_append]
    rfl
  rw [toConfig_table, hms.foldlM_fields ["driver", "logging"] (by decide)
    (fun k hk => readSection_rest hk), hall, ← hreadDriver]
  have hlookup : ms.lookup "driver" = some driver := hdriver
  have hlookup' : ms.lookup "logging" = some logging := hlogging
  simp only [List.foldlM_cons, List.foldlM_nil, hlookup, hlookup', Option.elim, bind_pure]
  unfold readSection
  cases toSection "driver" "struct DriverConfig" DriverConfig.fields readDriver {} driver with
  | error m => rfl
  | ok d => exact hreadLogging d

end Tree

end CameraDriver.Settings
