/-
What becomes of a natural number that is written for a setting.

Three settings are natural numbers. On its way into one of them a number passes two
bounds: a source holds it as an integer only below `2 ^ 63`, and as the nearest
floating-point number from there on (`Amount.natural`); and the number of retries keeps
its 32 low bits (`Amount.kept`). Neither bound is checked there. So a number of retries
is loaded exactly below `2 ^ 32` and never from there on, the two times are loaded
exactly below `2 ^ 63`, and no number that a source has read is refused for its size
(`build_of_written`).

A reader may refuse a number before: in TOML an integer from `2 ^ 63` on, in JSON a
number beyond the floating-point ones. Then the whole file is refused
(`build_of_refused`).
-/
import CameraDriver.Proofs.Settings.Precedence
import CameraDriver.Proofs.Settings.Written

namespace CameraDriver.Settings

open Number

/-- The settings that are natural numbers. -/
inductive Amount where
  | retries
  | interval
  | timeout
deriving DecidableEq, Repr

namespace Amount

/-- The setting of a number. -/
def setting : Amount → Setting
  | retries => .maxRetryTimes
  | interval => .reconnectInterval
  | timeout => .publishTimeout

/-- The number in a configuration. -/
def get : Amount → Config → Nat
  | retries, c => c.driver.maxRetryTimes
  | interval, c => c.driver.reconnectIntervalMs
  | timeout, c => c.driver.publishTimeoutMs

/-- Below which bound numbers are loaded exactly. -/
def bound : Amount → Nat
  | retries => 2 ^ 32
  | interval | timeout => 2 ^ 63

/-- What a setting keeps of a number. -/
def kept : Amount → Nat → Nat
  | retries, m => m % 2 ^ 32
  | interval, m | timeout, m => m

/-- What a number below `2 ^ 64` is converted to from what sources read. -/
def natural (n : Nat) : Nat :=
  if n < 2 ^ 63 then n else (Binary64.ofNat n).toNatural maxNatural64

variable {a : Amount} {c : Config} {t : Tree} {m n : Nat} {v : Scalar} {origin : Option Origin}

-- ============================================================= conversions

/-- A float becomes an amount within the bound. -/
theorem toNatural_le (max : Nat) (x : Binary64) : x.toNatural max ≤ max := by
  unfold Binary64.toNatural
  split
  · exact Nat.zero_le _
  · split
    · exact Nat.zero_le _
    · exact le_rfl
  · exact Nat.zero_le _
  · exact Nat.min_le_left _ _

/-- A count in a file is read as the amount it is. -/
theorem toNatural_integer (n : Nat) (origin : Option Origin) :
    (Tree.leaf (Tree.integer n) origin).toNatural = .ok (natural n) := by
  unfold natural
  by_cases h : n < 2 ^ 63
  · rw [Tree.integer_of_le h, if_pos h]
    unfold Tree.toNatural
    dsimp only
    rw [if_pos (Int.natCast_nonneg n), Int.toNat_natCast]
  · rw [Tree.integer_of_ge (Nat.not_lt.mp h), if_neg h]
    rfl

/-- What is written converts to a natural number of 64 bits. -/
theorem toNatural_of_written (h : Written n v) (origin : Option Origin) :
    ∃ m, (Tree.leaf v origin).toNatural = .ok m ∧ (n < 2 ^ 64 → m = natural n)
      ∧ (2 ^ 64 ≤ n → m < 2 ^ 64) := by
  have hmax : ∀ x : Binary64, x.toNatural maxNatural64 < 2 ^ 64 := fun x =>
    Nat.lt_of_le_of_lt (toNatural_le _ x) (by decide)
  rcases h.scalar with rfl | ⟨hge, x, rfl⟩
  · refine ⟨natural n, toNatural_integer n origin, fun _ => rfl, fun hge => ?_⟩
    unfold natural
    rw [if_neg (by omega)]
    exact hmax _
  · exact ⟨_, rfl, fun hlt => absurd hlt (Nat.not_lt.mpr hge), fun _ => hmax x⟩

/-- A setting is what it keeps of the number that a value converts to. -/
theorem convert_eq_ok (h : t.toNatural = .ok m) :
    a.setting.convert t = .ok (a.setting.get c) ↔ a.get c = a.kept m := by
  cases a with
  | retries =>
      show (t.toNatural >>= _ : Except Cause Nat) = .ok c.driver.maxRetryTimes ↔ _
      rw [h]
      exact ⟨fun h => (Except.ok.inj h).symm, fun h => congrArg Except.ok h.symm⟩
  | interval =>
      show t.toNatural = .ok c.driver.reconnectIntervalMs ↔ _
      rw [h]
      exact ⟨fun h => (Except.ok.inj h).symm, fun h => congrArg Except.ok h.symm⟩
  | timeout =>
      show t.toNatural = .ok c.driver.publishTimeoutMs ↔ _
      rw [h]
      exact ⟨fun h => (Except.ok.inj h).symm, fun h => congrArg Except.ok h.symm⟩

/-- What is read as an amount is taken for the setting. -/
theorem exists_convert (h : t.toNatural = .ok m) : ∃ x, a.setting.convert t = .ok x := by
  cases a with
  | retries =>
      show ∃ x, (t.toNatural >>= _ : Except Cause Nat) = .ok x
      rw [h]
      exact ⟨_, rfl⟩
  | interval => exact ⟨m, h⟩
  | timeout => exact ⟨m, h⟩

/-- Below its bound a number is kept as it is. -/
theorem kept_natural (h : n < a.bound) : a.kept (natural n) = n := by
  unfold natural
  cases a with
  | retries =>
      have h : n < 2 ^ 32 := h
      rw [if_pos (by omega)]
      exact Nat.mod_eq_of_lt h
  | interval | timeout => exact if_pos h

/-- An amount below 2^64 is kept below it. -/
theorem kept_lt (a : Amount) (h : m < 2 ^ 64) : a.kept m < 2 ^ 64 := by
  cases a with
  | retries => exact (Nat.mod_lt m (by decide)).trans (by decide)
  | interval | timeout => exact h

end Amount

/-- A value that a setting takes: it converts, and a time is not zero. -/
structure Setting.Takes (s : Setting) (t : Tree) : Prop where
  converts : ∃ x, s.convert t = .ok x
  positive : s = .reconnectInterval ∨ s = .publishTimeout → t.toNatural ≠ .ok 0

/-- Values that all settings take give a configuration. -/
theorem exists_settle {view : Setting → Tree} (h : ∀ s : Setting, s.Takes (view s)) :
    ∃ c, settle view = .ok c := by
  cases hsettle : settle view with
  | ok c => exact ⟨c, rfl⟩
  | error e =>
      rcases settle_eq_error.mp ⟨e, hsettle⟩ with ⟨s, cause, hs⟩ | hzero | hzero
      · obtain ⟨x, hx⟩ := (h s).converts
        rw [hx] at hs
        cases hs
      · exact absurd hzero ((h .reconnectInterval).positive (.inl rfl))
      · exact absurd hzero ((h .publishTimeout).positive (.inr rfl))

variable {files : List (String × Bytes)} {path : Option String} {environment : Option Environment}
  {ofFile : Layer} {n : Nat} {v : Scalar} {origin : Option Origin}

/-- A natural number that counts for a setting is loaded exactly below the bound of the
setting. From there on a number of retries is another one, and so is a time from `2 ^ 64`
on; between its bounds a time is the nearest floating-point number. No number of retries
is refused, and no positive time below its bound. -/
theorem build_of_written (a : Amount) (hfile : Provides files path ofFile) (hplain : ofFile.Plain)
    (henvironment : ∀ e, environment = some e → e.Assigns) (hv : Written n v)
    (hwinner : a.setting.winner ofFile (Environment.layerOf environment) = .leaf v origin) :
    (∀ c, build files path environment = .ok c →
        (n < a.bound → a.get c = n)
          ∧ (n < 2 ^ 64 → a.get c = a.kept (Amount.natural n))
          ∧ (a = .retries → a.bound ≤ n → a.get c ≠ n)
          ∧ (2 ^ 64 ≤ n → a.get c ≠ n))
      ∧ ((∀ s, s ≠ a.setting → s.Takes (s.winner ofFile (Environment.layerOf environment))) →
          a = .retries ∨ 0 < n ∧ n < a.bound →
          ∃ c, build files path environment = .ok c) := by
  obtain ⟨m, hm, hbelow, habove⟩ := Amount.toNatural_of_written hv origin
  rw [build_eq_settle hfile hplain henvironment]
  refine ⟨?_, ?_⟩
  · -- what the client gets, if it starts
    intro c hc
    have hconvert := (settle_eq_ok.mp hc).1 a.setting
    rw [hwinner] at hconvert
    have hget : a.get c = a.kept m := (Amount.convert_eq_ok hm).mp hconvert
    have hbound : a.bound ≤ 2 ^ 64 := by cases a <;> decide
    refine ⟨?_, ?_, ?_, ?_⟩
    · -- below its bound it is the value that was written
      intro hlt
      rw [hget, hbelow (hlt.trans_le hbound), Amount.kept_natural hlt]
    · -- below 64 bits it is what the setting keeps of it
      intro hlt
      rw [hget, hbelow hlt]
    · -- a count of attempts beyond its bound is another one
      rintro rfl hge
      have hlt : Amount.kept .retries m < 2 ^ 32 := Nat.mod_lt m (by decide)
      rw [hget]
      exact (hlt.trans_le hge).ne
    · -- beyond 64 bits it is another one in any case
      intro hge
      rw [hget]
      exact ((a.kept_lt (habove hge)).trans_le hge).ne
  · -- the client starts if neither a zero nor another setting is in the way
    intro hothers hn
    refine exists_settle fun s => ?_
    by_cases hs : s = a.setting
    · subst hs
      rw [hwinner]
      refine ⟨Amount.exists_convert hm, fun htime hzero => ?_⟩
      rcases hn with rfl | ⟨hpos, hlt⟩
      · rcases htime with h | h <;> cases h
      · -- a time that is not zero is kept as it is
        have hm' : m = Amount.natural n := hbelow (hlt.trans_le (by cases a <;> decide))
        have hkept := Amount.kept_natural hlt
        rw [← hm'] at hkept
        obtain rfl := Except.ok.inj (hm.symm.trans hzero)
        cases a <;> exact absurd hkept hpos.ne
    · exact hothers s hs

/-- A variable for the number of retries with a number that 32 bits do not hold. -/
theorem build_of_written_of_variable :
    let e : Environment := ⟨"MAPPERFLOW", [("MAPPERFLOW__DRIVER__MAX_RETRY_TIMES", "4294967303")]⟩
    ∃ c, build [] none (some e) = .ok c ∧ c.driver.maxRetryTimes = 7 := by
  intro e
  have hname : Text.lower "MAPPERFLOW__DRIVER__MAX_RETRY_TIMES" = e.nameOf .maxRetryTimes := by
    decide +kernel
  have hvariables : e.Assigns := by
    refine ⟨fun v hv key _ => .inl ⟨.maxRetryTimes, ?_⟩, List.nodup_singleton _⟩
    rw [List.mem_singleton.mp hv]
    exact hname
  have henvironment : ∀ e', some e = some e' → e'.Assigns := by
    rintro e' ⟨rfl⟩
    exact hvariables
  have hdecimal : decimal 4294967303 = "4294967303" := by decide +kernel
  have hwritten : Written 4294967303 (Environment.scalar "4294967303") := by
    rw [← hdecimal]
    exact .environment
  have hwinner : Setting.winner [] e.layer .maxRetryTimes
      = .leaf (Environment.scalar "4294967303") (some .environment) :=
    hvariables.winner_eq [] List.mem_cons_self hname
  have hfile : Provides [] none [] := .unasked
  have hloaded := (build_of_written .retries hfile (fun _ h => nomatch h) henvironment hwritten
    hwinner).1
  have hbuilt : (build [] none (some e)).toOption.isSome = true := by decide +kernel
  obtain ⟨c, hc⟩ := Option.isSome_iff_exists.mp hbuilt
  have hc := eq_ok_of_toOption hc
  exact ⟨c, hc, ((hloaded c hc).2.1 (by decide)).trans (by decide)⟩

/-- One more than 32 bits hold is loaded as no retries at all, and one that 64 bits with a
sign do not hold as another time. -/
theorem build_of_wide_numbers :
    let files := [("mapper.toml", Text.Utf8.encode "[driver]\nmax_retry_times = 4294967296\n")]
    let e : Environment :=
      ⟨"MAPPERFLOW", [("MAPPERFLOW__DRIVER__PUBLISH_TIMEOUT_MS", "9223372036854775809")]⟩
    build files (some "mapper.toml") none = .ok { driver := { maxRetryTimes := 0 } }
      ∧ build [] none (some e) = .ok { driver := { publishTimeoutMs := 9223372036854775808 } } := by
  intro files e
  exact ⟨eq_ok_of_toOption (by decide +kernel), eq_ok_of_toOption (by decide +kernel)⟩

end CameraDriver.Settings
