/-
Virtual features store canonical text.

A virtual feature is a field of the record. Writing it reads a text into the field
(`VirtualFeature.put`), reading it writes the field as a text
(`VirtualFeature.read`); each feature has a reader and a writer of its own, and what
the one takes in more than one spelling the other gives in one. That the two do not
drift apart is `VirtualFeature.put_read`: the text that is read back puts the same
value there again, whatever the record held. All else about reading and writing
follows from it, the trigger apart, which is written by capturing.

Of a URL it is assumed that reading its text gives the URL (`Url.Reparses`). The white
space that is taken off before is no part of the assumption: a stored URL has none at
its ends (`Url.trim_text`). That it is one of the web holds through every run.
-/
import CameraDriver.Proofs.Device.Effects
import CameraDriver.Proofs.Device.Frame
import CameraDriver.Proofs.Device.Reachable
import CameraDriver.Proofs.Number.Decimal
import CameraDriver.Proofs.General
import CameraDriver.Proofs.Url.Ends

namespace CameraDriver

open Number

-- =================================================================== texts

theorem TriggerMode.ofName?_name (mode : TriggerMode) : ofName? mode.name = some mode := by
  cases mode <;> decide

theorem ImageFormat.ofName?_name (format : ImageFormat) : ofName? format.name = some format := by
  cases format <;> decide

/-- Reading the text of the URL that a text gives, if it gives one, gives that URL. -/
def Url.Reparses (text : String) : Prop :=
  ∀ url, parse text = .ok url → parse url.text = .ok url

namespace VirtualFeature

variable {H : Type} {text : String}

/-- The name of a trigger mode is taken for it. -/
theorem triggerMode_name (mode : TriggerMode) : triggerMode mode.name = .ok mode := by
  unfold triggerMode
  rw [TriggerMode.ofName?_name]

/-- The name of an image format is taken for it. -/
theorem format_name (format : ImageFormat) : VirtualFeature.format format.name = .ok format := by
  unfold VirtualFeature.format
  rw [ImageFormat.ofName?_name]

/-- What a text gives as an endpoint: none, or a URL of the web. -/
theorem endpoint_cases {stored : Option Url} (h : endpoint text = .ok stored) :
    stored = none
      ∨ ∃ url, stored = some url ∧ Url.parse (Text.trim text) = .ok url ∧ url.Fetchable := by
  unfold endpoint at h
  dsimp only at h
  split at h
  case isTrue =>
    cases h
    exact .inl rfl
  case isFalse =>
    split at h
    next url hurl =>
      split at h
      case isTrue hweb =>
        cases h
        exact .inr ⟨url, rfl, hurl, Bool.or_eq_true_iff.mp hweb⟩
      case isFalse => cases h
    next => cases h

/-- The text of an address that can be fetched is taken for the address. -/
theorem endpoint_text {url : Url} (hparse : Url.parse url.text = .ok url)
    (hweb : url.Fetchable) : endpoint url.text = .ok (some url) := by
  have hkind : (url.isHttp || url.isHttps) = true := Bool.or_eq_true_iff.mpr hweb
  unfold endpoint
  dsimp only
  rw [Url.trim_text hparse hweb, Url.text_isEmpty hweb, hparse]
  simp only [Bool.false_eq_true, if_false, hkind, if_true]

theorem endpoint_empty : endpoint "" = .ok none := by decide

theorem maxRetry_le {n : Nat} (h : maxRetry text = .ok n) : n ≤ maxRetryLimit := by
  unfold maxRetry at h
  split at h
  next m hm =>
    cases h
    unfold natural? at hm
    dsimp only at hm
    have hle := (Option.filter_eq_some_iff.mp hm).2
    exact of_decide_eq_true hle
  next => cases h

theorem trim_decimal (n : Nat) : Text.trim (decimal n) = decimal n :=
  Text.trim_of_graphic (forall_digitsOf (by decide))

/-- The text of a count within the limit is taken for it. -/
theorem maxRetry_integerText {n : Nat} (h : n ≤ maxRetryLimit) :
    maxRetry (integerText n) = .ok n := by
  have hread : natural? maxRetryLimit (Text.trim (decimal n)) = some n := by
    rw [trim_decimal, natural?_decimal, Option.filter_some, if_pos (by simpa using h)]
  show maxRetry (decimal n) = _
  unfold maxRetry
  rw [hread]

-- ================================================================== fields

/-- The record with the field of a feature put from a text. -/
def put (f : VirtualFeature) (text : String) (r : Record H) : Except DriverError (Record H) :=
  match f with
  | .imageTrigger => (triggerMode text).map fun trigger =>
      { r with capture := { r.capture with trigger } }
  | .imageFormat => (VirtualFeature.format text).map fun format =>
      { r with capture := { r.capture with format } }
  | .imageUrl => (endpoint text).map fun endpoint =>
      { r with capture := { r.capture with endpoint } }
  | .maxRetryTimes => (maxRetry text).map fun maxRetry => { r with maxRetry }

/-- The record with the field of a feature taken from another one. -/
def copy (f : VirtualFeature) (source r : Record H) : Record H :=
  match f with
  | .imageTrigger => { r with capture := { r.capture with trigger := source.capture.trigger } }
  | .imageFormat => { r with capture := { r.capture with format := source.capture.format } }
  | .imageUrl => { r with capture := { r.capture with endpoint := source.capture.endpoint } }
  | .maxRetryTimes => { r with maxRetry := source.maxRetry }

@[simp]
theorem copy_self (f : VirtualFeature) (r : Record H) : f.copy r r = r := by cases f <;> rfl

/-- Only the field of the feature is put. -/
theorem put_frame {f : VirtualFeature} {r r' : Record H} (h : f.put text r = .ok r') :
    f.copy r' r = r' := by
  cases f with
  | imageTrigger =>
      obtain ⟨trigger, -, rfl⟩ := of_map_eq_ok h
      rfl
  | imageFormat =>
      obtain ⟨format, -, rfl⟩ := of_map_eq_ok h
      rfl
  | imageUrl =>
      obtain ⟨endpoint, -, rfl⟩ := of_map_eq_ok h
      rfl
  | maxRetryTimes =>
      obtain ⟨maxRetry, -, rfl⟩ := of_map_eq_ok h
      rfl

/-- What is read back puts there again what is there, in any record. -/
theorem put_read {f : VirtualFeature} {r r' : Record H}
    (hparse : f = .imageUrl → Url.Reparses (Text.trim text))
    (h : f.put text r = .ok r') (other : Record H) :
    f.put (f.read r') other = .ok (f.copy r' other) := by
  cases f with
  | imageTrigger =>
      obtain ⟨trigger, -, rfl⟩ := of_map_eq_ok h
      dsimp only [put, read]
      rw [triggerMode_name]
      rfl
  | imageFormat =>
      obtain ⟨format, -, rfl⟩ := of_map_eq_ok h
      dsimp only [put, read]
      rw [format_name]
      rfl
  | imageUrl =>
      obtain ⟨stored, hread, rfl⟩ := of_map_eq_ok h
      rcases endpoint_cases hread with rfl | ⟨url, rfl, hurl, hweb⟩
      · dsimp only [put, read]
        rw [endpoint_empty]
        rfl
      · dsimp only [put, read]
        rw [endpoint_text (hparse rfl url hurl) hweb]
        rfl
  | maxRetryTimes =>
      obtain ⟨maxRetry, hread, rfl⟩ := of_map_eq_ok h
      dsimp only [put, read]
      rw [maxRetry_integerText (maxRetry_le hread)]
      rfl

end VirtualFeature

namespace Site

variable {σ H F : Type} [Camera σ H F] {s : Site σ H F} {f : VirtualFeature} {value : Value}
  {text : String}

-- ===================================================== reading and writing

/-- A read of a feature of the driver's own gives what the record holds, and touches
nothing. -/
theorem read_of_virtual (hs : s.device.status = .connected) :
    s.read f.name = (.ok (.text (f.read s.device.record)), s) := by
  have hf : VirtualFeature.ofName? f.name = some f := by cases f <;> decide
  unfold Site.read
  rw [hs, hf]
  rfl

/-- Writing a feature that is not the trigger puts the canonical text of the value. -/
theorem write_of_virtual (hs : s.device.status = .connected) (hf : f ≠ .imageTrigger)
    (hw : value.wire = .ok text) :
    s.write f.name value = match f.put text s.device.record with
      | .ok r => (.ok (), s.onDevice (·.modifyRecord fun _ => r))
      | .error e => (.error e, s) := by
  rw [write_virtual hs hw]
  cases f with
  | imageTrigger => exact absurd rfl hf
  | imageFormat =>
      dsimp only [writeVirtual, VirtualFeature.put]
      cases VirtualFeature.format text <;> rfl
  | imageUrl =>
      dsimp only [writeVirtual, VirtualFeature.put]
      cases VirtualFeature.endpoint text <;> rfl
  | maxRetryTimes =>
      dsimp only [writeVirtual, VirtualFeature.put]
      cases VirtualFeature.maxRetry text <;> rfl

/-- A write to a feature of the driver's own puts the value into the record, and does
nothing else. -/
theorem write_of_put (hs : s.device.status = .connected) (hf : f ≠ .imageTrigger)
    (hw : value.wire = .ok text) {r : Record (Connection H)}
    (hput : f.put text s.device.record = .ok r) :
    s.write f.name value = (.ok (), s.onDevice (·.modifyRecord fun _ => r)) := by
  rw [write_of_virtual hs hf hw, hput]

/-- What an accepted write has done: it has put the field of the feature, which reads as
a text now that has the same effect as the value, and no effect where it stands already. -/
structure Stores (f : VirtualFeature) (value : Value) (text : String) (s s' : Site σ H F) :
    Prop where
  accepted : s.write f.name value = (.ok (), s')
  frame : s' = s.onDevice (·.modifyRecord (f.copy s'.device.record))
  reads : s'.read f.name = (.ok (.text text), s')
  again : s'.write f.name (.text text) = (.ok (), s')
  alike : s.write f.name (.text text) = (.ok (), s')

/-- What a write has put is stored in its canonical text. -/
theorem stores_of_put (hs : s.device.status = .connected) (hf : f ≠ .imageTrigger)
    (hw : value.wire = .ok text) (hparse : f = .imageUrl → Url.Reparses (Text.trim text))
    {r : Record (Connection H)} (hput : f.put text s.device.record = .ok r) :
    Stores f value (f.read r) s (s.onDevice (·.modifyRecord fun _ => r)) := by
  have hframe := VirtualFeature.put_frame hput
  have hagain := VirtualFeature.put_read hparse hput
  constructor
  · -- the write itself
    exact write_of_put hs hf hw hput
  · -- one field of the record, and no other
    show _ = s.onDevice (·.modifyRecord (f.copy r))
    simp only [onDevice, Device.modifyRecord, hframe]
  · -- what is read after it
    exact read_of_virtual hs
  · -- the text that is read changes nothing when it is written back
    have hput' : f.put (f.read r) r = .ok r := by
      rw [hagain r, VirtualFeature.copy_self]
    exact write_of_put (s := s.onDevice (·.modifyRecord fun _ => r)) hs hf rfl hput'
  · -- and written instead of the value it has the same effect
    have hput' : f.put (f.read r) s.device.record = .ok r := by
      rw [hagain s.device.record, hframe]
    exact write_of_put hs hf rfl hput'

/-- A write that is refused leaves everything as it is. -/
theorem write_refused_or_stores (hs : s.device.status = .connected) (hf : f ≠ .imageTrigger)
    (hparse : f = .imageUrl → ∀ text, value.wire = .ok text → Url.Reparses (Text.trim text)) :
    (∃ e, s.write f.name value = (.error e, s)) ∨ ∃ text s', Stores f value text s s' := by
  cases hw : value.wire with
  | error kind => exact .inl ⟨_, write_unsupported hw f.name s⟩
  | ok text =>
      cases hput : f.put text s.device.record with
      | error e => exact .inl ⟨e, by rw [write_of_virtual hs hf hw, hput]⟩
      | ok r => exact .inr ⟨_, _, stores_of_put hs hf hw (fun h => hparse h text hw) hput⟩

/-- Two values with the same text are written alike. -/
theorem write_congr {other : Value} (hw : other.wire = value.wire) (feature : String)
    (s : Site σ H F) : s.write feature other = s.write feature value := by
  unfold write
  rw [hw]

-- ================================================================ endpoints

omit [Camera σ H F] in
/-- The endpoint of a device is a URL of the web, if there is one. -/
def WebEndpoint (s : Site σ H F) : Prop :=
  ∀ url, s.device.record.capture.endpoint = some url →
    (∃ text, Url.parse text = .ok url) ∧ url.Fetchable

omit [Camera σ H F] in
/-- The endpoint is one of the web as long as callers' wishes stay. -/
theorem WebEndpoint.of_eq {s s' : Site σ H F} (h : s.WebEndpoint)
    (heq : s'.device.record.wishes = s.device.record.wishes) : s'.WebEndpoint := by
  intro url hurl
  have hendpoint : s'.device.record.capture.endpoint = s.device.record.capture.endpoint :=
    congrArg Wishes.endpoint heq
  exact h url (hendpoint.symm.trans hurl)

/-- A URL comes into the record through the reader of endpoints only. -/
theorem WebEndpoint.writeVirtual (h : s.WebEndpoint) (f : VirtualFeature) (text : String) :
    (s.writeVirtual f text).2.WebEndpoint := by
  unfold Site.writeVirtual
  cases f with
  | imageTrigger =>
      dsimp only
      split
      · exact h.of_eq (writeTrigger_wishes _ s)
      · exact h
  | imageFormat =>
      dsimp only
      split <;> exact h
  | imageUrl =>
      dsimp only
      split
      next stored hread =>
        intro url hurl
        have hstored : stored = some url := hurl
        rcases VirtualFeature.endpoint_cases hread with rfl | ⟨other, rfl, hparse, hweb⟩
        · cases hstored
        · cases hstored
          exact ⟨⟨_, hparse⟩, hweb⟩
      next => exact h
  | maxRetryTimes =>
      dsimp only
      split <;> exact h

/-- A write leaves an endpoint of the web, or none. -/
theorem WebEndpoint.write (h : s.WebEndpoint) (feature : String) (value : Value) :
    (s.write feature value).2.WebEndpoint := by
  unfold Site.write
  split
  next => exact h
  next =>
    split
    case isTrue => exact h
    case isFalse =>
      split
      next => exact h.writeVirtual _ _
      next =>
        split
        next => exact h
        next => exact h.of_eq (writeDevice_wishes _ _ _ s)

/-- Every step leaves an endpoint of the web, or none. -/
theorem WebEndpoint.apply (h : s.WebEndpoint) (pace : Pace) (step : Step) :
    (s.apply pace step).WebEndpoint := by
  cases step with
  | write feature value => exact h.write feature value
  | target feature => exact h
  | _ => exact h.of_eq (apply_wishes pace s (fun _ _ h => by cases h) (fun _ h => by cases h))

/-- In every state the endpoint is one of the web, if there is one. -/
theorem Reachable.webEndpoint (h : s.Reachable) : s.WebEndpoint := by
  induction h with
  | fresh camera id format maxRetry => exact fun url hurl => by cases hurl
  | step pace step _ ih => exact ih.apply pace step
  | camera camera _ ih => exact ih

-- ============================================================= altogether

/-- Virtual features store canonical text. While a device is connected, writing one of
them, the trigger apart, is refused and changes nothing, or it puts the field of the
feature and nothing else. The feature reads as a text then that the device takes for the
value: written in place of it the text does the same, and written once more it does
nothing. Values with the same canonical text do the same. And whatever happens to a
device, its endpoint is a URL of the web or there is none. -/
theorem virtual_features_store_canonical_text :
    (∀ (s : Site σ H F) (f : VirtualFeature) (value : Value),
      s.device.status = .connected → f ≠ .imageTrigger →
      (f = .imageUrl → ∀ text, value.wire = .ok text → Url.Reparses (Text.trim text)) →
      ((∃ e, s.write f.name value = (.error e, s)) ∨ ∃ text s', Stores f value text s s')
        ∧ ∀ other : Value, other.wire = value.wire →
          s.write f.name other = s.write f.name value)
    ∧ ∀ s : Site σ H F, s.Reachable → s.WebEndpoint :=
  ⟨fun s f _ hs hf hparse =>
    ⟨write_refused_or_stores hs hf hparse, fun _ hw => write_congr hw f.name s⟩,
    fun _ h => h.webEndpoint⟩

/-- A connected device takes a URL with white space around it, in capitals and with a
space in its path. -/
theorem virtual_features_store_canonical_text_of_spaced_url :
    let s := (simulated ⟨"a"⟩ 3).run ⟨10, 100⟩ [.connect, .reach 0, .resume 0 0]
    let value := Value.text " HTTP://[0::1]:80/a b "
    s.device.status = .connected
      ∧ ∃ s', Stores .imageUrl value "http://[::1]/a%20b" s s' ∧ s'.WebEndpoint := by
  intro s value
  have hs : s.device.status = .connected := rfl
  have hr : s.Reachable := (Reachable.fresh _ _ _ _).run _ _
  let stored : Url :=
    { scheme := "http".toList
      authority := some { host := .ipv6 [0, 0, 0, 0, 0, 0, 0, 1] }
      path := .segments ["a%20b".toList]
      query := none
      fragment := none }
  have hread : Url.parse (Text.trim " HTTP://[0::1]:80/a b ") = .ok stored := by decide +kernel
  have hparse : ∀ text, value.wire = .ok text → Url.Reparses (Text.trim text) := by
    intro text hw url hurl
    obtain rfl : " HTTP://[0::1]:80/a b " = text := Except.ok.inj hw
    obtain rfl : stored = url := Except.ok.inj (hread.symm.trans hurl)
    decide +kernel
  have hput : VirtualFeature.imageUrl.put " HTTP://[0::1]:80/a b " s.device.record
      = .ok { s.device.record with capture := { s.device.record.capture with
          endpoint := some stored } } := by
    have hendpoint : VirtualFeature.endpoint " HTTP://[0::1]:80/a b " = .ok (some stored) := by
      decide +kernel
    rw [VirtualFeature.put, hendpoint]
    rfl
  have hwrite := write_of_put hs (by decide) (rfl : value.wire = _) hput
  obtain ⟨hstores, hweb⟩ := virtual_features_store_canonical_text (σ := SimulatedCamera)
  rcases (hstores s .imageUrl value hs (by decide) fun _ => hparse).1 with ⟨e, he⟩ | ⟨text, s', hst⟩
  · rw [hwrite] at he
    cases he
  · have htext : s'.read VirtualFeature.imageUrl.name = (.ok (.text stored.text), s') := by
      rw [← (Prod.mk.inj (hwrite.symm.trans hst.accepted)).2]
      exact read_of_virtual hs
    have heq : text = stored.text :=
      Value.text.inj (Except.ok.inj (Prod.mk.inj (hst.reads.symm.trans htext)).1)
    have hshown : stored.text = "http://[::1]/a%20b" := by decide +kernel
    have hr' : s'.Reachable := by
      have hstep := hr.step ⟨10, 100⟩ (.write VirtualFeature.imageUrl.name value)
      rwa [show s.apply ⟨10, 100⟩ (.write VirtualFeature.imageUrl.name value) = s' from
        congrArg Prod.snd hst.accepted] at hstep
    rw [heq, hshown] at hst
    exact ⟨hs, s', hst, hweb s' hr'⟩

end Site

end CameraDriver
