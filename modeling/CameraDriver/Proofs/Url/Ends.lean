/-
The ends of the text of a URL.

Before a URL is read the white space around it is taken off. Of the text of a URL
nothing may be taken off that way, so it must not begin or end with white space. A URL
of the web begins with the first letter of its scheme. It ends in its path, its query
or its fragment, which are encoded, and nothing that is encoded holds a character
other than a graphic one (`mem_percentEncode`). A path is always there: however many
`..` it has, its last segment leaves one (`addSegments_ne_nil`).
-/
import CameraDriver.Proofs.General
import CameraDriver.Url.Parser
import Mathlib.Data.List.Basic

namespace CameraDriver

-- ================================================================ stripping

namespace Text

variable {p : Char → Bool} {c : Char} {cs : List Char}

/-- A graphic character of ASCII; it is seen, and stands for no space. -/
def Graphic (c : Char) : Prop := 32 < c.toNat ∧ c.toNat < 127

instance : Decidable (Graphic c) := inferInstanceAs (Decidable (_ ∧ _))

/-- What can be seen is not blank. -/
theorem Graphic.isBlank (h : Graphic c) : isBlank c = false := by
  unfold Graphic at h
  unfold Text.isBlank
  simp only [Bool.or_eq_false_iff, Bool.and_eq_false_iff, decide_eq_false_iff_not,
    beq_eq_false_iff_ne]
  omega

/-- A text is left alone if neither its first character nor its last is dropped. -/
theorem stripChars_of_ends (first : ∀ c ∈ cs.head?, p c = false)
    (last : ∀ c ∈ cs.getLast?, p c = false) : stripChars p cs = cs := by
  rw [← List.head?_reverse] at last
  unfold stripChars dropRight
  rw [dropWhile_of_head first, dropWhile_of_head last, List.reverse_reverse]

/-- Text without blanks is left alone by trimming. -/
theorem trim_of_graphic (h : ∀ c ∈ cs, Graphic c) : trim (String.ofList cs) = String.ofList cs := by
  unfold trim
  rw [String.toList_ofList, stripChars_of_ends]
  · exact fun c hc => (h c (List.mem_of_head? hc)).isBlank
  · exact fun c hc => (h c (List.mem_of_getLast? hc)).isBlank

end Text

namespace Url

open Text (Graphic)

-- ================================================================= encoding

/-- A hexadecimal digit can be seen. -/
theorem graphic_upper {n : Nat} (h : n < 16) : Graphic (Text.Hex.upper n) := by
  have hall : ∀ i < 16, 32 < (Text.Hex.upper i).toNat ∧ (Text.Hex.upper i).toNat < 127 := by decide
  exact hall n h

theorem mem_percentByte {b : UInt8} {c : Char} (h : c ∈ percentByte b) : Graphic c := by
  have hb : b.toNat < 256 := b.toNat_lt
  simp only [percentByte, List.mem_cons, List.not_mem_nil, or_false] at h
  rcases h with rfl | rfl | rfl
  · decide
  · exact graphic_upper (by omega)
  · exact graphic_upper (by omega)

/-- What is encoded by a set that holds the space is graphic throughout. -/
theorem mem_percentEncode {set : EncodeSet} (hspace : set.contains ' ' = true) {cs : List Char}
    {c : Char} (h : c ∈ percentEncode set cs) : Graphic c := by
  obtain ⟨a, -, hc⟩ := List.mem_flatMap.mp h
  split at hc
  case isTrue =>
    obtain ⟨b, -, hc⟩ := List.mem_flatMap.mp hc
    exact mem_percentByte hc
  case isFalse hplain =>
    rw [List.mem_singleton.mp hc]
    have hne : a.toNat ≠ 32 := by
      intro heq
      obtain rfl : a = ' ' := Char.toNat_inj.mp heq
      exact hplain hspace
    simp only [EncodeSet.contains, Bool.or_eq_true, decide_eq_true_eq, not_or] at hplain
    unfold Graphic
    omega

-- ================================================================== segments

theorem splitOn_ne_nil (separator : Char → Bool) (cs : List Char) : splitOn separator cs ≠ [] := by
  cases cs with
  | nil => exact List.cons_ne_nil _ _
  | cons c rest =>
    unfold splitOn
    split
    · exact List.cons_ne_nil _ _
    · split <;> exact List.cons_ne_nil _ _

/-- A path behind one more segment; `last` says that no other follows. -/
def extend (drives last : Bool) (path : List (List Char)) (segment : List Char) :
    List (List Char) :=
  let encoded := percentEncode .path segment
  if isDoubleDot encoded then
    if last then [] :: shorten path else shorten path
  else if isDot encoded then
    if last then [] :: path else path
  else if drives && path.isEmpty && isDrive encoded then [normalDrive encoded]
  else encoded :: path

theorem addSegments_cons (drives : Bool) (path rest : List (List Char)) (segment : List Char) :
    addSegments drives path (segment :: rest)
      = addSegments drives (extend drives rest.isEmpty path segment) rest := rfl

theorem extend_last_ne_nil (drives : Bool) (path : List (List Char)) (segment : List Char) :
    extend drives true path segment ≠ [] := by
  unfold extend
  dsimp only
  split
  case isTrue => exact List.cons_ne_nil _ _
  case isFalse =>
    split
    case isTrue => exact List.cons_ne_nil _ _
    case isFalse => split <;> exact List.cons_ne_nil _ _

/-- The last segment leaves one in the path, whatever it is. -/
theorem addSegments_ne_nil (drives : Bool) (path : List (List Char)) {segments : List (List Char)}
    (hne : segments ≠ []) : addSegments drives path segments ≠ [] := by
  induction segments generalizing path with
  | nil => exact absurd rfl hne
  | cons segment rest ih =>
    rw [addSegments_cons]
    by_cases hrest : rest = []
    · subst hrest
      exact extend_last_ne_nil drives path segment
    · exact ih _ hrest

/-- Whether all characters of all segments are graphic. -/
def AllGraphic (segments : List (List Char)) : Prop :=
  ∀ segment ∈ segments, ∀ c ∈ segment, Graphic c

theorem allGraphic_nil : AllGraphic [] := fun segment hm => by cases hm

/-- A path stays free of blanks when such a segment is put in front. -/
theorem AllGraphic.cons {segment : List Char} {path : List (List Char)} (h : AllGraphic path)
    (hs : ∀ c ∈ segment, Graphic c) : AllGraphic (segment :: path) := by
  intro other hm
  rcases List.mem_cons.mp hm with rfl | hm
  · exact hs
  · exact h other hm

/-- A path stays free of blanks when its last segment is taken away. -/
theorem AllGraphic.shorten {path : List (List Char)} (h : AllGraphic path) :
    AllGraphic (shorten path) := by
  cases path with
  | nil => exact allGraphic_nil
  | cons last rest =>
    dsimp only [Url.shorten]
    split
    · exact h
    · exact fun segment hm => h segment (List.mem_cons_of_mem _ hm)

/-- A path stays free of blanks when a segment is added the way an address is read. -/
theorem AllGraphic.extend {path : List (List Char)} (h : AllGraphic path) (drives last : Bool)
    (segment : List Char) : AllGraphic (extend drives last path segment) := by
  have hempty : ∀ c ∈ ([] : List Char), Graphic c := fun c hc => by cases hc
  have hencoded : ∀ c ∈ percentEncode .path segment, Graphic c := fun _ =>
    mem_percentEncode (by decide)
  have hdrive : ∀ c ∈ normalDrive (percentEncode .path segment), Graphic c := by
    intro c hc
    rcases List.mem_append.mp hc with hc | hc
    · exact hencoded c (List.mem_of_mem_take hc)
    · rw [List.mem_singleton.mp hc]
      decide
  unfold Url.extend
  dsimp only
  split
  case isTrue =>
    split
    · exact h.shorten.cons hempty
    · exact h.shorten
  case isFalse =>
    split
    case isTrue =>
      split
      · exact h.cons hempty
      · exact h
    case isFalse =>
      split
      · exact allGraphic_nil.cons hdrive
      · exact h.cons hencoded

/-- A path stays free of blanks whatever segments are added: what is blank was escaped. -/
theorem AllGraphic.addSegments {path : List (List Char)} (h : AllGraphic path) (drives : Bool)
    (segments : List (List Char)) : AllGraphic (addSegments drives path segments) := by
  induction segments generalizing path with
  | nil => exact h
  | cons segment rest ih => exact ih (h.extend drives rest.isEmpty segment)

/-- A path that is read has a segment. -/
theorem segmentsOf_ne_nil (kind : SchemeKind) (cs : List Char) : segmentsOf kind cs ≠ [] := by
  unfold segmentsOf
  exact fun h => addSegments_ne_nil _ _ (splitOn_ne_nil _ _) (List.reverse_eq_nil_iff.mp h)

/-- A path that is read has no blanks: they were escaped. -/
theorem segmentsOf_graphic (kind : SchemeKind) (cs : List Char) :
    AllGraphic (segmentsOf kind cs) := by
  unfold segmentsOf
  intro segment hm
  exact allGraphic_nil.addSegments _ _ segment (List.mem_reverse.mp hm)

-- ==================================================================== ends

/-- What a URL of the web is made of behind its authority: a path with a segment, a query
and a fragment, all of them graphic. -/
structure EndsGraphic (u : Url) : Prop where
  authority : u.authority.isSome = true
  path : ∃ segments, u.path = .segments segments ∧ segments ≠ [] ∧ AllGraphic segments
  query : ∀ part, u.query = some part → ∀ c ∈ part, Graphic c
  fragment : ∀ part, u.fragment = some part → ∀ c ∈ part, Graphic c

/-- The place of a web address has an authority, and a path that ends in text without
blanks. -/
theorem webPlace_ends {kind : SchemeKind} {cs : List Char} {place : Place}
    (h : webPlace kind cs = .ok place) :
    place.authority.isSome = true
      ∧ ∃ segments, place.path = .segments segments ∧ segments ≠ [] ∧ AllGraphic segments := by
  unfold webPlace at h
  obtain ⟨found, -, h⟩ := of_bind_eq_ok h
  cases h
  exact ⟨rfl, _, rfl, segmentsOf_ne_nil _ _, segmentsOf_graphic _ _⟩

/-- A web address that was read from a text begins and ends in what can be seen. -/
theorem parse_ends {text : String} {u : Url} (h : parse text = .ok u) {port : Nat}
    (hweb : SchemeKind.ofScheme u.scheme = .web port) : EndsGraphic u := by
  unfold parse at h
  split at h
  next => cases h
  next scheme rest hcut =>
    dsimp only at h
    split at h
    case h_1 =>
      obtain ⟨place, hplace, h⟩ := of_bind_eq_ok h
      cases h
      have hkind : SchemeKind.ofScheme scheme = .web port := hweb
      obtain ⟨hauthority, hpath⟩ := webPlace_ends hplace
      refine ⟨hauthority, hpath, ?_, ?_⟩
      · intro part hpart
        obtain ⟨raw, -, rfl⟩ := Option.map_eq_some_iff.mp hpart
        rw [hkind, if_neg (by simp)]
        exact fun _ => mem_percentEncode (by decide)
      · intro part hpart
        obtain ⟨raw, -, rfl⟩ := Option.map_eq_some_iff.mp hpart
        exact fun _ => mem_percentEncode (by decide)
    -- the scheme of another kind is kept, and is none of the web
    case h_2 hkind | h_3 hkind =>
      obtain ⟨place, -, h⟩ := of_bind_eq_ok h
      cases h
      cases hkind.symm.trans hweb

/-- The text of a URL of the web, cut before its path. -/
theorem EndsGraphic.chars_eq {u : Url} (h : EndsGraphic u) :
    ∃ front back, u.chars = u.scheme ++ front ++ back ∧ back ≠ [] ∧ ∀ c ∈ back, Graphic c := by
  obtain ⟨scheme, authority, path, query, fragment⟩ := u
  obtain ⟨hauthority, ⟨segments, hpath, hne, hsegments⟩, hquery, hfragment⟩ := h
  obtain ⟨a, ha⟩ := Option.isSome_iff_exists.mp hauthority
  dsimp only at ha hpath hquery hfragment
  subst ha hpath
  have hmarked {mark : Char} {part : Option (List Char)} (hmark : Graphic mark)
      (hpart : ∀ text, part = some text → ∀ c ∈ text, Graphic c) :
      ∀ c ∈ marked mark part, Graphic c := by
    intro c hc
    cases part with
    | none => cases hc
    | some text =>
      rcases List.mem_cons.mp hc with rfl | hc
      · exact hmark
      · exact hpart text rfl c hc
  refine ⟨':' :: '/' :: '/' :: a.chars,
    (Path.segments segments).chars ++ marked '?' query ++ marked '#' fragment, ?_, ?_, ?_⟩
  · -- the address in its parts
    simp [Url.chars, placeChars]
  · -- the path begins with a slash
    obtain ⟨first, rest, rfl⟩ := List.exists_cons_of_ne_nil hne
    exact List.cons_ne_nil _ _
  · -- what follows the authority is graphic, part by part
    intro c hc
    rcases List.mem_append.mp hc with hc | hc
    · rcases List.mem_append.mp hc with hc | hc
      · obtain ⟨segment, hm, hc⟩ := List.mem_flatMap.mp hc
        rcases List.mem_cons.mp hc with rfl | hc
        · decide
        · exact hsegments segment hm c hc
      · exact hmarked (by decide) hquery c hc
    · exact hmarked (by decide) hfragment c hc

-- ================================================================= http

/-- A URL that is fetched, with encryption or without. -/
def Fetchable (u : Url) : Prop := u.isHttp = true ∨ u.isHttps = true

/-- The scheme of an address that can be fetched begins with an h, and is one of the web. -/
theorem Fetchable.scheme {u : Url} (h : u.Fetchable) :
    ∃ rest port, u.scheme = 'h' :: rest ∧ SchemeKind.ofScheme u.scheme = .web port := by
  rcases h with h | h
  · have hscheme : u.scheme = ['h', 't', 't', 'p'] := eq_of_beq h
    exact ⟨_, 80, hscheme, by rw [hscheme]; decide⟩
  · have hscheme : u.scheme = ['h', 't', 't', 'p', 's'] := eq_of_beq h
    exact ⟨_, 443, hscheme, by rw [hscheme]; decide⟩

/-- The text of a URL that is fetched has no white space at its ends. -/
theorem trim_text {text : String} {u : Url} (h : parse text = .ok u) (hu : u.Fetchable) :
    Text.trim u.text = u.text := by
  obtain ⟨rest, port, hscheme, hkind⟩ := hu.scheme
  obtain ⟨front, back, hchars, hne, hgraphic⟩ := (parse_ends h hkind).chars_eq
  unfold Text.trim Url.text
  rw [String.toList_ofList, hchars, hscheme, Text.stripChars_of_ends]
  · intro c hc
    obtain rfl : 'h' = c := Option.some.inj hc
    decide
  · intro c hc
    rw [List.getLast?_append_of_ne_nil _ hne] at hc
    exact (hgraphic c (List.mem_of_getLast? hc)).isBlank

/-- The text of an address that can be fetched is not empty. -/
theorem text_isEmpty {u : Url} (hu : u.Fetchable) : u.text.isEmpty = false := by
  obtain ⟨rest, -, hscheme, -⟩ := hu.scheme
  have hne : u.text ≠ "" := by
    intro heq
    have hchars : u.chars = [] := String.ofList_inj.mp heq
    rw [Url.chars, hscheme] at hchars
    cases hchars
  exact String.isEmpty_eq_false_iff.mpr hne

end Url

end CameraDriver
