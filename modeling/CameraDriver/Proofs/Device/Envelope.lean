/-
The body of an upload tells its image.

A request that goes out is that of a shot (`Taken.balance`), so its body is made of the
bytes of a frame that the camera gave. The body is an object of two members, which is
read back as it was written (`Json.parse_text_obj`), and its second member is the bytes
in Base64, from which they are read back (`Base64.decode?_encode`). So the body tells
the image. That two images never have the same body needs no reader: behind the digits
of the size comes a comma, so the texts can be taken apart.
-/
import CameraDriver.Proofs.Device.Requests
import CameraDriver.Proofs.Json.Written
import CameraDriver.Proofs.Number.Numeral
import CameraDriver.Proofs.Text.Base64
import Mathlib.Data.Bool.AllAny

namespace CameraDriver

open Number Text

namespace Request

variable {endpoint endpoint' : Url} {bytes bytes' : Bytes}

/-- The characters that hold the bytes of an image. -/
def value (bytes : Bytes) : String := String.ofList (Base64.encode bytes)

/-- The value of an image is its Base64 text. -/
theorem value_toList (bytes : Bytes) : (value bytes).toList = Base64.encode bytes :=
  String.toList_ofList

/-- The value of an image need not be escaped. -/
theorem unescaped_value (bytes : Bytes) : ∀ c ∈ (value bytes).toList, Json.Unescaped c := by
  rw [value_toList]
  exact Base64.forall_encode (List.all_iff_forall_prop.mp (by decide)) (by decide) bytes

-- ================================================================= reading

/-- A body tells the bytes of an image: it is an object of their number and their
characters, which are those of the standard alphabet, padded. -/
structure Tells (body : String) (bytes : Bytes) (value : String) : Prop where
  parses : Json.parse (Utf8.encode body)
    = .ok (.obj [("size", .int bytes.length), ("value", .str value)])
  length : value.length = 4 * ((bytes.length + 2) / 3)
  padded : ∃ cs, value.toList = cs ++ List.replicate ((3 - bytes.length % 3) % 3) '='
    ∧ ∀ c ∈ cs, c ∈ Base64.alphabet
  decodes : Base64.decode? value.toList = some bytes

/-- The body is read back, if the size is: the reader takes an integer of 64 bits. -/
theorem parse_envelope (h : bytes.length < 2 ^ 64) :
    Json.parse (Utf8.encode (envelope bytes).text)
      = .ok (.obj [("size", .int bytes.length), ("value", .str (value bytes))]) := by
  have hsize : ∀ c ∈ "size".toList, Json.Unescaped c :=
    List.all_iff_forall_prop.mp (by decide)
  have hvalue : ∀ c ∈ "value".toList, Json.Unescaped c :=
    List.all_iff_forall_prop.mp (by decide)
  refine Json.parse_text_obj ?_
  simp only [List.forall_mem_cons]
  exact ⟨⟨hsize, Json.reads_natCast h⟩,
    ⟨hvalue, Json.reads_str (unescaped_value bytes)⟩, nofun⟩

/-- The body of an upload tells the image, below 2^64 bytes. -/
theorem ofImage_tells (h : bytes.length < 2 ^ 64) :
    Tells (ofImage endpoint bytes).body bytes (value bytes) where
  parses := parse_envelope h
  length := by rw [← String.length_toList, value_toList, Base64.length_encode]
  padded := by
    rw [value_toList]
    exact Base64.exists_encode bytes
  decodes := by rw [value_toList, Base64.decode?_encode]

-- =============================================================== apartness

/-- The size stands between the head of the body and a comma. -/
theorem exists_envelope_chars : ∃ head mid tail : List Char, ∀ bytes : Bytes,
    (envelope bytes).chars
      = head ++ (digitsOf bytes.length ++ ',' :: (mid ++ (Base64.encode bytes ++ tail))) := by
  refine ⟨'\x7b' :: "\"size\":".toList, "\"value\":\"".toList, ['"', '\x7d'], fun bytes => ?_⟩
  have hsize : (Json.int bytes.length).chars = digitsOf bytes.length := String.toList_ofList
  have hvalue : (Json.str (value bytes)).chars = '"' :: Base64.encode bytes ++ ['"'] := by
    rw [Json.chars, Json.quote_eq (unescaped_value bytes), value_toList]
  show '\x7b' :: Json.memberChars [("size", .int bytes.length), ("value", .str (value bytes))]
    ++ ['\x7d'] = _
  rw [Json.memberChars, Json.memberChars, hsize, hvalue]
  · simp [Json.quote, Json.escape]
  · exact List.cons_ne_nil _ _

/-- A number is told by its digits before a comma. -/
theorem digits_append_inj {n m : Nat} {cs cs' : List Char}
    (h : digitsOf n ++ ',' :: cs = digitsOf m ++ ',' :: cs') : cs = cs' := by
  have hdrop (n : Nat) (cs : List Char) :
      (digitsOf n ++ ',' :: cs).dropWhile isDigit = ',' :: cs :=
    dropWhile_of_all fun c => isDigit_of_mem
  have htails := (hdrop n cs).symm.trans ((congrArg (List.dropWhile isDigit) h).trans (hdrop m cs'))
  exact (List.cons.inj htails).2

/-- Two images never have the same body. -/
theorem body_injective (h : (ofImage endpoint bytes).body = (ofImage endpoint' bytes').body) :
    bytes = bytes' := by
  obtain ⟨head, mid, tail, hchars⟩ := exists_envelope_chars
  have heq : (envelope bytes).chars = (envelope bytes').chars := String.ofList_inj.mp h
  rw [hchars, hchars] at heq
  have hrest := digits_append_inj (List.append_cancel_left heq)
  exact Base64.encode_injective (List.append_cancel_right (List.append_cancel_left hrest))

end Request

namespace Site

variable {σ H F : Type} [Camera σ H F] {s : Site σ H F}

/-- A request that went out is that of an image that the camera gave on the way. -/
theorem Taken.exists_grab {trace : List (Moment σ H F)} (h : Taken trace s) {request : Request}
    (hr : request ∈ s.device.posts) :
    ∃ m ∈ trace, ∃ a frame, m.before.aim? m.step = some a ∧ (m.before.grab a).1 = .ok frame
      ∧ request = .ofImage a.endpoint (Camera.frameBytes σ frame) := by
  have hshot : request ∈ (shots trace).map (Shot.request σ) := by
    rw [h.balance]
    exact List.mem_append_right _ hr
  obtain ⟨shot, hmem, rfl⟩ := List.mem_map.mp hshot
  obtain ⟨m, hm, hshot⟩ := List.mem_filterMap.mp hmem
  obtain ⟨a, ha, hgrab, -, hendpoint, -⟩ := shot?_eq_some.mp hshot
  exact ⟨m, hm, a, shot.frame, ha, hgrab, by rw [hendpoint]; rfl⟩

/-- The body of an upload is a faithful picture of the image. Whatever the bytes of an
image are, and their number is one of 64 bits as in any memory, the body is read as an
object of two members: their number, and the bytes in Base64, padded to four characters
for each three bytes, from which the bytes are read back. Two images never have the same
body. And over any run each request that went out is made so of an image that the camera
gave for it. -/
theorem upload_body_tells_image :
    (∀ (endpoint : Url) (bytes : Bytes), bytes.length < 2 ^ 64 →
      ∃ value, Request.Tells (Request.ofImage endpoint bytes).body bytes value)
    ∧ (∀ (endpoint endpoint' : Url) (bytes bytes' : Bytes),
      (Request.ofImage endpoint bytes).body = (Request.ofImage endpoint' bytes').body →
      bytes = bytes')
    ∧ ∀ (s : Site σ H F) (trace : List (Moment σ H F)), Taken trace s →
      ∀ request ∈ s.device.posts,
        ∃ m ∈ trace, ∃ a frame, m.before.aim? m.step = some a ∧ (m.before.grab a).1 = .ok frame
          ∧ request = .ofImage a.endpoint (Camera.frameBytes σ frame) :=
  ⟨fun _ bytes h => ⟨Request.value bytes, Request.ofImage_tells h⟩,
    fun _ _ _ _ => Request.body_injective, fun _ _ h _ => h.exists_grab⟩

/-- An image of two bytes, uploaded by a device. -/
theorem upload_body_tells_image_of_two_bytes :
    let camera := (simulated ⟨"a"⟩ 3).camera.setFrame ⟨"a"⟩ [1, 2]
    let s := Site.run ⟨10, 100⟩ { simulated ⟨"a"⟩ 3 with camera }
      [.connect, .reach 0, .resume 0 0, .write "ImageURL" (.text "http://[::1]/"),
        .write "ImageTrigger" (.text "single"), .sendUpload 0 1]
    ∃ request, s.device.posts = [request]
      ∧ (∃ value, Request.Tells request.body [1, 2] value)
      ∧ ∃ trace, Taken trace s ∧ ∃ m ∈ trace, ∃ a frame, m.before.aim? m.step = some a
        ∧ (m.before.grab a).1 = .ok frame
        ∧ request = .ofImage a.endpoint (Camera.frameBytes SimulatedCamera frame) := by
  intro camera s
  let endpoint : Url :=
    { scheme := "http".toList
      authority := some { host := .ipv6 [0, 0, 0, 0, 0, 0, 0, 1] }
      path := .segments [[]]
      query := none
      fragment := none }
  have hposts : s.device.posts = [.ofImage endpoint [1, 2]] := by decide +kernel
  have hr : s.Reachable := ((Reachable.fresh _ _ _ _).camera camera).run _ _
  obtain ⟨hbody, -, hgrabs⟩ := upload_body_tells_image (σ := SimulatedCamera)
  obtain ⟨trace, htaken⟩ := hr.taken
  exact ⟨_, hposts, hbody endpoint [1, 2] (by decide), trace, htaken,
    hgrabs s trace htaken _ (hposts ▸ List.mem_singleton_self _)⟩

end Site

end CameraDriver
