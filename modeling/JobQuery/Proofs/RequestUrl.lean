import Mathlib
import JobQuery.Transport.Http

/-!
# JobQuery — a resource id stays in its own path segment

A request names its resource (a job id) apart from its path, and the transport adds the id to
the URL as one path segment, percent-encoded, then the query pairs in form encoding. This
module says what comes out, for every base URL, every id and every list of pairs:

* the written URL is the base URL written, then `/`, the segment, and `?` with the query when
  there are pairs (`Net.Url.text_pushed`);
* the segment holds no `/`, `?` or `#` (nor `\`, for a special scheme), and its
  percent-decoding is exactly the UTF-8 of the id (`Net.SegmentOf`);
* the query splits back, at `&` and at the first `=`, into exactly the pairs asked for
  (`Net.formPairs_formQuery`).

This holds for every id that is not `.` or `..` and holds no tab or line break. The URL
writer skips the segments `.` and `..` whole, and drops tabs and line breaks from any other
segment before it reads it, so such ids are lost or changed: `a` tab `b` goes out as `ab`,
and `.` tab `.` as `..`, which takes the last segment of the path away.

The decoding side is `formPairs`, the reading of a form-encoded query a server does; the
percent-decoding of a segment is the model's own `percentDecodeBytes`.

The main result is `requestUrl_one_segment`.
-/

namespace JobQuery.Net

deriving instance DecidableEq for UrlError
deriving instance DecidableEq for Host
deriving instance DecidableEq for UrlPath
deriving instance DecidableEq for Url

-- ---------------------------------------------------------------------------
-- The bytes of a text
-- ---------------------------------------------------------------------------

theorem toList_loop (bs : ByteArray) (i : Nat) (r : List UInt8) :
    ByteArray.toList.loop bs i r = r.reverse ++ bs.data.toList.drop i := by
  fun_induction ByteArray.toList.loop bs i r with
  | case1 i r hi ih =>
    have hlt : i < bs.data.toList.length := by simpa using hi
    rw [ih, List.drop_eq_getElem_cons hlt]
    simp [ByteArray.get!, hi]
  | case2 i r hi =>
    rw [List.drop_eq_nil_of_le (by simpa using Nat.le_of_not_lt hi)]
    simp

theorem byteArray_toList (bs : ByteArray) : bs.toList = bs.data.toList := by
  simp [ByteArray.toList, toList_loop]

/-- The UTF-8 bytes of a text, character by character. -/
theorem utf8_toList (s : String) : s.toUTF8.toList = s.toList.flatMap String.utf8EncodeChar := by
  rw [byteArray_toList]
  conv_lhs => rw [← String.ofList_toList (s := s)]
  show (String.ofList s.toList).toByteArray.data.toList = _
  rw [String.toByteArray_ofList, List.utf8Encode, List.data_toByteArray, List.toList_toArray]

theorem utf8_append (s t : String) :
    (s ++ t).toUTF8.toList = s.toUTF8.toList ++ t.toUTF8.toList := by
  simp only [utf8_toList, String.toList_append, List.flatMap_append]

theorem utf8_join (l : List String) :
    (String.join l).toUTF8.toList = l.flatMap fun s => s.toUTF8.toList := by
  simp only [utf8_toList, String.toList_join, List.flatMap_assoc]

/-- An ASCII character is the one byte of its code. -/
theorem utf8EncodeChar_ascii {c : Char} (h : c.toNat < 0x80) :
    String.utf8EncodeChar c = [UInt8.ofNat c.toNat] := by
  unfold String.utf8EncodeChar
  rw [if_pos (by simp only [Char.toNat] at h; omega)]
  rfl

theorem toNat_asciiByte {c : Char} (h : c.toNat < 0x80) : (UInt8.ofNat c.toNat).toNat = c.toNat := by
  simp only [UInt8.toNat_ofNat']
  omega

theorem asciiByte_ne {c d : Char} (hc : c.toNat < 0x80) (hd : d.toNat < 0x80) (h : c ≠ d) :
    UInt8.ofNat c.toNat ≠ UInt8.ofNat d.toNat := by
  intro he
  have hn := congrArg UInt8.toNat he
  rw [toNat_asciiByte hc, toNat_asciiByte hd] at hn
  exact h (Char.toNat_inj.mp hn)

-- ---------------------------------------------------------------------------
-- Percent escapes read back
-- ---------------------------------------------------------------------------

/-- The byte of an ASCII character. -/
abbrev asciiByte (c : Char) : UInt8 := UInt8.ofNat c.toNat

theorem hexDigitUpper_facts : ∀ n : Fin 16,
    (hexDigitUpper n).toNat < 0x80 ∧ hexValue (hexDigitUpper n) = some n ∧
      hexDigitUpper n ∉ ['%', '/', '?', '#', '\\', '+', '&', '='] := by
  decide

theorem hexDigitUpper_lt {n : Nat} (h : n < 16) : (hexDigitUpper n).toNat < 0x80 :=
  (hexDigitUpper_facts ⟨n, h⟩).1

theorem hexValue_hexDigitUpper {n : Nat} (h : n < 16) : hexValue (hexDigitUpper n) = some n :=
  (hexDigitUpper_facts ⟨n, h⟩).2.1

/-- The three bytes of an escape: `%` and the two hex digits of the byte. -/
theorem percentByte_bytes (b : UInt8) :
    (percentByte b).toUTF8.toList =
      [asciiByte '%', asciiByte (hexDigitUpper (b.toNat / 16)),
        asciiByte (hexDigitUpper (b.toNat % 16))] := by
  have hb := b.toNat_lt
  rw [utf8_toList, percentByte, String.toList_ofList]
  simp only [List.flatMap_cons, List.flatMap_nil, List.append_nil,
    utf8EncodeChar_ascii (show Char.toNat '%' < 0x80 by decide),
    utf8EncodeChar_ascii (hexDigitUpper_lt (show b.toNat / 16 < 16 by omega)),
    utf8EncodeChar_ascii (hexDigitUpper_lt (show b.toNat % 16 < 16 by omega)), List.cons_append,
    List.nil_append]

/-- A byte other than `%` is read as itself. -/
theorem percentDecodeBytes_cons {b : UInt8} (hb : b.toNat ≠ 0x25) (rest : List UInt8) :
    percentDecodeBytes (b :: rest) = b :: percentDecodeBytes rest := by
  match rest with
  | [] => exact percentDecodeBytes.eq_3 b [] (by simp)
  | [c] => exact percentDecodeBytes.eq_3 b [c] (by simp)
  | _ :: _ :: _ =>
    rw [percentDecodeBytes.eq_2]
    simp [hb]

/-- An escape is read back as its byte. -/
theorem percentDecodeBytes_escape (b : UInt8) (rest : List UInt8) :
    percentDecodeBytes ((percentByte b).toUTF8.toList ++ rest) = b :: percentDecodeBytes rest := by
  have hb := b.toNat_lt
  have hhi : b.toNat / 16 < 16 := by omega
  have hlo : b.toNat % 16 < 16 := by omega
  rw [percentByte_bytes]
  simp only [List.cons_append, List.nil_append]
  rw [percentDecodeBytes]
  simp only [toNat_asciiByte (hexDigitUpper_lt hhi), toNat_asciiByte (hexDigitUpper_lt hlo),
    Char.ofNat_toNat, hexValue_hexDigitUpper hhi, hexValue_hexDigitUpper hlo,
    show (asciiByte '%').toNat = 0x25 by decide, beq_self_eq_true]
  congr 1
  apply UInt8.toNat_inj.mp
  simp only [UInt8.toNat_ofNat']
  omega

/-- Escapes of bytes read back as those bytes. -/
theorem percentDecodeBytes_escapes (bs rest : List UInt8) :
    percentDecodeBytes ((bs.flatMap fun b => (percentByte b).toUTF8.toList) ++ rest) =
      bs ++ percentDecodeBytes rest := by
  induction bs with
  | nil => rfl
  | cons b bs ih => rw [List.flatMap_cons, List.append_assoc, percentDecodeBytes_escape, ih,
      List.cons_append]

-- ---------------------------------------------------------------------------
-- An encoded segment read back
-- ---------------------------------------------------------------------------

/-- One character, encoded with a set that holds `%`, reads back as its UTF-8. -/
theorem percentDecodeBytes_encodeChar {set : EncodeSet} (hpct : set '%' = true) (c : Char)
    (rest : List UInt8) :
    percentDecodeBytes ((encodeChar set c).toUTF8.toList ++ rest) =
      String.utf8EncodeChar c ++ percentDecodeBytes rest := by
  unfold encodeChar
  split
  · -- kept as it is: one ASCII byte, which cannot be `%` since the set holds `%`
    rename_i h
    simp only [Bool.and_eq_true, decide_eq_true_eq, Bool.not_eq_true'] at h
    obtain ⟨hlt, hset⟩ := h
    have hne : c.toNat ≠ 0x25 := fun he => by
      rw [show c = '%' from Char.toNat_inj.mp he, hpct] at hset
      cases hset
    rw [utf8_toList, Char.toString, String.toList_singleton, List.flatMap_cons, List.flatMap_nil,
      List.append_nil, utf8EncodeChar_ascii hlt, List.singleton_append,
      percentDecodeBytes_cons (by rw [toNat_asciiByte hlt]; exact hne), List.singleton_append]
  · -- escaped: every byte of its UTF-8 becomes an escape
    rw [utf8_join, List.flatMap_map, percentDecodeBytes_escapes]

/-- **A text encoded with a set that holds `%` reads back as its UTF-8.** -/
theorem percentDecodeBytes_encodeWith {set : EncodeSet} (hpct : set '%' = true) (cs : List Char) :
    percentDecodeBytes (encodeWith set cs).toUTF8.toList = (String.ofList cs).toUTF8.toList := by
  have key : ∀ rest, percentDecodeBytes ((encodeWith set cs).toUTF8.toList ++ rest) =
      cs.flatMap String.utf8EncodeChar ++ percentDecodeBytes rest := by
    unfold encodeWith
    rw [utf8_join, List.flatMap_map]
    induction cs with
    | nil => intro rest; rfl
    | cons c cs ih =>
      intro rest
      rw [List.flatMap_cons, List.append_assoc, percentDecodeBytes_encodeChar hpct, ih,
        List.flatMap_cons, List.append_assoc]
  have hall := key []
  rw [List.append_nil, percentDecodeBytes.eq_1, List.append_nil] at hall
  rw [hall, utf8_toList, String.toList_ofList]

/-- A character of an encoded text is one the set keeps, or the `%` or a hex digit of an
escape. -/
theorem mem_encodeWith {set : EncodeSet} {cs : List Char} {d : Char}
    (hd : d ∈ (encodeWith set cs).toList) :
    set d = false ∨ d = '%' ∨ ∃ n : Fin 16, d = hexDigitUpper n := by
  unfold encodeWith at hd
  rw [String.toList_join, List.flatMap_map] at hd
  obtain ⟨c, -, hc⟩ := List.mem_flatMap.mp hd
  unfold encodeChar at hc
  split at hc
  · rename_i h
    simp only [Bool.and_eq_true, decide_eq_true_eq, Bool.not_eq_true'] at h
    rw [Char.toString, String.toList_singleton, List.mem_singleton] at hc
    subst hc
    exact Or.inl h.2
  · rw [String.toList_join, List.flatMap_map] at hc
    obtain ⟨b, -, hb⟩ := List.mem_flatMap.mp hc
    have hlt := b.toNat_lt
    rw [percentByte, String.toList_ofList] at hb
    simp only [List.mem_cons, List.not_mem_nil, or_false] at hb
    rcases hb with rfl | rfl | rfl
    · exact Or.inr (Or.inl rfl)
    · exact Or.inr (Or.inr ⟨⟨_, by omega⟩, rfl⟩)
    · exact Or.inr (Or.inr ⟨⟨_, by omega⟩, rfl⟩)

/-- A character the set encodes, other than `%` and the hex digits, is never in the encoded
text. -/
theorem not_mem_encodeWith {set : EncodeSet} {d : Char} (hd : set d = true) (hpct : d ≠ '%')
    (hhex : ∀ n : Fin 16, hexDigitUpper n ≠ d) (cs : List Char) :
    d ∉ (encodeWith set cs).toList := by
  intro hmem
  rcases mem_encodeWith hmem with h | h | ⟨n, h⟩
  · rw [hd] at h
    cases h
  · exact hpct h
  · exact hhex n h.symm

/-- The set a segment is encoded with holds the separators and `%`. -/
theorem segmentSet_holds (special : Bool) :
    ∀ d ∈ ['/', '?', '#', '%'], (if special then specialSegmentSet else segmentSet) d = true := by
  have h : ∀ d ∈ ['/', '?', '#', '%'], segmentSet d = true := by
    simp [segmentSet, pathSet, fragmentSet, String.contains_char_eq]
  intro d hd
  cases special
  · exact h d hd
  · simp [specialSegmentSet, h d hd]

/-- `seg` is one path segment whose percent-decoding is `id`: it holds no `/`, `?` or `#`, nor,
in a URL of a special scheme, `\`. -/
structure SegmentOf (special : Bool) (id seg : String) : Prop where
  noSlash : '/' ∉ seg.toList
  noQuestion : '?' ∉ seg.toList
  noHash : '#' ∉ seg.toList
  noBackslash : special = true → '\\' ∉ seg.toList
  decodes : percentDecodeBytes seg.toUTF8.toList = id.toUTF8.toList

/-- **An id encoded as a segment is one segment that reads back as the id.** -/
theorem segmentOf_encodeWith (special : Bool) (id : String) :
    SegmentOf special id
      (encodeWith (if special then specialSegmentSet else segmentSet) id.toList) := by
  have hhex (d : Char) (hd : d ∈ ['%', '/', '?', '#', '\\']) (n : Fin 16) : hexDigitUpper n ≠ d :=
    fun he => (hexDigitUpper_facts n).2.2 (by simp only [List.mem_cons] at hd ⊢; grind)
  have hsep := segmentSet_holds special
  refine ⟨?_, ?_, ?_, fun hs => ?_, ?_⟩
  · exact not_mem_encodeWith (hsep '/' (by simp)) (by decide) (hhex '/' (by simp)) _
  · exact not_mem_encodeWith (hsep '?' (by simp)) (by decide) (hhex '?' (by simp)) _
  · exact not_mem_encodeWith (hsep '#' (by simp)) (by decide) (hhex '#' (by simp)) _
  · subst hs
    exact not_mem_encodeWith (by simp [specialSegmentSet]) (by decide) (hhex '\\' (by simp)) _
  · rw [percentDecodeBytes_encodeWith (hsep '%' (by simp)), String.ofList_toList]

-- ---------------------------------------------------------------------------
-- Adding the segment
-- ---------------------------------------------------------------------------

/-- An id that is not `.` or `..` and holds no tab or line break is added as its encoding,
after the segments there are (a path that is only `/` has none). -/
theorem pushSegment_plain {u : Url} {ss : List String} {id : String}
    (hpath : u.path = .segments ss) (hdot : id ≠ "." ∧ id ≠ "..")
    (hctl : ∀ c ∈ id.toList, c ≠ '\t' ∧ c ≠ '\n' ∧ c ≠ '\r') :
    u.pushSegment id = some { u with path := .segments ((if ss = [""] then [] else ss) ++
      [encodeWith (if isSpecial u.scheme then specialSegmentSet else segmentSet) id.toList]) } := by
  have hkeep : id.toList.filter (fun c => c != '\t' && c != '\n' && c != '\r') = id.toList :=
    List.filter_eq_self.mpr fun c hc => by simp [hctl c hc]
  unfold Url.pushSegment
  rw [hpath]
  simp only [hkeep, String.ofList_toList]
  simp [hdot.1, hdot.2]

-- Without the hypothesis on dots the segment is lost: `..` adds nothing at all.
example : Url.pushSegment { scheme := "http", path := .segments ["query", "v2", "jobs"] } ".." =
    some { scheme := "http", path := .segments ["query", "v2", "jobs"] } := by decide +kernel

/-- The path written with one more segment. -/
theorem text_segments_append (ss : List String) (seg : String) :
    (UrlPath.segments (ss ++ [seg])).text = (UrlPath.segments ss).text ++ "/" ++ seg := by
  cases ss with
  | nil => simp [UrlPath.text]
  | cons s ss => simp [UrlPath.text, String.join_append, String.append_assoc]

/-- **The URL written with one more segment and a query** is the URL written, then `/`, the
segment and the query; the path must not be only `/`, and the URL must have no query or
fragment yet. -/
theorem Url.text_pushed {u : Url} {ss : List String} (hpath : u.path = .segments ss)
    (hroot : ss ≠ [""]) (hquery : u.query = none) (hfragment : u.fragment = none)
    (seg : String) (query : Option String) :
    { u with path := .segments (ss ++ [seg]), query := query }.text =
      u.text ++ "/" ++ seg ++ (match query with | some q => "?" ++ q | none => "") := by
  unfold Url.text
  rw [hpath, hquery, hfragment, text_segments_append]
  cases u.host with
  | some h => cases query <;> simp [String.append_assoc]
  | none =>
    -- without a host, `/.` is written before a path that starts with an empty segment and has
    -- another; adding a segment to a path that is not only `/` does not change that
    rcases ss with _ | ⟨s, _ | ⟨s', more⟩⟩
    · cases query <;> split <;> simp_all [String.append_assoc]
    · have hs : s ≠ "" := fun h => hroot (by rw [h])
      cases query <;> split <;> simp_all [String.append_assoc]
    · by_cases hs : s = "" <;> cases query <;> simp [hs, String.append_assoc]

-- ---------------------------------------------------------------------------
-- Query pairs read back
-- ---------------------------------------------------------------------------

/-- A byte of a form-encoded text as a reader takes it: `+` is a space. -/
def plusAsSpace (b : UInt8) : UInt8 := if b = 0x2B then 0x20 else b

/-- A form-encoded text read back: `+` is a space, then `%XX` is a byte. -/
def formDecodeBytes (bs : List UInt8) : List UInt8 := percentDecodeBytes (bs.map plusAsSpace)

/-- The pairs of a form-encoded query as a server reads them: the bytes split at `&`, empty
parts skipped, each part split at its first `=` (a part without one is a name with an empty
value), and both sides form-decoded. -/
def formPairs (query : String) : List (List UInt8 × List UInt8) :=
  ((query.toUTF8.toList.splitOn 0x26).filter (!·.isEmpty)).map fun part =>
    (formDecodeBytes (part.takeWhile (· != 0x3D)),
      formDecodeBytes ((part.dropWhile (· != 0x3D)).drop 1))

/-- The query `Url.appendPairs` writes on a URL that has none. -/
def formQuery (pairs : List (String × String)) : String :=
  String.intercalate "&" (pairs.map fun (k, v) => formEncode k ++ "=" ++ formEncode v)

theorem appendPairs_of_none {u : Url} (hquery : u.query = none) (pairs : List (String × String)) :
    u.appendPairs pairs = { u with query := some (formQuery pairs) } := by
  unfold Url.appendPairs
  rw [hquery]
  rfl

theorem toNat_charOfNat {n : Nat} (h : n < 0x80) : (Char.ofNat n).toNat = n := by
  have hv : n.isValidChar := Or.inl (by omega)
  simp [Char.ofNat, hv, Char.ofNatAux, Char.toNat]

/-- A byte that form encoding keeps is none of `+`, `%`, `&` and `=`. -/
theorem formKept_ne {b : UInt8}
    (h : (b.toNat < 0x80 && ((Char.ofNat b.toNat).isAlphanum ||
      "*-._".contains (Char.ofNat b.toNat))) = true) :
    b ∉ [0x2B, 0x25, 0x26, 0x3D] := by
  rw [String.contains_char_eq] at h
  intro hb
  simp only [List.mem_cons, List.not_mem_nil, or_false] at hb
  rcases hb with rfl | rfl | rfl | rfl <;> revert h <;> decide

/-- No byte of an escape is `+`, `&` or `=`. -/
theorem percentByte_bytes_ne (b : UInt8) {d : Char} (hd : d ∈ ['+', '&', '=']) :
    asciiByte d ∉ (percentByte b).toUTF8.toList := by
  have hb := b.toNat_lt
  have hd' : d.toNat < 0x80 := by
    simp only [List.mem_cons, List.not_mem_nil, or_false] at hd
    rcases hd with rfl | rfl | rfl <;> decide
  have hhex (n : Nat) (hn : n < 16) : asciiByte (hexDigitUpper n) ≠ asciiByte d :=
    asciiByte_ne (hexDigitUpper_lt hn) hd' fun he =>
      (hexDigitUpper_facts ⟨n, hn⟩).2.2 (by simp only [List.mem_cons] at hd ⊢; grind)
  rw [percentByte_bytes]
  simp only [List.mem_cons, List.not_mem_nil, or_false, not_or]
  refine ⟨fun he => ?_, fun he => hhex _ (by omega) he.symm, fun he => hhex _ (by omega) he.symm⟩
  have hne : '%' ≠ d := by
    simp only [List.mem_cons, List.not_mem_nil, or_false] at hd
    rcases hd with rfl | rfl | rfl <;> decide
  exact asciiByte_ne (by decide) hd' hne he.symm

theorem plusAsSpace_percentByte (b : UInt8) :
    (percentByte b).toUTF8.toList.map plusAsSpace = (percentByte b).toUTF8.toList := by
  rw [List.map_congr_left (g := id) fun x hx => ?_, List.map_id]
  have hne : x ≠ 0x2B := fun he => percentByte_bytes_ne b (d := '+') (by simp)
    (by rw [show asciiByte '+' = 0x2B by decide, ← he]; exact hx)
  simp [plusAsSpace, hne]

/-- One byte in form encoding reads back as itself. -/
theorem formDecodeBytes_formByte (b : UInt8) (rest : List UInt8) :
    formDecodeBytes ((formByte b).toUTF8.toList ++ rest) = b :: formDecodeBytes rest := by
  unfold formDecodeBytes formByte
  rw [List.map_append]
  split
  · -- a space is written `+`, which reads back as a space
    rename_i hsp
    have hb : b = 0x20 := UInt8.toNat_inj.mp (by simpa using hsp)
    subst hb
    rw [show ("+" : String).toUTF8.toList = [0x2B] by rw [utf8_toList]; decide]
    exact percentDecodeBytes_cons (by decide) _
  · dsimp only
    split
    · -- kept as it is: one ASCII byte, neither `+` nor `%`
      rename_i hkept
      have hne := formKept_ne hkept
      have hlt : b.toNat < 0x80 := by simp only [Bool.and_eq_true, decide_eq_true_eq] at hkept; exact hkept.1
      have hc : (Char.ofNat b.toNat).toNat = b.toNat := toNat_charOfNat hlt
      have hbyte : UInt8.ofNat (Char.ofNat b.toNat).toNat = b := by
        apply UInt8.toNat_inj.mp
        rw [toNat_asciiByte (by omega), hc]
      rw [utf8_toList, Char.toString, String.toList_singleton, List.flatMap_cons, List.flatMap_nil,
        List.append_nil, utf8EncodeChar_ascii (by omega), hbyte]
      have hplus : plusAsSpace b = b := by
        simp only [plusAsSpace]
        exact if_neg fun he => hne (by simp [he])
      rw [List.map_cons, List.map_nil, hplus, List.singleton_append,
        percentDecodeBytes_cons fun he => hne (by
          have hb : b = 0x25 := UInt8.toNat_inj.mp he
          simp [hb])]
    · -- escaped
      rw [plusAsSpace_percentByte, percentDecodeBytes_escape]

/-- **A text in form encoding reads back as its UTF-8.** -/
theorem formDecodeBytes_formEncode (s : String) :
    formDecodeBytes (formEncode s).toUTF8.toList = s.toUTF8.toList := by
  have key : ∀ (bs rest : List UInt8),
      formDecodeBytes ((String.join (bs.map formByte)).toUTF8.toList ++ rest) =
        bs ++ formDecodeBytes rest := by
    intro bs rest
    rw [utf8_join, List.flatMap_map]
    induction bs with
    | nil => rfl
    | cons b bs ih => rw [List.flatMap_cons, List.append_assoc, formDecodeBytes_formByte, ih,
        List.cons_append]
  have hall := key s.toUTF8.toList []
  rw [List.append_nil, show formDecodeBytes [] = [] from percentDecodeBytes.eq_1,
    List.append_nil] at hall
  exact hall

/-- No byte of a text in form encoding is `&` or `=`. -/
theorem formEncode_no_separator (s : String) (x : UInt8) (hx : x ∈ (formEncode s).toUTF8.toList) :
    x ≠ 0x26 ∧ x ≠ 0x3D := by
  unfold formEncode at hx
  rw [utf8_join, List.flatMap_map] at hx
  obtain ⟨b, -, hb⟩ := List.mem_flatMap.mp hx
  unfold formByte at hb
  split at hb
  · rw [show ("+" : String).toUTF8.toList = [0x2B] by rw [utf8_toList]; decide] at hb
    rw [List.mem_singleton.mp hb]
    decide
  · dsimp only at hb
    split at hb
    · rename_i hkept
      have hne := formKept_ne hkept
      have hlt : b.toNat < 0x80 := by simp only [Bool.and_eq_true, decide_eq_true_eq] at hkept; exact hkept.1
      rw [utf8_toList, Char.toString, String.toList_singleton, List.flatMap_cons, List.flatMap_nil,
        List.append_nil, utf8EncodeChar_ascii (by rw [toNat_charOfNat hlt]; exact hlt),
        List.mem_singleton] at hb
      have hxb : x = b := by
        rw [hb]
        apply UInt8.toNat_inj.mp
        rw [toNat_asciiByte (by rw [toNat_charOfNat hlt]; exact hlt), toNat_charOfNat hlt]
      subst hxb
      exact ⟨fun he => hne (by simp [he]), fun he => hne (by simp [he])⟩
    · exact ⟨fun he => percentByte_bytes_ne b (d := '&') (by simp)
          (by rw [show asciiByte '&' = 0x26 by decide, ← he]; exact hb),
        fun he => percentByte_bytes_ne b (d := '=') (by simp)
          (by rw [show asciiByte '=' = 0x3D by decide, ← he]; exact hb)⟩

/-- The bytes of texts joined with `&`. -/
theorem utf8_intercalate_amp : ∀ l : List String,
    (String.intercalate "&" l).toUTF8.toList = [0x26].intercalate (l.map fun s => s.toUTF8.toList)
  | [] => by rw [String.intercalate_nil, List.map_nil, List.intercalate_nil, utf8_toList]; rfl
  | [s] => by rw [String.intercalate_singleton, List.map_singleton, List.intercalate_singleton]
  | s :: t :: l => by
    rw [String.intercalate_cons_cons, utf8_append, utf8_append, utf8_intercalate_amp (t :: l)]
    simp only [List.map_cons]
    rw [List.intercalate_cons_cons, show ("&" : String).toUTF8.toList = [0x26] by
      rw [utf8_toList]; decide]

/-- One pair as a query writes it: the name, `=`, the value. -/
theorem utf8_pair (k v : String) :
    (formEncode k ++ "=" ++ formEncode v).toUTF8.toList =
      (formEncode k).toUTF8.toList ++ 0x3D :: (formEncode v).toUTF8.toList := by
  rw [utf8_append, utf8_append, show ("=" : String).toUTF8.toList = [0x3D] by rw [utf8_toList]; decide,
    List.append_assoc, List.singleton_append]

/-- One pair written, read back. -/
theorem formPair_read (k v : String) :
    (formDecodeBytes (((formEncode k).toUTF8.toList ++ 0x3D :: (formEncode v).toUTF8.toList).takeWhile
        (· != 0x3D)),
      formDecodeBytes ((((formEncode k).toUTF8.toList ++ 0x3D :: (formEncode v).toUTF8.toList).dropWhile
        (· != 0x3D)).drop 1)) = (k.toUTF8.toList, v.toUTF8.toList) := by
  have hname : ∀ x ∈ (formEncode k).toUTF8.toList, (x != 0x3D) = true := fun x hx => by
    simp [(formEncode_no_separator k x hx).2]
  rw [List.takeWhile_append_of_pos hname, List.dropWhile_append_of_pos hname, List.takeWhile_cons,
    List.dropWhile_cons]
  simp only [bne_self_eq_false, Bool.false_eq_true, if_false, List.append_nil, List.drop_one,
    List.tail_cons, formDecodeBytes_formEncode]

/-- **The pairs of a query read back as the pairs written.** -/
theorem formPairs_formQuery (pairs : List (String × String)) :
    formPairs (formQuery pairs) = pairs.map fun (k, v) => (k.toUTF8.toList, v.toUTF8.toList) := by
  unfold formPairs formQuery
  rw [utf8_intercalate_amp, List.map_map]
  cases pairs with
  | nil => rfl
  | cons p ps =>
    -- no part holds `&`, and every part holds `=`, so splitting gives back the parts
    have hamp : ∀ part ∈ (p :: ps).map ((fun s => s.toUTF8.toList) ∘
        fun (kv : String × String) => formEncode kv.1 ++ "=" ++ formEncode kv.2), 0x26 ∉ part := by
      intro part hpart hmem
      obtain ⟨⟨k, v⟩, -, rfl⟩ := List.mem_map.mp hpart
      simp only [Function.comp_apply, utf8_pair, List.mem_append, List.mem_cons] at hmem
      rcases hmem with h | h | h
      · exact (formEncode_no_separator k _ h).1 rfl
      · exact absurd h (by decide)
      · exact (formEncode_no_separator v _ h).1 rfl
    rw [List.splitOn_intercalate _ hamp (by simp)]
    rw [List.filter_eq_self.mpr fun part hpart => by
      obtain ⟨⟨k, v⟩, -, rfl⟩ := List.mem_map.mp hpart
      simp only [Function.comp_apply, utf8_pair]
      simp]
    rw [List.map_map]
    apply List.map_congr_left
    rintro ⟨k, v⟩ -
    simp only [Function.comp_apply, utf8_pair]
    exact formPair_read k v

end JobQuery.Net

namespace JobQuery

open Net

/-- **A resource id stays in its own path segment.** Whatever the base URL a request's path
makes at an endpoint, as long as its path is made of segments and is not only `/`, and it has
no query or fragment yet: for every id that is not `.` or `..` and holds no tab or line break,
and for every list of query pairs, the URL built is the base URL written, then `/` and one
segment that reads back as the id, then the query when there are pairs, which splits back
into exactly those pairs. -/
theorem requestUrl_one_segment (scheme endpoint : String) (r : ApiRequest) (id : String)
    (u : Url) (ss : List String) (hid : r.resourceId = some id) (hdot : id ≠ "." ∧ id ≠ "..")
    (hctl : ∀ c ∈ id.toList, c ≠ '\t' ∧ c ≠ '\n' ∧ c ≠ '\r')
    (hbase : Url.parse (scheme ++ "://" ++ endpoint ++ r.path) = .ok u)
    (hpath : u.path = .segments ss) (hroot : ss ≠ [""]) (hquery : u.query = none)
    (hfragment : u.fragment = none) :
    ∃ url seg query, requestUrl scheme endpoint r = .ok url ∧
      url.text = u.text ++ "/" ++ seg ++ (if r.query.isEmpty then "" else "?" ++ query) ∧
      SegmentOf (isSpecial u.scheme) id seg ∧
      formPairs query = r.query.map fun (k, v) => (k.toUTF8.toList, v.toUTF8.toList) := by
  have hpush := pushSegment_plain hpath hdot hctl
  rw [if_neg hroot] at hpush
  let seg := encodeWith (if isSpecial u.scheme then specialSegmentSet else segmentSet) id.toList
  let q := if r.query.isEmpty then none else some (formQuery r.query)
  refine ⟨{ u with path := .segments (ss ++ [seg]), query := q }, seg, formQuery r.query, ?_, ?_,
    segmentOf_encodeWith _ id, formPairs_formQuery r.query⟩
  · unfold requestUrl
    simp only [hbase, hid, pure_bind]
    rw [hpush]
    dsimp only
    cases hq : r.query.isEmpty
    · rw [if_neg Bool.false_ne_true, appendPairs_of_none (u := { u with path := .segments (ss ++ [seg]) }) hquery]
      simp only [q, hq, Bool.false_eq_true, if_false]
      rfl
    · rw [if_pos rfl, hquery]
      simp only [q, hq, if_true]
      rfl
  · rw [Url.text_pushed hpath hroot hquery hfragment]
    simp only [q]
    cases r.query.isEmpty <;> rfl

/-- The job `a/b?c` at an IPv6 endpoint of a scheme that is not special, on a request with no
path of its own and one query pair whose value holds a space. -/
theorem requestUrl_one_segment_at_ipv6 :
    Url.parse ("foo" ++ "://" ++ "[::1]" ++ "") =
        .ok { scheme := "foo", host := some (.ipv6 [0, 0, 0, 0, 0, 0, 0, 1]), path := .segments [] } ∧
      ∃ url seg query, requestUrl "foo" "[::1]"
          { method := .get, path := "", resourceId := some "a/b?c", query := [("k", "v w")] } =
          .ok url ∧
        url.text =
          Url.text { scheme := "foo", host := some (.ipv6 [0, 0, 0, 0, 0, 0, 0, 1]), path := .segments [] } ++
            "/" ++ seg ++ (if [("k", "v w")].isEmpty then "" else "?" ++ query) ∧
        SegmentOf (isSpecial "foo") "a/b?c" seg ∧
        formPairs query = [("k", "v w")].map fun (k, v) => (k.toUTF8.toList, v.toUTF8.toList) :=
  ⟨by decide +kernel, requestUrl_one_segment "foo" "[::1]"
    { method := .get, path := "", resourceId := some "a/b?c", query := [("k", "v w")] } "a/b?c"
    { scheme := "foo", host := some (.ipv6 [0, 0, 0, 0, 0, 0, 0, 1]), path := .segments [] } []
    rfl (by decide) (by simp) (by decide +kernel) rfl (by decide) rfl rfl⟩

end JobQuery
