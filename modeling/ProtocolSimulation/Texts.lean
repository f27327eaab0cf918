import Mathlib.Data.List.DropRight
import Mathlib.Data.List.Infix
import Mathlib.Data.List.TakeWhile
import Mathlib.Data.Nat.Digits.Defs

/-!
# Text as characters, and its UTF-8 bytes

A string is the list of its characters. Lengths and limits that a program takes
in bytes go through `utf8Encode`. The string functions below are those of the
Rust standard library, under their names there.
-/
namespace ProtocolSimulation.Texts

abbrev Text := List Char
abbrev Bytes := List UInt8

instance : Coe String Text := ⟨String.toList⟩

def utf8Encode (t : Text) : Bytes := t.flatMap String.utf8EncodeChar

/-- `std::str::from_utf8`: the text the bytes encode, if they encode one. -/
def utf8Decode (b : Bytes) : Option Text := b.toByteArray.utf8Decode?.map Array.toList

/-- `str::len`, the length in bytes. -/
def byteLen (t : Text) : ℕ := (utf8Encode t).length

theorem utf8Encode_toByteArray (t : Text) : (utf8Encode t).toByteArray = t.utf8Encode := rfl

@[simp] theorem utf8Decode_utf8Encode (t : Text) : utf8Decode (utf8Encode t) = some t := by
  simp [utf8Decode, utf8Encode_toByteArray]

theorem utf8Encode_injective : Function.Injective utf8Encode := by
  intro s t h
  have hdecode := congrArg utf8Decode h
  simpa using hdecode

/-- Bytes that encode a text are its encoding. -/
theorem utf8Encode_of_utf8Decode {b : Bytes} {t : Text} (h : utf8Decode b = some t) :
    utf8Encode t = b := by
  have hvalid : b.toByteArray.IsValidUTF8 := by
    rw [← ByteArray.isSome_utf8Decode?_iff]
    cases hdecode : b.toByteArray.utf8Decode? with
    | none => simp [utf8Decode, hdecode] at h
    | some chars => rfl
  obtain ⟨s, hs⟩ := hvalid
  have hb : b = utf8Encode s := by
    rw [← utf8Encode_toByteArray] at hs
    exact List.toByteArray_inj.mp hs
  rw [hb, utf8Decode_utf8Encode] at h
  rw [hb, Option.some.inj h]

theorem utf8Decode_eq_some_iff {b : Bytes} {t : Text} :
    utf8Decode b = some t ↔ utf8Encode t = b := by
  constructor
  · exact utf8Encode_of_utf8Decode
  · rintro rfl
    exact utf8Decode_utf8Encode t

@[simp] theorem utf8Encode_nil : utf8Encode [] = [] := rfl

@[simp] theorem utf8Encode_append (s t : Text) :
    utf8Encode (s ++ t) = utf8Encode s ++ utf8Encode t := by simp [utf8Encode]

@[simp] theorem byteLen_nil : byteLen [] = 0 := rfl

@[simp] theorem byteLen_append (s t : Text) : byteLen (s ++ t) = byteLen s + byteLen t := by
  simp [byteLen]

@[simp] theorem byteLen_cons (c : Char) (t : Text) : byteLen (c :: t) = c.utf8Size + byteLen t := by
  simp [byteLen, utf8Encode]

theorem length_le_byteLen (t : Text) : t.length ≤ byteLen t := by
  induction t with
  | nil => simp
  | cons c t ih => have := Char.utf8Size_pos c; simp only [List.length_cons, byteLen_cons]; omega

theorem byteLen_pos_iff {t : Text} : 0 < byteLen t ↔ t ≠ [] := by
  constructor
  · rintro h rfl; simp at h
  · intro h
    have := List.length_pos_iff.mpr h
    have := length_le_byteLen t
    omega

theorem byteLen_of_ascii {t : Text} (h : ∀ c ∈ t, c.toNat < 128) : byteLen t = t.length := by
  induction t with
  | nil => rfl
  | cons c t ih =>
    have hc : c.utf8Size = 1 := by
      have := h c List.mem_cons_self
      rw [Char.utf8Size_eq_one_iff, UInt32.le_iff_toNat_le]
      exact Nat.le_of_lt_succ this
    rw [byteLen_cons, hc, ih fun d hd => h d (List.mem_cons_of_mem c hd), List.length_cons]
    omega

theorem byteLen_replicate (n : ℕ) : byteLen (List.replicate n 'a') = n := by
  rw [byteLen_of_ascii, List.length_replicate]
  intro c hc
  rw [List.eq_of_mem_replicate hc]
  decide

/-- A text starts with the first byte of a character. -/
theorem isUTF8FirstByte_of_utf8Encode_cons {t : Text} {byte : UInt8} {bytes : Bytes}
    (h : utf8Encode t = byte :: bytes) : byte.IsUTF8FirstByte := by
  cases t with
  | nil => simp at h
  | cons c t =>
    obtain ⟨first, rest, hc⟩ := List.exists_cons_of_ne_nil (@String.utf8EncodeChar_ne_nil c)
    rw [utf8Encode, List.flatMap_cons, hc, List.cons_append] at h
    obtain rfl := (List.cons.inj h).1
    have hfirst := @UInt8.isUTF8FirstByte_getElem_zero_utf8EncodeChar c
    simp only [hc] at hfirst
    exact hfirst

/-! ## ASCII characters -/

/-- A byte below 128 in the encoding of a character is the whole of it. -/
theorem toNat_of_mem_utf8EncodeChar {c : Char} {b : UInt8} (hb : b.toNat < 128)
    (h : b ∈ String.utf8EncodeChar c) : c.toNat = b.toNat := by
  have hor (x k : UInt8) (hk : 128 ≤ k.toNat) : b ≠ x ||| k := by
    rintro rfl
    have hle : k.toNat ≤ (x ||| k).toNat := by
      rw [UInt8.toNat_or]
      exact Nat.right_le_or
    omega
  obtain hsize | hsize | hsize | hsize := c.utf8Size_eq
  · rw [String.utf8EncodeChar_eq_singleton hsize, List.mem_singleton] at h
    have hle : c.val.toNat ≤ 127 := UInt32.le_iff_toNat_le.mp (Char.utf8Size_eq_one_iff.mp hsize)
    have hmod : b.toNat = c.val.toNat % 256 := congrArg UInt8.toNat h
    have hval : c.toNat = c.val.toNat := rfl
    omega
  · rw [String.utf8EncodeChar_eq_cons_cons hsize] at h
    simp [hor] at h
  · rw [String.utf8EncodeChar_eq_cons_cons_cons hsize] at h
    simp [hor] at h
  · rw [String.utf8EncodeChar_eq_cons_cons_cons_cons hsize] at h
    simp [hor] at h

theorem mem_of_mem_utf8Encode {t : Text} {b : UInt8} (hb : b.toNat < 128) (h : b ∈ utf8Encode t) :
    Char.ofNat b.toNat ∈ t := by
  rw [utf8Encode, List.mem_flatMap] at h
  obtain ⟨c, hc, hmem⟩ := h
  rwa [← toNat_of_mem_utf8EncodeChar hb hmem, Char.ofNat_toNat]

/-- Only the character NUL is encoded with a zero byte. -/
theorem zero_notMem_utf8EncodeChar {c : Char} (h : c ≠ '\x00') :
    0 ∉ String.utf8EncodeChar c := by
  intro hzero
  have hval := toNat_of_mem_utf8EncodeChar (by decide) hzero
  exact h (Char.ext (UInt32.toNat_inj.mp hval))

theorem zero_notMem_utf8Encode {t : Text} (h : '\x00' ∉ t) : 0 ∉ utf8Encode t :=
  fun hzero => h (mem_of_mem_utf8Encode (by decide) hzero)

theorem newline_notMem_utf8Encode {t : Text} (h : '\n' ∉ t) : 10 ∉ utf8Encode t :=
  fun hnewline => h (mem_of_mem_utf8Encode (by decide) hnewline)

/-- A byte below 128 opens a text as a character of its own. -/
theorem utf8Decode_cons {b : UInt8} (hb : b.toNat < 128) (rest : Bytes) :
    utf8Decode (b :: rest) = (utf8Decode rest).map fun t => Char.ofNat b.toNat :: t := by
  have hencode : String.utf8EncodeChar (Char.ofNat b.toNat) = [b] := by
    have hvalid : b.toNat.isValidChar := .inl (by omega)
    have hascii : (Char.ofNat b.toNat).toNat = b.toNat := by
      rw [Char.ofNat, dif_pos hvalid]
      rfl
    have hsize : (Char.ofNat b.toNat).utf8Size = 1 := by
      rw [Char.utf8Size_eq_one_iff, UInt32.le_iff_toNat_le]
      exact hascii.trans_le (Nat.le_of_lt_succ hb)
    rw [String.utf8EncodeChar_eq_singleton hsize]
    congr 1
    apply UInt8.toNat_inj.mp
    have hval : (Char.ofNat b.toNat).val.toNat = b.toNat := hascii
    rw [UInt32.toNat_toUInt8, hval, Nat.mod_eq_of_lt b.toNat_lt]
  have hcons (t : Text) : utf8Encode (Char.ofNat b.toNat :: t) = b :: utf8Encode t := by
    rw [utf8Encode, List.flatMap_cons, hencode]
    rfl
  cases hrest : utf8Decode rest with
  | some t =>
    rw [Option.map_some, utf8Decode_eq_some_iff, hcons, utf8Encode_of_utf8Decode hrest]
  | none =>
    rw [Option.map_none, Option.eq_none_iff_forall_ne_some]
    intro t ht
    have hbytes := utf8Encode_of_utf8Decode ht
    cases t with
    | nil => simp at hbytes
    | cons c t =>
      obtain ⟨first, more, hc⟩ := List.exists_cons_of_ne_nil (@String.utf8EncodeChar_ne_nil c)
      have hfirst : first = b := by
        rw [utf8Encode, List.flatMap_cons, hc, List.cons_append] at hbytes
        exact (List.cons.inj hbytes).1
      have hmem : b ∈ String.utf8EncodeChar c := by
        rw [hc, hfirst]
        exact List.mem_cons_self
      have hchar : c = Char.ofNat b.toNat := by
        rw [← toNat_of_mem_utf8EncodeChar hb hmem, Char.ofNat_toNat]
      rw [hchar, hcons] at hbytes
      rw [utf8Decode_eq_some_iff.mpr (List.cons.inj hbytes).2] at hrest
      simp at hrest

/-- The ASCII text in front of what is decoded. -/
theorem utf8Decode_append {t : Text} (h : ∀ c ∈ t, c.toNat < 128) (rest : Bytes) :
    utf8Decode (utf8Encode t ++ rest) = (utf8Decode rest).map fun s => t ++ s := by
  induction t with
  | nil => simp
  | cons c t ih =>
    have hc := h c List.mem_cons_self
    have hsize : c.utf8Size = 1 := by
      rw [Char.utf8Size_eq_one_iff, UInt32.le_iff_toNat_le]
      exact Nat.le_of_lt_succ hc
    have hbyte : c.val.toUInt8.toNat = c.toNat := by
      rw [UInt32.toNat_toUInt8]
      exact Nat.mod_eq_of_lt (by have : c.val.toNat < 128 := hc; omega)
    have hcons : utf8Encode (c :: t) ++ rest = c.val.toUInt8 :: (utf8Encode t ++ rest) := by
      rw [utf8Encode, List.flatMap_cons, String.utf8EncodeChar_eq_singleton hsize]
      rfl
    rw [hcons, utf8Decode_cons (by omega), ih fun d hd => h d (List.mem_cons_of_mem c hd), hbyte,
      Char.ofNat_toNat]
    cases utf8Decode rest <;> rfl

/-- No character goes on with a byte below 128. -/
theorem utf8Decode_broken {b next : UInt8} (hb : 128 ≤ b.toNat) (hnext : next.toNat < 128)
    (rest : Bytes) : utf8Decode (b :: next :: rest) = none := by
  rw [Option.eq_none_iff_forall_ne_some]
  intro t ht
  have hbytes := utf8Encode_of_utf8Decode ht
  cases t with
  | nil => simp at hbytes
  | cons c t =>
    obtain ⟨first, more, hc⟩ := List.exists_cons_of_ne_nil (@String.utf8EncodeChar_ne_nil c)
    rw [utf8Encode, List.flatMap_cons, hc, List.cons_append] at hbytes
    obtain ⟨rfl, htail⟩ := List.cons.inj hbytes
    -- an only byte is ASCII, and a second one below 128 would be the whole character
    have hshort (b' : UInt8) (hb' : b'.toNat < 128) (hmem : b' ∈ String.utf8EncodeChar c) :
        first = b' := by
      have hval := toNat_of_mem_utf8EncodeChar hb' hmem
      have hsize : c.utf8Size = 1 := by
        rw [Char.utf8Size_eq_one_iff, UInt32.le_iff_toNat_le]
        exact hval.trans_le (Nat.le_of_lt_succ hb')
      rw [String.utf8EncodeChar_eq_singleton hsize] at hc hmem
      rw [List.mem_singleton.mp hmem]
      exact (List.cons.inj hc).1.symm
    cases more with
    | nil =>
      have hlength := congrArg List.length hc
      rw [String.length_utf8EncodeChar] at hlength
      rw [String.utf8EncodeChar_eq_singleton hlength] at hc
      have hfirst := congrArg UInt8.toNat (List.cons.inj hc).1
      have hle : c.val.toNat ≤ 127 :=
        UInt32.le_iff_toNat_le.mp (Char.utf8Size_eq_one_iff.mp hlength)
      rw [UInt32.toNat_toUInt8] at hfirst
      omega
    | cons second more =>
      obtain rfl : second = next := (List.cons.inj htail).1
      have hsame := hshort second hnext (by rw [hc]; simp)
      rw [hsame] at hb
      omega

/-- A zero byte at the end of a text is a character of its own. -/
theorem exists_utf8Decode_of_concat_zero {b : Bytes} {t : Text}
    (h : utf8Decode (b ++ [0]) = some t) : ∃ s, utf8Decode b = some s := by
  have hbytes := utf8Encode_of_utf8Decode h
  induction t using List.reverseRecOn with
  | nil => simp at hbytes
  | append_singleton s c _ =>
    have hlast : utf8Encode s ++ String.utf8EncodeChar c = b ++ [0] := by
      rw [← hbytes, utf8Encode_append]
      simp [utf8Encode]
    by_cases hc : c = '\x00'
    · subst hc
      have hzero : String.utf8EncodeChar '\x00' = [0] := by decide
      rw [hzero] at hlast
      exact ⟨s, utf8Decode_eq_some_iff.mpr (List.append_cancel_right hlast)⟩
    · have hmem : (0 : UInt8) ∈ String.utf8EncodeChar c := by
        have hgetLast := congrArg List.getLast? hlast
        rw [List.getLast?_append_of_ne_nil _ String.utf8EncodeChar_ne_nil,
          List.getLast?_concat] at hgetLast
        exact List.mem_of_getLast? hgetLast
      exact absurd hmem (zero_notMem_utf8EncodeChar hc)

/-! ## ASCII case -/

def toAsciiUppercase (t : Text) : Text := t.map Char.toUpper
def toAsciiLowercase (t : Text) : Text := t.map Char.toLower

/-- `str::eq_ignore_ascii_case`. -/
def eqIgnoreAsciiCase (s t : Text) : Bool := toAsciiLowercase s == toAsciiLowercase t

/-- A property of all characters: of the ASCII ones, and of the others. -/
@[elab_as_elim] theorem char_of_ascii {P : Char → Prop} (c : Char)
    (hascii : ∀ n < 128, P (Char.ofNat n)) (hother : ∀ c : Char, 128 ≤ c.toNat → P c) : P c := by
  by_cases h : c.toNat < 128
  · simpa using hascii c.toNat h
  · exact hother c (by omega)

theorem toLower_of_not_ascii {c : Char} (h : 128 ≤ c.toNat) : c.toLower = c := by
  unfold Char.toLower
  split_ifs with hupper
  · have : c.toNat ≤ 90 := UInt32.le_iff_toNat_le.mp hupper.2
    omega
  · rfl

theorem toUpper_of_not_ascii {c : Char} (h : 128 ≤ c.toNat) : c.toUpper = c := by
  unfold Char.toUpper
  split_ifs with hlower
  · have : c.toNat ≤ 122 := UInt32.le_iff_toNat_le.mp hlower.2
    omega
  · rfl

theorem toLower_toLower (c : Char) : c.toLower.toLower = c.toLower := by
  induction c using char_of_ascii with
  | hascii n h => revert n; decide +kernel
  | hother c h => rw [toLower_of_not_ascii h, toLower_of_not_ascii h]

theorem toUpper_toLower (c : Char) : c.toLower.toUpper = c.toUpper := by
  induction c using char_of_ascii with
  | hascii n h => revert n; decide +kernel
  | hother c h => rw [toLower_of_not_ascii h]

theorem toUpper_toUpper (c : Char) : c.toUpper.toUpper = c.toUpper := by
  induction c using char_of_ascii with
  | hascii n h => revert n; decide +kernel
  | hother c h => rw [toUpper_of_not_ascii h, toUpper_of_not_ascii h]

@[simp] theorem toAsciiLowercase_toAsciiLowercase (t : Text) :
    toAsciiLowercase (toAsciiLowercase t) = toAsciiLowercase t := by
  simp only [toAsciiLowercase, List.map_map]
  exact List.map_congr_left fun c _ => toLower_toLower c

@[simp] theorem toAsciiUppercase_toAsciiLowercase (t : Text) :
    toAsciiUppercase (toAsciiLowercase t) = toAsciiUppercase t := by
  simp only [toAsciiLowercase, toAsciiUppercase, List.map_map]
  exact List.map_congr_left fun c _ => toUpper_toLower c

@[simp] theorem toAsciiUppercase_toAsciiUppercase (t : Text) :
    toAsciiUppercase (toAsciiUppercase t) = toAsciiUppercase t := by
  simp only [toAsciiUppercase, List.map_map]
  exact List.map_congr_left fun c _ => toUpper_toUpper c

theorem utf8Size_toLower (c : Char) : c.toLower.utf8Size = c.utf8Size := by
  unfold Char.toLower
  split_ifs with h
  · have hZ : c.val.toNat ≤ 90 := UInt32.le_iff_toNat_le.mp h.2
    have hlower : (c.val + ('a'.val - 'A'.val)).toNat ≤ 127 := by
      rw [UInt32.toNat_add]
      have : ('a'.val - 'A'.val).toNat = 32 := rfl
      omega
    rw [Char.utf8Size_eq_one_iff.mpr, Char.utf8Size_eq_one_iff.mpr]
    · exact UInt32.le_iff_toNat_le.mpr (hZ.trans (by decide))
    · exact UInt32.le_iff_toNat_le.mpr hlower
  · rfl

@[simp] theorem byteLen_toAsciiLowercase (t : Text) : byteLen (toAsciiLowercase t) = byteLen t := by
  induction t with
  | nil => rfl
  | cons c t ih =>
    simp only [toAsciiLowercase, List.map_cons, byteLen_cons, utf8Size_toLower] at ih ⊢
    rw [ih]

/-! ## Searching, trimming and splitting -/

/-- `char::is_whitespace`, the Unicode property `White_Space`. -/
def isWhitespace (c : Char) : Bool :=
  let n := c.toNat
  (9 ≤ n && n ≤ 13) || n == 0x20 || n == 0x85 || n == 0xa0 || n == 0x1680 ||
    (0x2000 ≤ n && n ≤ 0x200a) || n == 0x2028 || n == 0x2029 || n == 0x202f || n == 0x205f ||
    n == 0x3000

theorem isWhitespace_toUpper (c : Char) : isWhitespace c.toUpper = isWhitespace c := by
  induction c using char_of_ascii with
  | hascii n h => revert n; decide +kernel
  | hother c h => rw [toUpper_of_not_ascii h]

theorem isWhitespace_toLower (c : Char) : isWhitespace c.toLower = isWhitespace c := by
  induction c using char_of_ascii with
  | hascii n h => revert n; decide +kernel
  | hother c h => rw [toLower_of_not_ascii h]

/-- `str::contains` with a string pattern. -/
def contains (t needle : Text) : Bool := t.tails.any fun s => needle.isPrefixOf s

theorem contains_iff {t needle : Text} : contains t needle = true ↔ needle <:+: t := by
  simp only [contains, List.any_eq_true, List.mem_tails, List.isPrefixOf_iff_prefix]
  constructor
  · rintro ⟨s, hs, hneedle⟩
    exact hneedle.isInfix.trans hs.isInfix
  · rintro ⟨before, after, rfl⟩
    use needle ++ after
    rw [List.append_assoc]
    exact ⟨List.suffix_append _ _, List.prefix_append _ _⟩

theorem eq_of_contains {s t : Text} (h : contains s t = true) (h' : contains t s = true) :
    s = t := by
  have hinfix := contains_iff.mp h'
  exact hinfix.eq_of_length_le (contains_iff.mp h).length_le

/-- `str::trim`. -/
def trim (t : Text) : Text := (t.dropWhile isWhitespace).rdropWhile isWhitespace

theorem trim_ne_nil {t : Text} {c : Char} (hc : c ∈ t) (h : isWhitespace c = false) :
    trim t ≠ [] := by
  intro hnil
  have hall := List.rdropWhile_eq_nil_iff.mp hnil
  cases hdrop : t.dropWhile isWhitespace with
  | nil =>
    have := List.dropWhile_eq_nil_iff.mp hdrop c hc
    simp [h] at this
  | cons d rest =>
    have hd : isWhitespace d = false := by
      have := List.head_dropWhile_not isWhitespace (by simp [hdrop] : t.dropWhile isWhitespace ≠ [])
      simpa [hdrop] using this
    have := hall d (by simp [hdrop])
    simp [hd] at this

/-- `str::trim_end_matches` with a set of characters. -/
def trimEndMatches (p : Char → Bool) (t : Text) : Text := t.rdropWhile p

/-- Trimming and lowering commute if letters are not trimmed by their case. -/
theorem toAsciiLowercase_trimEndMatches {p : Char → Bool} (hp : ∀ c : Char, p c.toLower = p c)
    (t : Text) : toAsciiLowercase (trimEndMatches p t) = trimEndMatches p (toAsciiLowercase t) := by
  induction t using List.reverseRecOn with
  | nil => rfl
  | append_singleton t c ih =>
    have hlower : toAsciiLowercase (t ++ [c]) = toAsciiLowercase t ++ [c.toLower] := by
      simp [toAsciiLowercase]
    rw [hlower, trimEndMatches, trimEndMatches]
    by_cases hc : p c = true
    · rw [List.rdropWhile_concat_pos _ _ _ hc, List.rdropWhile_concat_pos _ _ _ (by rw [hp, hc])]
      exact ih
    · rw [List.rdropWhile_concat_neg _ _ _ hc,
        List.rdropWhile_concat_neg _ _ _ (by rw [hp]; exact hc),
        hlower]

theorem byteLen_trimEndMatches_le (p : Char → Bool) (t : Text) :
    byteLen (trimEndMatches p t) ≤ byteLen t := by
  obtain ⟨rest, hrest⟩ := List.rdropWhile_prefix p (l := t)
  have hlen : byteLen t = byteLen (trimEndMatches p t) + byteLen rest := by
    rw [← byteLen_append, trimEndMatches, hrest]
  omega

/-- `str::trim_matches` with a set of characters. -/
def trimMatches (p : Char → Bool) (t : Text) : Text := (t.dropWhile p).rdropWhile p

theorem rdropWhile_append_of_pos {p : Char → Bool} (t : Text) {tail : Text}
    (h : ∀ c ∈ tail, p c = true) : (t ++ tail).rdropWhile p = t.rdropWhile p := by
  induction tail using List.reverseRecOn with
  | nil => rw [List.append_nil]
  | append_singleton tail c ih =>
    have hc : p c = true := h c (by simp)
    rw [← List.append_assoc, List.rdropWhile_concat_pos _ _ _ hc]
    exact ih fun d hd => h d (by simp [hd])

theorem trimMatches_append {p : Char → Bool} {c d : Char} {t tail : Text}
    (hhead : t.head? = some c) (hc : p c = false) (hlast : t.getLast? = some d)
    (hd : p d = false) (htail : ∀ e ∈ tail, p e = true) : trimMatches p (t ++ tail) = t := by
  have hdrop : (t ++ tail).dropWhile p = t ++ tail := by
    cases t with
    | nil => simp at hhead
    | cons first t =>
      obtain rfl : first = c := Option.some.inj hhead
      simp [hc]
  rw [trimMatches, hdrop, rdropWhile_append_of_pos t htail]
  apply List.rdropWhile_eq_self_iff.mpr
  intro hne
  rw [List.getLast?_eq_getLast_of_ne_nil hne] at hlast
  simp [Option.some.inj hlast, hd]

/-- `str::split_once` with a character. -/
def splitOnce (sep : Char) : Text → Option (Text × Text)
  | [] => none
  | c :: t => if c = sep then some ([], t) else (splitOnce sep t).map fun (a, b) => (c :: a, b)

theorem splitOnce_eq_append {sep : Char} {t before after : Text}
    (h : splitOnce sep t = some (before, after)) : t = before ++ sep :: after := by
  induction t generalizing before with
  | nil => simp [splitOnce] at h
  | cons c t ih =>
    rw [splitOnce] at h
    split_ifs at h with hc
    · obtain ⟨rfl, rfl⟩ : [] = before ∧ t = after := by simpa using h
      rw [hc]
      rfl
    · obtain ⟨⟨before', after'⟩, hfound, heq⟩ := Option.map_eq_some_iff.mp h
      obtain ⟨rfl, rfl⟩ := Prod.mk.inj heq
      rw [ih hfound]
      rfl

theorem splitOnce_append_cons {sep : Char} {before : Text} (h : sep ∉ before) (after : Text) :
    splitOnce sep (before ++ sep :: after) = some (before, after) := by
  induction before with
  | nil => simp [splitOnce]
  | cons c before ih =>
    rw [List.mem_cons, not_or] at h
    have hc : ¬ c = sep := fun heq => h.1 heq.symm
    simp [splitOnce, hc, ih h.2]

/-- `str::splitn` with a character. -/
def splitn : ℕ → Char → Text → List Text
  | 0, _, _ => []
  | 1, _, t => [t]
  | n + 1, sep, t =>
    match splitOnce sep t with
    | none => [t]
    | some (piece, rest) => piece :: splitn n sep rest

theorem splitn_append_cons {sep : Char} {before : Text} {n : ℕ} (h : sep ∉ before) (after : Text) :
    splitn (n + 2) sep (before ++ sep :: after) = before :: splitn (n + 1) sep after := by
  rw [splitn, splitOnce_append_cons h]
  simp

theorem splitn_of_notMem {sep : Char} {t : Text} {n : ℕ} (h : sep ∉ t) :
    splitn (n + 1) sep t = [t] := by
  have hsplit : splitOnce sep t = none := by
    rw [Option.eq_none_iff_forall_ne_some]
    rintro ⟨before, after⟩ hfound
    rw [splitOnce_eq_append hfound] at h
    simp at h
  cases n with
  | zero => rfl
  | succ n =>
    rw [splitn, hsplit]
    simp

theorem mem_of_mem_splitn {sep : Char} {n : ℕ} {t piece : Text} {c : Char}
    (h : piece ∈ splitn n sep t) (hc : c ∈ piece) : c ∈ t := by
  fun_induction splitn n sep t with
  | case1 => exact absurd h List.not_mem_nil
  | case2 t => rwa [List.mem_singleton.mp h] at hc
  | case3 n sep t hn hsplit => rwa [List.mem_singleton.mp h] at hc
  | case4 n sep t hn front rest hsplit ih =>
    rw [splitOnce_eq_append hsplit]
    obtain rfl | hrest := List.mem_cons.mp h
    · exact List.mem_append_left _ hc
    · exact List.mem_append_right _ (List.mem_cons_of_mem sep (ih hrest))

/-- `str::split_whitespace`. -/
def splitWhitespace (t : Text) : List Text := (t.splitOnP isWhitespace).filter fun w => !w.isEmpty

/-- `str::strip_prefix`. -/
def stripPrefix (p t : Text) : Option Text :=
  if p.isPrefixOf t then some (t.drop p.length) else none

/-- `str::strip_suffix`. -/
def stripSuffix (p t : Text) : Option Text :=
  if p.isSuffixOf t then some (t.take (t.length - p.length)) else none

/-- `str::trim_end`. -/
def trimEnd (t : Text) : Text := trimEndMatches isWhitespace t

/-- `[String]::join`. -/
def joinWith (sep : Text) (ts : List Text) : Text := sep.intercalate ts

/-- `split_inclusive`: pieces that end right after a separator, but for the last one. -/
def splitInclusive {α : Type} (isSep : α → Bool) : List α → List (List α)
  | [] => []
  | x :: xs =>
    if isSep x then [x] :: splitInclusive isSep xs
    else match splitInclusive isSep xs with
      | [] => [[x]]
      | piece :: pieces => (x :: piece) :: pieces

/-- `str::replace` of a pattern that is not empty. -/
def replace (pattern replacement : Text) (t : Text) : Text := go 0 t
where
  /-- The first `skip` characters belong to an occurrence that was replaced. -/
  go : ℕ → Text → Text
    | _, [] => []
    | skip + 1, _ :: t => go skip t
    | 0, c :: t =>
      if pattern.isPrefixOf (c :: t) then replacement ++ go (pattern.length - 1) t else c :: go 0 t

theorem stripPrefix_eq_some_iff {p t s : Text} : stripPrefix p t = some s ↔ t = p ++ s := by
  unfold stripPrefix
  split_ifs with h
  · obtain ⟨u, rfl⟩ := List.isPrefixOf_iff_prefix.mp h
    simp
  · simp only [false_iff]
    rintro rfl
    exact h (List.isPrefixOf_iff_prefix.mpr (List.prefix_append p s))

theorem stripSuffix_eq_some_iff {p t s : Text} : stripSuffix p t = some s ↔ t = s ++ p := by
  unfold stripSuffix
  split_ifs with h
  · obtain ⟨u, rfl⟩ := List.isSuffixOf_iff_suffix.mp h
    simp
  · simp only [false_iff]
    rintro rfl
    exact h (List.isSuffixOf_iff_suffix.mpr (List.suffix_append s p))

/-- `str::lines`. -/
def lines (t : Text) : List Text :=
  (splitInclusive (· == '\n') t).map fun line =>
    match stripSuffix "\n" line with
    | none => line
    | some line => (stripSuffix "\r" line).getD line

theorem splitInclusive_append_cons {α : Type} {isSep : α → Bool} {piece : List α} {x : α}
    (hpiece : ∀ y ∈ piece, isSep y = false) (hx : isSep x = true) (rest : List α) :
    splitInclusive isSep (piece ++ x :: rest) = (piece ++ [x]) :: splitInclusive isSep rest := by
  induction piece with
  | nil => simp [splitInclusive, hx]
  | cons y piece ih =>
    have hy : isSep y = false := hpiece y List.mem_cons_self
    have hrest := ih fun z hz => hpiece z (List.mem_cons_of_mem y hz)
    simp [splitInclusive, hy, hrest]

theorem splitInclusive_of_none {α : Type} {isSep : α → Bool} {piece : List α}
    (hpiece : ∀ y ∈ piece, isSep y = false) (hne : piece ≠ []) :
    splitInclusive isSep piece = [piece] := by
  induction piece with
  | nil => exact absurd rfl hne
  | cons y piece ih =>
    have hy : isSep y = false := hpiece y List.mem_cons_self
    cases piece with
    | nil => simp [splitInclusive, hy]
    | cons z piece =>
      have hrest := ih (fun z hz => hpiece z (List.mem_cons_of_mem y hz)) (List.cons_ne_nil z piece)
      rw [splitInclusive, hrest]
      simp [hy]

theorem lines_append_newline {line : Text} (h : '\n' ∉ line) (rest : Text) :
    lines (line ++ '\n' :: rest) = (stripSuffix "\r" line).getD line :: lines rest := by
  have hnewline : stripSuffix "\n" (line ++ ['\n']) = some line := stripSuffix_eq_some_iff.mpr rfl
  rw [lines, splitInclusive_append_cons, List.map_cons, hnewline]
  · rfl
  · intro c hc
    have hne : c ≠ '\n' := by
      rintro rfl
      exact h hc
    simpa using hne
  · rfl

theorem lines_append_crlf {line : Text} (h : '\n' ∉ line) (rest : Text) :
    lines (line ++ (("\r\n" : Text) ++ rest)) = line :: lines rest := by
  have hcut : line ++ (("\r\n" : Text) ++ rest) = (line ++ ['\r']) ++ '\n' :: rest := by simp
  have hreturn : stripSuffix "\r" (line ++ ['\r']) = some line := stripSuffix_eq_some_iff.mpr rfl
  rw [hcut, lines_append_newline (by simp [h]), hreturn, Option.getD_some]

theorem lines_of_line {line : Text} (h : '\n' ∉ line) (hne : line ≠ []) : lines line = [line] := by
  have hsuffix : stripSuffix "\n" line = none := by
    rw [Option.eq_none_iff_forall_ne_some]
    intro rest hrest
    rw [stripSuffix_eq_some_iff.mp hrest] at h
    simp at h
  rw [lines, splitInclusive_of_none _ hne, List.map_singleton, hsuffix]
  intro c hc
  have hne : c ≠ '\n' := by
    rintro rfl
    exact h hc
  simpa using hne

theorem length_le_of_mem_splitInclusive {α : Type} {isSep : α → Bool} {xs piece : List α}
    (h : piece ∈ splitInclusive isSep xs) : piece.length ≤ xs.length := by
  induction xs generalizing piece with
  | nil => simp [splitInclusive] at h
  | cons x xs ih =>
    rw [splitInclusive] at h
    split at h
    · obtain rfl | hrest := List.mem_cons.mp h
      · simp
      · exact Nat.le_succ_of_le (ih hrest)
    · cases hpieces : splitInclusive isSep xs with
      | nil =>
        rw [hpieces] at h
        simp [List.mem_singleton.mp h]
      | cons first pieces =>
        rw [hpieces] at h
        obtain rfl | hrest := List.mem_cons.mp h
        · exact Nat.succ_le_succ (ih (hpieces ▸ List.mem_cons_self))
        · exact Nat.le_succ_of_le (ih (hpieces ▸ List.mem_cons_of_mem first hrest))

/-- A line is no longer than the text. -/
theorem length_le_of_mem_lines {t line : Text} (h : line ∈ lines t) : line.length ≤ t.length := by
  obtain ⟨piece, hpiece, rfl⟩ := List.mem_map.mp h
  have hlength := length_le_of_mem_splitInclusive hpiece
  cases hnewline : stripSuffix "\n" piece with
  | none => exact hlength
  | some cut =>
    have hcut := congrArg List.length (stripSuffix_eq_some_iff.mp hnewline)
    rw [List.length_append] at hcut
    cases hreturn : stripSuffix "\r" cut with
    | none =>
      show ((stripSuffix "\r" cut).getD cut).length ≤ t.length
      rw [hreturn, Option.getD_none]
      omega
    | some short =>
      have hshort := congrArg List.length (stripSuffix_eq_some_iff.mp hreturn)
      rw [List.length_append] at hshort
      show ((stripSuffix "\r" cut).getD cut).length ≤ t.length
      rw [hreturn, Option.getD_some]
      omega

theorem length_trim_le (t : Text) : (trim t).length ≤ t.length := by
  have hend := (List.rdropWhile_prefix isWhitespace (l := t.dropWhile isWhitespace)).length_le
  have hstart := (List.dropWhile_suffix isWhitespace (l := t)).length_le
  exact hend.trans hstart

theorem joinWith_cons_cons (sep t u : Text) (ts : List Text) :
    joinWith sep (t :: u :: ts) = t ++ (sep ++ joinWith sep (u :: ts)) := by
  rw [joinWith, List.intercalate_cons_cons, List.append_assoc]
  rfl

theorem lines_joinWith {pieces : List Text} (h : ∀ piece ∈ pieces, '\n' ∉ piece)
    (hlast : ∀ last ∈ pieces.getLast?, last ≠ []) : lines (joinWith "\r\n" pieces) = pieces := by
  induction pieces with
  | nil => rfl
  | cons piece pieces ih =>
    have hpiece := h piece List.mem_cons_self
    cases pieces with
    | nil => simpa [joinWith] using lines_of_line hpiece (hlast piece rfl)
    | cons next pieces =>
      have hrest := ih (fun p hp => h p (List.mem_cons_of_mem piece hp)) hlast
      rw [joinWith_cons_cons, lines_append_crlf hpiece, hrest]

theorem byteLen_joinWith {sep : Text} {ts : List Text} (h : ts ≠ []) :
    byteLen (joinWith sep ts) + byteLen sep = (ts.map fun t => byteLen t + byteLen sep).sum := by
  induction ts with
  | nil => exact absurd rfl h
  | cons t ts ih =>
    cases ts with
    | nil => simp [joinWith]
    | cons u ts =>
      have htail := ih (List.cons_ne_nil u ts)
      simp only [joinWith, List.intercalate_cons_cons, byteLen_append, List.map_cons,
        List.sum_cons] at htail ⊢
      omega

/-! ## Decimal digits -/

def isDigit (c : Char) : Bool := '0' ≤ c && c ≤ '9'

def digitValue (c : Char) : ℕ := c.toNat - '0'.toNat

/-- The number a run of decimal digits denotes. -/
def decimalValue (ds : Text) : ℕ := ds.foldl (fun n c => 10 * n + digitValue c) 0

theorem decimalValue_eq_ofDigits (ds : Text) :
    decimalValue ds = Nat.ofDigits 10 (ds.reverse.map digitValue) := by
  rw [decimalValue, Nat.ofDigits_eq_foldr, List.foldr_map, ← List.foldl_eq_foldr_reverse]
  congr 1
  ext n c
  simp [Nat.add_comm]

/-- `str::parse::<usize>`: an optional plus sign and digits, below `2 ^ 64`. -/
def parseUsize (t : Text) : Option ℕ :=
  let ds := match t with
    | '+' :: rest => rest
    | _ => t
  if ds.isEmpty || !ds.all isDigit then none
  else if decimalValue ds < 2 ^ 64 then some (decimalValue ds) else none

/-- The number that an optional plus sign and digits denote, however large it is. -/
def numeral (t : Text) : Option ℕ :=
  let ds := match t with
    | '+' :: rest => rest
    | _ => t
  if ds.isEmpty || !ds.all isDigit then none else some (decimalValue ds)

theorem parseUsize_of_numeral {t : Text} {n : ℕ} (h : numeral t = some n) :
    parseUsize t = if n < 2 ^ 64 then some n else none := by
  unfold numeral at h
  unfold parseUsize
  simp only [Option.ite_none_left_eq_some, Option.some.injEq] at h
  obtain ⟨hdigits, hvalue⟩ := h
  simp [hdigits, hvalue]

/-- `ToString` of an unsigned number. -/
def showNat (n : ℕ) : Text := Nat.toDigits 10 n

/-- `ToString` of a signed number. -/
def showInt (n : ℤ) : Text := if n < 0 then '-' :: showNat n.natAbs else showNat n.natAbs

theorem showNat_isDigit {n : ℕ} {c : Char} (h : c ∈ showNat n) : isDigit c = true := by
  have hc := Nat.isDigit_of_mem_toDigits (by omega) (by omega) h
  simpa [Char.isDigit, isDigit, Char.le_def] using hc

theorem decimalValue_showNat (n : ℕ) : decimalValue (showNat n) = n := by
  have h := Nat.ofDigitChars_ten_toDigits (n := n)
  rw [Nat.ofDigitChars_eq_foldl] at h
  exact h

theorem showNat_ne_nil (n : ℕ) : showNat n ≠ [] := Nat.toDigits_ne_nil

theorem parseUsize_showNat_eq (n : ℕ) :
    parseUsize (showNat n) = if n < 2 ^ 64 then some n else none := by
  have hdigits : (showNat n).all isDigit = true := List.all_eq_true.mpr fun c hc =>
    showNat_isDigit hc
  have hvalue := decimalValue_showNat n
  cases hshown : showNat n with
  | nil => exact absurd hshown (showNat_ne_nil n)
  | cons c rest =>
    have hplus : c ≠ '+' := by
      rintro rfl
      rw [hshown, List.all_cons] at hdigits
      exact absurd (Bool.and_eq_true_iff.mp hdigits).1 (by decide)
    rw [hshown] at hdigits hvalue
    unfold parseUsize
    split
    · rename_i heq
      exact absurd (List.cons.inj heq).1 hplus
    · simp only [List.isEmpty_cons, hdigits, hvalue]
      rfl

theorem parseUsize_showNat {n : ℕ} (h : n < 2 ^ 64) : parseUsize (showNat n) = some n := by
  rw [parseUsize_showNat_eq, if_pos h]

theorem isWhitespace_of_isDigit {c : Char} (h : isDigit c = true) : isWhitespace c = false := by
  induction c using char_of_ascii with
  | hascii n hn =>
    revert n
    decide +kernel
  | hother c hc =>
    have hdigit : '0' ≤ c ∧ c ≤ '9' := by simpa [isDigit] using h
    have hnine : c.toNat ≤ 57 := UInt32.le_iff_toNat_le.mp hdigit.2
    omega

/-- `format!("{x:02x}")` of every byte in turn. -/
def encodeHex (b : Bytes) : Text :=
  b.flatMap fun x => [Nat.digitChar (x.toNat / 16), Nat.digitChar (x.toNat % 16)]

@[simp] theorem encodeHex_length (b : Bytes) : (encodeHex b).length = 2 * b.length := by
  induction b with
  | nil => rfl
  | cons x b ih =>
    simp only [encodeHex, List.flatMap_cons, List.length_append] at ih ⊢
    simp_all
    omega

/-! ## Bytes that may not be a text -/

/-- A byte behind the first one of a character. -/
def continues (b : UInt8) : Bool := 0x80 ≤ b && b ≤ 0xbf

/-- Can the two bytes begin a character of three or four bytes? -/
def beginsLong (first second : UInt8) : Bool :=
  (first == 0xe0 && 0xa0 ≤ second && second ≤ 0xbf) ||
    (0xe1 ≤ first && first ≤ 0xec && continues second) ||
    (first == 0xed && 0x80 ≤ second && second ≤ 0x9f) ||
    (0xee ≤ first && first ≤ 0xef && continues second) ||
    (first == 0xf0 && 0x90 ≤ second && second ≤ 0xbf) ||
    (0xf1 ≤ first && first ≤ 0xf3 && continues second) ||
    (first == 0xf4 && 0x80 ≤ second && second ≤ 0x8f)

/-- How many bytes are replaced where no character can be read: the beginning of one that is not
completed, or a single byte. -/
def replacedLength : Bytes → ℕ
  | first :: second :: rest =>
    if beginsLong first second then
      if 0xf0 ≤ first && (rest.head?.map continues).getD false then 3 else 2
    else 1
  | _ => 1

/-- `String::from_utf8_lossy`. -/
def fromUtf8Lossy (b : Bytes) : Text := go b.length b
where
  go : ℕ → Bytes → Text
    | 0, _ => []
    | _, [] => []
    | n + 1, x :: b =>
      match (x :: b).toByteArray.utf8DecodeChar? 0 with
      | some c => c :: go n ((x :: b).drop c.utf8Size)
      | none => '\uFFFD' :: go n ((x :: b).drop (replacedLength (x :: b)))

theorem fromUtf8Lossy_go_utf8Encode {t : Text} {n : ℕ} (h : byteLen t ≤ n) :
    fromUtf8Lossy.go n (utf8Encode t) = t := by
  induction t generalizing n with
  | nil => cases n <;> rfl
  | cons c t ih =>
    have hencode : utf8Encode (c :: t) = String.utf8EncodeChar c ++ utf8Encode t := rfl
    have hdecode : (utf8Encode (c :: t)).toByteArray.utf8DecodeChar? 0 = some c :=
      List.utf8DecodeChar?_utf8Encode_cons
    have hdrop : (utf8Encode (c :: t)).drop c.utf8Size = utf8Encode t := by
      rw [hencode, ← String.length_utf8EncodeChar, List.drop_left]
    have hsize : byteLen (c :: t) = c.utf8Size + byteLen t := byteLen_cons c t
    have hpos : 0 < c.utf8Size := c.utf8Size_pos
    obtain ⟨m, rfl⟩ : ∃ m, n = m + 1 := ⟨n - 1, by omega⟩
    have hrest := ih (show byteLen t ≤ m by omega)
    obtain ⟨x, bytes, hbytes⟩ : ∃ x bytes, utf8Encode (c :: t) = x :: bytes :=
      List.exists_cons_of_ne_nil (List.ne_nil_of_length_pos (by show 0 < byteLen _; omega))
    rw [hbytes] at hdecode hdrop ⊢
    rw [fromUtf8Lossy.go, hdecode]
    dsimp only
    rw [hdrop, hrest]

/-- Texts are not changed. -/
theorem fromUtf8Lossy_utf8Encode (t : Text) : fromUtf8Lossy (utf8Encode t) = t :=
  fromUtf8Lossy_go_utf8Encode le_rfl

example : fromUtf8Lossy [0x61, 0xe2, 0x82, 0x62, 0xff] = ("a\uFFFDb\uFFFD" : Text) := by
  decide +kernel

end ProtocolSimulation.Texts
