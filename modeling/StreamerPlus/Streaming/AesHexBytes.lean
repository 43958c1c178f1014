import StreamerPlus.Streaming.OfferMessages

/-!
# AES keys and IV masks as text

`TryParseAesHexBytes` of `public/offer_messages.cc` reads 32 characters with two conversions of
`sscanf`, asks how many characters these took, and refuses white space. `scanHex` is one such
conversion as the C standard has it, and `tryParseAesText` the function with its checks in their
order; `tryParseAesHexBytes_string` says that the OFFER parser's own definition is the same
function.

A conversion reads more than digits: a sign and then a `0x` may come first. Both count against the
sixteen characters of the field, so a text of 32 characters is accepted with either, and the bytes
are then not the digits of the text.

## Main results

* `tryParseAesText_eq`: the text is accepted iff its two halves are fields, each with an optional
  sign, an optional `0x` and digits.
* `hexEncode_encode`: the encoding of the number that digits spell is the digits, in lower case.
* `isStrict_iff`: the parser is strict with a text unless the text is accepted and one of its halves
  starts with a sign or with `0x`.
-/

namespace StreamerPlus

open BigEndian

/-! ### A conversion of `sscanf` -/

/-- `std::isspace(c)`. -/
def isSpace (c : Char) : Bool := c = ' ' || ('\t' ≤ c && c ≤ '\r')

variable (text : List Char)

/-- The characters that the sign of a number takes. -/
def signLength : ℕ :=
  if text.head? = some '-' ∨ text.head? = some '+' then 1 else 0

/-- The characters that the prefix of a hexadecimal number takes. -/
def baseLength : ℕ :=
  if text.take 2 = ['0', 'x'] ∨ text.take 2 = ['0', 'X'] then 2 else 0

/-- What follows the sign and the prefix. -/
def afterBase : List Char :=
  (text.drop (signLength text)).drop (baseLength (text.drop (signLength text)))

/-- The number that the sign and the digits stand for. -/
def signedValue (text digits : List Char) : BitVec 64 :=
  let magnitude := BitVec.ofNat 64 (hexValue (digits.filterMap hexDigit?))
  if text.head? = some '-' then -magnitude else magnitude

/-- A conversion `%16llx`: white space is skipped, and of the next sixteen characters the longest
text is read that is a number or could become one. It is the number, with the input that is left,
or there is no digit. Sixteen digits fit, so nothing saturates. -/
def scanHex (input : List Char) : Option (BitVec 64 × List Char) :=
  let input := input.dropWhile isSpace
  let field := input.take 16
  let digits := (afterBase field).takeWhile isHexDigit
  if digits = [] then none
  else some (signedValue field digits,
    input.drop (field.length - (afterBase field).length + digits.length))

/-- `TryParseAesHexBytes` for a value that is a text. `sscanf` sees the text up to its first NUL. -/
def tryParseAesText : Option (List UInt8) := do
  if text.length = 32 then
    let input := text.takeWhile (· ≠ '\x00')
    let (high, rest) ← scanHex input
    let (low, rest) ← scanHex rest
    let charsScanned := input.length - rest.length
    if charsScanned = 32 ∧ text.all (! isSpace ·) then
      return encode 8 high.toNat ++ encode 8 low.toNat
    else none
  else none

/-- The text is a number that a conversion takes as a whole: after the sign and the prefix there are
only digits. -/
def IsField : Prop := ∀ c ∈ afterBase text, isHexDigit c

instance : Decidable (IsField text) :=
  inferInstanceAs (Decidable (∀ c ∈ afterBase text, isHexDigit c))

/-- The text starts with a sign or with `0x`. -/
def IsPrefixed : Prop := signLength text ≠ 0 ∨ baseLength text ≠ 0

theorem scanHexField_eq :
    scanHexField text =
      if IsField text then some (signedValue text (afterBase text)) else none := by
  have hunsigned : (if text.head? = some '-' ∨ text.head? = some '+' then text.tail else text) =
      text.drop (signLength text) := by
    unfold signLength
    split_ifs <;> simp
  have hdigits : ∀ u : List Char,
      (if u.take 2 = ['0', 'x'] ∨ u.take 2 = ['0', 'X'] then u.drop 2 else u) =
        u.drop (baseLength u) := by
    intro u
    unfold baseLength
    split_ifs <;> simp
  unfold scanHexField
  simp only [hunsigned, hdigits]
  by_cases hfield : IsField text
  · rw [if_pos hfield, ← afterBase, mapM_hexDigit? hfield]
    rfl
  · rw [if_neg hfield, ← afterBase]
    cases hmap : (afterBase text).mapM hexDigit? with
    | none => rfl
    | some values => exact absurd (isHexDigit_of_mapM hmap) hfield

/-- The number that a field stands for. -/
def fieldValue : BitVec 64 := signedValue text (afterBase text)

theorem length_afterBase :
    (afterBase text).length ≤ text.length ∧ text.length ≤ (afterBase text).length + 3 := by
  have hsign : signLength text ≤ 1 := by unfold signLength; split_ifs <;> decide
  have hbase : baseLength (text.drop (signLength text)) ≤ 2 := by
    unfold baseLength
    split_ifs <;> decide
  simp only [afterBase, List.length_drop]
  omega

theorem isHexDigit_ascii :
    ∀ n < 128, isHexDigit (Char.ofNat n) →
      isSpace (Char.ofNat n) = false ∧ Char.ofNat n ∉ ['\x00', '+', '-', 'x', 'X'] := by
  decide +kernel

/-- What a digit is not. -/
theorem isHexDigit_plain {c : Char} (h : isHexDigit c) :
    isSpace c = false ∧ c ∉ ['\x00', '+', '-', 'x', 'X'] := by
  obtain ⟨d, hd⟩ := Option.isSome_iff_exists.mp h
  have hc := isHexDigit_ascii c.toNat (toNat_lt_of_hexDigit? hd)
  rw [Char.ofNat_toNat] at hc
  exact hc h

variable {text : List Char}

/-- A character of a text is its sign, of its prefix, or comes after these. -/
theorem mem_afterBase_or {c : Char} (h : c ∈ text) :
    c ∈ ['-', '+', '0', 'x', 'X'] ∨ c ∈ afterBase text := by
  rw [← List.take_append_drop (signLength text) text, List.mem_append] at h
  rcases h with h | h
  · left
    unfold signLength at h
    split_ifs at h with hsign
    · cases text with
      | nil => simp at h
      | cons x text =>
        obtain rfl : c = x := by simpa using h
        rcases hsign with hsign | hsign <;> simp_all
    · simp at h
  · rw [← List.take_append_drop (baseLength (text.drop (signLength text)))
      (text.drop (signLength text)), List.mem_append] at h
    refine h.imp_left fun h => ?_
    rw [baseLength] at h
    split_ifs at h with hbase
    · rcases hbase with hbase | hbase <;> rw [hbase] at h <;> simp at h ⊢ <;> tauto
    · simp at h

/-- A field has no white space and no NUL. -/
theorem IsField.plain (h : IsField text) {c : Char} (hc : c ∈ text) :
    isSpace c = false ∧ c ≠ '\x00' := by
  rcases mem_afterBase_or hc with hc | hc
  · have hsigns : ['-', '+', '0', 'x', 'X'].all fun c => !isSpace c && c != '\x00' := by decide
    simpa using List.all_eq_true.mp hsigns c hc
  · obtain ⟨hspace, hnot⟩ := isHexDigit_plain (h c hc)
    exact ⟨hspace, fun hnul => hnot (by simp [hnul])⟩

theorem dropWhile_isSpace (h : ∀ c ∈ text, isSpace c = false) : text.dropWhile isSpace = text := by
  cases text with
  | nil => rfl
  | cons c text => rw [List.dropWhile_cons_of_neg (by simp [h c List.mem_cons_self])]

/-- A conversion takes at most sixteen characters, and all of these only if they are a field. -/
theorem scanHex_eq_some {input rest : List Char} {v : BitVec 64}
    (hplain : ∀ c ∈ input, isSpace c = false) (h : scanHex input = some (v, rest)) :
    ∃ k ≤ 16, rest = input.drop k ∧
      (k = 16 → IsField (input.take 16) ∧ v = fieldValue (input.take 16)) := by
  simp only [scanHex, dropWhile_isSpace hplain] at h
  split_ifs at h with hdigits
  obtain ⟨rfl, rfl⟩ := Prod.mk.inj (Option.some.inj h)
  have hlength := (length_afterBase (input.take 16)).1
  have htake := List.length_take_le 16 input
  have hwhile := (List.takeWhile_prefix isHexDigit (l := afterBase (input.take 16))).length_le
  refine ⟨_, ?_, rfl, fun hk => ?_⟩
  · omega
  · -- nothing of the sixteen characters is left over, so the digits go up to the end
    have hall := (List.takeWhile_prefix isHexDigit).eq_of_length
      (show ((afterBase (input.take 16)).takeWhile isHexDigit).length =
        (afterBase (input.take 16)).length by omega)
    exact ⟨List.takeWhile_eq_self_iff.mp hall, by rw [fieldValue, hall]⟩

theorem scanHex_of_isField {input : List Char} (hlength : 16 ≤ input.length)
    (hplain : ∀ c ∈ input, isSpace c = false) (h : IsField (input.take 16)) :
    scanHex input = some (fieldValue (input.take 16), input.drop 16) := by
  have htake : (input.take 16).length = 16 := List.length_take_of_le hlength
  obtain ⟨hle, hge⟩ := length_afterBase (input.take 16)
  have hall : (afterBase (input.take 16)).takeWhile isHexDigit = afterBase (input.take 16) :=
    List.takeWhile_eq_self_iff.mpr h
  have hne : afterBase (input.take 16) ≠ [] := by
    intro hnil
    rw [hnil, List.length_nil] at hge
    omega
  simp only [scanHex, dropWhile_isSpace hplain, hall, if_neg hne]
  rw [show (input.take 16).length - (afterBase (input.take 16)).length +
    (afterBase (input.take 16)).length = 16 by omega]
  rfl

/-! ### The accepted texts -/

/-- The text is 32 characters in two fields. -/
def IsTwoFields (text : List Char) : Prop :=
  text.length = 32 ∧ IsField (text.take 16) ∧ IsField (text.drop 16)

instance (text : List Char) : Decidable (IsTwoFields text) :=
  inferInstanceAs (Decidable (_ ∧ _ ∧ _))

/-- The bytes of two fields. -/
def twoFieldBytes (text : List Char) : List UInt8 :=
  encode 8 (fieldValue (text.take 16)).toNat ++ encode 8 (fieldValue (text.drop 16)).toNat

theorem isTwoFields_of_tryParseAesText {bytes : List UInt8}
    (h : tryParseAesText text = some bytes) : IsTwoFields text ∧ bytes = twoFieldBytes text := by
  unfold tryParseAesText at h
  split_ifs at h with hlength
  simp only [Option.bind_eq_bind, Option.bind_eq_some_iff] at h
  obtain ⟨⟨high, rest⟩, hhigh, ⟨low, rest'⟩, hlow, h⟩ := h
  split_ifs at h with hscanned
  obtain ⟨hscanned, hspace⟩ := hscanned
  have hinput := List.takeWhile_prefix (fun c => decide (c ≠ '\x00')) (l := text)
  generalize text.takeWhile (fun c => decide (c ≠ '\x00')) = input at *
  have hplain : ∀ c ∈ input, isSpace c = false := fun c hc => by
    simpa using List.all_eq_true.mp hspace c (hinput.subset hc)
  obtain ⟨k, hk, rfl, hfirst⟩ := scanHex_eq_some hplain hhigh
  obtain ⟨l, hl, rfl, hsecond⟩ :=
    scanHex_eq_some (fun c hc => hplain c (List.mem_of_mem_drop hc)) hlow
  have hle := hinput.length_le
  simp only [List.length_drop] at hscanned
  -- 32 characters were taken, so there is no NUL and each conversion took sixteen
  obtain rfl : input = text := hinput.eq_of_length (by omega)
  obtain rfl : k = 16 := by omega
  obtain rfl : l = 16 := by omega
  have hrest : (input.drop 16).take 16 = input.drop 16 :=
    List.take_of_length_le (by simp; omega)
  obtain ⟨hfield, rfl⟩ := hfirst rfl
  obtain ⟨hfield', rfl⟩ := hsecond rfl
  rw [hrest] at hfield' h
  exact ⟨⟨hlength, hfield, hfield'⟩, (Option.some.inj h).symm⟩

theorem tryParseAesText_of_isTwoFields (h : IsTwoFields text) :
    tryParseAesText text = some (twoFieldBytes text) := by
  obtain ⟨hlength, hfirst, hsecond⟩ := h
  have hplain : ∀ c ∈ text, isSpace c = false ∧ c ≠ '\x00' := by
    intro c hc
    rw [← List.take_append_drop 16 text, List.mem_append] at hc
    exact hc.elim hfirst.plain hsecond.plain
  have hspace : ∀ c ∈ text, isSpace c = false := fun c hc => (hplain c hc).1
  have hinput : text.takeWhile (fun c => decide (c ≠ '\x00')) = text :=
    List.takeWhile_eq_self_iff.mpr fun c hc => decide_eq_true (hplain c hc).2
  have hrest : (text.drop 16).take 16 = text.drop 16 :=
    List.take_of_length_le (by simp; omega)
  have hlength' : 16 ≤ (text.drop 16).length := by simp; omega
  have hscan := scanHex_of_isField hlength'
    (fun c hc => hspace c (List.mem_of_mem_drop hc)) (by rwa [hrest])
  have hall : text.all (! isSpace ·) = true :=
    List.all_eq_true.mpr fun c hc => by simp [hspace c hc]
  unfold tryParseAesText
  rw [if_pos hlength, hinput]
  simp only [scanHex_of_isField (by omega) hspace hfirst, Option.bind_eq_bind, Option.bind_some,
    hscan, hrest]
  rw [if_pos ⟨by simp; omega, hall⟩]
  rfl

/-- **The parser accepts the texts of two fields, and no other.** -/
theorem tryParseAesText_eq (text : List Char) :
    tryParseAesText text = if IsTwoFields text then some (twoFieldBytes text) else none := by
  split_ifs with h
  · exact tryParseAesText_of_isTwoFields h
  · rw [Option.eq_none_iff_forall_ne_some]
    exact fun bytes hbytes => h (isTwoFields_of_tryParseAesText hbytes).1

theorem ofNat_decode_twoFieldBytes (text : List Char) :
    BitVec.ofNat 128 (decode (twoFieldBytes text)) =
      fieldValue (text.take 16) ++ fieldValue (text.drop 16) := by
  apply BitVec.eq_of_toNat_eq
  have hhigh := (fieldValue (text.take 16)).isLt
  have hlow := (fieldValue (text.drop 16)).isLt
  rw [BitVec.toNat_append, ← Nat.shiftLeft_add_eq_or_of_lt hlow, Nat.shiftLeft_eq, twoFieldBytes,
    decode_append, decode_encode, decode_encode, length_encode, BitVec.toNat_ofNat]
  omega

/-- The OFFER parser's function is this one. -/
theorem tryParseAesHexBytes_string (text : String) :
    tryParseAesHexBytes (.string text) =
      (tryParseAesText text.toList).map fun bytes => BitVec.ofNat 128 (decode bytes) := by
  have hparse : tryParseAesHexBytes (.string text) =
      if text.toList.length = 32 then do
        let high ← scanHexField (text.toList.take 16)
        let low ← scanHexField (text.toList.drop 16)
        return high ++ low
      else none := rfl
  rw [hparse, tryParseAesText_eq, scanHexField_eq, scanHexField_eq]
  by_cases h : IsTwoFields text.toList
  · obtain ⟨hlength, hfirst, hsecond⟩ := h
    rw [if_pos hlength, if_pos hfirst, if_pos hsecond, if_pos ⟨hlength, hfirst, hsecond⟩,
      Option.map_some, ofNat_decode_twoFieldBytes]
    rfl
  · rw [if_neg h]
    unfold IsTwoFields at h
    split_ifs <;> simp_all

/-! ### Strict parsing -/

/-- The text is a key of 32 digits. -/
def IsHexKey (text : List Char) : Prop := text.length = 32 ∧ ∀ c ∈ text, isHexDigit c

instance (text : List Char) : Decidable (IsHexKey text) :=
  decidable_of_iff (text.length = 32 ∧ text.all isHexDigit) (by rw [IsHexKey, List.all_eq_true])

theorem afterBase_of_not_isPrefixed (h : ¬ IsPrefixed text) : afterBase text = text := by
  obtain ⟨hsign, hbase⟩ : signLength text = 0 ∧ baseLength text = 0 := by
    simpa [IsPrefixed] using h
  simp [afterBase, hsign, hbase]

theorem not_isPrefixed_of_digits (h : ∀ c ∈ text, isHexDigit c) : ¬ IsPrefixed text := by
  rintro (hsign | hbase)
  · unfold signLength at hsign
    split_ifs at hsign with hhead
    · rcases hhead with hhead | hhead <;>
        exact (isHexDigit_plain (h _ (List.mem_of_mem_head? hhead))).2 (by simp)
    · exact hsign rfl
  · unfold baseLength at hbase
    split_ifs at hbase with htake
    · rcases htake with htake | htake
      · have hx : 'x' ∈ text := List.mem_of_mem_take (i := 2) (by simp [htake])
        exact (isHexDigit_plain (h _ hx)).2 (by simp)
      · have hx : 'X' ∈ text := List.mem_of_mem_take (i := 2) (by simp [htake])
        exact (isHexDigit_plain (h _ hx)).2 (by simp)
    · exact hbase rfl

/-- The keys of 32 digits are the texts of two fields with neither a sign nor `0x`. -/
theorem isHexKey_iff : IsHexKey text ↔
      IsTwoFields text ∧ ¬ IsPrefixed (text.take 16) ∧ ¬ IsPrefixed (text.drop 16) := by
  constructor
  · rintro ⟨hlength, hdigits⟩
    have hfirst : ¬ IsPrefixed (text.take 16) :=
      not_isPrefixed_of_digits fun c hc => hdigits c (List.mem_of_mem_take hc)
    have hsecond : ¬ IsPrefixed (text.drop 16) :=
      not_isPrefixed_of_digits fun c hc => hdigits c (List.mem_of_mem_drop hc)
    refine ⟨⟨hlength, fun c hc => ?_, fun c hc => ?_⟩, hfirst, hsecond⟩
    · rw [afterBase_of_not_isPrefixed hfirst] at hc
      exact hdigits c (List.mem_of_mem_take hc)
    · rw [afterBase_of_not_isPrefixed hsecond] at hc
      exact hdigits c (List.mem_of_mem_drop hc)
  · rintro ⟨⟨hlength, hfield, hfield'⟩, hfirst, hsecond⟩
    refine ⟨hlength, fun c hc => ?_⟩
    rw [IsField, afterBase_of_not_isPrefixed hfirst] at hfield
    rw [IsField, afterBase_of_not_isPrefixed hsecond] at hfield'
    rw [← List.take_append_drop 16 text, List.mem_append] at hc
    exact hc.elim (hfield c) (hfield' c)

theorem toNat_fieldValue (hlength : text.length = 16) (h : ∀ c ∈ text, isHexDigit c) :
    (fieldValue text).toNat = hexValue (text.filterMap hexDigit?) := by
  have hprefixed := not_isPrefixed_of_digits h
  have hsign : text.head? ≠ some '-' := fun hhead =>
    hprefixed (.inl (by simp [signLength, hhead]))
  have hlt := hexValue_lt text
  rw [length_filterMap_hexDigit? h, hlength] at hlt
  rw [fieldValue, afterBase_of_not_isPrefixed hprefixed, signedValue, if_neg hsign,
    BitVec.toNat_ofNat]
  omega

/-- The bytes of a key are the big-endian reading of its digits. -/
theorem twoFieldBytes_eq (h : IsHexKey text) :
    twoFieldBytes text = encode 16 (hexValue (text.filterMap hexDigit?)) := by
  obtain ⟨hlength, hdigits⟩ := h
  have hfirst : ∀ c ∈ text.take 16, isHexDigit c := fun c hc =>
    hdigits c (List.mem_of_mem_take hc)
  have hsecond : ∀ c ∈ text.drop 16, isHexDigit c := fun c hc =>
    hdigits c (List.mem_of_mem_drop hc)
  have htake : (text.take 16).length = 16 := by simp; omega
  have hdrop : (text.drop 16).length = 16 := by simp; omega
  have hvalue : hexValue (text.filterMap hexDigit?) =
      hexValue ((text.take 16).filterMap hexDigit?) * 16 ^ 16 +
        hexValue ((text.drop 16).filterMap hexDigit?) := by
    conv_lhs => rw [← List.take_append_drop 16 text]
    rw [List.filterMap_append, hexValue_append, length_filterMap_hexDigit? hsecond, hdrop]
  have hhigh := hexValue_lt (text.take 16)
  have hlow := hexValue_lt (text.drop 16)
  rw [length_filterMap_hexDigit? hfirst, htake] at hhigh
  rw [length_filterMap_hexDigit? hsecond, hdrop] at hlow
  refine eq_of_decode_eq (by simp [twoFieldBytes]) ?_
  rw [twoFieldBytes, toNat_fieldValue htake hfirst, toNat_fieldValue hdrop hsecond, decode_append,
    decode_encode, decode_encode, decode_encode, length_encode, hvalue]
  omega

/-- A text is accepted iff it is a key of 32 digits, the bytes are the big-endian reading of the
digits, their encoding is the text in lower case, and no other key has them. -/
structure IsStrict (text : List Char) : Prop where
  accepts_iff : (tryParseAesText text).isSome ↔ IsHexKey text
  bytes_eq : ∀ bytes ∈ tryParseAesText text,
    bytes = encode 16 (hexValue (text.filterMap hexDigit?))
  hexEncode_eq : ∀ bytes ∈ tryParseAesText text, hexEncode bytes = text.map Char.toLower
  distinct : ∀ bytes ∈ tryParseAesText text, ∀ other, IsHexKey other →
    tryParseAesText other = some bytes → other.map Char.toLower = text.map Char.toLower

theorem hexEncode_twoFieldBytes (h : IsHexKey text) :
    hexEncode (twoFieldBytes text) = text.map Char.toLower := by
  rw [twoFieldBytes_eq h, hexEncode_encode h.1 h.2]

theorem IsHexKey.isStrict (h : IsHexKey text) : IsStrict text := by
  have hparse : ∀ {other}, IsHexKey other → tryParseAesText other = some (twoFieldBytes other) :=
    fun hother => tryParseAesText_of_isTwoFields (isHexKey_iff.mp hother).1
  refine ⟨by simp [hparse h, h], ?_, ?_, ?_⟩
  · intro bytes hbytes
    rw [← Option.some.inj ((hparse h).symm.trans hbytes), twoFieldBytes_eq h]
  · intro bytes hbytes
    rw [← Option.some.inj ((hparse h).symm.trans hbytes), hexEncode_twoFieldBytes h]
  · intro bytes hbytes other hother hsame
    have hbytes' := Option.some.inj ((hparse h).symm.trans hbytes)
    have hsame' := Option.some.inj ((hparse hother).symm.trans hsame)
    rw [← hexEncode_twoFieldBytes h, ← hexEncode_twoFieldBytes hother, hbytes', hsame']

/-- **The parser is strict with a text unless the text is two fields of which one starts with a sign
or with `0x`.** -/
theorem isStrict_iff (text : List Char) :
    IsStrict text ↔
      ¬ (IsTwoFields text ∧ (IsPrefixed (text.take 16) ∨ IsPrefixed (text.drop 16))) := by
  constructor
  · rintro hstrict ⟨hfields, hprefixed⟩
    have hkey : IsHexKey text := hstrict.accepts_iff.mp (by
      rw [tryParseAesText_of_isTwoFields hfields]
      rfl)
    obtain ⟨-, hfirst, hsecond⟩ := isHexKey_iff.mp hkey
    exact hprefixed.elim hfirst hsecond
  · intro h
    by_cases hfields : IsTwoFields text
    · refine (isHexKey_iff.mpr ⟨hfields, ?_, ?_⟩).isStrict
      · exact fun hfirst => h ⟨hfields, .inl hfirst⟩
      · exact fun hsecond => h ⟨hfields, .inr hsecond⟩
    · -- the text is rejected, and it is no key
      have hnone : tryParseAesText text = none := by rw [tryParseAesText_eq, if_neg hfields]
      have hkey : ¬ IsHexKey text := fun hkey => hfields (isHexKey_iff.mp hkey).1
      exact ⟨by simp [hnone, hkey], by simp [hnone], by simp [hnone], by simp [hnone]⟩

/-- A minus sign and the digit 1 in the first half, and zeros in the second. -/
def negativeKey : List Char := "-0000000000000010000000000000000".toList

/-- The key with the minus sign is accepted, and its bytes are those of another key. -/
theorem not_isStrict_negativeKey :
    ¬ IsStrict negativeKey ∧
      tryParseAesText negativeKey = some (List.replicate 8 255 ++ List.replicate 8 0) ∧
      tryParseAesText "ffffffffffffffff0000000000000000".toList =
        tryParseAesText negativeKey := by
  have hparse : tryParseAesText negativeKey =
      some (List.replicate 8 255 ++ List.replicate 8 0) := by decide +kernel
  refine ⟨fun h => ?_, hparse, by decide +kernel⟩
  have hkey : ¬ IsHexKey negativeKey := by decide +kernel
  exact hkey (h.accepts_iff.mp (by rw [hparse]; rfl))

end StreamerPlus
