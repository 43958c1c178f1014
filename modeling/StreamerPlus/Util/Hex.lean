import Mathlib.Data.List.Basic
import Mathlib.Data.List.Induction
import StreamerPlus.Lib.BigEndian

/-!
# Hexadecimal text

The digits that `std::from_chars` and `sscanf` read, the number that a list of digits spells, and
`HexEncode` (`util/stringprintf.cc`). The encoding of a number that digits spell is the digits
again, in lower case.
-/

namespace StreamerPlus

open BigEndian

/-- The value of a hexadecimal digit. -/
def hexDigit? (c : Char) : Option ℕ :=
  if c.isDigit then some (c.toNat - '0'.toNat)
  else if 'a' ≤ c ∧ c ≤ 'f' then some (c.toNat - 'a'.toNat + 10)
  else if 'A' ≤ c ∧ c ≤ 'F' then some (c.toNat - 'A'.toNat + 10)
  else none

/-- `HexEncode(bytes)`: two digits for each byte, in lower case. -/
def hexEncode (bytes : List UInt8) : List Char :=
  bytes.flatMap fun b => [Nat.digitChar (b.toNat / 16), Nat.digitChar (b.toNat % 16)]

/-- The number that a list of digits spells, the most significant one first. -/
def hexValue (values : List ℕ) : ℕ :=
  values.foldl (fun n d => 16 * n + d) 0

/-- The character is a hexadecimal digit. -/
def isHexDigit (c : Char) : Bool := (hexDigit? c).isSome

theorem hexDigit?_ascii :
    ∀ n < 128, ∀ d ∈ hexDigit? (Char.ofNat n),
      d < 16 ∧ Nat.digitChar d = (Char.ofNat n).toLower := by
  decide +kernel

theorem toNat_lt_of_hexDigit? {c : Char} {d : ℕ} (h : hexDigit? c = some d) : c.toNat < 128 := by
  unfold hexDigit? at h
  split_ifs at h with hdigit hlower hupper
  · exact lt_of_le_of_lt (Char.isDigit_iff_toNat.mp hdigit).2 (by decide)
  · exact lt_of_le_of_lt (show c.toNat ≤ 'f'.toNat from hlower.2) (by decide)
  · exact lt_of_le_of_lt (show c.toNat ≤ 'F'.toNat from hupper.2) (by decide)

/-- A digit is below sixteen, and its lower case is the digit that is written for it. -/
theorem hexDigit?_eq_some {c : Char} {d : ℕ} (h : hexDigit? c = some d) :
    d < 16 ∧ Nat.digitChar d = c.toLower := by
  have hc := hexDigit?_ascii c.toNat (toNat_lt_of_hexDigit? h) d
  rw [Char.ofNat_toNat] at hc
  exact hc h

variable {text : List Char}

theorem mapM_hexDigit? (h : ∀ c ∈ text, isHexDigit c) :
    text.mapM hexDigit? = some (text.filterMap hexDigit?) := by
  induction text with
  | nil => rfl
  | cons c text ih =>
    obtain ⟨d, hd⟩ := Option.isSome_iff_exists.mp (h c List.mem_cons_self)
    have htext := ih fun x hx => h x (List.mem_cons_of_mem c hx)
    simp [List.mapM_cons, hd, htext]

theorem isHexDigit_of_mapM {values : List ℕ}
    (h : text.mapM hexDigit? = some values) : ∀ c ∈ text, isHexDigit c := by
  induction text generalizing values with
  | nil => simp
  | cons c text ih =>
    simp only [List.mapM_cons, Option.bind_eq_bind, Option.bind_eq_some_iff] at h
    obtain ⟨d, hd, rest, hrest, -⟩ := h
    intro x hx
    rcases List.mem_cons.mp hx with rfl | hx
    · simp [isHexDigit, hd]
    · exact ih hrest x hx

theorem length_filterMap_hexDigit? (h : ∀ c ∈ text, isHexDigit c) :
    (text.filterMap hexDigit?).length = text.length := by
  induction text with
  | nil => rfl
  | cons c text ih =>
    obtain ⟨d, hd⟩ := Option.isSome_iff_exists.mp (h c List.mem_cons_self)
    have htext := ih fun x hx => h x (List.mem_cons_of_mem c hx)
    rw [List.filterMap_cons_some hd, List.length_cons, List.length_cons, htext]

theorem hexValue_concat (values : List ℕ) (d : ℕ) :
    hexValue (values ++ [d]) = 16 * hexValue values + d := by
  simp [hexValue]

theorem hexValue_append (xs ys : List ℕ) :
    hexValue (xs ++ ys) = hexValue xs * 16 ^ ys.length + hexValue ys := by
  induction ys using List.reverseRecOn with
  | nil => simp [hexValue]
  | append_singleton ys d ih =>
    rw [← List.append_assoc, hexValue_concat, hexValue_concat, ih, List.length_append,
      List.length_singleton, pow_succ]
    ring

theorem hexValue_lt (text : List Char) :
    hexValue (text.filterMap hexDigit?) < 16 ^ (text.filterMap hexDigit?).length := by
  induction text using List.reverseRecOn with
  | nil => simp [hexValue]
  | append_singleton text c ih =>
    rw [List.filterMap_append]
    cases hd : hexDigit? c with
    | none => simpa [hd] using ih
    | some d =>
      have hlt := (hexDigit?_eq_some hd).1
      rw [List.filterMap_cons_some hd, List.filterMap_nil, hexValue_concat, List.length_append,
        List.length_singleton, pow_succ]
      omega

/-- **The number that the digits of a text spell is encoded as the text, in lower case.** -/
theorem hexEncode_encode {n : ℕ} (hlength : text.length = 2 * n) (h : ∀ c ∈ text, isHexDigit c) :
    hexEncode (encode n (hexValue (text.filterMap hexDigit?))) = text.map Char.toLower := by
  induction n generalizing text with
  | zero =>
    obtain rfl : text = [] := List.length_eq_zero_iff.mp (by omega)
    rfl
  | succ n ih =>
    -- the last two digits are the lowest byte
    have hlast : (text.drop (2 * n)).length = 2 := by simp; omega
    obtain ⟨a, b, hab⟩ := List.length_eq_two.mp hlast
    obtain ⟨init, rfl⟩ : ∃ init, text = init ++ [a, b] :=
      ⟨text.take (2 * n), by rw [← hab, List.take_append_drop]⟩
    obtain ⟨x, hx⟩ := Option.isSome_iff_exists.mp (h a (by simp))
    obtain ⟨y, hy⟩ := Option.isSome_iff_exists.mp (h b (by simp))
    obtain ⟨hx16, hxa⟩ := hexDigit?_eq_some hx
    obtain ⟨hy16, hyb⟩ := hexDigit?_eq_some hy
    have hlength' : init.length = 2 * n := by simp at hlength; omega
    have hinit := ih hlength' fun c hc => h c (by simp [hc])
    have hvalue : hexValue ((init ++ [a, b]).filterMap hexDigit?) =
        256 * hexValue (init.filterMap hexDigit?) + (16 * x + y) := by
      simp [hx, hy, hexValue]
      omega
    have hbyte : (UInt8.ofNat (256 * hexValue (init.filterMap hexDigit?) + (16 * x + y))).toNat =
        16 * x + y := by
      rw [UInt8.toNat_ofNat']
      omega
    have hdiv : (256 * hexValue (init.filterMap hexDigit?) + (16 * x + y)) / 256 =
        hexValue (init.filterMap hexDigit?) := by omega
    rw [hvalue, encode_succ_eq_concat, hdiv, hexEncode, List.flatMap_append, ← hexEncode, hinit,
      List.flatMap_singleton, hbyte, show (16 * x + y) / 16 = x by omega,
      show (16 * x + y) % 16 = y by omega, hxa, hyb]
    simp

end StreamerPlus
