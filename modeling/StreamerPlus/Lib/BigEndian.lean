import Mathlib.Tactic.Common
import Mathlib.Tactic.Ring

/-!
# Big-endian fields

`encode n v` is the `n`-byte big-endian form of the low `8 * n` bits of `v`, and `decode`
reads a byte string back as a number. A writer therefore truncates and a reader does not, so
the round trip is `decode (encode n v) = v % 256 ^ n`.
-/

namespace BigEndian

/-- The low `n` bytes of `v`, most significant first. -/
def encode : ℕ → ℕ → List UInt8
  | 0, _ => []
  | n + 1, v => UInt8.ofNat (v / 256 ^ n) :: encode n v

/-- The number a byte string spells, most significant byte first. -/
def decode : List UInt8 → ℕ
  | [] => 0
  | b :: bs => b.toNat * 256 ^ bs.length + decode bs

@[simp]
theorem length_encode (n v : ℕ) : (encode n v).length = n := by
  induction n with
  | zero => rfl
  | succ n ih => simp [encode, ih]

/-- The last byte is the lowest. -/
theorem encode_succ_eq_concat (n v : ℕ) :
    encode (n + 1) v = encode n (v / 256) ++ [UInt8.ofNat v] := by
  induction n with
  | zero => simp [encode]
  | succ n ih =>
    have hdiv : v / 256 ^ (n + 1) = v / 256 / 256 ^ n := by
      rw [Nat.div_div_eq_div_mul, pow_succ']
    rw [encode, ih, hdiv]
    rfl

theorem decode_lt (bs : List UInt8) : decode bs < 256 ^ bs.length := by
  induction bs with
  | nil => simp [decode]
  | cons b bs ih =>
    have hb : b.toNat + 1 ≤ 256 := b.toNat_lt
    calc decode (b :: bs) < b.toNat * 256 ^ bs.length + 256 ^ bs.length :=
          Nat.add_lt_add_left ih _
      _ = (b.toNat + 1) * 256 ^ bs.length := by ring
      _ ≤ 256 * 256 ^ bs.length := Nat.mul_le_mul_right _ hb
      _ = 256 ^ (b :: bs).length := by rw [List.length_cons, pow_succ]; ring

@[simp]
theorem decode_encode (n v : ℕ) : decode (encode n v) = v % 256 ^ n := by
  induction n with
  | zero => simp [encode, decode, Nat.mod_one]
  | succ n ih =>
    have h : v % 256 ^ (n + 1) = v % 256 ^ n + 256 ^ n * (v / 256 ^ n % 256) := by
      rw [pow_succ, Nat.mod_mul]
    rw [encode, decode, length_encode, ih, h, UInt8.toNat_ofNat']
    ring_nf

theorem decode_append (xs ys : List UInt8) :
    decode (xs ++ ys) = decode xs * 256 ^ ys.length + decode ys := by
  induction xs with
  | nil => simp [decode]
  | cons x xs ih =>
    rw [List.cons_append, decode, decode, ih, List.length_append]
    ring

/-- Byte strings of one length that spell the same number are the same. -/
theorem eq_of_decode_eq {xs ys : List UInt8} (hlength : xs.length = ys.length)
    (h : decode xs = decode ys) : xs = ys := by
  induction xs generalizing ys with
  | nil => exact (List.length_eq_zero_iff.mp hlength.symm).symm
  | cons x xs ih =>
    obtain ⟨y, ys, rfl⟩ := List.exists_cons_of_length_eq_add_one hlength.symm
    have hxs := decode_lt xs
    have hys := decode_lt ys
    have hlen : xs.length = ys.length := Nat.succ.inj hlength
    rw [decode, decode, hlen] at h
    rw [hlen] at hxs
    have hpos : 0 < 256 ^ ys.length := Nat.pow_pos (by decide)
    have hdiv := congrArg (· / 256 ^ ys.length) h
    have hmod := congrArg (· % 256 ^ ys.length) h
    simp only [mul_comm _ (256 ^ ys.length), Nat.mul_add_div hpos, Nat.div_eq_of_lt hxs,
      Nat.div_eq_of_lt hys, Nat.mul_add_mod, Nat.mod_eq_of_lt hxs, Nat.mod_eq_of_lt hys,
      Nat.add_zero] at hdiv hmod
    rw [UInt8.toNat_inj.mp hdiv, ih hlen hmod]

/-- A reader of the first `n` bytes, with the rest of the string. -/
def read? (n : ℕ) (bs : List UInt8) : Option (ℕ × List UInt8) :=
  if n ≤ bs.length then some (decode (bs.take n), bs.drop n) else none

@[simp]
theorem read?_encode_append (n v : ℕ) (rest : List UInt8) :
    read? n (encode n v ++ rest) = some (v % 256 ^ n, rest) := by
  have hlen : (encode n v).length = n := length_encode n v
  rw [read?, if_pos (by simp), List.take_left' hlen, List.drop_left' hlen, decode_encode]

theorem read?_eq_some {n v : ℕ} {bs rest : List UInt8} (h : read? n bs = some (v, rest)) :
    v < 256 ^ n ∧ rest.length + n = bs.length := by
  unfold read? at h
  split_ifs at h with hn
  cases h
  refine ⟨?_, by simp; omega⟩
  have := decode_lt (bs.take n)
  rwa [List.length_take_of_le hn] at this

theorem read?_isSome {n : ℕ} {bs : List UInt8} (h : n ≤ bs.length) :
    read? n bs = some (decode (bs.take n), bs.drop n) := if_pos h

end BigEndian
