import Mathlib.Tactic.Common

/-!
# Counter mode over a text given in pieces

A `StreamCipher` encrypts a text piece by piece and keeps a state between the pieces. How the text
is cut does not matter, and encrypting twice from the same state gives back the text.

Counter mode is one. A block function `E` turns counter blocks into blocks of key stream, and the
text is XORed with the key stream byte by byte. A block that is used up is replaced by that of the
next counter block. The state is passed on between the pieces of a text, so that a piece may end
within a block.

## Main results

* `CounterMode.After.encrypt`: the counter blocks that a text uses are successive ones from the
  first, as many as there are blocks of text, however the text is cut into pieces.
* `CounterMode.streamCipher`: counter mode is a stream cipher.
* `CounterMode.After.length_used_le`: a text of at most `k` blocks uses at most `k` of them.
-/

/-- A cipher for a text that comes in pieces, with the state that is passed on between them. -/
structure StreamCipher (σ : Type) where
  encrypt : σ → List UInt8 → List UInt8 × σ
  length_encrypt : ∀ s xs, (encrypt s xs).1.length = xs.length
  encrypt_append : ∀ s xs ys,
    (encrypt s (xs ++ ys)).1 = (encrypt s xs).1 ++ (encrypt (encrypt s xs).2 ys).1
  encrypt_encrypt : ∀ s xs, (encrypt s (encrypt s xs).1).1 = xs

/-- The state between two bytes of a text. The bytes of `keystream` before `offset` are used up,
all of them if `offset` is zero. `used` records the counter blocks so far. -/
structure CounterMode (w : ℕ) where
  counter : BitVec w
  keystream : ℕ → UInt8 := fun _ => 0
  offset : ℕ := 0
  used : List (BitVec w) := []

namespace CounterMode

variable {w size n k : ℕ} (E : BitVec w → ℕ → UInt8) (start : BitVec w) {s : CounterMode w}

/-- A block of key stream from the next counter block. -/
def refill (s : CounterMode w) : CounterMode w :=
  { s with counter := s.counter + 1, keystream := E s.counter, used := s.used ++ [s.counter] }

/-- One byte of text, with blocks of `size` bytes. -/
def encryptByte (size : ℕ) (s : CounterMode w) (x : UInt8) : UInt8 × CounterMode w :=
  let s := if s.offset = 0 then s.refill E else s
  (x ^^^ s.keystream s.offset, { s with offset := (s.offset + 1) % size })

/-- A piece of text. -/
def encrypt (size : ℕ) : CounterMode w → List UInt8 → List UInt8 × CounterMode w
  | s, [] => ([], s)
  | s, x :: xs =>
    let (y, s) := encryptByte E size s x
    let (ys, s) := encrypt size s xs
    (y :: ys, s)

theorem length_encrypt (s : CounterMode w) (xs : List UInt8) :
    (s.encrypt E size xs).1.length = xs.length := by
  induction xs generalizing s with
  | nil => rfl
  | cons x xs ih => simp [encrypt, ih]

theorem encrypt_append (s : CounterMode w) (xs ys : List UInt8) :
    (s.encrypt E size (xs ++ ys)).1 =
      (s.encrypt E size xs).1 ++ ((s.encrypt E size xs).2.encrypt E size ys).1 := by
  induction xs generalizing s with
  | nil => rfl
  | cons x xs ih => simp [encrypt, ih]

/-- The key stream does not depend on the text. -/
theorem encrypt_encrypt (s : CounterMode w) (xs : List UInt8) :
    (s.encrypt E size (s.encrypt E size xs).1).1 = xs := by
  induction xs generalizing s with
  | nil => rfl
  | cons x xs ih =>
    simp only [encrypt, encryptByte, ih]
    rw [UInt8.xor_assoc, UInt8.xor_self, UInt8.xor_zero]

/-- Counter mode with blocks of `size` bytes. -/
def streamCipher (size : ℕ) : StreamCipher (CounterMode w) where
  encrypt := encrypt E size
  length_encrypt := length_encrypt E
  encrypt_append := encrypt_append E
  encrypt_encrypt := encrypt_encrypt E

/-- The state after `n` bytes of text from the counter block `start`. -/
structure After (size n : ℕ) (s : CounterMode w) : Prop where
  counter : s.counter = start + BitVec.ofNat w s.used.length
  used : s.used = (List.range s.used.length).map fun i => start + BitVec.ofNat w i
  offset_lt : s.offset < size
  whole : s.offset = 0 → s.used.length * size = n
  within : s.offset ≠ 0 → s.used.length * size = n + (size - s.offset)

theorem after_zero (hsize : 0 < size) : After start size 0 { counter := start } :=
  ⟨by simp, rfl, hsize, fun _ => Nat.zero_mul _, fun h => absurd rfl h⟩

variable {start}

theorem After.encryptByte (h : After start size n s) (x : UInt8) :
    After start size (n + 1) (s.encryptByte E size x).2 := by
  have hlt := h.offset_lt
  by_cases hoffset : s.offset = 0
  · -- the byte starts a block, which is one more
    have hwhole := h.whole hoffset
    have hnext : (s.encryptByte E size x).2 = { s.refill E with offset := 1 % size } := by
      simp [CounterMode.encryptByte, hoffset, refill]
    have hlength : (s.used ++ [s.counter]).length * size = n + size := by
      rw [List.length_append, List.length_singleton, Nat.add_mul, hwhole, Nat.one_mul]
    rw [hnext]
    refine ⟨?_, ?_, Nat.mod_lt _ (by omega), ?_, ?_⟩ <;> simp only [refill, hlength]
    · rw [h.counter, List.length_append, BitVec.add_assoc, BitVec.ofNat_add]
      rfl
    · rw [List.length_append, List.length_singleton, List.range_succ, List.map_append, ← h.used,
        List.map_singleton, h.counter]
    all_goals
      rcases (show size = 1 ∨ 1 < size by omega) with rfl | hone
      · omega
      · rw [Nat.mod_eq_of_lt hone]
        omega
  · have hwithin := h.within hoffset
    simp only [CounterMode.encryptByte, if_neg hoffset]
    refine ⟨h.counter, h.used, Nat.mod_lt _ (by omega), ?_, ?_⟩ <;> dsimp only
    all_goals
      rcases (show s.offset + 1 = size ∨ s.offset + 1 < size by omega) with heq | hone
      · rw [heq, Nat.mod_self]
        omega
      · rw [Nat.mod_eq_of_lt hone]
        omega

/-- **A piece of text uses the counter blocks in order**, from where the last piece ended. -/
theorem After.encrypt (h : After start size n s) (xs : List UInt8) :
    After start size (n + xs.length) (s.encrypt E size xs).2 := by
  induction xs generalizing n s with
  | nil => exact h
  | cons x xs ih =>
    have hrest := ih (h.encryptByte E x)
    rwa [Nat.add_assoc, Nat.add_comm 1] at hrest

theorem After.length_used_le (h : After start size n s) (hn : n ≤ k * size) :
    s.used.length ≤ k := by
  have hlt := h.offset_lt
  by_contra hgt
  have hmul : (k + 1) * size ≤ s.used.length * size := Nat.mul_le_mul_right _ (by omega)
  rw [Nat.add_mul, Nat.one_mul] at hmul
  by_cases hoffset : s.offset = 0
  · have := h.whole hoffset
    omega
  · have := h.within hoffset
    omega

theorem After.mem_used (h : After start size n s) {block : BitVec w} :
    block ∈ s.used ↔ ∃ i < s.used.length, start + BitVec.ofNat w i = block := by
  conv_lhs => rw [h.used]
  simp

end CounterMode
