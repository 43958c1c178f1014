import StreamerPlus.Lib.Attempt
import StreamerPlus.Lib.BigEndian

/-!
# `BigEndianReader`

The reading half of `big_endian.h`. A reader stands at an offset of a fixed buffer. A read that
does not find enough bytes fails and leaves the offset alone, and a `Cursor` takes the offset back
when a read that consists of several parts fails. Bytes are only ever taken through `bytesAt`,
which stops at a position outside of the buffer.
-/

namespace StreamerPlus

open Checked

/-- What stops a reader. -/
inductive ReadFault
  /-- A position outside of the buffer is dereferenced. -/
  | outOfBounds
  /-- An `OSP_CHECK` fails. -/
  | checkFailed
  /-- A round of a loop reads nothing. -/
  | stuck
  deriving DecidableEq, Repr

/-- A read: from one offset to another, with a value unless it fails. -/
abbrev Reader (α : Type) : Type := Attempt ReadFault ℕ α

/-- The `n` bytes at a position. -/
def bytesAt (buffer : List UInt8) (position n : ℕ) : Except ReadFault (List UInt8) :=
  if position + n ≤ buffer.length then .ok ((buffer.drop position).take n) else .error .outOfBounds

namespace BigEndianReader

variable (buffer : List UInt8)

/-- `Cursor`, around a read that commits it only at its end. -/
def cursor {α : Type} (x : Reader α) : Reader α := Attempt.undo (fun origin _ => origin) x

/-- `Skip(length)`. -/
def skip (length : ℕ) : Reader Unit := fun offset =>
  if length > buffer.length - offset then .ok (none, offset) else .ok (some (), offset + length)

/-- `Read(length, out)`. -/
def readBytes (length : ℕ) : Reader (List UInt8) := fun offset => do
  if length ≤ buffer.length - offset then
    let bytes ← bytesAt buffer offset length
    return (some bytes, offset + length)
  else return (none, offset)

/-- `Read<T>(out)` for an unsigned integer of `n` bytes. -/
def read (n : ℕ) : Reader ℕ := do
  let bytes ← readBytes buffer n
  return BigEndian.decode bytes

/-- `current()` and then `Skip(length)`: the bytes that were skipped. -/
def take (length : ℕ) : Reader (List UInt8) := do
  let current ← Attempt.get
  skip buffer length
  Attempt.ofChecked (bytesAt buffer current length)

/-! ### Reads stay inside the buffer -/

/-- The offsets of a reader. -/
def InBuffer (offset : ℕ) : Prop := offset ≤ buffer.length

variable {buffer} {n offset : ℕ}

theorem bytesAt_of_le {position : ℕ} (h : position + n ≤ buffer.length) :
    bytesAt buffer position n = .ok ((buffer.drop position).take n) := if_pos h

theorem readBytes_of_le (h : offset + n ≤ buffer.length) :
    readBytes buffer n offset = .ok (some ((buffer.drop offset).take n), offset + n) := by
  unfold readBytes
  rw [if_pos (show n ≤ buffer.length - offset by omega), bytesAt_of_le h]
  rfl

theorem readBytes_of_lt (hoffset : InBuffer buffer offset) (h : buffer.length < offset + n) :
    readBytes buffer n offset = .ok (none, offset) := by
  unfold InBuffer at hoffset
  unfold readBytes
  rw [if_neg (show ¬n ≤ buffer.length - offset by omega)]
  rfl

theorem take_of_le (h : offset + n ≤ buffer.length) :
    take buffer n offset = .ok (some ((buffer.drop offset).take n), offset + n) := by
  have hskip : skip buffer n offset = .ok (some (), offset + n) := by
    unfold skip
    rw [if_neg (show ¬n > buffer.length - offset by omega)]
  unfold take
  rw [Attempt.bind_of_some Attempt.get_apply, Attempt.bind_of_some hskip, bytesAt_of_le h]
  rfl

theorem take_of_lt (h : buffer.length - offset < n) :
    take buffer n offset = .ok (none, offset) := by
  have hskip : skip buffer n offset = .ok (none, offset) := if_pos h
  unfold take
  rw [Attempt.bind_of_some Attempt.get_apply, Attempt.bind_of_none hskip]

variable {E : ReadFault → Prop} {α : Type}

theorem keeps_cursor {x : Reader α} (h : Attempt.Keeps (InBuffer buffer) E x) :
    Attempt.Keeps (InBuffer buffer) E (cursor x) :=
  h.undo fun _ _ hs _ => hs

theorem keeps_skip : Attempt.Keeps (InBuffer buffer) E (skip buffer n) := by
  intro offset hoffset
  unfold InBuffer at *
  unfold skip
  split_ifs with h
  · exact hoffset
  · show offset + n ≤ buffer.length
    omega

theorem keeps_readBytes : Attempt.Keeps (InBuffer buffer) E (readBytes buffer n) := by
  intro offset hoffset
  by_cases h : offset + n ≤ buffer.length
  · rw [readBytes_of_le h]
    exact h
  · rw [readBytes_of_lt hoffset (by omega)]
    exact hoffset

theorem keeps_read : Attempt.Keeps (InBuffer buffer) E (read buffer n) :=
  keeps_readBytes.bind fun _ => Attempt.keeps_pure

theorem keeps_take : Attempt.Keeps (InBuffer buffer) E (take buffer n) := by
  intro offset hoffset
  unfold InBuffer at *
  by_cases h : offset + n ≤ buffer.length
  · rw [take_of_le h]
    exact h
  · rw [take_of_lt (show buffer.length - offset < n by omega)]
    exact hoffset

/-! ### What a read has read -/

variable {offset' : ℕ}

theorem cursor_eq_some {x : Reader α} {a : α} :
    cursor x offset = .ok (some a, offset') ↔ x offset = .ok (some a, offset') :=
  Attempt.undo_eq_some

variable {bytes : List UInt8}

theorem readBytes_eq_some (h : readBytes buffer n offset = .ok (some bytes, offset')) :
    offset + n ≤ buffer.length ∧ bytes = (buffer.drop offset).take n ∧ offset' = offset + n := by
  by_cases hle : offset + n ≤ buffer.length
  · rw [readBytes_of_le hle] at h
    cases h
    exact ⟨hle, rfl, rfl⟩
  · unfold readBytes bytesAt at h
    split_ifs at h <;> cases h

theorem take_eq_some (h : take buffer n offset = .ok (some bytes, offset')) :
    offset + n ≤ buffer.length ∧ bytes = (buffer.drop offset).take n ∧ offset' = offset + n := by
  by_cases hle : offset + n ≤ buffer.length
  · rw [take_of_le hle] at h
    cases h
    exact ⟨hle, rfl, rfl⟩
  · by_cases hshort : buffer.length - offset < n
    · rw [take_of_lt hshort] at h
      cases h
    · have hskip : skip buffer n offset = .ok (some (), offset + n) := if_neg hshort
      unfold take bytesAt at h
      rw [Attempt.bind_of_some Attempt.get_apply, Attempt.bind_of_some hskip, if_neg hle] at h
      cases h

theorem length_of_take_eq_some
    (h : take buffer n offset = .ok (some bytes, offset')) : bytes.length = n := by
  obtain ⟨hle, rfl, -⟩ := take_eq_some h
  simp
  omega

theorem read_eq_some {v offset' : ℕ} (h : read buffer n offset = .ok (some v, offset')) :
    offset' = offset + n ∧ v < 256 ^ n := by
  unfold read at h
  obtain ⟨bytes, s, hbytes, h⟩ := Attempt.bind_eq_some.mp h
  obtain ⟨hle, rfl, rfl⟩ := readBytes_eq_some hbytes
  cases h
  refine ⟨rfl, (BigEndian.decode_lt _).trans_eq ?_⟩
  rw [List.length_take_of_le (by simp; omega)]

end BigEndianReader

end StreamerPlus
