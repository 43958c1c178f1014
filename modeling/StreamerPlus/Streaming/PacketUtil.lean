import Mathlib.Tactic
import StreamerPlus.Lib.BigEndian
import StreamerPlus.Lib.Checked

/-!
# Reading and writing packet fields

`packet_util.h`: fields are consumed from the start of a `ByteView` and appended at the start
of a `ByteBuffer`, big-endian, and neither helper checks the span's size. A read, a write or a
cut past the end of a span is therefore an outcome of its own here, `SpanFault.outOfBounds`,
and never a silent value. A buffer is what has been written so far and the room that is left;
space that the source reserves and fills in later is written once, with its final value.
-/

namespace StreamerPlus

open Checked

/-- A read-only span of bytes. -/
abbrev ByteView := List UInt8

/-- The undefined outcome of a span operation. -/
inductive SpanFault
  | outOfBounds
  deriving DecidableEq, Repr

/-- `ConsumeField<Integer>` for an integer of `n` bytes. -/
def consumeField (n : ℕ) (view : ByteView) : Except SpanFault (ℕ × ByteView) :=
  match BigEndian.read? n view with
  | some r => .ok r
  | none => .error .outOfBounds

/-- `subspan(n)`. -/
def skip (n : ℕ) (view : ByteView) : Except SpanFault ByteView :=
  if n ≤ view.length then .ok (view.drop n) else .error .outOfBounds

/-- An output span: the bytes written to it and the bytes left in it. -/
structure ByteBuffer where
  written : List UInt8
  room : ℕ

/-- `AppendField<Integer>` for each pair of a width in bytes and a value, in order. -/
def appendFields : List (ℕ × ℕ) → ByteBuffer → Except SpanFault ByteBuffer
  | [], out => .ok out
  | (n, v) :: fields, out =>
    if n ≤ out.room then
      appendFields fields ⟨out.written ++ BigEndian.encode n v, out.room - n⟩
    else .error .outOfBounds

variable (fields : List (ℕ × ℕ))

/-- The bytes of a list of fields. -/
def fieldBytes : List UInt8 :=
  fields.flatMap fun f => BigEndian.encode f.1 f.2

/-- The number of bytes of a list of fields. -/
def fieldSize : ℕ := (fields.map Prod.fst).sum

@[simp]
theorem consumeField_encode_append (n v : ℕ) (rest : ByteView) :
    consumeField n (BigEndian.encode n v ++ rest) = .ok (v % 256 ^ n, rest) := by
  simp [consumeField]

theorem consumeField_eq_ok {n v : ℕ} {view rest : ByteView}
    (h : consumeField n view = .ok (v, rest)) :
    v < 256 ^ n ∧ rest.length + n = view.length := by
  unfold consumeField at h
  split at h
  · rename_i r hr
    cases h
    exact BigEndian.read?_eq_some hr
  · cases h

/-- A field within the span is read without fault. -/
theorem consumeField_of_le {n : ℕ} {view : ByteView} (h : n ≤ view.length) :
    consumeField n view = .ok (BigEndian.decode (view.take n), view.drop n) := by
  simp [consumeField, BigEndian.read?_isSome h]

/-- A 32-bit value fits its field. -/
theorem toNat_mod_field (x : UInt32) : x.toNat % 256 ^ 4 = x.toNat :=
  Nat.mod_eq_of_lt (lt_of_lt_of_eq x.toNat_lt (by norm_num))

@[simp]
theorem fieldBytes_nil : fieldBytes [] = [] := rfl

@[simp]
theorem fieldBytes_cons (n v : ℕ) (fields : List (ℕ × ℕ)) :
    fieldBytes ((n, v) :: fields) = BigEndian.encode n v ++ fieldBytes fields := rfl

@[simp]
theorem fieldSize_nil : fieldSize [] = 0 := rfl

@[simp]
theorem fieldSize_cons (n v : ℕ) (fields : List (ℕ × ℕ)) :
    fieldSize ((n, v) :: fields) = n + fieldSize fields := by simp [fieldSize]

@[simp]
theorem length_fieldBytes : (fieldBytes fields).length = fieldSize fields := by
  induction fields with
  | nil => rfl
  | cons f fields ih =>
    obtain ⟨n, v⟩ := f
    simp [ih]

/-- Fields that fit are all written, and only they are. -/
theorem appendFields_of_le {fields : List (ℕ × ℕ)} {out : ByteBuffer}
    (h : fieldSize fields ≤ out.room) :
    appendFields fields out =
      .ok ⟨out.written ++ fieldBytes fields, out.room - fieldSize fields⟩ := by
  induction fields generalizing out with
  | nil => simp [appendFields]
  | cons f fields ih =>
    obtain ⟨n, v⟩ := f
    rw [fieldSize_cons] at h
    rw [appendFields, if_pos (by omega), ih (by show _ ≤ out.room - n; omega)]
    simp [Nat.sub_sub]

/-- Fields that are written fit. -/
theorem appendFields_eq_ok {fields : List (ℕ × ℕ)} {out out' : ByteBuffer}
    (h : appendFields fields out = .ok out') :
    fieldSize fields ≤ out.room ∧
      out' = ⟨out.written ++ fieldBytes fields, out.room - fieldSize fields⟩ := by
  have hle : fieldSize fields ≤ out.room := by
    induction fields generalizing out with
    | nil => simp
    | cons f fields ih =>
      obtain ⟨n, v⟩ := f
      rw [appendFields] at h
      split_ifs at h with hn
      have := ih h
      simp only [fieldSize_cons] at this ⊢
      omega
  rw [appendFields_of_le hle] at h
  cases h
  exact ⟨hle, rfl⟩

end StreamerPlus
