import Mathlib.Algebra.Group.Nat.Defs
import StreamerPlus.Lib.Checked

/-!
# `BitVector`

The dynamic bit vector of `util/bit_vector.h`: 64-bit words and a size. Its operations check their
position against the size, and then access a word of `v_`, which they do not check.

`Resize` computes the number of words from `size + 63`, a sum of 64 bits. Above `2 ^ 64 - 64` it
wraps around, and the vector has no words at all for a size of almost `2 ^ 64`: a position passes
the check and its word is not there. Below, the vector always has enough words for its size
(`Backed`), so that every position has a bit of its own, and the unused bits of the last word have
no influence.

## Main results

* `Backed.toBitVector_resize`, `Backed.update_toBitVector`: with enough words, `Resize` of such a
  size, `Set` and `Clear` stop at their checks only.
* `refines_list`: the vector is a list of booleans, and its operations are those of the list, as
  long as no size is above `2 ^ 64 - 64`.
* `isSet_resize_wrapped`: a vector of `2 ^ 64 - 1` bits without a word.
-/

namespace StreamerPlus

open Checked

/-- `BitVector`: `v` holds the bits, 64 to a word. -/
structure BitVector where
  v : List (BitVec 64) := []
  size : ℕ := 0

namespace BitVector

/-- Where an operation stops: the check of its position, or an access to a word that is not there,
which the source does not check. -/
inductive Fault
  | check
  | outOfRange
  deriving DecidableEq, Repr

/-- The words that `Resize` assigns. With `fill` the unused bits of the last one are cleared
again. -/
def filledWords (n size : ℕ) (fill : Bool) : List (BitVec 64) :=
  let v := List.replicate n (if fill then BitVec.allOnes 64 else 0#64)
  if fill && size % 64 != 0 then
    v.modify (n - 1) (· &&& ((1#64 <<< (size % 64)) - 1#64))
  else v

/-- `Resize(size, fill)`. -/
def resize (size : ℕ) (fill : Bool) : Except Fault BitVector := do
  let n := (size + 63) % 2 ^ 64 / 64
  -- `v_.back()`
  require (fill ∧ size % 64 ≠ 0 → n ≠ 0) .outOfRange
  pure ⟨filledWords n size fill, size⟩

variable (b : BitVector)

/-- `IsSet(pos)`. -/
def isSet (pos : ℕ) : Except Fault Bool := do
  require (pos < b.size) .check
  require (pos / 64 < b.v.length) .outOfRange
  pure ((b.v.getD (pos / 64) 0#64).getLsbD (pos % 64))

/-- What `Set` and `Clear` do with the word of a position. -/
def update (pos : ℕ) (f : BitVec 64 → BitVec 64) : Except Fault BitVector := do
  require (pos < b.size) .check
  require (pos / 64 < b.v.length) .outOfRange
  pure { b with v := b.v.modify (pos / 64) f }

/-- `Set(pos)`. -/
def set (pos : ℕ) : Except Fault BitVector :=
  b.update pos (· ||| (1#64 <<< (pos % 64)))

/-- `Clear(pos)`. -/
def clear (pos : ℕ) : Except Fault BitVector :=
  b.update pos (· &&& ~~~(1#64 <<< (pos % 64)))

/-- The loop of `FindFirstSet()` from word `i` on. -/
def findFirstSetFrom (size : ℕ) : ℕ → List (BitVec 64) → ℕ
  | _, [] => size
  | i, w :: ws =>
    if w ≠ 0#64 then
      let pos := i * 64 + w.ctz.toNat
      if pos < size then pos else size
    else findFirstSetFrom size (i + 1) ws

/-- `FindFirstSet()`. -/
def findFirstSet : ℕ := findFirstSetFrom b.size 0 b.v

/-! ### Vectors with enough words -/

/-- A vector with a bit for every position. -/
structure Backed extends BitVector where
  enough : size ≤ 64 * v.length

namespace Backed

/-- The default-constructed vector. -/
def empty : Backed := ⟨{}, Nat.zero_le _⟩

/-- `Resize(size, fill)`, where the sum does not wrap around. -/
def resize (size : ℕ) (fill : Bool) : Backed where
  v := filledWords ((size + 63) / 64) size fill
  size := size
  enough := by
    dsimp only [filledWords]
    split_ifs <;> simp <;> omega

/-- The bit at a position. -/
def isSet (b : Backed) (pos : ℕ) : Bool := (b.v.getD (pos / 64) 0#64).getLsbD (pos % 64)

/-- What `Set` and `Clear` do with the word of a position; `none` when the check fails. -/
def update (b : Backed) (pos : ℕ) (f : BitVec 64 → BitVec 64) : Option Backed :=
  if pos < b.size then
    some ⟨{ b.toBitVector with v := b.v.modify (pos / 64) f }, by simpa using b.enough⟩
  else none

/-- `Set(pos)`. -/
def set (b : Backed) (pos : ℕ) : Option Backed := b.update pos (· ||| (1#64 <<< (pos % 64)))

/-- `Clear(pos)`. -/
def clear (b : Backed) (pos : ℕ) : Option Backed := b.update pos (· &&& ~~~(1#64 <<< (pos % 64)))

variable {b b' : Backed} {pos : ℕ}

@[simp]
theorem size_resize (size : ℕ) (fill : Bool) : (resize size fill).size = size := rfl

/-- As long as the sum does not wrap around, `Resize` makes a vector with enough words. -/
theorem toBitVector_resize {size : ℕ} (h : size ≤ 2 ^ 64 - 64) (fill : Bool) :
    BitVector.resize size fill = .ok (resize size fill).toBitVector := by
  have hsum : (size + 63) % 2 ^ 64 = size + 63 := Nat.mod_eq_of_lt (by omega)
  have hback : fill ∧ size % 64 ≠ 0 → (size + 63) / 64 ≠ 0 := by omega
  simp only [BitVector.resize, hsum, require_of hback, ok_bind]
  rfl

/-- An operation on a vector with enough words stops at its check only. -/
theorem update_toBitVector (b : Backed) (pos : ℕ) (f : BitVec 64 → BitVec 64) :
    b.toBitVector.update pos f = (b.update pos f).elim (.error .check) (.ok ·.toBitVector) := by
  unfold BitVector.update update
  by_cases hpos : pos < b.size
  · have hword : pos / 64 < b.v.length := by have := b.enough; omega
    rw [require_of hpos, ok_bind, require_of hword, ok_bind, if_pos hpos]
    rfl
  · rw [require, if_neg hpos, if_neg hpos]
    rfl

theorem isSet_toBitVector (h : pos < b.size) : b.toBitVector.isSet pos = .ok (b.isSet pos) := by
  have hword : pos / 64 < b.v.length := by have := b.enough; omega
  rw [BitVector.isSet, require_of h, ok_bind, require_of hword, ok_bind]
  rfl

/-! ### Reading a bit back -/

/-- After `Resize` every position holds the fill value. -/
theorem isSet_resize {size pos : ℕ} (fill : Bool) (h : pos < size) :
    (resize size fill).isSet pos = fill := by
  have hword : pos / 64 < (size + 63) / 64 := by omega
  cases fill with
  | false => simp [isSet, resize, filledWords, hword]
  | true =>
    by_cases hfull : size % 64 = 0
    · have hbit : pos % 64 < 64 := Nat.mod_lt _ (by decide)
      simp [-BitVec.reduceAllOnes, isSet, resize, filledWords, hword, hfull, hbit]
    · -- only the last word is masked, and `pos` lies below its mask
      have hmask : ((1#64 <<< (size % 64)) - 1#64) =
          BitVec.ofNat 64 (2 ^ (size % 64) - 1) := by
        have hlt : 2 ^ (size % 64) < 2 ^ 64 := Nat.pow_lt_pow_right (by decide)
          (Nat.mod_lt _ (by decide))
        have hpos : 0 < 2 ^ (size % 64) := Nat.two_pow_pos _
        apply BitVec.eq_of_toNat_eq
        simp only [BitVec.toNat_sub, BitVec.toNat_shiftLeft, BitVec.toNat_ofNat, Nat.shiftLeft_eq]
        generalize 2 ^ (size % 64) = m at hlt hpos
        omega
      by_cases hlast : (size + 63) / 64 - 1 = pos / 64
      · have hbit : pos % 64 < size % 64 := by omega
        have hbit' : pos % 64 < 64 := Nat.mod_lt _ (by decide)
        simp [-BitVec.reduceAllOnes, isSet, resize, filledWords, hword, hfull, hlast, hmask,
          BitVec.getLsbD_ofNat, hbit, hbit', Nat.testBit_two_pow_sub_one]
      · have hbit' : pos % 64 < 64 := Nat.mod_lt _ (by decide)
        simp [-BitVec.reduceAllOnes, isSet, resize, filledWords, hword, hfull, hlast, hbit']

theorem size_update {f : BitVec 64 → BitVec 64} (h : b.update pos f = some b') :
    b'.size = b.size := by
  unfold update at h
  split_ifs at h
  cases h
  rfl

theorem size_set (h : b.set pos = some b') : b'.size = b.size := size_update h

theorem size_clear (h : b.clear pos = some b') : b'.size = b.size := size_update h

theorem exists_clear (h : pos < b.size) : ∃ b', b.clear pos = some b' := ⟨_, if_pos h⟩

private theorem getLsbD_one_shiftLeft {i j : ℕ} (hj : j < 64) :
    (1#64 <<< i).getLsbD j = decide (j = i) := by
  rw [BitVec.getLsbD_shiftLeft, BitVec.getLsbD_one]
  by_cases h : j = i
  · simp [h, show i < 64 by omega]
  · simp [h, hj]
    omega

/-- Changing the word of a position changes the bits of that word only. -/
theorem isSet_update {f : BitVec 64 → BitVec 64} (h : b.update pos f = some b') (q : ℕ) :
    b'.isSet q = if pos / 64 = q / 64 then (f (b.v.getD (q / 64) 0#64)).getLsbD (q % 64)
      else b.isSet q := by
  unfold update at h
  split_ifs at h with hpos
  cases h
  have hword : pos / 64 < b.v.length := by have := b.enough; omega
  simp only [isSet]
  split_ifs with hw
  · rw [← hw]
    simp [hword]
  · simp [hw]

/-- `Set(pos)` sets `pos` and nothing else. -/
theorem isSet_set (h : b.set pos = some b') (q : ℕ) :
    b'.isSet q = (b.isSet q || decide (q = pos)) := by
  rw [isSet_update h]
  split_ifs with hw
  · rw [BitVec.getLsbD_or, getLsbD_one_shiftLeft (Nat.mod_lt _ (by decide))]
    congr 2
    rw [eq_iff_iff]
    omega
  · have hne : q ≠ pos := fun he => hw (by rw [he])
    simp [hne]

/-- `Clear(pos)` clears `pos` and nothing else. -/
theorem isSet_clear (h : b.clear pos = some b') (q : ℕ) :
    b'.isSet q = (b.isSet q && !decide (q = pos)) := by
  have hq : q % 64 < 64 := Nat.mod_lt _ (by decide)
  rw [isSet_update h]
  split_ifs with hw
  · rw [BitVec.getLsbD_and, BitVec.getLsbD_not, getLsbD_one_shiftLeft hq, decide_eq_true hq,
      Bool.true_and]
    congr 3
    rw [eq_iff_iff]
    omega
  · have hne : q ≠ pos := fun he => hw (by rw [he])
    simp [hne]

/-! ### The first set bit -/

private theorem findFirstSetFrom_spec (b : Backed) (i : ℕ) (ws : List (BitVec 64))
    (hws : b.v.drop i = ws) (hclear : ∀ j < 64 * i, b.isSet j = false) :
    findFirstSetFrom b.size i ws ≤ b.size ∧
      (findFirstSetFrom b.size i ws < b.size → b.isSet (findFirstSetFrom b.size i ws) = true) ∧
      ∀ j < findFirstSetFrom b.size i ws, b.isSet j = false := by
  induction ws generalizing i with
  | nil =>
    have hlen : b.v.length ≤ i := List.drop_eq_nil_iff.mp hws
    refine ⟨Nat.le_refl _, fun h => absurd h (Nat.lt_irrefl _), fun j hj => hclear j ?_⟩
    have := b.enough
    simp only [findFirstSetFrom] at hj
    omega
  | cons w ws ih =>
    have hget : b.v[i]? = some w := by
      rw [← List.head?_drop, hws, List.head?_cons]
    have hbit : ∀ j, j / 64 = i → b.isSet j = w.getLsbD (j % 64) := by
      rintro j rfl
      simp [isSet, List.getD_eq_getElem?_getD, hget]
    rw [findFirstSetFrom]
    by_cases hw : w = 0#64
    · -- an empty word moves the search on
      rw [if_neg (by simpa using hw)]
      refine ih (i + 1) ?_ fun j hj => ?_
      · rw [← List.drop_drop, hws]; rfl
      · by_cases hj' : j < 64 * i
        · exact hclear j hj'
        · rw [hbit j (by omega), hw]; simp
    · rw [if_pos hw]
      have hctz : w.ctz.toNat < 64 := by
        have := BitVec.ctz_lt_iff_ne_zero.mpr hw
        simpa [BitVec.lt_def] using this
      have hfirst : ∀ j < i * 64 + w.ctz.toNat, b.isSet j = false := by
        intro j hj
        by_cases hj' : j < 64 * i
        · exact hclear j hj'
        · rw [hbit j (by omega)]
          exact BitVec.getLsbD_false_of_lt_ctz (by omega)
      have hset : b.isSet (i * 64 + w.ctz.toNat) = true := by
        rw [hbit _ (by omega), show (i * 64 + w.ctz.toNat) % 64 = w.ctz.toNat by omega]
        exact BitVec.getLsbD_true_ctz_of_ne_zero hw
      dsimp only
      split_ifs with hsz
      · exact ⟨Nat.le_of_lt hsz, fun _ => hset, hfirst⟩
      · exact ⟨Nat.le_refl _, fun h => absurd h (Nat.lt_irrefl _), fun j hj => hfirst j (by omega)⟩

theorem isSet_findFirstSet (h : b.findFirstSet < b.size) : b.isSet b.findFirstSet = true :=
  (findFirstSetFrom_spec b 0 b.v rfl (by simp)).2.1 h

theorem isSet_of_lt_findFirstSet {j : ℕ} (h : j < b.findFirstSet) : b.isSet j = false :=
  (findFirstSetFrom_spec b 0 b.v rfl (by simp)).2.2 j h

theorem findFirstSet_le (b : Backed) : b.findFirstSet ≤ b.size :=
  (findFirstSetFrom_spec b 0 b.v rfl (by simp)).1

/-! ### The list of its bits -/

/-- A vector has the bits of a list. -/
structure Represents (b : Backed) (l : List Bool) : Prop where
  size : b.size = l.length
  isSet : ∀ i (hi : i < l.length), b.isSet i = l[i]

variable {l : List Bool}

theorem Represents.resize (size : ℕ) (fill : Bool) :
    (resize size fill).Represents (List.replicate size fill) :=
  ⟨List.length_replicate.symm, fun i hi => by
    rw [isSet_resize fill (by simpa using hi), List.getElem_replicate]⟩

/-- Setting or clearing one bit of both. -/
theorem Represents.write (h : b.Represents l) {bit : Bool} (hsize : b'.size = b.size)
    (hpos : b'.isSet pos = bit) (hothers : ∀ q ≠ pos, b'.isSet q = b.isSet q) :
    b'.Represents (l.set pos bit) := by
  refine ⟨by rw [hsize, h.size, List.length_set], fun i hi => ?_⟩
  rw [List.length_set] at hi
  rw [List.getElem_set]
  split_ifs with heq
  · rw [← heq, hpos]
  · rw [hothers i (Ne.symm heq), h.isSet i hi]

/-- The first set bit is the first element that is true. -/
theorem Represents.findFirstSet_eq (h : b.Represents l) : b.findFirstSet = l.findIdx id := by
  have hbefore : ∀ j (hj : j < l.length), j < b.findFirstSet → l[j] = false := fun j hj hlt =>
    (h.isSet j hj).symm.trans (isSet_of_lt_findFirstSet hlt)
  rcases Nat.eq_or_lt_of_le (findFirstSet_le b) with heq | hlt
  · rw [heq, h.size, eq_comm, List.findIdx_eq_length]
    intro bit hbit
    obtain ⟨j, hj, rfl⟩ := List.getElem_of_mem hbit
    exact hbefore j hj (by rw [heq, h.size]; exact hj)
  · have hlt' : b.findFirstSet < l.length := h.size ▸ hlt
    rw [eq_comm, List.findIdx_eq hlt']
    exact ⟨(h.isSet _ hlt').symm.trans (isSet_findFirstSet hlt),
      fun j hj => hbefore j (Nat.lt_trans hj hlt') hj⟩

end Backed

/-! ### Sequences of operations -/

/-- The operations that change a vector. -/
inductive Op
  | resize (size : ℕ) (fill : Bool) | set (pos : ℕ) | clear (pos : ℕ)

/-- The sum of `Resize` does not wrap around. -/
def Op.Fits : Op → Prop
  | .resize size _ => size ≤ 2 ^ 64 - 64
  | _ => True

/-- An operation. -/
def apply (b : BitVector) : Op → Except Fault BitVector
  | .resize size fill => resize size fill
  | .set pos => b.set pos
  | .clear pos => b.clear pos

/-- The same operation on a list. -/
def applyList (l : List Bool) : Op → Except Fault (List Bool)
  | .resize size fill => .ok (List.replicate size fill)
  | .set pos => if pos < l.length then .ok (l.set pos true) else .error .check
  | .clear pos => if pos < l.length then .ok (l.set pos false) else .error .check

/-- The results of operations on a vector and on a list: the same check fails, or the vector has
enough words and the bits of the list. -/
inductive Agree : Except Fault BitVector → Except Fault (List Bool) → Prop
  | error (e : Fault) : Agree (.error e) (.error e)
  | ok {b : Backed} {l : List Bool} (h : b.Represents l) : Agree (.ok b.toBitVector) (.ok l)

open Backed

variable {b : Backed} {l : List Bool}

/-- `Set` or `Clear`, and the list with the bit written. -/
theorem agree_update (h : b.Represents l) {pos : ℕ} {f : BitVec 64 → BitVec 64} {bit : Bool}
    (hpos : ∀ b', b.update pos f = some b' → b'.isSet pos = bit)
    (hothers : ∀ b', b.update pos f = some b' → ∀ q ≠ pos, b'.isSet q = b.isSet q) :
    Agree (b.toBitVector.update pos f)
      (if pos < l.length then .ok (l.set pos bit) else .error .check) := by
  rw [update_toBitVector, ← h.size]
  by_cases hlt : pos < b.size
  · obtain ⟨b', hb'⟩ : ∃ b', b.update pos f = some b' := ⟨_, if_pos hlt⟩
    rw [hb', if_pos hlt]
    exact .ok (h.write (size_update hb') (hpos b' hb') (hothers b' hb'))
  · rw [Backed.update, if_neg hlt, if_neg hlt]
    exact .error .check

/-- One operation. -/
theorem agree_apply (h : b.Represents l) {op : Op} (hop : op.Fits) :
    Agree (b.toBitVector.apply op) (applyList l op) := by
  cases op with
  | resize size fill =>
    rw [BitVector.apply, toBitVector_resize hop]
    exact .ok (.resize size fill)
  | set pos =>
    refine agree_update h (fun b' hb' => ?_) fun b' hb' q hq => ?_
    · simp [isSet_set hb']
    · simp [isSet_set hb', hq]
  | clear pos =>
    refine agree_update h (fun b' hb' => ?_) fun b' hb' q hq => ?_
    · simp [isSet_clear hb']
    · simp [isSet_clear hb', hq]

/-- A sequence of operations, by induction on it. -/
theorem agree_foldlM (h : b.Represents l) {ops : List Op} (hops : ∀ op ∈ ops, op.Fits) :
    Agree (ops.foldlM BitVector.apply b.toBitVector) (ops.foldlM applyList l) := by
  induction ops generalizing b l with
  | nil => exact .ok h
  | cons op ops ih =>
    rw [List.foldlM_cons, List.foldlM_cons]
    have hstep := agree_apply h (hops op List.mem_cons_self)
    generalize BitVector.apply b.toBitVector op = x at hstep
    generalize applyList l op = y at hstep
    cases hstep with
    | error e => exact .error e
    | ok h' => exact ih h' fun op hop => hops op (List.mem_cons_of_mem _ hop)

/-- **A bit vector is a list of booleans**, if no size is above `2 ^ 64 - 64`. A sequence of
operations fails the same check as that on the list, or the vector has the size, the bits and the
first bit set of the list, and every bit can be read. -/
theorem refines_list (ops : List Op) (hops : ∀ op ∈ ops, op.Fits) :
    match ops.foldlM applyList [] with
    | .error e => ops.foldlM BitVector.apply {} = .error e
    | .ok l => ∃ b : BitVector, ops.foldlM BitVector.apply {} = .ok b ∧ b.size = l.length ∧
        (∀ i (hi : i < l.length), b.isSet i = .ok l[i]) ∧ b.findFirstSet = l.findIdx id := by
  have hagree := agree_foldlM (b := Backed.empty) (l := []) ⟨rfl, nofun⟩ hops
  change Agree (ops.foldlM BitVector.apply {}) _ at hagree
  generalize ops.foldlM BitVector.apply {} = x at hagree
  generalize ops.foldlM applyList [] = y at hagree
  cases hagree with
  | error e => rfl
  | @ok b l h =>
    refine ⟨b.toBitVector, rfl, h.size, fun i hi => ?_, h.findFirstSet_eq⟩
    rw [isSet_toBitVector (h.size ▸ hi), h.isSet i hi]

/-- Two words of which the first bit of each is cleared. -/
theorem refines_list_twoWords :
    ∃ b, [Op.resize 70 true, .clear 0, .clear 64].foldlM BitVector.apply {} = .ok b ∧
      b.isSet 64 = .ok false ∧ b.isSet 69 = .ok true ∧ b.findFirstSet = 1 := by
  have hops : ∀ op ∈ [Op.resize 70 true, .clear 0, .clear 64], op.Fits := by simp [Op.Fits]
  obtain ⟨b, hb, -, hset, hfirst⟩ := refines_list _ hops
  exact ⟨b, hb, hset 64 (by decide), hset 69 (by decide), hfirst⟩

/-- A vector of `2 ^ 64 - 1` bits has no words: its first bit cannot be read although its position
is below the size. And if the bits are to be set, `Resize` itself accesses a word. -/
theorem isSet_resize_wrapped :
    (∃ b, resize (2 ^ 64 - 1) false = .ok b ∧ b.size = 2 ^ 64 - 1 ∧
      b.isSet 0 = .error .outOfRange) ∧
    resize (2 ^ 64 - 1) true = .error .outOfRange :=
  ⟨⟨⟨[], 2 ^ 64 - 1⟩, rfl, rfl, rfl⟩, rfl⟩

end BitVector

end StreamerPlus
