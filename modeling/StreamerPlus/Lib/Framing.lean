import Mathlib.Tactic

/-!
# Self-delimiting messages in a byte stream

A decoder reads one message off the front of a buffer, or nothing if the buffer does not hold
all of one. `drain` applies it for as long as it succeeds. What a reader that drains its buffer
after each block has delivered depends only on the bytes it has been given, not on how they
were cut into blocks.
-/

namespace Framing

variable {μ α : Type*}

/-- `dec` reads off what `enc` wrote for the messages in `ok`, and nothing off a part of it. -/
structure IsFraming (ok : μ → Prop) (enc : μ → List α) (dec : List α → Option (μ × List α)) :
    Prop where
  decode_nil : dec [] = none
  nonempty : ∀ m, ok m → enc m ≠ []
  decode_encode : ∀ m rest, ok m → dec (enc m ++ rest) = some (m, rest)
  decode_short : ∀ m p, ok m → p <+: enc m → p ≠ enc m → dec p = none

/-- Read messages off the buffer while there are any, but at most `fuel`. -/
def drain (dec : List α → Option (μ × List α)) : ℕ → List α → List μ × List α
  | 0, buffer => ([], buffer)
  | fuel + 1, buffer =>
    match dec buffer with
    | none => ([], buffer)
    | some (m, buffer) =>
      let (ms, buffer) := drain dec fuel buffer
      (m :: ms, buffer)

/-- The bytes of a list of messages. -/
def stream (enc : μ → List α) (ms : List μ) : List α := (ms.map enc).flatten

variable {ok : μ → Prop} {enc : μ → List α} {dec : List α → Option (μ × List α)}

@[simp]
theorem stream_nil : stream enc [] = [] := rfl

@[simp]
theorem stream_cons (m : μ) (ms : List μ) : stream enc (m :: ms) = enc m ++ stream enc ms := rfl

@[simp]
theorem stream_append (ms ms' : List μ) :
    stream enc (ms ++ ms') = stream enc ms ++ stream enc ms' := by
  simp [stream]

/-- The buffer of a reader of `stream enc ms` that has been given `given` and has delivered
`done`: it holds a proper part of the next message, and nothing if there is none. -/
structure Delivered (enc : μ → List α) (ms : List μ) (given : List α) (done : List μ)
    (buffer : List α) : Prop where
  isPrefix : done <+: ms
  given_eq : given = stream enc done ++ buffer
  partial_next : ∀ m rest, ms = done ++ m :: rest → buffer <+: enc m ∧ buffer ≠ enc m
  nil_of_done : ms = done → buffer = []

/-- `Delivered` says which messages: those whose last byte has been given. -/
theorem Delivered.lt_length_iff {ms done : List μ} {given buffer : List α}
    (h : Delivered enc ms given done buffer) {i : ℕ} (hi : i < ms.length) :
    i < done.length ↔ (stream enc (ms.take (i + 1))).length ≤ given.length := by
  obtain ⟨rest, rfl⟩ := h.isPrefix
  rw [h.given_eq]
  constructor
  · intro hlt
    have hsplit : done = done.take (i + 1) ++ done.drop (i + 1) := (List.take_append_drop _ _).symm
    rw [List.take_append_of_le_length (by omega)]
    conv_rhs => rw [hsplit, stream_append]
    simp
  · intro hle
    by_contra hlt
    -- the message after `done` is among the first `i + 1`, and its last byte is missing
    cases rest with
    | nil =>
      rw [List.append_nil] at hi
      exact hlt hi
    | cons m rest =>
      obtain ⟨⟨tail, htail⟩, hne⟩ := h.partial_next m rest rfl
      have hpos : 0 < tail.length := by
        refine List.length_pos_of_ne_nil fun hnil => hne ?_
        rw [hnil, List.append_nil] at htail
        exact htail
      have htake : ((done ++ m :: rest).take (i + 1)) =
          done ++ m :: rest.take (i - done.length) := by
        rw [List.take_append, List.take_of_length_le (by omega),
          show i + 1 - done.length = i - done.length + 1 by omega, List.take_succ_cons]
      rw [htake, stream_append, stream_cons, ← htail] at hle
      simp only [List.length_append] at hle
      omega

/-- Before anything is given. -/
theorem Delivered.nil {ms : List μ} (h : ∀ m ∈ ms, enc m ≠ []) : Delivered enc ms [] [] [] where
  isPrefix := List.nil_prefix
  given_eq := rfl
  partial_next m _ heq := ⟨List.nil_prefix, (h m (heq ▸ List.mem_cons_self)).symm⟩
  nil_of_done _ := rfl

/-- A message in front of a stream, delivered whole. -/
theorem Delivered.cons {ms done : List μ} {given buffer : List α}
    (h : Delivered enc ms given done buffer) (m : μ) :
    Delivered enc (m :: ms) (enc m ++ given) (m :: done) buffer where
  isPrefix := (List.prefix_cons_inj m).mpr h.isPrefix
  given_eq := by rw [stream_cons, List.append_assoc, ← h.given_eq]
  partial_next m' rest heq := h.partial_next m' rest (List.cons.inj heq).2
  nil_of_done heq := h.nil_of_done (List.cons.inj heq).2

/-- Messages in front of a stream, all delivered. -/
theorem Delivered.append_left {ms done : List μ} {given buffer : List α}
    (h : Delivered enc ms given done buffer) (before : List μ) :
    Delivered enc (before ++ ms) (stream enc before ++ given) (before ++ done) buffer := by
  induction before with
  | nil => exact h
  | cons m before ih =>
    rw [stream_cons, List.append_assoc]
    exact ih.cons m

/-- A proper part of the first message, and nothing delivered. -/
theorem Delivered.of_part {m : μ} {ms : List μ} {buffer : List α} (hpre : buffer <+: enc m)
    (hne : buffer ≠ enc m) : Delivered enc (m :: ms) buffer [] buffer where
  isPrefix := List.nil_prefix
  given_eq := rfl
  partial_next m' rest heq := by
    cases heq
    exact ⟨hpre, hne⟩
  nil_of_done heq := by cases heq

/-- A buffer that starts a stream is drained of exactly the messages it holds all of. -/
theorem IsFraming.drain_eq (h : IsFraming ok enc dec) {ms : List μ} (hms : ∀ m ∈ ms, ok m)
    {buffer future : List α} (hstream : buffer ++ future = stream enc ms) {fuel : ℕ}
    (hfuel : buffer.length ≤ fuel) :
    ∃ done rest, drain dec fuel buffer = (done, rest) ∧ Delivered enc ms buffer done rest := by
  induction ms generalizing buffer fuel with
  | nil =>
    rw [stream_nil, List.append_eq_nil_iff] at hstream
    obtain ⟨rfl, rfl⟩ := hstream
    refine ⟨[], [], ?_, List.prefix_rfl, rfl, by simp, fun _ => rfl⟩
    cases fuel with
    | zero => rfl
    | succ fuel => rw [drain, h.decode_nil]
  | cons m ms ih =>
    have hm : ok m := hms m List.mem_cons_self
    rw [stream_cons] at hstream
    by_cases hlen : (enc m).length ≤ buffer.length
    · -- the first message is there: read it off and go on with what follows it
      obtain ⟨buffer', rfl⟩ : enc m <+: buffer :=
        List.prefix_of_prefix_length_le ⟨_, hstream.symm⟩ ⟨_, rfl⟩ hlen
      have hpos := List.length_pos_of_ne_nil (h.nonempty m hm)
      rw [List.append_assoc, List.append_cancel_left_eq] at hstream
      rw [List.length_append] at hfuel
      obtain ⟨fuel, rfl⟩ : ∃ n, fuel = n + 1 := ⟨fuel - 1, by omega⟩
      have hfuel' : buffer'.length ≤ fuel := by omega
      obtain ⟨done, rest, hdrain, hdone⟩ :=
        ih (fun m' hm' => hms m' (List.mem_cons_of_mem m hm')) hstream hfuel'
      refine ⟨m :: done, rest, ?_, hdone.cons m⟩
      rw [drain, h.decode_encode m buffer' hm]
      simp only [hdrain]
    · -- the buffer ends inside the first message
      have hpre : buffer <+: enc m :=
        List.prefix_of_prefix_length_le ⟨_, hstream⟩ ⟨_, rfl⟩ (by omega)
      have hne : buffer ≠ enc m := fun heq => hlen (by rw [heq])
      refine ⟨[], buffer, ?_, .of_part hpre hne⟩
      cases fuel with
      | zero => rfl
      | succ fuel => rw [drain, h.decode_short m buffer hm hpre hne]

/-- One more block: what is delivered now comes after what was delivered before. -/
theorem IsFraming.feed (h : IsFraming ok enc dec) {ms : List μ} (hms : ∀ m ∈ ms, ok m)
    {given buffer block future : List α} {done : List μ}
    (hstream : given ++ block ++ future = stream enc ms)
    (hdone : Delivered enc ms given done buffer) {fuel : ℕ}
    (hfuel : (buffer ++ block).length ≤ fuel) :
    ∃ more rest, drain dec fuel (buffer ++ block) = (more, rest) ∧
      Delivered enc ms (given ++ block) (done ++ more) rest := by
  obtain ⟨ms', rfl⟩ := hdone.isPrefix
  have hrest : buffer ++ block ++ future = stream enc ms' := by
    rw [hdone.given_eq, stream_append, List.append_assoc, List.append_assoc,
      List.append_cancel_left_eq, ← List.append_assoc] at hstream
    exact hstream
  obtain ⟨more, rest, hdrain, hmore⟩ :=
    h.drain_eq (fun m hm => hms m (List.mem_append_right _ hm)) hrest hfuel
  refine ⟨more, rest, hdrain, ?_⟩
  rw [hdone.given_eq, List.append_assoc]
  exact hmore.append_left done

/-- When the whole stream has been given, everything is delivered and nothing is left. -/
theorem Delivered.eq_of_complete {ms done : List μ} {buffer : List α}
    (h : Delivered enc ms (stream enc ms) done buffer) : done = ms ∧ buffer = [] := by
  obtain ⟨rest, rfl⟩ := h.isPrefix
  cases rest with
  | nil =>
    rw [List.append_nil]
    exact ⟨rfl, h.nil_of_done (List.append_nil _)⟩
  | cons m rest =>
    exfalso
    obtain ⟨hpre, hne⟩ := h.partial_next m rest rfl
    have heq := h.given_eq
    rw [stream_append, List.append_cancel_left_eq, stream_cons] at heq
    -- the buffer holds all of `m`, of which it is a proper part
    refine hne (hpre.eq_of_length_le ?_)
    rw [← heq]
    simp

end Framing
