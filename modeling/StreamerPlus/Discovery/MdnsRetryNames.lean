import StreamerPlus.Discovery.MdnsRecords

/-!
# The names that are tried after a conflict

A probe that fails goes on under a new name, made from the requested one (`mdns_probe_manager.cc`).
`CreateRetryDomainName` appends the number of the attempt to the first label of the requested name
and cuts the label where that would make it too long. The whole name may then be too long, and what
is cut off may be what is appended: a full label that ends in the number gives the requested name
again, and the ends of two cut labels may make two numbers one.

## Main results

* `retriesAreFresh_iff`: nothing else goes wrong.
* `not_retriesAreFresh_fullLabel`: a name that is probed for again after its first conflict.
-/

namespace StreamerPlus.Discovery

/-- The digits of `std::to_string(attempt)`. -/
def attemptDigits (attempt : ℕ) : Label :=
  (Nat.toDigits 10 attempt).map fun c => UInt8.ofNat c.toNat

/-- `CreateRetryDomainName(name, attempt)`, if the labels it makes are those of a name. -/
def createRetryDomainName (name : DomainName) (attempt : ℕ) : Option DomainName :=
  match name.labels with
  | [] => none
  | label :: rest =>
    let digits := attemptDigits attempt
    let label :=
      if label.length + digits.length ≥ kMaxLabelLength then
        label.take (kMaxLabelLength - digits.length)
      else label
    DomainName.tryCreate ((label ++ digits) :: rest)

/-! ### The digits of an attempt -/

theorem isDigit_of_mem_attemptDigits {n : ℕ} {c : UInt8} (h : c ∈ attemptDigits n) :
    48 ≤ c.toNat ∧ c.toNat ≤ 57 := by
  obtain ⟨d, hd, rfl⟩ := List.mem_map.mp h
  have hdigit := Char.isDigit_iff_toNat.mp
    (Nat.isDigit_of_mem_toDigits (by decide) (by decide) hd)
  have hlow : 48 ≤ d.toNat := hdigit.1
  have hhigh : d.toNat ≤ 57 := hdigit.2
  rw [UInt8.toNat_ofNat']
  omega

theorem attemptDigits_injective {n m : ℕ} (h : attemptDigits n = attemptDigits m) : n = m := by
  -- the bytes of the digits are read back
  have hback : ∀ k, Nat.ofDigitChars 10
      ((attemptDigits k).map fun c => Char.ofNat c.toNat) 0 = k := by
    intro k
    rw [attemptDigits, List.map_map, List.map_congr_left (g := id), List.map_id]
    · exact Nat.ofDigitChars_toDigits (by decide) (by decide)
    · intro d hd
      have hdigit := Char.isDigit_iff_toNat.mp
        (Nat.isDigit_of_mem_toDigits (by decide) (by decide) hd)
      have hhigh : d.toNat ≤ 57 := hdigit.2
      rw [Function.comp_apply, UInt8.toNat_ofNat', Nat.mod_eq_of_lt (by omega),
        Char.ofNat_toNat, id]
  rw [← hback n, h, hback m]

theorem length_attemptDigits_pos (n : ℕ) : 0 < (attemptDigits n).length := by
  rw [attemptDigits, List.length_map]
  exact Nat.length_toDigits_pos

/-- An attempt is an `int`, so it has at most ten digits. -/
theorem length_attemptDigits_le {n : ℕ} (h : n < 2 ^ 31) : (attemptDigits n).length ≤ 10 := by
  rw [attemptDigits, List.length_map, Nat.length_toDigits_le_iff (by decide) (by decide)]
  omega

theorem length_attemptDigits_mono {n m : ℕ} (h : n ≤ m) :
    (attemptDigits n).length ≤ (attemptDigits m).length := by
  simp only [attemptDigits, List.length_map]
  rw [Nat.length_toDigits_le_iff (by decide) Nat.length_toDigits_pos]
  exact lt_of_le_of_lt h
    ((Nat.length_toDigits_le_iff (by decide) Nat.length_toDigits_pos).mp le_rfl)

/-- Digits have no case. -/
theorem toLower_eq_digit_iff {c d : UInt8} (hd : 48 ≤ d.toNat ∧ d.toNat ≤ 57) :
    toLower c = d ↔ c = d := by
  unfold toLower
  split_ifs with h
  · rw [UInt8.le_iff_toNat_le, UInt8.le_iff_toNat_le] at h
    have hlow : 65 ≤ c.toNat := h.1
    have hhigh : c.toNat ≤ 90 := h.2
    rw [← UInt8.toNat_inj, ← UInt8.toNat_inj, UInt8.toNat_add]
    have h32 : (32 : UInt8).toNat = 32 := rfl
    omega
  · exact Iff.rfl

/-- Bytes that are the digits of an attempt in lower case are those digits. -/
theorem map_toLower_eq_digits_iff {s digits : Label}
    (hdigits : ∀ c ∈ digits, 48 ≤ c.toNat ∧ c.toNat ≤ 57) :
    s.map toLower = digits ↔ s = digits := by
  induction s generalizing digits with
  | nil => rfl
  | cons c s ih =>
    cases digits with
    | nil => simp
    | cons d digits =>
      rw [List.map_cons, List.cons.injEq, List.cons.injEq,
        toLower_eq_digit_iff (hdigits d (List.mem_cons_self ..)),
        ih fun c hc => hdigits c (List.mem_cons_of_mem _ hc)]

theorem map_toLower_attemptDigits (n : ℕ) : (attemptDigits n).map toLower = attemptDigits n :=
  (map_toLower_eq_digits_iff fun _ => isDigit_of_mem_attemptDigits).mpr rfl

/-! ### The label of an attempt -/

/-- The first label of the name of an attempt. -/
def retryLabel (label : Label) (attempt : ℕ) : Label :=
  label.take (63 - (attemptDigits attempt).length) ++ attemptDigits attempt

variable {name : DomainName} {label : Label} {rest : List Label} {n m : ℕ}

theorem createRetryDomainName_eq (hname : name.labels = label :: rest) (n : ℕ) :
    createRetryDomainName name n = DomainName.tryCreate (retryLabel label n :: rest) := by
  unfold createRetryDomainName retryLabel
  rw [hname]
  simp only [kMaxLabelLength, ge_iff_le]
  split_ifs with hcut
  · rfl
  · rw [List.take_of_length_le (by omega)]

theorem length_retryLabel (label : Label) (hn : n < 2 ^ 31) :
    (retryLabel label n).length = min (label.length + (attemptDigits n).length) 63 := by
  have hdigits := length_attemptDigits_le hn
  rw [retryLabel, List.length_append, List.length_take]
  omega

/-- The name of an attempt is within the limit of a name. -/
def RetryFits (label : Label) (rest : List Label) (attempt : ℕ) : Prop :=
  wireSize rest + min (label.length + (attemptDigits attempt).length) 63 + 1 ≤ 256

theorem isValidDomainLabel_iff :
    isValidDomainLabel label ↔ 0 < label.length ∧ label.length ≤ 63 := by
  simp only [isValidDomainLabel, Bool.and_eq_true, decide_eq_true_eq]
  exact Iff.rfl

theorem wireSize_cons (label : Label) (rest : List Label) :
    wireSize (label :: rest) = wireSize rest + label.length + 1 := by
  simp only [wireSize, List.map_cons, List.sum_cons]
  omega

theorem createRetryDomainName_eq_some_iff (hname : name.labels = label :: rest)
    {retry : DomainName} :
    createRetryDomainName name n = some retry ↔ retry.labels = retryLabel label n :: rest := by
  rw [createRetryDomainName_eq hname, DomainName.tryCreate_eq_some]

/-- An attempt gives a name exactly if that is within the limit. -/
theorem exists_createRetryDomainName_iff (hname : name.labels = label :: rest)
    (hn : n < 2 ^ 31) :
    (∃ retry, createRetryDomainName name n = some retry) ↔ RetryFits label rest n := by
  have hlength := length_retryLabel label hn
  have hsize : wireSize (retryLabel label n :: rest) ≤ 256 ↔ RetryFits label rest n := by
    rw [RetryFits, wireSize_cons, hlength]
  rw [createRetryDomainName_eq hname]
  constructor
  · rintro ⟨retry, h⟩
    have hlabels := DomainName.tryCreate_eq_some.mp h
    rw [← hsize, ← hlabels]
    exact retry.size
  · intro hfits
    refine ⟨⟨retryLabel label n :: rest, ?_, hsize.mpr hfits⟩,
      DomainName.tryCreate_eq_some.mpr rfl⟩
    intro l hl
    rcases List.mem_cons.mp hl with rfl | hl
    · have hpos := length_attemptDigits_pos n
      rw [isValidDomainLabel_iff]
      omega
    · exact name.valid l (hname ▸ List.mem_cons_of_mem _ hl)

/-! ### When two labels are one -/

/-- The label is full and ends in the number of the attempt. -/
def EndsInAttempt (label : Label) (attempt : ℕ) : Prop :=
  label.length = 63 ∧ attemptDigits attempt <:+ label

/-- The labels of both attempts are cut, and the longer number is the shorter one after what only
the cut for the longer one takes off. -/
def AttemptsCollide (label : Label) (n m : ℕ) : Prop :=
  63 ≤ label.length + (attemptDigits n).length ∧
    (label.take (63 - (attemptDigits n).length)).drop (63 - (attemptDigits m).length) ++
      attemptDigits n = attemptDigits m

theorem map_toLower_retryLabel_eq_iff (hn : n < 2 ^ 31) (hlabel : label.length ≤ 63) :
    (retryLabel label n).map toLower = label.map toLower ↔ EndsInAttempt label n := by
  have hpos := length_attemptDigits_pos n
  have hle := length_attemptDigits_le hn
  have hlength := length_retryLabel label hn
  constructor
  · intro h
    have hsame := congrArg List.length h
    simp only [List.length_map] at hsame
    -- a label that is not full gets longer
    have hfull : label.length = 63 := by omega
    have hend : (label.drop (63 - (attemptDigits n).length)).map toLower = attemptDigits n := by
      nth_rewrite 2 [← List.take_append_drop (63 - (attemptDigits n).length) label] at h
      rw [retryLabel, List.map_append, List.map_append, map_toLower_attemptDigits] at h
      exact (List.append_cancel_left h).symm
    rw [map_toLower_eq_digits_iff fun _ => isDigit_of_mem_attemptDigits] at hend
    exact ⟨hfull, hend ▸ List.drop_suffix _ _⟩
  · rintro ⟨hfull, hend⟩
    rw [List.suffix_iff_eq_drop, hfull] at hend
    rw [retryLabel]
    nth_rewrite 2 [hend]
    rw [List.take_append_drop]

theorem map_toLower_retryLabel_inj_iff (hnm : n < m) (hm : m < 2 ^ 31) :
    (retryLabel label n).map toLower = (retryLabel label m).map toLower ↔
      AttemptsCollide label n m := by
  have hn : n < 2 ^ 31 := hnm.trans hm
  have hle := length_attemptDigits_le hm
  have hmono := length_attemptDigits_mono hnm.le
  have hlengthn := length_retryLabel label hn
  have hlengthm := length_retryLabel label hm
  -- what is left for the longer number is the beginning of what is left for the shorter one
  have hsplit : retryLabel label n = label.take (63 - (attemptDigits m).length) ++
      ((label.take (63 - (attemptDigits n).length)).drop (63 - (attemptDigits m).length) ++
        attemptDigits n) := by
    rw [retryLabel, ← List.append_assoc]
    nth_rewrite 1 [← List.take_append_drop (63 - (attemptDigits m).length)
      (label.take (63 - (attemptDigits n).length))]
    rw [List.take_take, min_eq_left (by omega)]
  have hend : (retryLabel label n).map toLower = (retryLabel label m).map toLower ↔
      ((label.take (63 - (attemptDigits n).length)).drop (63 - (attemptDigits m).length) ++
        attemptDigits n).map toLower = attemptDigits m := by
    rw [hsplit, retryLabel]
    simp only [List.map_append, map_toLower_attemptDigits, List.append_cancel_left_eq]
  rw [hend, map_toLower_eq_digits_iff fun _ => isDigit_of_mem_attemptDigits, AttemptsCollide]
  refine ⟨fun h => ⟨?_, h⟩, And.right⟩
  by_contra hshort
  -- uncut, the two labels are the requested one before two numbers
  have htake : label.take (63 - (attemptDigits n).length) = label :=
    List.take_of_length_le (by omega)
  have hlength := congrArg List.length h
  rw [htake, List.length_append, List.length_drop] at hlength
  have hsame : (attemptDigits n).length = (attemptDigits m).length := by omega
  rw [htake, List.drop_eq_nil_of_le (by omega), List.nil_append] at h
  exact hnm.ne (attemptDigits_injective h)

/-! ### Fresh names -/

/-- Two attempts give names, and these and the requested name all differ. -/
def RetriesAreFresh (name : DomainName) (n m : ℕ) : Prop :=
  ∃ first second, createRetryDomainName name n = some first ∧
    createRetryDomainName name m = some second ∧
    first.key ≠ name.key ∧ second.key ≠ name.key ∧ first.key ≠ second.key

theorem key_retry_eq_iff {first second : DomainName} {l l' : Label}
    (hfirst : first.labels = l :: rest) (hsecond : second.labels = l' :: rest) :
    first.key = second.key ↔ l.map toLower = l'.map toLower := by
  rw [DomainName.key, DomainName.key, hfirst, hsecond, List.map_cons, List.map_cons,
    List.cons.injEq, and_iff_left rfl]

/-- **The names of two attempts are names and fresh exactly if both are within the limit, the label
does not end in either number with no room left, and the two numbers do not collide.** -/
theorem retriesAreFresh_iff (hname : name.labels = label :: rest) (hnm : n < m)
    (hm : m < 2 ^ 31) :
    RetriesAreFresh name n m ↔
      (RetryFits label rest n ∧ RetryFits label rest m) ∧
      ¬EndsInAttempt label n ∧ ¬EndsInAttempt label m ∧ ¬AttemptsCollide label n m := by
  have hn : n < 2 ^ 31 := hnm.trans hm
  have hlabel : label.length ≤ 63 :=
    (isValidDomainLabel_iff.mp (name.valid label (hname ▸ List.mem_cons_self ..))).2
  rw [← exists_createRetryDomainName_iff hname hn, ← exists_createRetryDomainName_iff hname hm,
    ← map_toLower_retryLabel_eq_iff hn hlabel, ← map_toLower_retryLabel_eq_iff hm hlabel,
    ← map_toLower_retryLabel_inj_iff hnm hm]
  constructor
  · rintro ⟨first, second, hfirst, hsecond, hne, hne', hdiffer⟩
    refine ⟨⟨⟨first, hfirst⟩, ⟨second, hsecond⟩⟩, ?_⟩
    rw [createRetryDomainName_eq_some_iff hname] at hfirst
    rw [createRetryDomainName_eq_some_iff hname] at hsecond
    rw [← key_retry_eq_iff hfirst hname, ← key_retry_eq_iff hsecond hname,
      ← key_retry_eq_iff hfirst hsecond]
    exact ⟨hne, hne', hdiffer⟩
  · rintro ⟨⟨⟨first, hfirst⟩, ⟨second, hsecond⟩⟩, hne, hne', hdiffer⟩
    refine ⟨first, second, hfirst, hsecond, ?_⟩
    rw [createRetryDomainName_eq_some_iff hname] at hfirst
    rw [createRetryDomainName_eq_some_iff hname] at hsecond
    rw [Ne, Ne, Ne, key_retry_eq_iff hfirst hname, key_retry_eq_iff hsecond hname,
      key_retry_eq_iff hfirst hsecond]
    exact ⟨hne, hne', hdiffer⟩

/-- `cast.local`. -/
def castLocal : DomainName :=
  ⟨[[99, 97, 115, 116], [108, 111, 99, 97, 108]], by decide, by decide⟩

theorem retriesAreFresh_castLocal : RetriesAreFresh castLocal 1 2 :=
  (retriesAreFresh_iff
    (show castLocal.labels = [99, 97, 115, 116] :: [[108, 111, 99, 97, 108]] from rfl)
    (by decide) (by decide)).mpr
    ⟨⟨by unfold RetryFits; decide, by unfold RetryFits; decide⟩,
      fun h => absurd h.1 (by decide), fun h => absurd h.1 (by decide),
      fun h => absurd h.1 (by decide)⟩

/-- A full label of `a`s and a `1`, in `local`. -/
def fullLabelLocal : DomainName :=
  ⟨[List.replicate 62 97 ++ [49], [108, 111, 99, 97, 108]], by decide, by decide⟩

/-- The first retry of that name is that name. -/
theorem not_retriesAreFresh_fullLabel : ¬RetriesAreFresh fullLabelLocal 1 2 := by
  rintro ⟨first, -, hfirst, -, hne, -, -⟩
  have hretry : createRetryDomainName fullLabelLocal 1 = some fullLabelLocal := by decide
  rw [hretry] at hfirst
  cases hfirst
  exact hne rfl

end StreamerPlus.Discovery
