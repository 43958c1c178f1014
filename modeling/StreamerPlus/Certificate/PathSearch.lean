import StreamerPlus.Certificate.CertificateChain

/-!
# The search for a certificate path

The search of `FindCertificatePath` has a stack of certificates, each with the indices from which to
go on if it is taken back. One iteration tries an anchor, puts an intermediate certificate on the
stack, takes one off, or ends (`SearchStep`).

It always ends, whatever `path_head` is. The choices at a level of the stack are the anchors and
then the intermediate certificates, in a fixed order, and are never made again while the levels
below stay. The intermediate certificates on the stack have names of their own, so that it has at
most as many levels as there are intermediate certificates, and the path vector is large enough.

## Main results

* `search_returns` : the search ends, without an access outside of the path.
* `findCertificatePath_sound` : so does `FindCertificatePath`, and a path that it returns is sound
  (`IsSoundPath`) exactly if the key usage extensions of its issuers parse. One that does not parse
  is passed over, as if it were not there.
* `not_isSoundPath_invalidKeyUsage` : a path that is returned with such an extension.
-/

namespace StreamerPlus.Certificate

open Checked

/-! ### Looking from an index on -/

/-- What is found is the first element with `p` of what is left. -/
theorem findFrom_eq_some {α : Type} {p : α → Bool} {l : List α} {start i : ℕ} {a : α}
    (h : findFrom p l start = some (i, a)) :
    p a ∧ start ≤ i ∧ i < l.length ∧
      ∃ skipped, l.drop start = skipped ++ a :: l.drop (i + 1) ∧ ∀ b ∈ skipped, ¬ p b := by
  obtain ⟨⟨a', i'⟩, hfind, heq⟩ := Option.map_eq_some_iff.mp h
  obtain ⟨rfl, rfl⟩ := Prod.mk.inj heq
  obtain ⟨hp, before, after, hsplit, hbefore⟩ := List.find?_eq_some_iff_append.mp hfind
  have hindex : (l.zipIdx.drop start)[before.length]? = some (a', i') := by
    rw [hsplit]
    simp
  rw [List.getElem?_drop, List.getElem?_zipIdx] at hindex
  obtain ⟨b, hb, hbi⟩ := Option.map_eq_some_iff.mp hindex
  obtain ⟨rfl, hi⟩ := Prod.mk.inj hbi
  have hlt := (List.getElem?_eq_some_iff.mp hb).1
  have hi : i' = start + before.length := by omega
  refine ⟨by simpa using hp, by omega, by omega, before.map Prod.fst, ?_, fun c hc => ?_⟩
  · have hmap := congrArg (List.map Prod.fst) hsplit
    rw [List.map_drop, List.zipIdx_map_fst] at hmap
    rw [hmap, List.map_append, List.map_cons]
    congr 2
    -- what stands after the element found is what is left after its index
    have hdrop : l.drop (i' + 1) = (l.drop start).drop (before.length + 1) := by
      rw [List.drop_drop, hi]
      congr 1
    rw [hdrop, hmap, List.map_append, List.map_cons, List.drop_append]
    simp
  · obtain ⟨e, he, rfl⟩ := List.mem_map.mp hc
    simpa using hbefore e he

/-- An element with `p` that is left is the one that is found, or is left behind it. -/
theorem mem_drop_of_findFrom {α : Type} {p : α → Bool} {l : List α} {start i : ℕ} {a b : α}
    (h : findFrom p l start = some (i, a)) (hb : b ∈ l.drop start) (hp : p b) :
    b = a ∨ b ∈ l.drop (i + 1) := by
  obtain ⟨-, -, -, skipped, hdrop, hskipped⟩ := findFrom_eq_some h
  rw [hdrop] at hb
  rcases List.mem_append.mp hb with hb | hb
  · exact absurd hp (hskipped b hb)
  · exact List.mem_cons.mp hb

/-- If nothing is found, nothing that is left has `p`. -/
theorem findFrom_eq_none {α : Type} {p : α → Bool} {l : List α} {start : ℕ}
    (h : findFrom p l start = none) : ∀ b ∈ l.drop start, ¬ p b := by
  intro b hb
  have hfind := Option.map_eq_none_iff.mp h
  rw [List.find?_eq_none] at hfind
  have hmap : (l.zipIdx.drop start).map Prod.fst = l.drop start := by
    rw [List.map_drop, List.zipIdx_map_fst]
  rw [← hmap] at hb
  obtain ⟨e, he, rfl⟩ := List.mem_map.mp hb
  simpa using hfind e he

section

variable {X509 Name DateTime Key NameConstraints : Type} [DecidableEq Name] [LinearOrder DateTime]
  {lib : CryptoLibrary X509 Name DateTime Key NameConstraints}

/-! ### One iteration -/

variable (lib) (certs intermediateCerts : List X509) (time : DateTime)

/-- What one iteration does, where the path has room for another certificate. -/
inductive SearchStep (s : Search X509) :
    Search X509 ⊕ Except PathFault (SearchResult X509) → Prop
  | rejected {i : ℕ} {anchor : X509} {code : ErrorCode}
      (next : s.nextAnchor lib certs = some (i, anchor))
      (verify : verifyCertificateChain lib intermediateCerts.length (s.chainFrom anchor) time =
        .error code) :
      SearchStep s (.inl ⟨anchor, s.steps, i + 1, 0, some code⟩)
  | accepted {i : ℕ} {anchor : X509} (next : s.nextAnchor lib certs = some (i, anchor))
      (verify : verifyCertificateChain lib intermediateCerts.length (s.chainFrom anchor) time =
        .ok ()) :
      SearchStep s (.inr (.ok (.ok (s.chainFrom anchor).reverse)))
  | push {i : ℕ} {cert : X509} (noAnchor : s.nextAnchor lib certs = none)
      (next : s.nextIntermediate lib intermediateCerts = some (i, cert)) :
      SearchStep s (.inl ⟨cert, ⟨cert, certs.length, i + 1⟩ :: s.steps, 0, 0, s.lastError⟩)
  | pop {lastStep step : CertPathStep X509} {steps : List (CertPathStep X509)}
      (noAnchor : s.nextAnchor lib certs = none)
      (noIntermediate : s.nextIntermediate lib intermediateCerts = none)
      (hsteps : s.steps = lastStep :: step :: steps) :
      SearchStep s (.inl ⟨s.pathHead, step :: steps, lastStep.trustStoreIndex,
        lastStep.intermediateCertIndex, s.lastError⟩)
  | exhausted (noAnchor : s.nextAnchor lib certs = none)
      (noIntermediate : s.nextIntermediate lib intermediateCerts = none)
      (hsteps : s.steps.length ≤ 1) :
      SearchStep s (.inr (.ok (.error (s.lastError.getD .errCertsVerifyUntrustedCert))))

variable {lib certs intermediateCerts time}

theorem searchStep_searchBody {s : Search X509}
    (hroom : s.steps.length < pathSize intermediateCerts) :
    SearchStep lib certs intermediateCerts time s
      (searchBody lib certs intermediateCerts time s) := by
  unfold searchBody
  cases hanchor : s.nextAnchor lib certs with
  | some found =>
    obtain ⟨i, anchor⟩ := found
    simp only [if_neg hroom.ne]
    cases hverify : verifyCertificateChain lib intermediateCerts.length (s.chainFrom anchor)
      time with
    | error code => exact .rejected hanchor hverify
    | ok => exact .accepted hanchor hverify
  | none =>
    cases hnext : s.nextIntermediate lib intermediateCerts with
    | some found =>
      obtain ⟨i, cert⟩ := found
      simp only [if_neg hroom.ne]
      exact .push hanchor hnext
    | none =>
      simp only
      split
      · next hsteps => exact .pop hanchor hnext hsteps
      · next hsteps =>
        refine .exhausted hanchor hnext ?_
        rcases hlist : s.steps with _ | ⟨step, _ | ⟨step', steps⟩⟩
        · simp
        · simp
        · exact absurd hlist (hsteps step step' steps)

/-! ### The stack -/

variable (lib certs intermediateCerts)

/-- The stack stands on the target. Above it are intermediate certificates with names of their own,
and the indices to go on from are in range. -/
structure Search.Stacked (target : X509) (s : Search X509) : Prop where
  stack : ∃ above, s.steps = above ++ [⟨target, 0, 0⟩] ∧
    (∀ step ∈ above, step.cert ∈ intermediateCerts ∧ step.trustStoreIndex = certs.length ∧
      step.intermediateCertIndex ≤ intermediateCerts.length) ∧
    (above.map fun step => lib.subjectName step.cert).Nodup
  trustStoreIndex_le : s.trustStoreIndex ≤ certs.length
  intermediateCertIndex_le : s.intermediateCertIndex ≤ intermediateCerts.length
  anchorsFirst : s.intermediateCertIndex = 0 ∨ s.trustStoreIndex = certs.length

variable {lib certs intermediateCerts}
variable {target : X509} {s s' : Search X509}

omit [DecidableEq Name] [LinearOrder DateTime] in
theorem stacked_start (target : X509) :
    (Search.start target).Stacked lib certs intermediateCerts target :=
  ⟨⟨[], rfl, by simp, by simp⟩, Nat.zero_le _, Nat.zero_le _, .inl rfl⟩

omit [DecidableEq Name] [LinearOrder DateTime] in
section

variable (h : s.Stacked lib certs intermediateCerts target)
include h

theorem Search.Stacked.exists_cons : ∃ top rest, s.steps = top :: rest := by
  obtain ⟨above, hsteps, -⟩ := h.stack
  cases above with
  | nil => exact ⟨_, _, hsteps⟩
  | cons top rest => exact ⟨_, _, hsteps⟩

omit [DecidableEq Name] [LinearOrder DateTime] in
/-- There are at most as many certificates above the target as there are intermediate ones. -/
theorem Search.Stacked.length_le : s.steps.length ≤ intermediateCerts.length + 1 := by
  obtain ⟨above, hsteps, habove, hnodup⟩ := h.stack
  have hsub : (above.map fun step => lib.subjectName step.cert) ⊆
      intermediateCerts.map lib.subjectName := by
    intro name hname
    obtain ⟨step, hstep, rfl⟩ := List.mem_map.mp hname
    exact List.mem_map_of_mem (habove step hstep).1
  have hlength := (hnodup.subperm hsub).length_le
  simp only [List.length_map] at hlength
  rw [hsteps, List.length_append, List.length_singleton]
  omega

omit [DecidableEq Name] [LinearOrder DateTime] in
theorem Search.Stacked.room : s.steps.length < pathSize intermediateCerts := by
  have := h.length_le
  rw [pathSize]
  omega

omit [DecidableEq Name] [LinearOrder DateTime] in
/-- Behind a certificate that is taken off the stack no anchor is left to be tried. -/
theorem Search.Stacked.trustStoreIndex_eq
    {lastStep step : CertPathStep X509} {steps : List (CertPathStep X509)}
    (hsteps : s.steps = lastStep :: step :: steps) : lastStep.trustStoreIndex = certs.length := by
  obtain ⟨above, hstack, habove, -⟩ := h.stack
  rcases above with _ | ⟨top, above⟩
  · rw [hsteps] at hstack
    simp at hstack
  · rw [hsteps, List.cons_append] at hstack
    obtain ⟨rfl, -⟩ := List.cons.inj hstack
    exact (habove lastStep List.mem_cons_self).2.1

end

omit [LinearOrder DateTime] in
theorem mem_of_nextAnchor {i : ℕ} {anchor : X509} (h : s.nextAnchor lib certs = some (i, anchor)) :
    anchor ∈ certs ∧ s.trustStoreIndex ≤ i ∧ i < certs.length := by
  obtain ⟨-, hle, hlt, skipped, hdrop, -⟩ := findFrom_eq_some h
  refine ⟨List.mem_of_mem_drop (i := s.trustStoreIndex) ?_, hle, hlt⟩
  rw [hdrop]
  simp

omit [LinearOrder DateTime] in
theorem mem_of_nextIntermediate {i : ℕ} {cert : X509}
    (h : s.nextIntermediate lib intermediateCerts = some (i, cert)) :
    cert ∈ intermediateCerts ∧ s.intermediateCertIndex ≤ i ∧ i < intermediateCerts.length ∧
      certInPath lib (lib.subjectName cert) s.steps = false := by
  obtain ⟨hp, hle, hlt, skipped, hdrop, -⟩ := findFrom_eq_some h
  simp only [Bool.and_eq_true, Bool.not_eq_true', decide_eq_true_eq] at hp
  refine ⟨List.mem_of_mem_drop (i := s.intermediateCertIndex) ?_, hle, hlt, hp.2⟩
  rw [hdrop]
  simp

/-- Every iteration keeps the stack. -/
theorem Search.Stacked.step (h : s.Stacked lib certs intermediateCerts target)
    (hstep : SearchStep lib certs intermediateCerts time s (.inl s')) :
    s'.Stacked lib certs intermediateCerts target := by
  cases hstep with
  | rejected next => exact ⟨h.stack, (mem_of_nextAnchor next).2.2, Nat.zero_le _, .inl rfl⟩
  | @push i cert noAnchor next =>
    obtain ⟨hmem, -, hlt, hnew⟩ := mem_of_nextIntermediate next
    obtain ⟨above, hsteps, habove, hnodup⟩ := h.stack
    refine ⟨⟨⟨cert, certs.length, i + 1⟩ :: above, by rw [hsteps]; rfl, ?_, ?_⟩,
      Nat.zero_le _, Nat.zero_le _, .inl rfl⟩
    · intro step hstep
      rcases List.mem_cons.mp hstep with rfl | hstep
      · exact ⟨hmem, rfl, hlt⟩
      · exact habove step hstep
    · refine List.nodup_cons.mpr ⟨fun hold => ?_, hnodup⟩
      -- the name would be found in the path
      obtain ⟨step, hstep, hname⟩ := List.mem_map.mp hold
      rw [certInPath, hsteps, List.dropLast_concat, List.any_eq_false] at hnew
      exact hnew step hstep (by simpa using hname)
  | @pop lastStep step steps noAnchor noIntermediate hpop =>
    obtain ⟨above, hsteps, habove, hnodup⟩ := h.stack
    rcases above with _ | ⟨top, above⟩
    · rw [hpop] at hsteps
      simp at hsteps
    · rw [hpop, List.cons_append] at hsteps
      obtain ⟨rfl, hrest⟩ := List.cons.inj hsteps
      obtain ⟨-, htrust, hle⟩ := habove lastStep List.mem_cons_self
      exact ⟨⟨above, hrest, fun step hstep => habove step (List.mem_cons_of_mem _ hstep),
        (List.nodup_cons.mp hnodup).2⟩, htrust.le, hle, .inr htrust⟩

/-! ### The end of the search -/

/-- What the levels below the top of the stack have left, where a choice is worth `base` times all
choices above it. -/
def savedWork (choices base depth : ℕ) : List (CertPathStep X509) → ℕ
  | step :: next :: rest =>
    (choices - (step.trustStoreIndex + step.intermediateCertIndex)) * base ^ (depth - rest.length) +
      savedWork choices base depth (next :: rest)
  | _ => 0

variable (certs intermediateCerts) in
/-- What the search has left to do. -/
def Search.work (s : Search X509) : ℕ :=
  let choices := certs.length + intermediateCerts.length + 1
  (choices - (s.trustStoreIndex + s.intermediateCertIndex)) *
      (choices + 1) ^ (intermediateCerts.length + 1 - (s.steps.length - 1)) +
    savedWork choices (choices + 1) (intermediateCerts.length + 1) s.steps

/-- A choice at a level outweighs everything at the level above it. -/
theorem pow_outweighs (choices : ℕ) {left left' depth level : ℕ} (hlevel : level < depth)
    (hleft : left < left') :
    choices * (choices + 1) ^ (depth - (level + 1)) + left * (choices + 1) ^ (depth - level) <
      left' * (choices + 1) ^ (depth - level) := by
  obtain ⟨k, hk⟩ : ∃ k, depth - level = k + 1 := ⟨depth - level - 1, by omega⟩
  have hk' : depth - (level + 1) = k := by omega
  have hpos : 0 < (choices + 1) ^ k := Nat.pow_pos (Nat.succ_pos choices)
  rw [hk, hk', pow_succ]
  calc choices * (choices + 1) ^ k + left * ((choices + 1) ^ k * (choices + 1))
      < (choices + 1) ^ k * (choices + 1) + left * ((choices + 1) ^ k * (choices + 1)) := by
        nlinarith
    _ = (left + 1) * ((choices + 1) ^ k * (choices + 1)) := by ring
    _ ≤ left' * ((choices + 1) ^ k * (choices + 1)) := Nat.mul_le_mul_right _ hleft

/-- **Every iteration leaves less to do.** -/
theorem Search.Stacked.work_lt (h : s.Stacked lib certs intermediateCerts target)
    (hstep : SearchStep lib certs intermediateCerts time s (.inl s')) :
    s'.work certs intermediateCerts < s.work certs intermediateCerts := by
  have htrust := h.trustStoreIndex_le
  have hintermediate := h.intermediateCertIndex_le
  have hroom := h.length_le
  obtain ⟨above, hstack, -, -⟩ := h.stack
  have hpos : 0 < s.steps.length := by simp [hstack]
  simp only [Search.work]
  generalize hchoices : certs.length + intermediateCerts.length + 1 = choices
  cases hstep with
  | @rejected i anchor code next verify =>
    obtain ⟨-, hle, hlt⟩ := mem_of_nextAnchor next
    -- no intermediate certificate has been tried at this level
    have hzero : s.intermediateCertIndex = 0 := h.anchorsFirst.resolve_right (by omega)
    refine Nat.add_lt_add_right (Nat.mul_lt_mul_of_pos_right ?_ (Nat.pow_pos choices.succ_pos)) _
    simp only
    omega
  | @push i cert noAnchor next =>
    obtain ⟨-, hle, hlt, -⟩ := mem_of_nextIntermediate next
    obtain ⟨bottom, rest, hsteps⟩ : ∃ bottom rest, s.steps = bottom :: rest :=
      List.exists_cons_of_length_pos hpos
    have hlevel : rest.length < intermediateCerts.length + 1 := by
      simp only [hsteps, List.length_cons] at hroom
      omega
    have hleft : choices - (certs.length + (i + 1)) <
        choices - (s.trustStoreIndex + s.intermediateCertIndex) := by omega
    have hweigh := pow_outweighs choices hlevel hleft
    simp only [hsteps, savedWork, List.length_cons, Nat.add_sub_cancel, Nat.add_zero,
      Nat.sub_zero] at hweigh ⊢
    omega
  | @pop lastStep step steps noAnchor noIntermediate hpop =>
    have hleft : 0 < choices - (s.trustStoreIndex + s.intermediateCertIndex) := by omega
    have hpow : 0 < (choices + 1) ^ (intermediateCerts.length + 1 - (steps.length + 1)) :=
      Nat.pow_pos choices.succ_pos
    have hcurrent := Nat.mul_pos hleft hpow
    simp only [hpop, savedWork, List.length_cons, Nat.add_sub_cancel]
    omega

/-- **The search ends**, and every iteration has room in the path. -/
theorem search_returns (lib : CryptoLibrary X509 Name DateTime Key NameConstraints)
    (certs intermediateCerts : List X509) (time : DateTime) (target : X509) :
    ∃ r, Loop.Returns (searchBody lib certs intermediateCerts time) (.start target) r :=
  Loop.Returns.of_measure (P := Search.Stacked lib certs intermediateCerts target)
    (Search.work certs intermediateCerts) (stacked_start target) fun _ _ hstacked hbody => by
      have hstep : SearchStep lib certs intermediateCerts time _ _ :=
        hbody ▸ searchStep_searchBody hstacked.room
      exact ⟨hstacked.step hstep, hstacked.work_lt hstep⟩

/-- Where an iteration begins, the stack is as it should be. -/
theorem stacked_of_visits
    (h : Loop.Visits (searchBody lib certs intermediateCerts time) (.start target) s) :
    s.Stacked lib certs intermediateCerts target :=
  h.invariant (stacked_start target) fun _ _ _ hstacked hbody =>
    hstacked.step (hbody ▸ searchStep_searchBody hstacked.room)

/-- A result comes from an iteration. -/
theorem searchStep_of_returns {r : Except PathFault (SearchResult X509)}
    (h : Loop.Returns (searchBody lib certs intermediateCerts time) (.start target) r) :
    ∃ s, Loop.Visits (searchBody lib certs intermediateCerts time) (.start target) s ∧
      SearchStep lib certs intermediateCerts time s (.inr r) := by
  obtain ⟨s, hvisits, hbody⟩ := h.exists_visits
  exact ⟨s, hvisits, hbody ▸ searchStep_searchBody (stacked_of_visits hvisits).room⟩

/-! ### Soundness -/

variable (lib certs time)

/-- A path from a target up to an anchor of the trust store. -/
structure IsSoundPath (path : List X509) : Prop where
  anchor : ∃ anchor ∈ path.getLast?, anchor ∈ certs
  signatures : path.IsChain fun subject issuer => SignatureVerifies lib issuer subject
  times : ∀ cert ∈ path.dropLast, IsValidAt lib time cert
  issuers : ∀ cert ∈ path.tail, IsIssuer lib cert
  pathlens : ∀ target between issuer above pathlen,
    path = target :: between ++ issuer :: above → HasPathlen lib issuer pathlen →
    between.countP (fun cert => ¬ IsSelfIssued lib cert) ≤ pathlen

variable {lib certs time}

omit [DecidableEq Name] in
theorem isValidAt_of_verifyTarget (h : verifyTarget lib target time = .ok ()) :
    IsValidAt lib time target := by
  obtain ⟨_, htime, -⟩ := bind_eq_ok.mp h
  exact isValidAt_of_verifyCertTime htime

/-- A chain that is accepted, from an anchor down to a valid target, is sound if the key usage
extensions of its issuers parse. -/
theorem isSoundPath_of_accepted {intermediateCount : ℕ} {anchor : X509} {between : List X509}
    (hanchor : anchor ∈ certs) (htarget : IsValidAt lib time target)
    (haccepted : verifyCertificateChain lib intermediateCount (anchor :: between ++ [target]) time =
      .ok ())
    (hparses : ∀ cert ∈ (anchor :: between ++ [target]).reverse.tail,
      lib.keyUsage cert ≠ .invalid) :
    IsSoundPath lib certs time (anchor :: between ++ [target]).reverse := by
  obtain ⟨out, hlinks, -⟩ := bind_eq_ok.mp haccepted
  have hverified := verified_of_verifyLinks (by simp) hlinks
  have hissuers := hverified.issuers
  have htimes := hverified.times
  simp only [List.dropLast_concat, if_true, List.tail_cons] at hissuers htimes
  have hreverse : (anchor :: between ++ [target]).reverse =
      (target :: between.reverse) ++ [anchor] := by simp
  refine ⟨⟨anchor, ?_, hanchor⟩, ?_, ?_, ?_, ?_⟩
  · rw [hreverse, List.getLast?_concat]
    rfl
  · exact List.isChain_reverse.mpr hverified.signatures
  · intro cert hcert
    rw [hreverse, List.dropLast_concat] at hcert
    rcases List.mem_cons.mp hcert with rfl | hcert
    · exact htarget
    · exact htimes cert (List.mem_reverse.mp hcert)
  · intro cert hcert
    refine hissuers cert ?_ (hparses cert hcert)
    simpa [or_comm] using hcert
  · intro target' between' issuer above pathlen hpath hpathlen
    have hchain := congrArg List.reverse hpath
    rw [List.reverse_reverse] at hchain
    have hsplit : anchor :: between ++ [target] =
        above.reverse ++ issuer :: (between'.reverse ++ [target']) := by
      rw [hchain]
      simp
    have hcount := hverified.pathlen hsplit (by simp) hpathlen
    rwa [List.dropLast_concat, List.countP_reverse] at hcount

/-- A sound path has no issuer whose key usage extension does not parse. -/
theorem IsSoundPath.keyUsage_ne_invalid {path : List X509} (h : IsSoundPath lib certs time path) :
    ∀ cert ∈ path.tail, lib.keyUsage cert ≠ .invalid := by
  intro cert hcert hinvalid
  obtain ⟨keyUsage, husage, -⟩ := (h.issuers cert hcert).keyCertSign (by simp [hinvalid])
  simp [hinvalid] at husage

/-- **`FindCertificatePath` ends, and when its result is sound.** For any certificates it ends,
without an access outside of its path, and a path that it returns is sound if and only if no issuer
in it has a key usage extension that does not parse. -/
theorem findCertificatePath_sound
    (lib : CryptoLibrary X509 Name DateTime Key NameConstraints) (certs : List X509)
    (time : DateTime) (derCerts : List (Option X509)) :
    ∃ n result, findCertificatePath lib certs time derCerts n = some (.ok result) ∧
      ∀ path, result = .ok path →
        (IsSoundPath lib certs time path ↔ ∀ cert ∈ path.tail, lib.keyUsage cert ≠ .invalid) := by
  unfold findCertificatePath
  split
  · exact ⟨0, _, rfl, nofun⟩
  · exact ⟨0, _, rfl, nofun⟩
  · next target rest =>
    split
    · exact ⟨0, _, rfl, nofun⟩
    · next intermediateCerts _ =>
      split
      · exact ⟨0, _, rfl, nofun⟩
      · next hverify =>
        obtain ⟨r, hr⟩ := search_returns lib certs intermediateCerts time target
        obtain ⟨s, hvisits, hstep⟩ := searchStep_of_returns hr
        obtain ⟨above, hsteps, -⟩ := (stacked_of_visits hvisits).stack
        obtain ⟨n, hn⟩ := hr
        cases hstep with
        | @accepted i anchor next verify =>
          refine ⟨n, _, hn, fun path hpath => ⟨IsSoundPath.keyUsage_ne_invalid, ?_⟩⟩
          cases hpath
          have hchain : s.chainFrom anchor = anchor :: above.map (·.cert) ++ [target] := by
            simp [Search.chainFrom, hsteps]
          rw [hchain] at verify ⊢
          exact isSoundPath_of_accepted (mem_of_nextAnchor next).1
            (isValidAt_of_verifyTarget hverify) verify
        | exhausted => exact ⟨n, _, hn, nofun⟩

end

/-! ### A key usage extension that does not parse -/

/-- An anchor, a target, and an intermediate certificate between them. -/
def sampleAnchor : SampleCert := ⟨0, 0, none⟩
def sampleIntermediate : SampleCert := ⟨1, 0, none⟩
def sampleTarget : SampleCert := ⟨2, 1, none⟩

/-- The key usage extension of the intermediate certificate does not parse. -/
def invalidKeyUsageLibrary : CryptoLibrary SampleCert ℕ ℕ Unit ℕ :=
  { sampleLibrary with
    keyUsage := fun cert =>
      if cert = sampleIntermediate then .invalid else .value fun _ => true }

/-- The path over this intermediate certificate is returned. -/
theorem not_isSoundPath_invalidKeyUsage :
    findCertificatePath invalidKeyUsageLibrary [sampleAnchor] 50
        [some sampleTarget, some sampleIntermediate] 3 =
      some (.ok (.ok [sampleTarget, sampleIntermediate, sampleAnchor])) ∧
    ¬ IsSoundPath invalidKeyUsageLibrary [sampleAnchor] 50
      [sampleTarget, sampleIntermediate, sampleAnchor] := by
  refine ⟨by decide, fun h => ?_⟩
  exact h.keyUsage_ne_invalid sampleIntermediate (by simp) rfl

end StreamerPlus.Certificate
