import StreamerPlus.Certificate.TrustStore

/-!
# What an accepted chain guarantees

`VerifyCertificateChain` walks down a chain from its anchor. One iteration looks at an issuer and at
the certificate below it, its subject (`LinkOk` says all that it checks); it carries along how many
more intermediate certificates may follow and the name constraints that it has met. `Verified` is a
walk in which every iteration succeeds, and the results are by induction over it.

An iteration checks the *subject* against the name constraints of the issuers above the *issuer*,
and only if the issuer is not self-issued; the constraints of the issuer itself come after that
check. What stands directly below a certificate, and what stands below a self-issued one, is not
checked against its constraints unless it is the target.

## Main results

* `Verified.countP_le`, `Verified.pathlen` : the path length constraints hold.
* `namesBound_iff` : in an accepted chain the name constraints hold for every certificate that they
  should exactly if they hold for the certificates that the loop does not look at.
* `not_namesBound_intermediate` : an accepted chain with an intermediate certificate that violates
  the constraints of its anchor.
-/

namespace StreamerPlus.Certificate

open Checked

section

variable {X509 Name DateTime Key NameConstraints : Type} [DecidableEq Name] [LinearOrder DateTime]
  (lib : CryptoLibrary X509 Name DateTime Key NameConstraints)

/-! ### What is checked -/

/-- The certificate is valid at a time. -/
def IsValidAt (time : DateTime) (cert : X509) : Prop :=
  ∃ notBefore ∈ lib.notBeforeTime cert, ∃ notAfter ∈ lib.notAfterTime cert,
    notBefore ≤ time ∧ time ≤ notAfter

/-- The certificate may be an issuer: it has the CA flag, the usage `keyCertSign` if there is a key
usage extension, a key that is long enough and no critical extension that nobody looks at. -/
structure IsIssuer (cert : X509) : Prop where
  ca : ∃ basicConstraints, lib.basicConstraints cert = .value basicConstraints ∧ basicConstraints.ca
  keyCertSign : lib.keyUsage cert ≠ .absent →
    ∃ keyUsage, lib.keyUsage cert = .value keyUsage ∧ keyUsage kKeyCertSign
  keyLength : kMinRsaModulusLengthBits ≤ lib.pkeyBits (lib.pubkey cert)
  extensions : HasNoUnhandledExtension lib cert

/-- The certificate has a path length constraint. -/
def HasPathlen (cert : X509) (pathlen : ℤ) : Prop :=
  ∃ basicConstraints, lib.basicConstraints cert = .value basicConstraints ∧
    basicConstraints.pathlen = some pathlen

/-- What one iteration of `VerifyCertificateChain` checks, and what it goes on with. A key usage
extension that does not parse is not told apart from one that is not there, and nothing is asked of
the issuer then. -/
structure LinkOk (time : DateTime) (isRoot : Bool) (issuer subject : X509) (maxPathlen : ℕ)
    (constraints : List NameConstraints) (maxPathlen' : ℕ) (constraints' : List NameConstraints) :
    Prop where
  valid : isRoot = false → IsValidAt lib time issuer
  mayIssue : lib.keyUsage issuer ≠ .invalid → IsIssuer lib issuer
  descends : maxPathlen' + (if isRoot ∨ IsSelfIssued lib issuer then 0 else 1) ≤ maxPathlen
  pathlen : ∀ pathlen, HasPathlen lib issuer pathlen → maxPathlen' ≤ pathlen
  names : isRoot = false → ¬ IsSelfIssued lib issuer →
    ∀ nameConstraints ∈ constraints, lib.nameConstraintsCheck subject nameConstraints
  collects : constraints' = constraints ++ (lib.nameConstraints issuer).value?.toList
  signature : SignatureVerifies lib issuer subject

variable {lib}

section Pieces

variable {time : DateTime} {isRoot selfIssued : Bool} {issuer subject cert : X509}
  {maxPathlen maxPathlen' : ℕ} {constraints constraints' : List NameConstraints}

omit [DecidableEq Name] in
theorem isValidAt_of_verifyCertTime (h : verifyCertTime lib cert time = .ok ()) :
    IsValidAt lib time cert := by
  unfold verifyCertTime at h
  split at h
  · next notBefore notAfter hbefore hafter =>
    rw [require_eq_ok, not_or, not_lt, not_lt] at h
    exact ⟨notBefore, hbefore, notAfter, hafter, h⟩
  · cases h

theorem enterIssuer_eq_ok
    (h : enterIssuer lib time isRoot issuer maxPathlen = .ok (selfIssued, maxPathlen')) :
    (isRoot = false → IsValidAt lib time issuer) ∧ (selfIssued ↔ isRoot ∨ IsSelfIssued lib issuer) ∧
      maxPathlen' + (if isRoot ∨ IsSelfIssued lib issuer then 0 else 1) = maxPathlen := by
  unfold enterIssuer at h
  by_cases hroot : isRoot = true
  · rw [if_pos hroot] at h
    cases h
    simp [hroot]
  · rw [if_neg hroot] at h
    obtain ⟨_, htime, h⟩ := bind_eq_ok.mp h
    refine ⟨fun _ => isValidAt_of_verifyCertTime htime, ?_⟩
    by_cases hself : IsSelfIssued lib issuer
    · rw [if_pos hself] at h
      cases h
      simp [hself]
    · rw [if_neg hself] at h
      obtain ⟨hne, h⟩ := require_bind_eq_ok.mp h
      cases h
      have hother : ¬ (isRoot = true ∨ IsSelfIssued lib issuer) := not_or.mpr ⟨hroot, hself⟩
      rw [if_neg hother]
      exact ⟨by simp [hother], by omega⟩

omit [DecidableEq Name] [LinearOrder DateTime] in
theorem keyCertSign_of_verifyKeyUsage (h : verifyKeyUsage lib issuer = .ok ())
    (hparses : lib.keyUsage issuer ≠ .invalid) (hthere : lib.keyUsage issuer ≠ .absent) :
    ∃ keyUsage, lib.keyUsage issuer = .value keyUsage ∧ keyUsage kKeyCertSign := by
  cases husage : lib.keyUsage issuer with
  | absent => exact absurd husage hthere
  | invalid => exact absurd husage hparses
  | value keyUsage =>
    rw [verifyKeyUsage, husage] at h
    exact ⟨keyUsage, rfl, require_eq_ok.mp h⟩

omit [DecidableEq Name] [LinearOrder DateTime] in
theorem verifyBasicConstraints_eq_ok
    (h : verifyBasicConstraints lib issuer maxPathlen = .ok maxPathlen') :
    (∃ basicConstraints, lib.basicConstraints issuer = .value basicConstraints ∧
      basicConstraints.ca) ∧ maxPathlen' ≤ maxPathlen ∧
      ∀ pathlen, HasPathlen lib issuer pathlen → maxPathlen' ≤ pathlen := by
  unfold verifyBasicConstraints at h
  cases hdecoded : lib.basicConstraints issuer with
  | absent => simp [hdecoded, Decoded.value?] at h
  | invalid => simp [hdecoded, Decoded.value?] at h
  | value basicConstraints =>
    simp only [hdecoded, Decoded.value?] at h
    obtain ⟨hca, h⟩ := require_bind_eq_ok.mp h
    refine ⟨⟨basicConstraints, rfl, hca⟩, ?_⟩
    -- the constraint that the certificate has is the one that was read
    have hpathlen : ∀ pathlen, HasPathlen lib issuer pathlen →
        basicConstraints.pathlen = some pathlen := by
      rintro pathlen ⟨other, hother, hsome⟩
      rw [hdecoded, Decoded.value.injEq] at hother
      exact hother ▸ hsome
    cases hread : basicConstraints.pathlen with
    | none =>
      simp only [hread, Except.ok.injEq] at h
      refine ⟨h.ge, fun pathlen hlen => ?_⟩
      have := hpathlen pathlen hlen
      rw [hread] at this
      cases this
    | some n =>
      simp only [hread, asn1IntegerGetUint64] at h
      split_ifs at h with hrange
      · obtain ⟨-, h⟩ := require_bind_eq_ok.mp h
        have hmin : maxPathlen' ≤ n.toNat ∧ maxPathlen' ≤ maxPathlen := by
          rw [Except.ok.injEq] at h
          split_ifs at h <;> omega
        refine ⟨hmin.2, fun pathlen hlen => ?_⟩
        obtain rfl : n = pathlen := Option.some.inj (hread.symm.trans (hpathlen pathlen hlen))
        omega

omit [DecidableEq Name] [LinearOrder DateTime] in
theorem collectNameConstraints_eq_ok
    (h : collectNameConstraints lib issuer constraints = .ok constraints') :
    constraints' = constraints ++ (lib.nameConstraints issuer).value?.toList := by
  unfold collectNameConstraints at h
  split at h
  · next hdecoded =>
    cases h
    simp [hdecoded, Decoded.value?]
  · cases h
  · next hdecoded =>
    cases h
    simp [hdecoded, Decoded.value?]

omit [DecidableEq Name] [LinearOrder DateTime] in
theorem signatureVerifies_of_verifySignature (h : verifySignature lib issuer subject = .ok ()) :
    SignatureVerifies lib issuer subject := by
  unfold verifySignature at h
  split at h
  · next digest tbs hdigest htbs =>
    exact ⟨digest, hdigest, tbs, htbs, require_eq_ok.mp h⟩
  · cases h

/-- **One iteration.** -/
theorem linkOk_of_verifyLink (h : verifyLink lib time isRoot issuer subject maxPathlen constraints =
      .ok (maxPathlen', constraints')) :
    LinkOk lib time isRoot issuer subject maxPathlen constraints maxPathlen' constraints' := by
  unfold verifyLink at h
  obtain ⟨⟨selfIssued, entered⟩, henter, h⟩ := bind_eq_ok.mp h
  obtain ⟨_, husage, h⟩ := bind_eq_ok.mp h
  obtain ⟨left, hbasic, h⟩ := bind_eq_ok.mp h
  obtain ⟨-, h⟩ := require_bind_eq_ok.mp h
  obtain ⟨hlength, h⟩ := require_bind_eq_ok.mp h
  obtain ⟨hnames, h⟩ := require_bind_eq_ok.mp h
  obtain ⟨collected, hcollect, h⟩ := bind_eq_ok.mp h
  obtain ⟨_, -, h⟩ := bind_eq_ok.mp h
  obtain ⟨hextensions, h⟩ := require_bind_eq_ok.mp h
  obtain ⟨_, hsignature, h⟩ := bind_eq_ok.mp h
  cases h
  obtain ⟨htime, hself, hdescends⟩ := enterIssuer_eq_ok henter
  obtain ⟨hca, hle, hpathlen⟩ := verifyBasicConstraints_eq_ok hbasic
  exact {
    valid := htime
    mayIssue := fun hparses => {
      ca := hca
      keyCertSign := keyCertSign_of_verifyKeyUsage husage hparses
      keyLength := by simpa [verifyPublicKeyLength] using hlength
      extensions := hextensions }
    descends := by omega
    pathlen := hpathlen
    names := fun hroot hnotself => hnames (by
      rw [Bool.not_eq_true', Bool.eq_false_iff, Ne, hself]
      simp [hroot, hnotself])
    collects := collectNameConstraints_eq_ok hcollect
    signature := signatureVerifies_of_verifySignature hsignature }

end Pieces

/-! ### Walks down a chain -/

variable (lib)

/-- A walk of `VerifyCertificateChain` down a chain, from a number of intermediate certificates that
may follow and the name constraints met so far to those met in the end. -/
inductive Verified (time : DateTime) :
    Bool → ℕ → List NameConstraints → List X509 → List NameConstraints → Prop
  | target (isRoot : Bool) (maxPathlen : ℕ) (constraints : List NameConstraints) (cert : X509) :
      Verified time isRoot maxPathlen constraints [cert] constraints
  | link {isRoot : Bool} {maxPathlen maxPathlen' : ℕ}
      {constraints constraints' out : List NameConstraints} {issuer subject : X509}
      {rest : List X509}
      (ok : LinkOk lib time isRoot issuer subject maxPathlen constraints maxPathlen' constraints')
      (below : Verified time false maxPathlen' constraints' (subject :: rest) out) :
      Verified time isRoot maxPathlen constraints (issuer :: subject :: rest) out

variable {lib} {time : DateTime} {isRoot : Bool} {maxPathlen : ℕ}
  {constraints out : List NameConstraints} {chain : List X509}

theorem verified_of_verifyLinks (hne : chain ≠ [])
    (h : verifyLinks lib time isRoot maxPathlen constraints chain = .ok out) :
    Verified lib time isRoot maxPathlen constraints chain out := by
  induction chain generalizing isRoot maxPathlen constraints with
  | nil => exact absurd rfl hne
  | cons issuer rest ih =>
    cases rest with
    | nil =>
      cases h
      exact .target _ _ _ _
    | cons subject rest =>
      obtain ⟨⟨maxPathlen', constraints'⟩, hlink, h⟩ := bind_eq_ok.mp h
      exact .link (linkOk_of_verifyLink hlink) (ih (List.cons_ne_nil _ _) h)

section

variable (h : Verified lib time isRoot maxPathlen constraints chain out)
include h

/-- The signatures verify. -/
theorem Verified.signatures : chain.IsChain (SignatureVerifies lib) := by
  induction h with
  | target => exact List.isChain_singleton _
  | link ok _ ih => exact List.isChain_cons_cons.mpr ⟨ok.signature, ih⟩

/-- Every certificate with another one below it may be an issuer, unless its key usage extension
does not parse. -/
theorem Verified.issuers :
    ∀ cert ∈ chain.dropLast, lib.keyUsage cert ≠ .invalid → IsIssuer lib cert := by
  induction h with
  | target => simp
  | link ok _ ih =>
    intro cert hcert
    rcases List.mem_cons.mp hcert with rfl | hcert
    · exact ok.mayIssue
    · exact ih cert hcert

/-- Every issuer but a root is valid. -/
theorem Verified.times :
    ∀ cert ∈ if isRoot then chain.dropLast.tail else chain.dropLast, IsValidAt lib time cert := by
  induction h with
  | target => simp
  | @link isRoot _ _ _ _ _ issuer _ _ ok _ ih =>
    rw [List.dropLast_cons_cons, List.tail_cons]
    cases isRoot with
    | true => exact ih
    | false =>
      intro cert hcert
      rcases List.mem_cons.mp hcert with rfl | hcert
      · exact ok.valid rfl
      · exact ih cert hcert

/-- At most `maxPathlen` intermediate certificates follow that are not self-issued. -/
theorem Verified.countP_le (hroot : isRoot = false) :
    chain.dropLast.countP (fun cert => ¬ IsSelfIssued lib cert) ≤ maxPathlen := by
  induction h with
  | target => simp
  | @link _ _ _ _ _ _ issuer _ _ ok _ ih =>
    have hrest := ih rfl
    have hdescends := ok.descends
    rw [List.dropLast_cons_cons, List.countP_cons]
    simp only [hroot, Bool.false_eq_true, false_or] at hdescends
    by_cases hself : IsSelfIssued lib issuer
    · simp only [hself, if_true, not_true_eq_false, decide_false, Bool.false_eq_true, if_false] at *
      omega
    · simp only [hself, if_false, not_false_eq_true, decide_true, if_true] at *
      omega

/-- **Path lengths.** Below a certificate with a path length constraint there are at most as many
intermediate certificates that are not self-issued. -/
theorem Verified.pathlen {above below : List X509} {issuer : X509} {pathlen : ℤ}
    (hchain : chain = above ++ issuer :: below) (hbelow : below ≠ [])
    (hpathlen : HasPathlen lib issuer pathlen) :
    below.dropLast.countP (fun cert => ¬ IsSelfIssued lib cert) ≤ pathlen := by
  induction h generalizing above with
  | target =>
    -- a chain of one certificate has nothing below it
    rcases above with _ | ⟨_, _⟩
    · exact absurd (List.cons.inj hchain).2.symm hbelow
    · simp at hchain
  | link ok hverified ih =>
    rcases above with _ | ⟨head, above⟩
    · obtain ⟨rfl, rfl⟩ := List.cons.inj hchain
      have hcount := hverified.countP_le rfl
      have hle := ok.pathlen pathlen hpathlen
      omega
    · exact ih (List.cons.inj hchain).2

/-! ### Name constraints -/

/-- Constraints from above the chain are checked from the second certificate on, where the one
before it is not self-issued. -/
theorem Verified.check_inherited
    {nameConstraints : NameConstraints} (hmem : nameConstraints ∈ constraints) {j : ℕ}
    {issuer subject : X509} (hissuer : chain[j]? = some issuer)
    (hsubject : chain[j + 1]? = some subject) (hroot : j = 0 → isRoot = false)
    (hself : ¬ IsSelfIssued lib issuer) : lib.nameConstraintsCheck subject nameConstraints := by
  induction h generalizing j with
  | target => simp at hsubject
  | link ok _ ih =>
    rcases j with _ | j
    · cases hissuer
      cases hsubject
      exact ok.names (hroot rfl) hself nameConstraints hmem
    · refine ih (j := j) (ok.collects ▸ List.mem_append_left _ hmem) ?_ ?_ (fun _ => rfl)
      · simpa using hissuer
      · simpa using hsubject

/-- Constraints of a certificate are checked from the second certificate below it on, where the one
before it is not self-issued. -/
theorem Verified.check_own
    {nameConstraints : NameConstraints} {i j : ℕ} {cert issuer subject : X509} (hij : i < j)
    (hcert : chain[i]? = some cert) (hissuer : chain[j]? = some issuer)
    (hsubject : chain[j + 1]? = some subject)
    (hconstraints : lib.nameConstraints cert = .value nameConstraints)
    (hself : ¬ IsSelfIssued lib issuer) : lib.nameConstraintsCheck subject nameConstraints := by
  induction h generalizing i j with
  | target => simp at hsubject
  | link ok hverified ih =>
    obtain ⟨j, rfl⟩ : ∃ k, j = k + 1 := ⟨j - 1, by omega⟩
    rw [List.getElem?_cons_succ] at hissuer hsubject
    rcases i with _ | i
    · cases hcert
      refine hverified.check_inherited ?_ hissuer hsubject (fun _ => rfl) hself
      rw [ok.collects, hconstraints]
      simp [Decoded.value?]
    · exact ih (i := i) (j := j) (by omega) (by simpa using hcert) hissuer hsubject

/-- All constraints but those of the target are met in the end. -/
theorem Verified.mem_out :
    constraints ⊆ out ∧ ∀ cert ∈ chain.dropLast, ∀ nameConstraints,
      lib.nameConstraints cert = .value nameConstraints → nameConstraints ∈ out := by
  induction h with
  | target => simp
  | link ok _ ih =>
    refine ⟨fun nc hnc => ih.1 (ok.collects ▸ List.mem_append_left _ hnc),
      fun cert hcert nc hnc => ?_⟩
    rcases List.mem_cons.mp hcert with rfl | hcert
    · refine ih.1 ?_
      rw [ok.collects, hnc]
      simp [Decoded.value?]
    · exact ih.2 cert hcert nc hnc

end

variable (lib)

/-- The name constraints of every certificate of a chain, its anchor first, hold for every
certificate below it that is not self-issued, and for the target. -/
def NamesBound (chain : List X509) : Prop :=
  ∀ i j cert other nameConstraints, i < j → chain[i]? = some cert → chain[j]? = some other →
    lib.nameConstraints cert = .value nameConstraints →
    (j + 1 = chain.length ∨ ¬ IsSelfIssued lib other) →
    lib.nameConstraintsCheck other nameConstraints

/-- The same for the certificates that are not self-issued and not the target, and stand directly
below the certificate with the constraints, or directly below a self-issued one. -/
def UncheckedNamesBound (chain : List X509) : Prop :=
  ∀ i j cert issuer other nameConstraints, i ≤ j → chain[i]? = some cert →
    chain[j]? = some issuer → chain[j + 1]? = some other →
    lib.nameConstraints cert = .value nameConstraints →
    j + 2 < chain.length → ¬ IsSelfIssued lib other → (i = j ∨ IsSelfIssued lib issuer) →
    lib.nameConstraintsCheck other nameConstraints

variable {lib}

/-- **When name constraints bind.** In a chain that `VerifyCertificateChain` accepts, the name
constraints of every certificate hold for each certificate below it that is not self-issued and for
the target, if and only if they hold for those that stand directly below the certificate or below a
self-issued one, which are not checked. -/
theorem namesBound_iff {intermediateCount : ℕ} {chain : List X509} {time : DateTime}
    (haccepted : verifyCertificateChain lib intermediateCount chain time = .ok ()) :
    NamesBound lib chain ↔ UncheckedNamesBound lib chain := by
  constructor
  · intro h i j cert issuer other nc hij hcert _ hother hnc _ hself _
    exact h i (j + 1) cert other nc (by omega) hcert hother hnc (.inr hself)
  · intro h i j cert other nc hij hcert hother hnc hchecked
    obtain ⟨out, hlinks, htarget⟩ := bind_eq_ok.mp haccepted
    rw [require_eq_ok] at htarget
    have hne : chain ≠ [] := by
      rintro rfl
      simp at hcert
    have hverified := verified_of_verifyLinks hne hlinks
    have hj : j < chain.length := (List.getElem?_eq_some_iff.mp hother).1
    by_cases hlast : j + 1 = chain.length
    · -- the target is checked against all constraints after the loop
      have hmem : cert ∈ chain.dropLast := by
        refine List.mem_of_getElem? (i := i) ?_
        rw [List.getElem?_dropLast, if_pos (by omega), hcert]
      refine htarget other ?_ nc (hverified.mem_out.2 cert hmem nc hnc)
      rw [List.getLast?_eq_getElem?, ← hlast, Nat.add_sub_cancel, hother]
      rfl
    · have hself := hchecked.resolve_left hlast
      obtain ⟨j, rfl⟩ : ∃ k, j = k + 1 := ⟨j - 1, by omega⟩
      obtain ⟨issuer, hissuer⟩ : ∃ issuer, chain[j]? = some issuer :=
        ⟨_, List.getElem?_eq_getElem (by omega)⟩
      by_cases hskipped : i = j ∨ IsSelfIssued lib issuer
      · exact h i j cert issuer other nc (by omega) hcert hissuer hother hnc (by omega) hself
          hskipped
      · rw [not_or] at hskipped
        exact hverified.check_own (by omega) hcert hissuer hother hnc hskipped.2

end

/-! ### An intermediate certificate outside of the permitted names -/

/-- A certificate with what the examples need: its names, which are numbers, and a number that no
name below it may have. -/
structure SampleCert where
  subject : ℕ
  issuer : ℕ
  excluded : Option ℕ
  deriving DecidableEq

/-- Certificates that are always valid, with a long key and every key usage, that may issue, and
whose signatures verify. -/
def sampleLibrary : CryptoLibrary SampleCert ℕ ℕ Unit ℕ where
  subjectName := SampleCert.subject
  issuerName := SampleCert.issuer
  notBeforeTime _ := some 0
  notAfterTime _ := some 100
  keyUsage _ := .value fun _ => true
  basicConstraints _ := .value ⟨true, none⟩
  nameConstraints cert :=
    match cert.excluded with
    | some name => .value name
    | none => .absent
  policyMappings _ := .absent
  extensions _ := []
  sigAlgMatches _ := true
  pubkey _ := ()
  pkeyBits _ := 2048
  signatureNid _ := .sha256WithRSAEncryption
  tbs _ := some []
  signature _ := []
  verifySignedData _ _ _ _ := true
  nameConstraintsCheck cert name := cert.subject ≠ name

/-- An anchor that excludes the name 1, an intermediate certificate with a name, and a target. -/
def constrainedChain (name : ℕ) : List SampleCert :=
  [⟨0, 0, some 1⟩, ⟨name, 0, none⟩, ⟨2, name, none⟩]

theorem namesBound_iff_constrainedChain :
    NamesBound sampleLibrary (constrainedChain 3) ↔
      UncheckedNamesBound sampleLibrary (constrainedChain 3) :=
  have haccepted : verifyCertificateChain sampleLibrary 1 (constrainedChain 3) 50 = .ok () := by
    decide
  namesBound_iff haccepted

/-- The chain is accepted with an intermediate certificate of the excluded name. -/
theorem not_namesBound_intermediate :
    verifyCertificateChain sampleLibrary 1 (constrainedChain 1) 50 = .ok () ∧
      ¬ NamesBound sampleLibrary (constrainedChain 1) := by
  refine ⟨by decide, fun h => ?_⟩
  have hcheck := h 0 1 ⟨0, 0, some 1⟩ ⟨1, 0, none⟩ 1 one_pos rfl rfl rfl (.inr (by decide))
  exact absurd hcheck (by decide)

end StreamerPlus.Certificate
