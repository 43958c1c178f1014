import Mathlib.Data.List.Chain
import Mathlib.Tactic
import StreamerPlus.Lib.Checked
import StreamerPlus.Lib.Loop

/-!
# `BoringSSLTrustStore`

A trust store finds a chain of certificates from one of its anchors down to a given certificate and
verifies it (`boringssl_trust_store.cc`). What the crypto library says about a certificate, a key or
a signature is a parameter (`CryptoLibrary`): a certificate is whatever it reads.

`FindCertificatePath` keeps its path in a vector that it fills from the end, `path_index` being the
first entry in use. Only the entries from there on are read, so that `steps` has those, the one at
`path_index` first and that of the target last; an entry before the first one of the vector is a
fault. `path_cert_in_trust_store` is false whenever an iteration begins.
-/

namespace StreamerPlus.Certificate

open Checked

/-! ### The crypto library -/

/-- The codes that the trust store returns. -/
inductive ErrorCode
  | errCertsMissing | errCertsParse | errCertsDateInvalid | errCertsRestrictions | errCertsPathlen
  | errCertsVerifyGeneric | errCertsVerifyUntrustedCert
  deriving DecidableEq, Repr

/-- `KeyUsageBits`, the positions of bits in a key usage extension. -/
@[simp] def kDigitalSignature : ℕ := 0
@[simp] def kKeyCertSign : ℕ := 5

/-- `kMinRsaModulusLengthBits`. -/
@[simp] def kMinRsaModulusLengthBits : ℤ := 2048

/-- `BASIC_CONSTRAINTS`. -/
structure BasicConstraints where
  ca : Bool
  pathlen : Option ℤ
  deriving DecidableEq

/-- `POLICY_MAPPING`: whether its two policies are `anyPolicy`. -/
structure PolicyMapping where
  issuerDomainPolicyIsAny : Bool
  subjectDomainPolicyIsAny : Bool
  deriving DecidableEq

/-- The kinds of extensions that are told apart. -/
inductive ExtensionNid
  | nameConstraints | basicConstraints | keyUsage | other
  deriving DecidableEq, Repr

/-- `X509_EXTENSION`. -/
structure X509Extension where
  nid : ExtensionNid
  critical : Bool
  deriving DecidableEq

/-- What `X509_get_ext_d2i` finds: `invalid` is an extension that does not parse or stands twice. -/
inductive Decoded (α : Type)
  | absent
  | invalid
  | value (a : α)
  deriving DecidableEq

/-- The result without the reason why there is none. -/
def Decoded.value? {α : Type} : Decoded α → Option α
  | .value a => some a
  | _ => none

/-- `X509_get_signature_nid`. -/
inductive SignatureNid
  | sha1WithRSAEncryption | sha256WithRSAEncryption | sha384WithRSAEncryption
  | sha512WithRSAEncryption | other
  deriving DecidableEq, Repr

/-- `EVP_MD`. -/
inductive Digest
  | sha1 | sha256 | sha384 | sha512
  deriving DecidableEq, Repr

/-- The functions of the crypto library that are read. Names that `X509_NAME_cmp` finds equal are
equal. -/
structure CryptoLibrary (X509 Name DateTime Key NameConstraints : Type) where
  subjectName : X509 → Name
  issuerName : X509 → Name
  notBeforeTime : X509 → Option DateTime
  notAfterTime : X509 → Option DateTime
  keyUsage : X509 → Decoded (ℕ → Bool)
  basicConstraints : X509 → Decoded BasicConstraints
  nameConstraints : X509 → Decoded NameConstraints
  policyMappings : X509 → Decoded (List PolicyMapping)
  extensions : X509 → List X509Extension
  /-- `X509_ALGOR_cmp` of the algorithm of the signature and the one in the signed part. -/
  sigAlgMatches : X509 → Bool
  pubkey : X509 → Key
  pkeyBits : Key → ℤ
  signatureNid : X509 → SignatureNid
  tbs : X509 → Option (List UInt8)
  signature : X509 → List UInt8
  verifySignedData : Digest → Key → List UInt8 → List UInt8 → Bool
  nameConstraintsCheck : X509 → NameConstraints → Bool

section

variable {X509 Name DateTime Key NameConstraints : Type} [DecidableEq Name] [LinearOrder DateTime]
  (lib : CryptoLibrary X509 Name DateTime Key NameConstraints)

/-! ### `VerifyCertificateChain` -/

variable (cert : X509)

/-- The subject is the issuer, by name. -/
def IsSelfIssued : Prop := lib.subjectName cert = lib.issuerName cert

instance : Decidable (IsSelfIssued lib cert) := inferInstanceAs (Decidable (_ = _))

/-- `VerifyCertTime(cert, time)`. -/
def verifyCertTime (time : DateTime) : Except ErrorCode Unit :=
  match lib.notBeforeTime cert, lib.notAfterTime cert with
  | some notBefore, some notAfter =>
    require (¬(time < notBefore ∨ notAfter < time)) .errCertsDateInvalid
  | _, _ => .error .errCertsParse

/-- `VerifyPublicKeyLength` of the key of a certificate. -/
def verifyPublicKeyLength : Bool :=
  lib.pkeyBits (lib.pubkey cert) ≥ kMinRsaModulusLengthBits

/-- The start of an iteration: whether the issuer counts as self-issued, and how many intermediate
certificates may still follow. -/
def enterIssuer (time : DateTime) (isRoot : Bool) (issuer : X509) (maxPathlen : ℕ) :
    Except ErrorCode (Bool × ℕ) :=
  if isRoot then .ok (true, maxPathlen)
  else do
    verifyCertTime lib issuer time
    if IsSelfIssued lib issuer then .ok (true, maxPathlen)
    else do
      require (maxPathlen ≠ 0) .errCertsPathlen
      .ok (false, maxPathlen - 1)

variable (issuer : X509)

/-- The check of the key usage of an issuer. -/
def verifyKeyUsage : Except ErrorCode Unit :=
  match (lib.keyUsage issuer).value? with
  | some keyUsage => require (keyUsage kKeyCertSign) .errCertsVerifyGeneric
  | none => .ok ()

/-- `ASN1_INTEGER_get_uint64`. -/
def asn1IntegerGetUint64 (n : ℤ) : Option ℕ := if 0 ≤ n ∧ n < 2 ^ 64 then some n.toNat else none

/-- The check of the basic constraints of an issuer, with how many intermediate certificates may
follow after it. -/
def verifyBasicConstraints (maxPathlen : ℕ) : Except ErrorCode ℕ :=
  match (lib.basicConstraints issuer).value? with
  | none => .error .errCertsVerifyGeneric
  | some basicConstraints => do
    require basicConstraints.ca .errCertsVerifyGeneric
    match basicConstraints.pathlen with
    | none => .ok maxPathlen
    | some n =>
      match asn1IntegerGetUint64 n with
      | none => .error .errCertsVerifyGeneric
      | some pathlen => do
        require (pathlen ≤ 0xff) .errCertsVerifyGeneric
        .ok (if pathlen < maxPathlen then pathlen else maxPathlen)

/-- The name constraints of an issuer are added to those of the path. -/
def collectNameConstraints (pathNameConstraints : List NameConstraints) :
    Except ErrorCode (List NameConstraints) :=
  match lib.nameConstraints issuer with
  | .absent => .ok pathNameConstraints
  | .invalid => .error .errCertsVerifyGeneric
  | .value nameConstraints => .ok (pathNameConstraints ++ [nameConstraints])

/-- The check that no policy mapping is to or from `anyPolicy`. -/
def verifyPolicyMappings : Except ErrorCode Unit :=
  require (∀ mapping ∈ (lib.policyMappings issuer).value?.getD [],
    ¬(mapping.issuerDomainPolicyIsAny ∨ mapping.subjectDomainPolicyIsAny)) .errCertsVerifyGeneric

/-- No critical extension is of another kind than those that are checked. -/
def HasNoUnhandledExtension : Prop :=
  ∀ extension ∈ lib.extensions cert, extension.critical → extension.nid ≠ .other

instance : Decidable (HasNoUnhandledExtension lib cert) :=
  inferInstanceAs (Decidable (∀ extension ∈ lib.extensions cert, _ → _))

/-- The digest of a signature algorithm, if it is one that is known. -/
def digestOf : SignatureNid → Option Digest
  | .sha1WithRSAEncryption => some .sha1
  | .sha256WithRSAEncryption => some .sha256
  | .sha384WithRSAEncryption => some .sha384
  | .sha512WithRSAEncryption => some .sha512
  | .other => none

/-- The signature of a certificate verifies under the key of another one. -/
def SignatureVerifies (issuer subject : X509) : Prop :=
  ∃ digest ∈ digestOf (lib.signatureNid subject), ∃ tbs ∈ lib.tbs subject,
    lib.verifySignedData digest (lib.pubkey issuer) tbs (lib.signature subject)

/-- The check of the signature of a certificate. -/
def verifySignature (issuer subject : X509) : Except ErrorCode Unit :=
  match digestOf (lib.signatureNid subject), lib.tbs subject with
  | some digest, some tbs =>
    require (lib.verifySignedData digest (lib.pubkey issuer) tbs (lib.signature subject))
      .errCertsVerifyGeneric
  | _, _ => .error .errCertsVerifyGeneric

/-- The body of the loop of `VerifyCertificateChain`. -/
def verifyLink (time : DateTime) (isRoot : Bool) (issuer subject : X509) (maxPathlen : ℕ)
    (pathNameConstraints : List NameConstraints) :
    Except ErrorCode (ℕ × List NameConstraints) := do
  let (issuerIsSelfIssued, maxPathlen) ← enterIssuer lib time isRoot issuer maxPathlen
  verifyKeyUsage lib issuer
  let maxPathlen ← verifyBasicConstraints lib issuer maxPathlen
  require (lib.sigAlgMatches issuer) .errCertsVerifyGeneric
  require (verifyPublicKeyLength lib issuer) .errCertsVerifyGeneric
  require (!issuerIsSelfIssued →
    ∀ nameConstraints ∈ pathNameConstraints, lib.nameConstraintsCheck subject nameConstraints)
    .errCertsVerifyGeneric
  let pathNameConstraints ← collectNameConstraints lib issuer pathNameConstraints
  verifyPolicyMappings lib issuer
  require (HasNoUnhandledExtension lib issuer) .errCertsVerifyGeneric
  verifySignature lib issuer subject
  .ok (maxPathlen, pathNameConstraints)

/-- The loop of `VerifyCertificateChain`, over the certificates from an issuer down to the target,
with the name constraints that it collects. -/
def verifyLinks (time : DateTime) :
    Bool → ℕ → List NameConstraints → List X509 → Except ErrorCode (List NameConstraints)
  | isRoot, maxPathlen, pathNameConstraints, issuer :: subject :: rest => do
    let (maxPathlen, pathNameConstraints) ←
      verifyLink lib time isRoot issuer subject maxPathlen pathNameConstraints
    verifyLinks time false maxPathlen pathNameConstraints (subject :: rest)
  | _, _, pathNameConstraints, _ => .ok pathNameConstraints

/-- `VerifyCertificateChain(path, step_index, time)`, where `chain` is what stands in the path from
`step_index` on and `intermediateCount` is `path.size() - 2`. -/
def verifyCertificateChain (intermediateCount : ℕ) (chain : List X509) (time : DateTime) :
    Except ErrorCode Unit := do
  let pathNameConstraints ← verifyLinks lib time true intermediateCount [] chain
  require (∀ target ∈ chain.getLast?, ∀ nameConstraints ∈ pathNameConstraints,
    lib.nameConstraintsCheck target nameConstraints) .errCertsVerifyGeneric

/-! ### `FindCertificatePath` -/

/-- The basic checks on the target certificate. -/
def verifyTarget (target : X509) (time : DateTime) : Except ErrorCode Unit := do
  verifyCertTime lib target time
  require (verifyPublicKeyLength lib target) .errCertsVerifyGeneric
  require (lib.sigAlgMatches target) .errCertsVerifyGeneric
  match (lib.keyUsage target).value? with
  | none => .error .errCertsRestrictions
  | some keyUsage => require (keyUsage kDigitalSignature) .errCertsRestrictions

/-- `CertPathStep`. -/
structure CertPathStep (X509 : Type) where
  cert : X509
  trustStoreIndex : ℕ
  intermediateCertIndex : ℕ

/-- The variables of the search. -/
structure Search (X509 : Type) where
  pathHead : X509
  steps : List (CertPathStep X509)
  trustStoreIndex : ℕ
  intermediateCertIndex : ℕ
  lastError : Option ErrorCode

/-- What the search ends with: an error, or a path from the target to an anchor. -/
abbrev SearchResult (X509 : Type) := Except ErrorCode (List X509)

/-- An access outside of the vector of the path. -/
inductive PathFault
  | outOfRange
  deriving DecidableEq, Repr

/-- The first element with `p` from an index on, with its index. -/
def findFrom {α : Type} (p : α → Bool) (l : List α) (start : ℕ) : Option (ℕ × α) :=
  ((l.zipIdx.drop start).find? fun e => p e.1).map Prod.swap

/-- `CertInPath(name, path, path_index, first_index)`: among the certificates above the target. -/
def certInPath (name : Name) (steps : List (CertPathStep X509)) : Bool :=
  steps.dropLast.any fun step => lib.subjectName step.cert = name

/-- The path has an entry for the target, for each intermediate certificate and for an anchor. -/
def pathSize (intermediateCerts : List X509) : ℕ := 1 + intermediateCerts.length + 1

variable (certs intermediateCerts : List X509) (time : DateTime)

variable (s : Search X509)

/-- The next anchor that the loop comes to. -/
def Search.nextAnchor : Option (ℕ × X509) :=
  findFrom (fun cert => lib.subjectName cert = lib.issuerName s.pathHead) certs s.trustStoreIndex

/-- The next intermediate certificate that the loop comes to. -/
def Search.nextIntermediate : Option (ℕ × X509) :=
  findFrom (fun cert => lib.subjectName cert = lib.issuerName s.pathHead &&
    !certInPath lib (lib.subjectName cert) s.steps) intermediateCerts s.intermediateCertIndex

/-- The chain from an anchor down to the target, with the certificates of the path between them. -/
def Search.chainFrom (anchor : X509) : List X509 :=
  anchor :: s.steps.map (·.cert)

/-- The body of the loop of `FindCertificatePath`. -/
def searchBody : Search X509 ⊕ Except PathFault (SearchResult X509) :=
  match s.nextAnchor lib certs with
  | some (i, trustStoreCert) =>
    if s.steps.length = pathSize intermediateCerts then .inr (.error .outOfRange)
    else
      let chain := s.chainFrom trustStoreCert
      match verifyCertificateChain lib intermediateCerts.length chain time with
      | .error lastError =>
        -- the step is taken back, and `path_head` is the anchor all the same
        .inl {
          pathHead := trustStoreCert
          steps := s.steps
          trustStoreIndex := i + 1
          intermediateCertIndex := 0
          lastError := some lastError }
      | .ok () => .inr (.ok (.ok chain.reverse))
  | none =>
    match s.nextIntermediate lib intermediateCerts with
    | some (i, intermediateCert) =>
      if s.steps.length = pathSize intermediateCerts then .inr (.error .outOfRange)
      else
        .inl { s with
          pathHead := intermediateCert
          steps := ⟨intermediateCert, certs.length, i + 1⟩ :: s.steps
          trustStoreIndex := 0
          intermediateCertIndex := 0 }
    | none =>
      match s.steps with
      | lastStep :: step :: steps =>
        -- `path_head` stays what it was
        .inl { s with
          steps := step :: steps
          trustStoreIndex := lastStep.trustStoreIndex
          intermediateCertIndex := lastStep.intermediateCertIndex }
      | _ => .inr (.ok (.error (s.lastError.getD .errCertsVerifyUntrustedCert)))

/-- The search before its first iteration. -/
def Search.start (target : X509) : Search X509 := ⟨target, [⟨target, 0, 0⟩], 0, 0, none⟩

/-- `FindCertificatePath(der_certs, time)`, where `derCerts` has what the library parses, if the
loop ends within `n` iterations. -/
def findCertificatePath (derCerts : List (Option X509)) (n : ℕ) :
    Option (Except PathFault (SearchResult X509)) :=
  match derCerts with
  | [] => some (.ok (.error .errCertsMissing))
  | none :: _ => some (.ok (.error .errCertsParse))
  | some target :: rest =>
    match rest.mapM id with
    | none => some (.ok (.error .errCertsParse))
    | some intermediateCerts =>
      match verifyTarget lib target time with
      | .error code => some (.ok (.error code))
      | .ok () => Loop.run (searchBody lib certs intermediateCerts time) n (.start target)

end

end StreamerPlus.Certificate
