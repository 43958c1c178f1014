import Mathlib.Data.Prod.Lex
import Mathlib.Order.Lex
import StreamerPlus.Discovery.DnsDataGraph

/-!
# Endpoints of the DNS-SD graph

What a client of DNS-SD sees of the records, a `DnsSdInstanceEndpoint` for an instance, and the
order of such endpoints (`dns_sd_instance_endpoint.cc`). The TXT record is of any ordered type.
-/

namespace StreamerPlus.Discovery

open Checked

/-! ### Endpoints -/

/-- `IPAddress`. -/
inductive IPAddress
  | v4 (address : IPv4Address)
  | v6 (address : IPv6Address)
  deriving DecidableEq

/-- `IPEndpoint`. -/
structure IPEndpoint where
  address : IPAddress
  port : UInt16
  deriving DecidableEq

/-- The order of byte strings, as the order of lists of numbers. -/
def byteValues (s : List UInt8) : List ℕ := s.map UInt8.toNat

theorem byteValues_injective : Function.Injective byteValues :=
  List.map_injective_iff.mpr fun _ _ => UInt8.toNat_inj.mp

/-- What `operator<` compares of two `IPEndpoint`s, in its order. -/
def IPEndpoint.sortKey (e : IPEndpoint) : ℕ ×ₗ List ℕ ×ₗ ℕ :=
  match e.address with
  | .v4 a => toLex (0, toLex (byteValues a.bytes, e.port.toNat))
  | .v6 a => toLex (1, toLex (byteValues a.bytes ++ [a.scopeId.toNat], e.port.toNat))

theorem IPEndpoint.sortKey_injective : Function.Injective IPEndpoint.sortKey := by
  rintro ⟨⟨a, _⟩ | ⟨a, _, c⟩, p⟩ ⟨⟨b, _⟩ | ⟨b, _, d⟩, q⟩ h <;>
    simp_all [sortKey, byteValues_injective.eq_iff, UInt16.toNat_inj, UInt32.toNat_inj]

/-- `DnsSdInstanceEndpoint`, with a TXT record of type `τ`. An endpoint made from records has no
subtypes, and its addresses are those of its endpoints. -/
structure DnsSdInstanceEndpoint (τ : Type) where
  instanceId : Label
  serviceId : Label
  domainId : Label
  txt : τ
  port : UInt16
  networkInterface : ℤ
  endpoints : List IPEndpoint

/-- `ServiceKey`. -/
structure ServiceKey where
  serviceId : Label
  domainId : Label
  deriving DecidableEq

/-- `InstanceKey`. -/
structure InstanceKey extends ServiceKey where
  instanceId : Label
  deriving DecidableEq

namespace DnsSdInstanceEndpoint

variable {τ : Type}

/-- The service that an endpoint belongs to. -/
def serviceKey (e : DnsSdInstanceEndpoint τ) : ServiceKey := ⟨e.serviceId, e.domainId⟩

/-- What `operator<` compares of two endpoints, in its order. -/
def sortKey (e : DnsSdInstanceEndpoint τ) :
    ℤ ×ₗ ℕ ×ₗ List (ℕ ×ₗ List ℕ ×ₗ ℕ) ×ₗ ℕ ×ₗ List ℕ ×ₗ List ℕ ×ₗ List ℕ ×ₗ τ :=
  toLex (e.networkInterface, toLex (e.endpoints.length, toLex (e.endpoints.map IPEndpoint.sortKey,
    toLex (e.port.toNat, toLex (byteValues e.instanceId, toLex (byteValues e.serviceId,
      toLex (byteValues e.domainId, e.txt)))))))

theorem sortKey_injective : Function.Injective (sortKey : DnsSdInstanceEndpoint τ → _) := by
  rintro ⟨i, s, d, t, p, n, l⟩ ⟨i', s', d', t', p', n', l'⟩ h
  have hl := List.map_injective_iff.mpr IPEndpoint.sortKey_injective
  simp only [sortKey, EmbeddingLike.apply_eq_iff_eq, Prod.mk.injEq, UInt16.toNat_inj,
    byteValues_injective.eq_iff, hl.eq_iff] at h
  simp [h]

/-- `operator<` of `DnsSdInstanceEndpoint`. -/
instance [LinearOrder τ] : LinearOrder (DnsSdInstanceEndpoint τ) :=
  LinearOrder.lift' sortKey sortKey_injective

/-- `IsEqualOrUpdate(first, second)`, for two endpoints of one network interface. -/
def isEqualOrUpdate (a b : DnsSdInstanceEndpoint τ) : Bool :=
  a.instanceId = b.instanceId && a.serviceId = b.serviceId && a.domainId = b.domainId

end DnsSdInstanceEndpoint

end StreamerPlus.Discovery
