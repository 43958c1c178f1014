import Mathlib.Data.Finset.Card
import StreamerPlus.Discovery.MdnsRecords
import StreamerPlus.Lib.Outcome

/-!
# `DnsDataGraph`

The multigraph in which DNS-SD keeps the records it has received (`dns_data_graph.cc`). A node
stands for a domain and holds its records; a PTR or SRV record is an edge to the domain it points
to. A node goes away with the last edge from another node, and takes its own edges with it.

A `Node*` is the key of the node's name. The node objects are a heap of their own beside the keys
of `nodes_`, since a node that is being destroyed is no longer in `nodes_`.
-/

namespace StreamerPlus.Discovery

open Checked

/-- A domain name as the key of a map, and as the identity of a node. -/
abbrev DomainKey := List Label

/-- `DnsDataGraphImpl::Node`. -/
structure Node where
  name : DomainName
  records : List MdnsRecord
  parents : List DomainKey
  children : List DomainKey
  deriving DecidableEq

/-- `DnsDataGraphImpl`. `started` and `stopped` are the `domains_changed` that the handlers of the
last operation have passed to its callbacks. -/
structure DnsDataGraph where
  nodes : Finset DomainKey
  heap : DomainKey → Option Node
  started : List DomainName
  stopped : List DomainName

/-- The errors that the graph returns. -/
inductive GraphError
  | itemAlreadyExists | itemNotFound | operationCancelled
  deriving DecidableEq, Repr

namespace DnsDataGraph

/-- Where the graph stops: its assertions, a `std::get` of another alternative, and the use of a
node or an entry that is not there. -/
inductive Fault
  | badVariantAccess
  | childNotFound
  | parentNotFound
  | nodeNotErased
  | alreadyTracked
  | notTracked
  | hasParents
  | noSuchNode
  | pastTheEnd
  | recursionLimit
  deriving DecidableEq, Repr

/-- A graph as it is constructed. -/
def initial : DnsDataGraph := ⟨∅, fun _ => none, [], []⟩

variable (g : DnsDataGraph)

variable (name : DomainName)

/-- `IsTracked(name)`. -/
def isTracked : Bool := name.key ∈ g.nodes

/-- The node that a pointer leads to. -/
def deref (k : DomainKey) : Except Fault Node :=
  match g.heap k with
  | some n => .ok n
  | none => .error .noSuchNode

/-- Writes to a node. -/
def write (k : DomainKey) (n : Node) : DnsDataGraph :=
  { g with heap := Function.update g.heap k (some n) }

/-- `AddChild(child)`. -/
def addChild (this child : DomainKey) : Except Fault DnsDataGraph := do
  let n ← g.deref this
  let g := g.write this { n with children := n.children ++ [child] }
  let c ← g.deref child
  pure (g.write child { c with parents := c.parents ++ [this] })

/-- `RemoveChild(child)`, up to the removal of an orphaned child. -/
def unlink (this child : DomainKey) : Except Fault DnsDataGraph := do
  let n ← g.deref this
  require (child ∈ n.children) .childNotFound
  let g := g.write this { n with children := n.children.erase child }
  let c ← g.deref child
  require (this ∈ c.parents) .parentNotFound
  pure (g.write child { c with parents := c.parents.erase this })

/-- `RemoveChild(child)`. `destroy` is the destructor of a node. -/
def removeChildWith (destroy : DomainKey → DnsDataGraph → Except Fault DnsDataGraph)
    (this child : DomainKey) : Except Fault DnsDataGraph := do
  let g ← g.unlink this child
  let c ← g.deref child
  if c.parents.all (· = child) then
    if child ∈ g.nodes then destroy child { g with nodes := g.nodes.erase child }
    else
      require (child = this) .nodeNotErased
      pure g
  else pure g

/-- The loop of `~Node()` over `children_`, with `remaining` iterations to go. The loop keeps the
iterators of its start, while each `RemoveChild` erases an element under it: `erase` moves the
elements behind down and leaves the last one in place, so behind the live elements the storage
holds those that were last when the vector was shorter (`stale`). -/
def sweepWith (destroy : DomainKey → DnsDataGraph → Except Fault DnsDataGraph) (this : DomainKey) :
    ℕ → List DomainKey → DnsDataGraph → Except Fault DnsDataGraph
  | 0, _, g => .ok g
  | remaining + 1, stale, g => do
    let n ← g.deref this
    let storage := n.children ++ stale
    match storage[storage.length - (remaining + 1)]? with
    | none => .error .pastTheEnd
    | some child =>
      let g ← g.removeChildWith destroy this child
      sweepWith destroy this remaining (n.children.getLast?.toList ++ stale) g

/-- The end of `~Node()`: the object is gone and the deletion callback has been called. -/
def free (k : DomainKey) (name : DomainName) : DnsDataGraph :=
  { g with heap := Function.update g.heap k none, stopped := g.stopped ++ [name] }

/-- `~Node()`. A nested destructor runs for a node that was erased from `nodes_` before, so the
number of nodes bounds the recursion. -/
def destroy : ℕ → DomainKey → DnsDataGraph → Except Fault DnsDataGraph
  | 0, _, _ => .error .recursionLimit
  | limit + 1, this, g => do
    let n ← g.deref this
    let g ← sweepWith (destroy limit) this n.children.length [] g
    pure (g.free this n.name)

/-- `RemoveChild(child)` outside of a destructor. -/
def removeChild (this child : DomainKey) : Except Fault DnsDataGraph :=
  g.removeChildWith (destroy (g.nodes.card + 1)) this child

/-- The node that is created for a domain. -/
def newNode : Node := ⟨name, [], [], []⟩

/-- `nodes_.emplace` of a new node, with the callback of its constructor. -/
def emplace : DnsDataGraph :=
  { g with
    nodes := insert name.key g.nodes
    heap := Function.update g.heap name.key (some (newNode name))
    started := g.started ++ [name] }

/-- An operation starts with new handlers. -/
def withHandlers : DnsDataGraph := { g with started := [], stopped := [] }

/-- `StartTracking(domain, on_start_tracking)`. -/
def startTracking (domain : DomainName) : Except Fault DnsDataGraph := do
  require (domain.key ∉ g.nodes) .alreadyTracked
  pure (g.withHandlers.emplace domain)

/-- `StopTracking(domain, on_stop_tracking)`. The destructor runs while the entry, by then null, is
still in `nodes_`; no edge leads to the domain, so it never looks at the entry, which the model
erases first. -/
def stopTracking (domain : DomainName) : Except Fault DnsDataGraph := do
  let g := g.withHandlers
  require (domain.key ∈ g.nodes) .notTracked
  let n ← g.deref domain.key
  require (n.parents = []) .hasParents
  destroy (g.nodes.card + 1) domain.key { g with nodes := g.nodes.erase domain.key }

/-- `ApplyChildChange(child_name, event)`. -/
def applyChildChange (this : DomainKey) (childName : DomainName) (event : RecordChangedEvent) :
    Except Fault DnsDataGraph :=
  match event with
  | .created =>
    let g := if childName.key ∈ g.nodes then g else g.emplace childName
    g.addChild this childName.key
  | .updated => .ok g
  | .expired => if childName.key ∈ g.nodes then g.removeChild this childName.key else .ok g

end DnsDataGraph

namespace MdnsRecord

/-- The domain that a record points to: empty unless it is a PTR or SRV record. -/
def childName (r : MdnsRecord) : Except DnsDataGraph.Fault DomainName :=
  if r.dnsType = .kPTR then
    match r.rdata with
    | .ptr ptrDomain => .ok ptrDomain
    | _ => .error .badVariantAccess
  else if r.dnsType = .kSRV then
    match r.rdata with
    | .srv _ _ _ target => .ok target
    | _ => .error .badVariantAccess
  else .ok .root

/-- Where a node keeps the record that a change is about. -/
def findIn (r : MdnsRecord) (records : List MdnsRecord) : Option ℕ :=
  if r.dnsType = .kPTR then records.findIdx? fun rhs => r.isReannouncementOf rhs
  else records.findIdx? fun rhs => rhs.dnsType = r.dnsType

/-- What a change does to the records of a node. -/
def applyTo (r : MdnsRecord) (event : RecordChangedEvent) (records : List MdnsRecord) :
    Except GraphError (List MdnsRecord) :=
  match event, r.findIn records with
  | .created, some _ => .error .itemAlreadyExists
  | .created, none => .ok (records ++ [r])
  | .updated, some i => .ok (records.set i r)
  | .expired, some i => .ok (records.eraseIdx i)
  | _, none => .error .itemNotFound

end MdnsRecord

namespace DnsDataGraph

variable (g : DnsDataGraph)

/-- `ApplyDataRecordChange(record, event, on_start_tracking, on_stop_tracking)`. -/
def applyDataRecordChange (record : MdnsRecord) (event : RecordChangedEvent) :
    Except Fault (DnsDataGraph × Option GraphError) := do
  let g := g.withHandlers
  let this := record.name.key
  if this ∈ g.nodes then
    let n ← g.deref this
    let childName ← record.childName
    match record.applyTo event n.records with
    | .error e => pure (g, some e)
    | .ok records =>
      let g := g.write this { n with records := records }
      let g ← (if childName.empty then pure g else g.applyChildChange this childName event)
      pure (g, none)
  else pure (g, some .operationCancelled)

end DnsDataGraph

end StreamerPlus.Discovery
