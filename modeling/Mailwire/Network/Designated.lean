import Mailwire.Network.Platform

/-!
# Designated networks

A network that a connector is pinned to answers for the platform: it resolves the host and creates
the sockets. The network of a local address knows the addresses of that address's family only, and
binds its sockets to it. So each address that it resolves is one that it has sockets for
(`BoundNetwork.resolve_family`).
-/

namespace Mailwire

/-- A network that connections are to go over. -/
structure Network (ω : Type) where
  /-- All addresses of a host, in the order in which they are to be tried. -/
  resolve : String → Step ω (List IpAddress)
  /-- A socket that can reach an address. -/
  createSocket : SocketAddress → Step ω Socket

/-- The network that a local address belongs to. -/
structure BoundNetwork where
  localAddress : IpAddress
deriving DecidableEq, Repr

namespace BoundNetwork

/-- Each element once, where it comes first. -/
def distinct {α : Type} [DecidableEq α] (items : List α) : List α :=
  items.foldl (fun kept a => if a ∈ kept then kept else kept ++ [a]) []

/-- The addresses that the network can reach, each once. -/
def reachable (n : BoundNetwork) (addresses : List IpAddress) : List IpAddress :=
  distinct (addresses.filter fun ip => ip.family == n.localAddress.family)

/-- What a socket for an address of another family is refused with. -/
def unreachable (n : BoundNetwork) (address : SocketAddress) : IoError :=
  .described .invalidInput (address.text ++ " is not reachable from " ++ n.localAddress.text)

variable {ω : Type}

def resolve (n : BoundNetwork) (platform : Platform ω) (host : String) :
    Step ω (List IpAddress) := fun world =>
  let (answer, world) := platform.lookup host world
  (answer.map n.reachable, world)

/-- A socket that is bound to the local address. -/
def createSocket (n : BoundNetwork) (platform : Platform ω) (address : SocketAddress) :
    Step ω Socket := fun world =>
  if address.family = n.localAddress.family then
    match platform.defaultSocket address world with
    | (.error e, world) => (.error e, world)
    | (.ok socket, world) => platform.bind socket n.localAddress world
  else (.error (n.unreachable address), world)

def toNetwork (n : BoundNetwork) (platform : Platform ω) : Network ω where
  resolve := n.resolve platform
  createSocket := n.createSocket platform

/-! ### What is resolved -/

theorem mem_foldl_distinct {α : Type} [DecidableEq α] {a : α} (items kept : List α) :
    a ∈ items.foldl (fun kept a => if a ∈ kept then kept else kept ++ [a]) kept
      ↔ a ∈ kept ∨ a ∈ items := by
  induction items generalizing kept with
  | nil => simp
  | cons b items ih =>
    rw [List.foldl_cons, ih]
    by_cases hb : b ∈ kept
    · simp only [hb, if_true, List.mem_cons]
      exact ⟨fun h => h.elim .inl (.inr ∘ .inr), fun h => h.elim .inl fun h =>
        h.elim (fun h => .inl (h ▸ hb)) .inr⟩
    · simp [hb, or_assoc]

@[simp] theorem mem_distinct {α : Type} [DecidableEq α] {a : α} {items : List α} :
    a ∈ distinct items ↔ a ∈ items := by
  simp [distinct, mem_foldl_distinct]

/-- Every address that the network resolves is of the family that it has sockets for. -/
theorem resolve_family {n : BoundNetwork} {platform : Platform ω} {host : String}
    {world world' : ω} {addresses : List IpAddress} {ip : IpAddress}
    (h : n.resolve platform host world = (.ok addresses, world')) (hip : ip ∈ addresses) :
    ip.family = n.localAddress.family := by
  rw [resolve] at h
  simp only [Prod.mk.injEq] at h
  cases hl : (platform.lookup host world).1 with
  | error e => rw [hl] at h; simp [Except.map] at h
  | ok found =>
    rw [hl] at h
    simp only [Except.map, Except.ok.injEq] at h
    rw [← h.1, reachable, mem_distinct, List.mem_filter] at hip
    exact eq_of_beq hip.2

end BoundNetwork

end Mailwire
