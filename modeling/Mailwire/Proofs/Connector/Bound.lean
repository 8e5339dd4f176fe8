import Mailwire.Proofs.Connector.Sockets

/-!
# Connections over the network of a local address

The network of a local address answers with the addresses of that address's family, each where it comes
first (`BoundNetwork.pairwise_reachable`). Its sockets are for addresses of this family only, and a
connector that is bound to it asks for no others: what it tries are addresses that the network has
answered (`Connector.tried_bound`).

So each address is tried once at most, a socket that is refused was refused by the platform, and a host is
unresolved only if it has no address of the family (`Connector.connect_bound`).
-/

namespace Mailwire

namespace BoundNetwork

variable {ω : Type}

/-! ### What is resolved -/

lemma distinct_concat {α : Type} [DecidableEq α] (items : List α) (a : α) :
    distinct (items ++ [a]) = if a ∈ distinct items then distinct items else distinct items ++ [a] := by
  rw [distinct, List.foldl_append]
  rfl

lemma mem_reachable {n : BoundNetwork} {found : List IpAddress} {ip : IpAddress} :
    ip ∈ n.reachable found ↔ ip ∈ found ∧ ip.family = n.localAddress.family := by
  simp [reachable]

/-- One more address is kept if it is of the family and none of those before it. -/
lemma reachable_concat (n : BoundNetwork) (found : List IpAddress) (ip : IpAddress) :
    n.reachable (found ++ [ip]) =
      if ip.family = n.localAddress.family ∧ ip ∉ found then n.reachable found ++ [ip]
      else n.reachable found := by
  by_cases hfamily : ip.family = n.localAddress.family
  · by_cases hfound : ip ∈ found
    · simp [reachable, distinct_concat, hfamily, hfound]
    · simp [reachable, distinct_concat, hfamily, hfound]
  · simp [reachable, hfamily]

/-- The addresses stand in the order in which each was found first. -/
theorem pairwise_reachable (n : BoundNetwork) (found : List IpAddress) :
    (n.reachable found).Pairwise fun a b => found.idxOf a < found.idxOf b := by
  induction found using List.reverseRecOn with
  | nil => exact .nil
  | append_singleton found ip ih =>
    have hidx : ∀ a ∈ n.reachable found, (found ++ [ip]).idxOf a = found.idxOf a :=
      fun a ha => List.idxOf_append_of_mem (mem_reachable.mp ha).1
    have hearlier : (n.reachable found).Pairwise fun a b =>
        (found ++ [ip]).idxOf a < (found ++ [ip]).idxOf b := by
      refine ih.imp_of_mem ?_
      intro a b ha hb hlt
      rwa [hidx a ha, hidx b hb]
    rw [reachable_concat]
    split_ifs with hnew
    · refine List.pairwise_append.mpr ⟨hearlier, List.pairwise_singleton _ _, ?_⟩
      intro a ha b hb
      obtain rfl := List.mem_singleton.mp hb
      rw [hidx a ha, List.idxOf_append_of_notMem hnew.2]
      exact Nat.lt_add_right _ (List.idxOf_lt_length_of_mem (mem_reachable.mp ha).1)
    · exact hearlier

lemma nodup_reachable (n : BoundNetwork) (found : List IpAddress) : (n.reachable found).Nodup :=
  (n.pairwise_reachable found).imp fun hlt heq => hlt.ne (congrArg found.idxOf heq)

lemma resolve_of_lookup {n : BoundNetwork} {platform : Platform ω} {host : String} {w w₁ : ω}
    {answer : Except IoError (List IpAddress)} (h : platform.lookup host w = (answer, w₁)) :
    n.resolve platform host w = (answer.map n.reachable, w₁) := by
  simp [resolve, h]

/-! ### Sockets -/

/-- A socket for an address of the family is refused by the platform only. -/
inductive Refused (n : BoundNetwork) (platform : Platform ω) (address : SocketAddress) (w : ω)
    (cause : IoError) : Prop
  | uncreated (failed : (platform.defaultSocket address w).1 = .error cause)
  | unbound {socket : Socket} {w₁ : ω} (created : platform.defaultSocket address w = (.ok socket, w₁))
      (failed : (platform.bind socket n.localAddress w₁).1 = .error cause)

lemma refused_of_createSocket {n : BoundNetwork} {platform : Platform ω} {address : SocketAddress}
    {w : ω} {cause : IoError} (hfamily : address.family = n.localAddress.family)
    (h : (n.createSocket platform address w).1 = .error cause) :
    n.Refused platform address w cause := by
  rw [createSocket, if_pos hfamily] at h
  rcases hcreate : platform.defaultSocket address w with ⟨other | socket, w₁⟩
  · rw [hcreate] at h
    exact .uncreated (by rw [hcreate]; exact h)
  · rw [hcreate] at h
    exact .unbound hcreate h

end BoundNetwork

namespace Connector

variable {ω : Type} {c : Connector ω} {n : BoundNetwork} {platform : Platform ω}

/-! ### What is tried -/

/-- Where no candidates are listed, nothing else is done. -/
lemma connect_of_error {w : ω} {e : Error} (h : (c.candidates.run w).result = .error e) :
    (c.connect.run w).result = .error e := by
  rcases hrun : c.candidates.run w with ⟨result, w₁, trace⟩
  rw [hrun] at h
  obtain rfl : result = .error e := h
  rw [run_connect_error hrun]

/-- What is tried over the network of a local address are the first of the addresses that it answers. -/
theorem tried_bound (hnetwork : c.network = some (n.toNetwork platform)) (w : ω) :
    ∃ ips : List IpAddress,
      (c.tried w).map (·.candidate) = ips.map (fun ip => .address ⟨ip, c.config.port⟩) ∧
      ips.Nodup ∧ (∀ ip ∈ ips, ip.family = n.localAddress.family) ∧
      ∀ found w₁, platform.lookup c.config.host w = (.ok found, w₁) → ips <+: n.reachable found := by
  rcases c.listed_or_error w with ⟨listed, w₁, asked, hlisted⟩ | ⟨e, w₁, trace, hrun, -⟩
  · have hfront := tried_prefix hlisted
    cases hlisted with
    | host hsystem => simp [hsystem] at hnetwork
    | @addresses network addresses _ hdesignated hresolved _ =>
      obtain rfl : n.toNetwork platform = network := by simpa [hnetwork] using hdesignated
      have hresolved : n.resolve platform c.config.host w = (.ok addresses, w₁) := hresolved
      rcases hlookup : platform.lookup c.config.host w with ⟨cause | found, w₂⟩
      · rw [BoundNetwork.resolve_of_lookup hlookup] at hresolved
        cases hresolved
      · rw [BoundNetwork.resolve_of_lookup hlookup] at hresolved
        cases hresolved
        obtain ⟨ips, hips, hcandidates⟩ := List.prefix_map_iff.mp hfront
        refine ⟨ips, hcandidates, (n.nodup_reachable found).sublist hips.sublist, ?_, ?_⟩
        · intro ip hip
          exact (BoundNetwork.mem_reachable.mp (hips.subset hip)).2
        · rintro found' w' ⟨⟩
          exact hips
  · exact ⟨[], by simp [tried_of_error hrun], .nil, by simp, by simp⟩

/-- Each try over the network asks it for one socket. -/
lemma sockets_bound (hnetwork : c.network = some (n.toNetwork platform)) (hcreator : c.creator = none)
    {tries : List (Try ω)} {ips : List IpAddress}
    (h : tries.map (·.candidate) = ips.map (fun ip => .address ⟨ip, c.config.port⟩)) :
    tries.flatMap (Try.sockets c.attempt)
      = ips.map fun ip => (.network, ⟨ip, c.config.port⟩) := by
  induction tries generalizing ips with
  | nil =>
    obtain rfl : ips = [] := by simpa using h.symm
    rfl
  | cons t tries ih =>
    cases ips with
    | nil => simp at h
    | cons ip ips =>
      obtain ⟨hcandidate, hrest⟩ := List.cons.inj h
      have hcandidate : t.candidate = .address ⟨ip, c.config.port⟩ := hcandidate
      have hlocated : c.located t = some (⟨ip, c.config.port⟩, t.world) := by
        rw [located, hcandidate]
      rw [List.flatMap_cons, ih hrest, sockets_attempt (.network hcreator hnetwork), hlocated]
      rfl

/-- Over the network of a local address only the platform refuses sockets. -/
lemma refused_bound (hnetwork : c.network = some (n.toNetwork platform))
    (hcreator : c.creator = none) {w : ω} {cause : IoError}
    (h : (c.connect.run w).result = .error (.socketCreation cause)) :
    ∃ front t address w₁, c.tried w = front ++ [t] ∧ c.located t = some (address, w₁) ∧
      n.Refused platform address w₁ cause := by
  obtain ⟨front, t, address, w₁, htried, hlocated, hcreate⟩ :=
    refused_of_connect (.network hcreator hnetwork) h
  obtain ⟨ips, hcandidates, -, hfamily, -⟩ := tried_bound hnetwork w
  have hmem : t.candidate ∈ ips.map fun ip => Candidate.address ⟨ip, c.config.port⟩ := by
    rw [← hcandidates, htried]
    simp
  obtain ⟨ip, hip, hcandidate⟩ := List.mem_map.mp hmem
  have haddress : ⟨ip, c.config.port⟩ = address := by
    rw [located, ← hcandidate] at hlocated
    cases hlocated
    rfl
  have hfamily : address.family = n.localAddress.family := by
    rw [← haddress]
    exact hfamily ip hip
  exact ⟨front, t, address, w₁, htried, hlocated, BoundNetwork.refused_of_createSocket hfamily hcreate⟩

/-- A host is unresolved if it has no address of the family. -/
lemma unresolved_bound_iff (hnetwork : c.network = some (n.toNetwork platform)) (w : ω)
    (host : String) :
    (c.connect.run w).result = .error (.unresolved host) ↔
      host = c.config.host ∧ ∃ found w₁, platform.lookup c.config.host w = (.ok found, w₁) ∧
        ∀ ip ∈ found, ip.family ≠ n.localAddress.family := by
  have hnone : ∀ found, n.reachable found = [] ↔ ∀ ip ∈ found, ip.family ≠ n.localAddress.family := by
    intro found
    rw [List.eq_nil_iff_forall_not_mem]
    simp [BoundNetwork.mem_reachable]
  rcases hlookup : platform.lookup c.config.host w with ⟨cause | found, w₁⟩
  · have hresolve : (n.toNetwork platform).resolve c.config.host w = (.error cause, w₁) :=
      BoundNetwork.resolve_of_lookup hlookup
    have herror : (c.candidates.run w).result = .error (.resolve c.config.host cause) := by
      simp [candidates, hnetwork, Task.run_bind, Task.run_attempt, hresolve]
    simp [connect_of_error herror]
  · have hresolve : (n.toNetwork platform).resolve c.config.host w = (.ok (n.reachable found), w₁) :=
      BoundNetwork.resolve_of_lookup hlookup
    by_cases hempty : n.reachable found = []
    · have herror : (c.candidates.run w).result = .error (.unresolved c.config.host) := by
        simp [candidates, hnetwork, Task.run_bind, Task.run_attempt, hresolve, hempty]
      have hfamily := (hnone found).mp hempty
      rw [connect_of_error herror]
      simpa [eq_comm] using fun _ => hfamily
    · have hlisted := Listed.addresses hnetwork hresolve hempty
      have hnever := connect_ne_unresolved (by rw [hlisted.run]) host
      simp [hnever, ← hnone, hempty]

/-! ### Connections over the network -/

/-- The network of a local address answers with the addresses of that address's family that the platform
has found, without repeats and in the order in which each was found first. A connector that is bound to it
tries these addresses in their order, none of them twice, and asks only the network for sockets, and only
for addresses of the family. So if a socket is refused, it is not the network that refuses it for being of
another family. The host is unresolved if and only if the platform has found no address of the family. -/
theorem connect_bound (n : BoundNetwork) (platform : Platform ω) :
    (∀ host w found w₁, platform.lookup host w = (.ok found, w₁) →
      ∃ kept, n.resolve platform host w = (.ok kept, w₁) ∧
        (∀ ip, ip ∈ kept ↔ ip ∈ found ∧ ip.family = n.localAddress.family) ∧
        (kept.Pairwise fun a b => found.idxOf a < found.idxOf b) ∧ kept.Nodup) ∧
    ∀ (c : Connector ω) (w : ω), c.network = some (n.toNetwork platform) → c.creator = none →
      ((c.tried w).map (·.candidate)).Nodup ∧
      (∀ found w₁, platform.lookup c.config.host w = (.ok found, w₁) →
        (c.tried w).map (·.candidate)
          <+: (n.reachable found).map fun ip => .address ⟨ip, c.config.port⟩) ∧
      (Event.socketsOf (c.connect.run w).trace).Nodup ∧
      (∀ request ∈ Event.socketsOf (c.connect.run w).trace,
        request.1 = .network ∧ request.2.family = n.localAddress.family) ∧
      (∀ cause, (c.connect.run w).result = .error (.socketCreation cause) →
        ∃ front t address w₁, c.tried w = front ++ [t] ∧ c.located t = some (address, w₁) ∧
          n.Refused platform address w₁ cause) ∧
      ∀ host, (c.connect.run w).result = .error (.unresolved host) ↔
        host = c.config.host ∧ ∃ found w₁, platform.lookup c.config.host w = (.ok found, w₁) ∧
          ∀ ip ∈ found, ip.family ≠ n.localAddress.family := by
  constructor
  · intro host w found w₁ hlookup
    exact ⟨n.reachable found, BoundNetwork.resolve_of_lookup hlookup,
      fun ip => BoundNetwork.mem_reachable, n.pairwise_reachable found, n.nodup_reachable found⟩
  · intro c w hnetwork hcreator
    obtain ⟨ips, hcandidates, hnodup, hfamily, hfront⟩ := tried_bound hnetwork w
    have hsockets : Event.socketsOf (c.connect.run w).trace
        = ips.map fun ip => (.network, ⟨ip, c.config.port⟩) := by
      rw [socketsOf_connect, sockets_bound hnetwork hcreator hcandidates]
    refine ⟨?_, ?_, ?_, ?_, fun cause => refused_bound hnetwork hcreator,
      unresolved_bound_iff hnetwork w⟩
    · rw [hcandidates]
      exact hnodup.map fun a b hab => by simpa using hab
    · intro found w₁ hlookup
      rw [hcandidates]
      exact (hfront found w₁ hlookup).map _
    · rw [hsockets]
      exact hnodup.map fun a b hab => by simpa using hab
    · intro request hrequest
      rw [hsockets] at hrequest
      obtain ⟨ip, hip, rfl⟩ := List.mem_map.mp hrequest
      exact ⟨rfl, hfamily ip hip⟩

/-- The network of a local address of the fourth version. -/
def localNetwork : BoundNetwork := ⟨.v4 10 0 0 9⟩

/-- A machine that finds addresses of both families for a host, one of them twice, and reaches none. -/
def bothFamilies : Platform Unit :=
  { twoAddresses.platform with
    lookup := fun _ _ =>
      (.ok [.v6 (.replicate 8 1), .v4 10 0 0 2, .v4 10 0 0 1, .v4 10 0 0 2], ()) }

/-- A connector that is bound to the network. -/
def boundConnector : Connector Unit :=
  { twoAddresses with
    platform := bothFamilies
    network := some (localNetwork.toNetwork bothFamilies) }

theorem connect_bound_bothFamilies :
    (∃ kept, localNetwork.resolve bothFamilies "mail.example.org" () = (.ok kept, ()) ∧
        .v4 10 0 0 1 ∈ kept ∧ kept.Nodup) ∧
      (Event.socketsOf (boundConnector.connect.run ()).trace).Nodup ∧
      (boundConnector.connect.run ()).result ≠ .error (.unresolved "mail.example.org") := by
  obtain ⟨hresolve, hconnect⟩ := connect_bound localNetwork bothFamilies
  obtain ⟨kept, hkept, hmem, -, hkeptOnce⟩ := hresolve "mail.example.org" () _ () rfl
  obtain ⟨-, -, hnodup, -, -, hunresolved⟩ := hconnect boundConnector () rfl rfl
  refine ⟨⟨kept, hkept, (hmem _).mpr ⟨by simp, rfl⟩, hkeptOnce⟩, hnodup, ?_⟩
  intro h
  obtain ⟨-, found, w₁, hlookup, hnone⟩ := (hunresolved _).mp h
  cases hlookup
  exact hnone (.v4 10 0 0 2) (by simp) rfl

end Connector

end Mailwire
