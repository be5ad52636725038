import GameHub.Clients
import GameHub.Proofs.Keyed

/-!
# Who is connected from where

`Clients.connections` is what the hub knows of its players without the times. As long as no id and
no address stands twice in it (`Clients.Sound`) a look-up by address and one by id give the same
connections, in whatever order they are kept. The times only decide who is dropped.
-/

namespace GameHub

namespace Clients

/-- The addresses of the players, with their ids. -/
def connections (c : Clients) : List (Address × PlayerId) :=
  c.connected.map fun p => (p.address, p.id)

/-- Ids and addresses stand for one player each, and there is room for all players. -/
structure Sound (c : Clients) : Prop where
  ids : c.ids.Nodup
  addresses : (c.connected.map (·.address)).Nodup
  room : c.size ≤ c.capacity

variable {c c' : Clients} {id : PlayerId} {address : Address}

/-! ## Looking up -/

theorem map_fst_connections (c : Clients) :
    c.connections.map (·.1) = c.connected.map (·.address) := by
  rw [connections, List.map_map]
  rfl

theorem map_snd_connections (c : Clients) : c.connections.map (·.2) = c.ids := by
  rw [connections, List.map_map]
  rfl

theorem mem_connections :
    (address, id) ∈ c.connections ↔ ∃ p ∈ c.connected, p.address = address ∧ p.id = id := by
  simp [connections]

theorem mem_ids_of_connection (h : (address, id) ∈ c.connections) : id ∈ c.ids := by
  rw [← map_snd_connections]
  exact List.mem_map_of_mem h

theorem isConnected_iff : c.isConnected id = true ↔ id ∈ c.ids := List.contains_iff_mem

/-- Any order of the connections gives the same player for an address. -/
theorem Sound.find?_of_perm (h : c.Sound) {connected : List Client}
    (hperm : connected.Perm c.connected) :
    (connected.find? (·.address = address)).map (·.id) = some id ↔
      (address, id) ∈ c.connections := by
  have hnodup : (connected.map (·.address)).Nodup := (hperm.map _).nodup_iff.mpr h.addresses
  rw [Option.map_eq_some_iff, mem_connections]
  constructor
  · rintro ⟨p, hp, hid⟩
    obtain ⟨hmem, haddress⟩ := (find?_key_eq_some_iff hnodup).mp hp
    exact ⟨p, hperm.mem_iff.mp hmem, haddress, hid⟩
  · rintro ⟨p, hp, haddress, hid⟩
    exact ⟨p, (find?_key_eq_some_iff hnodup).mpr ⟨hperm.mem_iff.mpr hp, haddress⟩, hid⟩

theorem Sound.find?_iff (h : c.Sound) : c.find? address = some id ↔ (address, id) ∈ c.connections :=
  h.find?_of_perm (.refl _)

theorem Sound.addressOf?_iff (h : c.Sound) :
    c.addressOf? id = some address ↔ (address, id) ∈ c.connections := by
  rw [addressOf?, Option.map_eq_some_iff, mem_connections]
  constructor
  · rintro ⟨p, hp, haddress⟩
    obtain ⟨hmem, hid⟩ := (find?_key_eq_some_iff h.ids).mp hp
    exact ⟨p, hmem, haddress, hid⟩
  · rintro ⟨p, hp, haddress, hid⟩
    exact ⟨p, (find?_key_eq_some_iff h.ids).mpr ⟨hp, hid⟩, haddress⟩

theorem Sound.address_eq (h : c.Sound) {other : Address} (haddress : (address, id) ∈ c.connections)
    (hother : (other, id) ∈ c.connections) : address = other :=
  Option.some.inj ((h.addressOf?_iff.mpr haddress).symm.trans (h.addressOf?_iff.mpr hother))

/-! ## Coming and going -/

theorem ids_sublist (hsub : c'.connections.Sublist c.connections) : c'.ids.Sublist c.ids := by
  rw [← map_snd_connections, ← map_snd_connections]
  exact hsub.map _

theorem Sound.of_sublist (h : c.Sound) (hsub : c'.connections.Sublist c.connections)
    (hcapacity : c'.capacity = c.capacity) : c'.Sound where
  ids := h.ids.sublist (ids_sublist hsub)
  addresses := by
    rw [← map_fst_connections]
    exact List.Nodup.sublist (hsub.map _) (c.map_fst_connections ▸ h.addresses)
  room := by
    have hlength := hsub.length_le
    rw [connections, connections, List.length_map, List.length_map] at hlength
    rw [hcapacity]
    exact Nat.le_trans hlength h.room

theorem connections_touch (c : Clients) (id : PlayerId) (now : Instant) :
    (c.touch id now).2.connections = c.connections := by
  rw [connections, touch, List.map_map, connections]
  refine List.map_congr_left fun p _ => ?_
  by_cases hp : p.id = id
  · simp [hp]
  · simp [hp]

theorem connections_remove (c : Clients) (id : PlayerId) :
    (c.remove id).2.connections = c.connections.filter (·.2 ≠ id) := by
  rw [connections, remove, connections, List.filter_map]
  rfl

/-- After a connection is closed nobody is at its address. -/
theorem Sound.vacate (h : c.Sound) (address : Address) :
    (c.vacate address).connections.Sublist c.connections ∧
      address ∉ (c.vacate address).connected.map (·.address) := by
  rw [← map_fst_connections, Clients.vacate]
  cases hfind : c.find? address with
  | some id =>
    have hremove := c.connections_remove id
    refine ⟨hremove ▸ List.filter_sublist, fun hmem => ?_⟩
    obtain ⟨⟨a, other⟩, hother, rfl⟩ := List.mem_map.mp hmem
    obtain ⟨hother, hne⟩ := List.mem_filter.mp (hremove ▸ hother)
    have hsame := h.find?_iff.mpr hother
    rw [hfind] at hsame
    exact of_decide_eq_true hne (Option.some.inj hsame).symm
  | none =>
    refine ⟨.refl _, fun hmem => ?_⟩
    obtain ⟨⟨a, id⟩, hid, rfl⟩ := List.mem_map.mp hmem
    cases hfind.symm.trans (h.find?_iff.mpr hid)

theorem nextId_vacate (c : Clients) (address : Address) :
    (c.vacate address).nextId = c.nextId := by
  rw [vacate]
  split
  · rfl
  · rfl

theorem capacity_vacate (c : Clients) (address : Address) :
    (c.vacate address).capacity = c.capacity := by
  rw [vacate]
  split
  · rfl
  · rfl

theorem connections_dropTimedOut (c : Clients) (now : Instant) :
    (c.dropTimedOut now).2.connections.Sublist c.connections := by
  refine List.Sublist.map _ ?_
  rw [dropTimedOut, List.partition_eq_filter_filter]
  exact List.filter_sublist

/-- Whoever is dropped was connected and is not any more. -/
theorem ids_dropTimedOut_perm (c : Clients) (now : Instant) :
    c.ids.Perm ((c.dropTimedOut now).1 ++ (c.dropTimedOut now).2.ids) := by
  rw [dropTimedOut, List.partition_eq_filter_filter]
  show (c.connected.map (·.id)).Perm
    ((c.connected.filter _).map (·.id) ++ (c.connected.filter _).map (·.id))
  rw [← List.map_append]
  exact (List.filter_append_perm _ c.connected).symm.map _

theorem add_of_le (h : c.capacity ≤ c.size) (now : Instant) : c.add address now = (none, c) :=
  if_pos h

theorem add_of_lt (h : c.size < c.capacity) (now : Instant) :
    c.add address now = (some c.nextId,
      { c with
        connected := c.connected.filter (·.id ≠ c.nextId) ++ [⟨c.nextId, address, now⟩]
        nextId := c.nextId + 1 }) :=
  if_neg (Nat.not_le.mpr h)

theorem connections_add (h : c.size < c.capacity) (address : Address) (now : Instant) :
    (c.add address now).2.connections =
      c.connections.filter (·.2 ≠ c.nextId) ++ [(address, c.nextId)] := by
  rw [add_of_lt h, connections, connections, List.filter_map, List.map_append]
  rfl

theorem mem_ids_add (h : c.size < c.capacity) (now : Instant)
    (hid : id ∈ (c.add address now).2.ids) : id = c.nextId ∨ id ∈ c.ids := by
  rw [← map_snd_connections, connections_add h, List.map_append, List.mem_append] at hid
  rcases hid with hid | hid
  · refine .inr ?_
    rw [← map_snd_connections]
    exact (List.filter_sublist.map _).mem hid
  · exact .inl (List.mem_singleton.mp hid)

theorem Sound.add (h : c.Sound) (hfree : address ∉ c.connected.map (·.address)) (now : Instant) :
    (c.add address now).2.Sound := by
  rcases Nat.lt_or_ge c.size c.capacity with hlt | hle
  · have hconnections := connections_add hlt address now
    -- A record with the new id, if there is one, makes way for it.
    have hkept : (c.connections.filter (·.2 ≠ c.nextId)).Sublist c.connections :=
      List.filter_sublist
    refine ⟨?_, ?_, ?_⟩
    · rw [← map_snd_connections, hconnections, List.map_append]
      refine List.Nodup.append ?_ (List.nodup_singleton _) ?_
      · exact List.Nodup.sublist (hkept.map _) (c.map_snd_connections ▸ h.ids)
      · simp [List.disjoint_singleton]
    · rw [← map_fst_connections, hconnections, List.map_append]
      refine List.Nodup.append ?_ (List.nodup_singleton _) ?_
      · exact List.Nodup.sublist (hkept.map _) (c.map_fst_connections ▸ h.addresses)
      · refine List.disjoint_singleton.mpr fun hmem => hfree ?_
        rw [← map_fst_connections]
        exact (hkept.map _).mem hmem
    · rw [add_of_lt hlt]
      show (_ ++ [_]).length ≤ c.capacity
      rw [List.length_append]
      exact Nat.le_trans (Nat.add_le_add_right (List.length_filter_le ..) 1) hlt
  · rw [add_of_le hle]
    exact h

end Clients

end GameHub
