import GameHub.Proofs.Hub.Invariant

/-!
# One id, one player

The hub looks its players up by address and holds their places and transfers by id.

**Theorem (`run_identities`).** As long as fewer than `2 ^ 32 - 1` connections were ever made, no
two players share an address, there are no more players than allowed, no id was given out twice, a
player has at most one place in line and no transfer while in line, and every transfer is that of
the player under whose id it stands. Whenever word of a player who was dropped for silence arrives,
no connection notices: the id is not given out again, not even to the same address.
-/

namespace GameHub.Hub

namespace Sound

variable {limit : Nat} {ids : List PlayerId} {h : Hub}

/-- Word of a player who was dropped is not about anyone who is connected. -/
theorem forgetOverdue_frame (hs : Sound limit ids h) (hfew : ids.length < UInt32.size - 1)
    (place : Nat) : (h.forgetOverdue place).clients = h.clients ∧
      (h.forgetOverdue place).queue = h.queue ∧
      ∀ id ∈ h.clients.ids, (h.forgetOverdue place).pendingOf id = h.pendingOf id := by
  rw [Hub.forgetOverdue]
  split
  · next other hother =>
    refine ⟨rfl, rfl, fun id hid => ?_⟩
    refine (pendingOf_forgetTransfer_of_ne _ fun heq => ?_).trans rfl
    exact hs.gone hfew other (List.mem_of_getElem? hother) (heq ▸ hid)
  · exact ⟨rfl, rfl, fun _ _ => rfl⟩

end Sound

/-! ## The result -/

/-- **Ids mean one player, whatever happens in which order.** -/
theorem run_identities (config : Config) (options : Options) (run : List Occurrence)
    (hfew : (issued ((Hub.new config options).run run).1).length < UInt32.size - 1) :
    let ids := issued ((Hub.new config options).run run).1
    let h := ((Hub.new config options).run run).2
    ((h.clients.connected.map (·.address)).Nodup ∧
      ∀ connected : List Client, connected.Perm h.clients.connected → ∀ address,
        (connected.find? (·.address = address)).map (·.id) = h.clients.find? address) ∧
    h.clients.size ≤ options.maxClients ∧
    (ids.Nodup ∧ (∀ id ∈ h.clients.ids, id ∈ ids) ∧ (∀ e ∈ h.queue.entries, e.subject ∈ ids) ∧
      ∀ transfer ∈ h.pending, transfer.1 ∈ ids) ∧
    (h.queue.entries.map (·.subject)).Nodup ∧
    (∀ id, h.queue.isQueued id = true → h.pendingOf id = none) ∧
    (∀ transfer ∈ h.pending, transfer.2.decision.entry.subject = transfer.1) ∧
    (∀ before after, run = before ++ after →
      ∀ id ∈ ((Hub.new config options).run before).2.overdue,
        id ∉ issued (((Hub.new config options).run before).2.run after).1) ∧
    ∀ place, (h.forgetOverdue place).clients = h.clients ∧
      (h.forgetOverdue place).queue = h.queue ∧
      ∀ id ∈ h.clients.ids, (h.forgetOverdue place).pendingOf id = h.pendingOf id := by
  intro ids h
  have hs : Sound options.maxClients ids h := (Sound.new config options).run run
  -- The ids are the first ones of the counter, and those differ until it wraps.
  have hnodup : ids.Nodup := by
    rw [hs.counted]
    exact nodup_firstIds (Nat.lt_of_lt_of_le hfew (Nat.sub_le ..))
  have hentries := h.queue.entries_perm
  refine ⟨⟨hs.clients.addresses, fun connected hperm address => ?_⟩, ?_,
    ⟨hnodup, hs.connected, fun e he => ?_, fun transfer ht => ?_⟩, ?_,
    fun id hid => hs.pendingOf_eq_none hid, hs.owner, fun before after hrun id hid => ?_,
    hs.forgetOverdue_frame hfew⟩
  · refine Option.ext fun id => ?_
    rw [hs.clients.find?_of_perm hperm, hs.clients.find?_iff]
  · rw [← hs.capacity]
    exact hs.clients.room
  · refine hs.holders e.ticket (List.mem_append_left _ (hentries.mem_iff.mp ?_))
    exact List.mem_map_of_mem he
  · rw [← hs.owner transfer ht]
    refine hs.holders transfer.2.decision.entry.ticket (List.mem_append_right _ ?_)
    exact List.mem_map_of_mem ht
  · have hsubjects := (hentries.map (·.subject)).nodup_iff.mpr hs.tickets_nodup
    rw [List.map_map] at hsubjects
    exact hsubjects
  · have hbefore : Sound options.maxClients _ _ := (Sound.new config options).run before
    have hsplit : ids = issued ((Hub.new config options).run before).1 ++
        issued (((Hub.new config options).run before).2.run after).1 := by
      rw [← issued_append, ← fst_run_append, ← hrun]
    rw [hsplit] at hnodup
    exact List.disjoint_of_nodup_append hnodup (hbefore.overdue id hid)

/-- A player who was sent to a backend falls silent, connects again from the same address and is
sent there again. Word of the silence arrives only then. -/
theorem run_identities_of_reconnected :
    let config : Config := ⟨[⟨"lobby", none, "10.0.0.2:25565", none⟩], default, default, default⟩
    let player : Address := ⟨.v4 10 0 0 9, 4000⟩
    let early : Moment := ⟨0, ⟨0⟩⟩
    let late : Moment := ⟨20000, ⟨20_000_000_000⟩⟩
    let run := [.plain early (.packet player (.connect protocolVersion)),
      .plain early (.packet ⟨.v4 10 0 0 2, 4001⟩ (.statusReport "lobby" 0 20)),
      .plain early (.packet player (.joinQueue "lobby" .player)), .plain early .reconcile,
      .plain late .checkClients, .plain late (.packet player (.connect protocolVersion)),
      .plain late (.packet player (.joinQueue "lobby" .player)), .plain late .reconcile]
    let out := ((Hub.new config default).run run).1
    let h := ((Hub.new config default).run run).2
    (issued out).length < UInt32.size - 1 ∧ h.overdue = [1] ∧ h.clients.find? player = some 2 ∧
      h.pending.map (·.1) = [2, 1] ∧ 2 ∈ h.clients.ids ∧
      (h.forgetOverdue 0).pendingOf 2 = h.pendingOf 2 := by
  intro config player early late run out h
  have hfew : (issued out).length < UInt32.size - 1 := by decide +kernel
  have hid : 2 ∈ h.clients.ids := by decide +kernel
  obtain ⟨-, -, -, -, -, -, -, hlate⟩ := run_identities config default run hfew
  exact ⟨hfew, by decide +kernel, by decide +kernel, by decide +kernel, hid, (hlate 0).2.2 2 hid⟩

end GameHub.Hub
