import GameHub.Proofs.Hub.Desk
import GameHub.Proofs.Hub.Fate

/-!
# Packets keep to what they are about

What a packet may change is told by who sends packets of its kind. One from a player is about that
player, one from a backend is about that backend, and one that only the hub sends is about nothing.

**Theorem (`packets_isolated`).** A packet of a player leaves the backends and their restarts as
they were, and all that the hub knows of the players at other addresses: their connections, their
tickets in the order in which they stand, and their transfers. It changes nothing at all if nobody
is connected from there, unless it is a connection that is accepted. A packet of a backend leaves
the players alone, a report changes one record at most, and the restart packets only change the
coordinator.

One clause has a proviso. A connection gets the next id, and once the ids have wrapped that may be
the id of a player elsewhere. So what `Connect` leaves of the other connections is said for a hub
that has given out fewer than 2³² - 1 ids.

Taking one player out of the heap moves the entries of others, so that their order stays is shown on
the line that the queue models (`Hub.exists_line`).
-/

namespace GameHub

open Admission Backend

/-! ## Kinds of packets -/

/-- Who sends packets of a kind. -/
inductive Origin where
  | player
  | backend
  | hub
  deriving DecidableEq, Repr

/-- Who sends packets of this kind. -/
def Packet.origin : Packet → Origin
  | connect .. | joinQueue .. | leaveQueue | queryPosition | transferFailed .. | heartbeat
  | disconnect => .player
  | statusReport .. | restartRequest .. | restartComplete .. | unauthorizedRestart ..
  | stateQuery => .backend
  | connected .. | queuePosition .. | notice .. | progress .. | clearProgress | transfer ..
  | disconnected .. | restartResponse .. | restartAck .. | stateSnapshot ..
  | stateUnavailable .. => .hub

/-! ## Other players in line -/

namespace Admission

namespace Line

theorem filter_without (l : Line) (subject : PlayerId) :
    (l.without subject).tickets.filter (·.subject ≠ subject) =
      l.tickets.filter (·.subject ≠ subject) := by
  rw [without, restrict, List.filter_filter]
  simp only [Bool.and_self]

theorem filter_put (l : Line) (t : Ticket) :
    (l.put t).tickets.filter (·.subject ≠ t.subject) =
      l.tickets.filter (·.subject ≠ t.subject) := by
  obtain ⟨ahead, behind, hsplit, hput⟩ :=
    insertBy_split Ticket.notAfter t (l.without t.subject).tickets
  change (insertBy Ticket.notAfter t (l.without t.subject).tickets).filter _ = _
  rw [hput, List.filter_append, List.filter_cons_of_neg (by simp), ← List.filter_append, ← hsplit,
    filter_without]

end Line

namespace Queue

/-- The tickets of all players but one, in the order of service. -/
def others (q : Queue) (subject : PlayerId) : List Ticket :=
  (q.entries.map Entry.ticket).filter (·.subject ≠ subject)

/-- Whoever leaves out that player as well sees the same in both lines. -/
theorem filter_of_others {q q' : Queue} {subject : PlayerId}
    (h : q'.others subject = q.others subject) {keep : Ticket → Bool}
    (hkeep : ∀ t, t.subject = subject → keep t = false) :
    (q'.entries.map Entry.ticket).filter keep = (q.entries.map Entry.ticket).filter keep := by
  have hfilter : ∀ q : Queue, (q.entries.map Entry.ticket).filter keep =
      (q.others subject).filter keep := by
    intro q
    rw [others, List.filter_filter]
    refine List.filter_congr fun t _ => ?_
    by_cases ht : t.subject = subject
    · simp [ht, hkeep t ht]
    · simp [ht]
  rw [hfilter, hfilter, h]

section Others

variable {q : Queue} {p : PlainDesk} {subject : PlayerId}

theorem others_eq {l : Line} (hmodels : Models q l) (hdistinct : l.Distinct) :
    q.others subject = l.tickets.filter (·.subject ≠ subject) := by
  rw [others, entries, hmodels.sorted_eq hdistinct]

theorem others_enqueue (hn : p.Numbered) (hmodels : Models q p.line) (subject : PlayerId)
    (rank : Rank) (target : String) (now : UInt64) (backends : Registry) :
    (q.enqueue subject rank target now backends).queue.others subject = q.others subject := by
  have hafter := hmodels.enqueue subject rank target now backends
  rw [others_eq hafter (hn.of_join rfl).distinct, others_eq hmodels hn.distinct]
  exact Line.filter_put p.line ⟨subject, rank, now, target, p.line.nextSeq⟩

theorem others_remove (hn : p.Numbered) (hmodels : Models q p.line) (subject : PlayerId) :
    (q.remove subject).queue.others subject = q.others subject := by
  obtain ⟨-, -, hafter⟩ := hmodels.remove subject
  rw [others_eq hmodels hn.distinct]
  cases hqueued : p.line.isQueued subject with
  | false =>
    rw [hqueued] at hafter
    exact others_eq hafter hn.distinct
  | true =>
    rw [hqueued] at hafter
    have hdistinct : (p.line.without subject).Distinct :=
      hn.distinct.sublist (List.filter_sublist.map _)
    rw [← Line.filter_without]
    exact others_eq hafter hdistinct

theorem others_requeue (hn : p.Numbered) (hmodels : Models q p.line) {decision : Decision}
    (hoffer : decision.offer ∈ p.offers) (error : TransferError) (live : PlayerId → Bool) :
    (q.requeue decision error live).queue.others decision.entry.subject =
      q.others decision.entry.subject := by
  cases hdone : live decision.entry.subject && !p.line.isQueued decision.entry.subject with
  | false => rw [hmodels.requeue_refused decision error live hdone]
  | true =>
    have hdistinct := (hn.of_return hoffer).distinct
    have hafter := (hmodels.requeue_done decision error live hdone hdistinct).2.2
    rw [others_eq hafter hdistinct, others_eq hmodels hn.distinct]
    exact Line.filter_put p.line decision.entry.ticket

end Others

end Queue

end Admission

/-! ## Players at other addresses -/

namespace Clients

variable {c : Clients} {id : PlayerId} {address : Address}

/-- The players at other addresses. -/
def elsewhere (c : Clients) (address : Address) : List Client :=
  c.connected.filter (·.address ≠ address)

theorem find?_eq_none_iff : c.find? address = none ↔ ∀ p ∈ c.connected, p.address ≠ address := by
  simp [find?]

theorem Sound.id_ne_of_elsewhere (h : c.Sound) (hfind : c.find? address = some id) {p : Client}
    (hp : p ∈ c.elsewhere address) : p.id ≠ id := by
  obtain ⟨hmem, helsewhere⟩ := List.mem_filter.mp hp
  rintro rfl
  have hthere : (p.address, p.id) ∈ c.connections := mem_connections.mpr ⟨p, hmem, rfl, rfl⟩
  exact of_decide_eq_true helsewhere (h.address_eq hthere (h.find?_iff.mp hfind))

theorem Sound.elsewhere_touch (h : c.Sound) (hfind : c.find? address = some id) (now : Instant) :
    (c.touch id now).2.elsewhere address = c.elsewhere address := by
  rw [elsewhere, touch, List.filter_map]
  have hkept : ((fun p : Client => decide (p.address ≠ address)) ∘ fun p : Client =>
      if p.id = id then { p with lastSeen := now } else p) =
      fun p => decide (p.address ≠ address) := by
    funext p
    by_cases hp : p.id = id <;> simp [hp]
  rw [hkept]
  refine (List.map_congr_left fun p hp => ?_).trans (List.map_id _)
  exact if_neg (h.id_ne_of_elsewhere hfind hp)

theorem Sound.elsewhere_remove (h : c.Sound) (hfind : c.find? address = some id) :
    (c.remove id).2.elsewhere address = c.elsewhere address := by
  rw [elsewhere, remove, List.filter_filter]
  refine List.filter_congr fun p hp => ?_
  by_cases helsewhere : p.address = address
  · simp [helsewhere]
  · have hne := h.id_ne_of_elsewhere hfind (List.mem_filter.mpr ⟨hp, by simpa using helsewhere⟩)
    simp [hne]

theorem Sound.elsewhere_vacate (h : c.Sound) (address : Address) :
    (c.vacate address).elsewhere address = c.elsewhere address := by
  rw [Clients.vacate]
  split
  · next id hfind => exact h.elsewhere_remove hfind
  · rfl

/-- A new connection takes none away, if its id is not in use. -/
theorem elsewhere_add (hfresh : c.nextId ∉ c.ids) (address : Address) (now : Instant) :
    (c.add address now).2.elsewhere address = c.elsewhere address := by
  rcases Nat.lt_or_ge c.size c.capacity with hlt | hle
  · have hkept : c.connected.filter (·.id ≠ c.nextId) = c.connected := by
      refine List.filter_eq_self.mpr fun p hp => decide_eq_true ?_
      rintro heq
      exact hfresh (heq ▸ List.mem_map_of_mem hp)
    rw [add_of_lt hlt, elsewhere, hkept, List.filter_append, List.filter_cons_of_neg (by simp),
      List.filter_nil, List.append_nil, elsewhere]
  · rw [add_of_le hle]

end Clients

namespace Hub

variable {h h' : Hub}

/-! ## The watch over silent players -/

/-- Who falls silent elsewhere does not depend on who is at this address. -/
theorem elsewhere_checkClients (h : Hub) (now : Moment) (address : Address) :
    (h.checkClients now).clients.elsewhere address =
      (h.clients.elsewhere address).filter fun p =>
        !p.isTimedOut now.instant h.clients.timeout := by
  rw [checkClients, Clients.dropTimedOut, List.partition_eq_filter_filter]
  show (h.clients.connected.filter _).filter _ = (h.clients.connected.filter _).filter _
  rw [List.filter_filter, List.filter_filter]
  refine List.filter_congr fun p _ => ?_
  rw [Bool.and_comm]
  rfl

theorem elsewhere_lapse_congr {address : Address}
    (helsewhere : h'.clients.elsewhere address = h.clients.elsewhere address)
    (htimeout : h'.clients.timeout = h.clients.timeout) (gap : List Moment) :
    (h'.lapse gap).clients.elsewhere address = (h.lapse gap).clients.elsewhere address := by
  induction gap generalizing h h' with
  | nil => exact helsewhere
  | cons now gap ih =>
    refine ih ?_ htimeout
    rw [elsewhere_checkClients, elsewhere_checkClients, helsewhere, htimeout]

theorem Sound.elsewhere_identify {limit : Nat} {ids : List PlayerId} (hs : Sound limit ids h)
    (sender : Address) (now : Moment) (gap : List Moment) :
    (h.identify sender now gap).2.clients.elsewhere sender =
      (h.lapse gap).clients.elsewhere sender := by
  rw [Hub.identify]
  split
  · next id hfind =>
    refine elsewhere_lapse_congr ?_ ?_ gap
    · exact hs.clients.elsewhere_touch hfind now.instant
    · rfl
  · rfl

/-! ## Packets of players -/

section Player

variable {limit : Nat} {ids : List PlayerId} {now : Moment} {gap : List Moment} {sender : Address}
  {packet : Packet}

/-- The look-up of a sender only touches the connections. -/
theorem identify_frame (h : Hub) (sender : Address) (now : Moment) (gap : List Moment) :
    (h.identify sender now gap).2 = { h with
      clients := (h.identify sender now gap).2.clients
      overdue := (h.identify sender now gap).2.overdue } := by
  rw [identify]
  split
  · exact lapse_eq _ gap
  · exact lapse_eq h gap

/-- Players have no say in what concerns the backends. -/
theorem backends_handleAcross (h : Hub) (now : Moment) (gap : List Moment) (sender : Address)
    (hplayer : packet.origin = .player) :
    (h.handleAcross now gap sender packet).2.restarts = h.restarts ∧
      (h.handleAcross now gap sender packet).2.registry = h.registry := by
  by_cases hlookup : packet.looksUpSender = true
  · obtain ⟨queue, pending, heq⟩ := handleAcross_of_looksUpSender h sender now gap hlookup
    rw [heq, identify_frame]
    exact ⟨rfl, rfl⟩
  · cases packet with
    | connect version =>
      rw [handleAcross, handleConnect]
      split
      · exact ⟨rfl, rfl⟩
      · split <;> exact ⟨rfl, rfl⟩
    | disconnect =>
      rw [handleAcross, handleDisconnect]
      split <;> exact ⟨rfl, rfl⟩
    | joinQueue | leaveQueue | queryPosition | transferFailed | heartbeat =>
      exact absurd rfl hlookup
    | _ => cases hplayer

/-- A stranger only lets time pass. -/
theorem handleAcross_of_stranger (hstranger : h.clients.find? sender = none)
    (hplayer : packet.origin = .player) (hconnect : ∀ version, packet ≠ .connect version) :
    (h.handleAcross now gap sender packet).2 =
      if packet.looksUpSender then h.lapse gap else h := by
  have hidentify : h.identify sender now gap = (none, h.lapse gap) := by
    rw [identify, hstranger]
  cases packet with
  | connect version => exact absurd rfl (hconnect version)
  | joinQueue target rank =>
    rw [handleAcross, handleJoin, hidentify]
    rfl
  | leaveQueue =>
    rw [handleAcross, handleLeave, hidentify]
    rfl
  | queryPosition =>
    rw [handleAcross, handleQueryPosition, hidentify]
    rfl
  | transferFailed reason =>
    rw [handleAcross, handleTransferFailed, hidentify]
    rfl
  | heartbeat =>
    rw [handleAcross, hidentify]
    rfl
  | disconnect =>
    rw [handleAcross, handleDisconnect, hstranger]
    rfl
  | _ => cases hplayer

/-- Who connects finds the line and the transfers as they are. -/
theorem waiting_handleConnect (h : Hub) (now : Moment) (sender : Address) (version : UInt32) :
    (h.handleConnect now sender version).2.queue = h.queue ∧
      (h.handleConnect now sender version).2.pending = h.pending := by
  rw [handleConnect]
  split
  · exact ⟨rfl, rfl⟩
  · split <;> exact ⟨rfl, rfl⟩

theorem handleConnect_refused {version : UInt32}
    (hrefused : version ≠ protocolVersion ∨
      h.clients.find? sender = none ∧ h.clients.capacity ≤ h.clients.size) :
    (h.handleConnect now sender version).2 = h := by
  rw [handleConnect]
  by_cases hversion : version ≠ protocolVersion
  · rw [if_pos hversion]
  · obtain ⟨hstranger, hfull⟩ := hrefused.resolve_left hversion
    have hvacate : h.clients.vacate sender = h.clients := by
      rw [Clients.vacate, hstranger]
    rw [if_neg hversion, hvacate, Clients.add_of_le hfull]

/-- A stranger finds the line and the transfers as they are. -/
theorem waiting_of_stranger (hstranger : h.clients.find? sender = none)
    (hplayer : packet.origin = .player) :
    (h.handleAcross now gap sender packet).2.queue = h.queue ∧
      (h.handleAcross now gap sender packet).2.pending = h.pending := by
  by_cases hconnect : ∃ version, packet = .connect version
  · obtain ⟨version, rfl⟩ := hconnect
    exact waiting_handleConnect h now sender version
  · rw [handleAcross_of_stranger hstranger hplayer (not_exists.mp hconnect)]
    split
    · exact ⟨queue_lapse .., pending_lapse ..⟩
    · exact ⟨rfl, rfl⟩

/-- A player has no say in where others stand and what they have been promised. -/
theorem Sound.others_handleAcross (hs : Sound limit ids h) {p : PlainDesk} (hn : p.Numbered)
    (hmodels : Models h.queue p.line)
    (hoffers : ∀ transfer ∈ h.pending, transfer.2.decision.offer ∈ p.offers)
    (now : Moment) (gap : List Moment) {id : PlayerId} (hfind : h.clients.find? sender = some id)
    (hplayer : packet.origin = .player) :
    (h.handleAcross now gap sender packet).2.queue.others id = h.queue.others id ∧
      ∀ other, other ≠ id →
        (h.handleAcross now gap sender packet).2.pendingOf other = h.pendingOf other := by
  have hqueue := queue_identify h sender now gap
  have hpending := pendingOf_congr (pending_identify h sender now gap)
  cases packet with
  | connect version =>
    obtain ⟨hsame, hkept⟩ := waiting_handleConnect h now sender version
    exact ⟨congrArg (Queue.others · id) hsame, fun other _ => pendingOf_congr hkept other⟩
  | joinQueue target rank =>
    rw [Hub.handleAcross, Hub.handleJoin, identify_eq, hfind]
    refine ⟨?_, fun other hne => ?_⟩
    · rw [← hqueue] at hmodels ⊢
      exact Queue.others_enqueue hn hmodels id rank target now.wall
        (h.identify sender now gap).2.registry
    · exact (pendingOf_forgetTransfer_of_ne _ hne).trans (hpending other)
  | leaveQueue =>
    rw [Hub.handleAcross, Hub.handleLeave, identify_eq, hfind]
    refine ⟨?_, fun other _ => hpending other⟩
    rw [← hqueue] at hmodels ⊢
    exact Queue.others_remove hn hmodels id
  | queryPosition =>
    rw [Hub.handleAcross, handleQueryPosition_snd, hqueue]
    exact ⟨rfl, fun other _ => hpending other⟩
  | transferFailed reason =>
    rw [Hub.handleAcross, Hub.handleTransferFailed, identify_eq, hfind]
    dsimp only
    split
    · rw [hqueue]
      exact ⟨rfl, fun other _ => hpending other⟩
    · next transfer htransfer =>
      refine ⟨?_, fun other hne => (pendingOf_forgetTransfer_of_ne _ hne).trans (hpending other)⟩
      -- The transfer under this id is one of the sender, so its ticket is no other's.
      have hmem := mem_of_pendingOf ((hpending id).symm.trans htransfer)
      rw [← hqueue] at hmodels ⊢
      rw [← show transfer.decision.entry.subject = id from hs.owner _ hmem]
      exact Queue.others_requeue hn hmodels (hoffers _ hmem) ..
  | heartbeat =>
    rw [Hub.handleAcross, hqueue]
    exact ⟨rfl, fun other _ => hpending other⟩
  | disconnect =>
    rw [Hub.handleAcross, Hub.handleDisconnect, hfind]
    exact ⟨Queue.others_remove hn hmodels id, fun _ hne => pendingOf_forgetTransfer_of_ne _ hne⟩
  | _ => cases hplayer

/-- As long as ids last, a new one is in use nowhere. -/
theorem Sound.nextId_not_mem (hs : Sound limit ids h) (hfew : ids.length < UInt32.size - 1) :
    h.clients.nextId ∉ h.clients.ids := by
  intro hmem
  have hnew := ofNat_not_mem_firstIds (n := ids.length) (by omega)
  rw [← hs.counted, ← hs.nextId] at hnew
  exact hnew (hs.connected _ hmem)

theorem Sound.elsewhere_handleConnect (hs : Sound limit ids h)
    (hfew : ids.length < UInt32.size - 1) (now : Moment) (sender : Address) (version : UInt32) :
    (h.handleConnect now sender version).2.clients.elsewhere sender =
      h.clients.elsewhere sender := by
  have hvacate := hs.clients.elsewhere_vacate sender
  have hfresh : (h.clients.vacate sender).nextId ∉ (h.clients.vacate sender).ids := by
    rw [Clients.nextId_vacate]
    exact fun hmem => hs.nextId_not_mem hfew
      ((Clients.ids_sublist (hs.clients.vacate sender).1).mem hmem)
  have hadd := (Clients.elsewhere_add hfresh sender now.instant).trans hvacate
  rw [Hub.handleConnect]
  split
  · rfl
  · split
    · next heq =>
      rw [heq] at hadd
      exact hadd
    · next heq =>
      rw [heq] at hadd
      exact hadd

/-- A player has no say in who is connected elsewhere. -/
theorem Sound.elsewhere_handleAcross (hs : Sound limit ids h)
    (hfew : (∃ version, packet = .connect version) → ids.length < UInt32.size - 1)
    (now : Moment) (gap : List Moment) (sender : Address) (hplayer : packet.origin = .player) :
    (h.handleAcross now gap sender packet).2.clients.elsewhere sender =
      (if packet.looksUpSender then h.lapse gap else h).clients.elsewhere sender := by
  by_cases hlookup : packet.looksUpSender = true
  · obtain ⟨queue, pending, heq⟩ := handleAcross_of_looksUpSender h sender now gap hlookup
    rw [heq, if_pos hlookup]
    exact hs.elsewhere_identify sender now gap
  · rw [if_neg hlookup]
    cases packet with
    | connect version => exact hs.elsewhere_handleConnect (hfew ⟨version, rfl⟩) now sender version
    | disconnect =>
      rw [Hub.handleAcross, Hub.handleDisconnect]
      split
      · rfl
      · next id hfind => exact hs.clients.elsewhere_remove hfind
    | joinQueue | leaveQueue | queryPosition | transferFailed | heartbeat =>
      exact absurd rfl hlookup
    | _ => cases hplayer

end Player

/-! ## The result -/

/-- **A packet keeps to what it is about.** For `Connect` the other connections are kept under the
proviso that fewer than 2³² - 1 ids have been given out, so that the next id is nobody's. -/
theorem packets_isolated (config : Config) (options : Options) (run : List Occurrence)
    (now : Moment) (gap : List Moment) (sender : Address) (packet : Packet) :
    let h := ((Hub.new config options).run run).2
    let after := (h.handleAcross now gap sender packet).2
    -- Players elsewhere may fall silent while the hub looks up the sender.
    let meanwhile := if packet.looksUpSender then h.lapse gap else h
    let stranger := ∀ p ∈ h.clients.connected, p.address ≠ sender
    (packet.origin = .player →
      after.restarts = h.restarts ∧ after.registry = h.registry ∧
      (((∃ version, packet = .connect version) →
          (issued ((Hub.new config options).run run).1).length < UInt32.size - 1) →
        after.clients.elsewhere sender = meanwhile.clients.elsewhere sender) ∧
      (after.queue.entries.map Entry.ticket).filter
          (·.subject ∈ (h.clients.elsewhere sender).map (·.id)) =
        (h.queue.entries.map Entry.ticket).filter
          (·.subject ∈ (h.clients.elsewhere sender).map (·.id)) ∧
      (∀ p ∈ h.clients.elsewhere sender, after.pendingOf p.id = h.pendingOf p.id) ∧
      (stranger → packet ≠ .connect protocolVersion → after = meanwhile)) ∧
    (∀ version, packet = .connect version →
      version ≠ protocolVersion ∨ stranger ∧ h.clients.capacity ≤ h.clients.size → after = h) ∧
    (packet.origin = .backend →
      after.clients = h.clients ∧ after.queue = h.queue ∧ after.pending = h.pending) ∧
    (∀ server current max, packet = .statusReport server current max →
      after = { h with registry := after.registry } ∧
      after.registry.threshold = h.registry.threshold ∧
      after.registry.ids = h.registry.ids ∧ h.registry.ids.Nodup ∧
      ∀ id, id ≠ server → after.registry.get? id = h.registry.get? id) ∧
    (∀ server, packet = .restartRequest server ∨ packet = .restartComplete server ∨
      packet = .unauthorizedRestart server → after = { h with restarts := after.restarts }) ∧
    (packet = .stateQuery ∨ packet.origin = .hub → after = h) := by
  intro h after meanwhile stranger
  have hs : Sound options.maxClients _ h := (Sound.new config options).run run
  obtain ⟨p, hn, hmodels, hoffers⟩ := exists_line config options run
  refine ⟨fun hplayer => ?_, fun version hconnect hrefused => ?_, fun hbackend => ?_,
    fun server current max hreport => ?_, fun server hrestart => ?_, fun hidle => ?_⟩
  · obtain ⟨hrestarts, hregistry⟩ := backends_handleAcross h now gap sender hplayer
    refine ⟨hrestarts, hregistry,
      fun hfew => hs.elsewhere_handleAcross hfew now gap sender hplayer, ?_, ?_, ?_⟩
    · cases hfind : h.clients.find? sender with
      | none => rw [show after.queue = h.queue from (waiting_of_stranger hfind hplayer).1]
      | some id =>
        -- Whoever is connected from elsewhere has another id than the sender.
        have hothers := (hs.others_handleAcross hn hmodels hoffers now gap hfind hplayer).1
        refine Queue.filter_of_others hothers fun t ht => decide_eq_false fun hmem => ?_
        obtain ⟨other, hother, hsubject⟩ := List.mem_map.mp hmem
        exact hs.clients.id_ne_of_elsewhere hfind hother (hsubject.trans ht)
    · intro other hother
      cases hfind : h.clients.find? sender with
      | none => exact pendingOf_congr (waiting_of_stranger hfind hplayer).2 other.id
      | some id =>
        refine (hs.others_handleAcross hn hmodels hoffers now gap hfind hplayer).2 other.id ?_
        exact hs.clients.id_ne_of_elsewhere hfind hother
    · intro hstranger hversion
      have hfind := Clients.find?_eq_none_iff.mpr hstranger
      by_cases hconnect : ∃ version, packet = .connect version
      · obtain ⟨version, rfl⟩ := hconnect
        exact handleConnect_refused (.inl fun heq => hversion (congrArg Packet.connect heq))
      · exact handleAcross_of_stranger hfind hplayer (not_exists.mp hconnect)
  · subst hconnect
    exact handleConnect_refused (hrefused.imp_right (.imp_left Clients.find?_eq_none_iff.mpr))
  · cases packet <;> first | exact ⟨rfl, rfl, rfl⟩ | cases hbackend
  · subst hreport
    have hids : h.registry.ids = (Hub.new config options).registry.ids :=
      congrArg Prod.fst (settings_run (Hub.new config options) run)
    refine ⟨rfl, rfl, Registry.ids_adjust fun _ _ => rfl, ?_, fun id hne => ?_⟩
    · rw [hids]
      exact Registry.nodup_ids_ofDeclarations ..
    · exact Registry.get?_adjust_of_ne _ (fun _ => rfl) hne
  · rcases hrestart with rfl | rfl | rfl <;> rfl
  · rcases hidle with rfl | hhub
    · rfl
    · cases packet <;> first | rfl | cases hhub

section Overtaken

-- The runs below are evaluated by the kernel alone; unfolding them while terms are matched is slow.
attribute [local irreducible] Hub.run

/-- The first of three players in line goes away, and the other two stand as they stood. -/
theorem packets_isolated_of_disconnected :
    let config : Config := ⟨[⟨"lobby", none, "10.0.0.2:25565", none⟩], default, default, default⟩
    let now : Moment := ⟨0, ⟨0⟩⟩
    let one : Address := ⟨.v4 10 0 0 8, 4000⟩
    let two : Address := ⟨.v4 10 0 0 9, 4000⟩
    let three : Address := ⟨.v4 10 0 0 10, 4000⟩
    let run : List Occurrence := [.plain now (.packet one (.connect protocolVersion)),
      .plain now (.packet two (.connect protocolVersion)),
      .plain now (.packet three (.connect protocolVersion)),
      .plain now (.packet one (.joinQueue "lobby" .admin)),
      .plain now (.packet two (.joinQueue "lobby" .player)),
      .plain now (.packet three (.joinQueue "lobby" .player))]
    let h := ((Hub.new config default).run run).2
    let after := (h.handleAcross now [] one .disconnect).2
    let others := (h.clients.elsewhere one).map (·.id)
    Packet.disconnect.origin = .player ∧ others = [2, 3] ∧
      h.queue.entries.map (·.subject) = [1, 2, 3] ∧
      after.clients.elsewhere one = h.clients.elsewhere one ∧
      (after.queue.entries.map Entry.ticket).filter (·.subject ∈ others) =
        (h.queue.entries.map Entry.ticket).filter (·.subject ∈ others) := by
  intro config now one two three run h after others
  have hothers : others = [2, 3] := by decide +kernel
  have hline : h.queue.entries.map (·.subject) = [1, 2, 3] := by decide +kernel
  obtain ⟨-, -, hplayers, htickets, -⟩ :=
    (packets_isolated config default run now [] one .disconnect).1 rfl
  exact ⟨rfl, hothers, hline, hplayers fun hconnect => (nomatch hconnect.choose_spec), htickets⟩

end Overtaken

end Hub

end GameHub
