import GameHub.Proofs.Config.WellFormed
import GameHub.Proofs.Hub.Custody
import GameHub.Proofs.Hub.Departure
import GameHub.Proofs.Hub.Desk
import GameHub.Proofs.Hub.Isolation
import GameHub.Proofs.Hub.Overbooking

/-!
# Why a player is sent somewhere

A player who is sent to a backend asked for that when joining the line the last time. Between the
two the ticket may have been replaced, handed over to a transfer and put back when that failed, so
what is on the tickets that are in line or with a transfer has to be traced back to the packet by
which their player joined (`Sound.latestJoin_run`): an old ticket is gone as soon as there is a new
one.

**Theorem (`transfers_justified`).** An event sends at most one player to a backend, and only a pass
along the line does. The player is connected at the address, has joined, and wanted to go to this
backend the last time. The address that the player is told is the declared one. The backend was
online and had a free place, and one that is not kept for higher ranks unless the player's rank is
among them. A report that a transfer failed, which comes after the player has joined anew and was
not sent anywhere since, changes nothing in the line.
-/

namespace GameHub

open Admission Backend

/-! ## Declared addresses -/

namespace Registry

/-- Where the backends are. -/
def directory (r : Registry) : List (String × String) := r.records.map fun b => (b.id, b.address)

theorem mem_directory_add {r : Registry} {record : Record} {entry : String × String}
    (h : entry ∈ (r.add record).directory) :
    entry ∈ r.directory ∨ entry = (record.id, record.address) := by
  rw [add] at h
  split at h
  · obtain ⟨b, hb, rfl⟩ := List.mem_map.mp h
    obtain ⟨old, hold, rfl⟩ := List.mem_map.mp hb
    split
    · exact .inr rfl
    · exact .inl (List.mem_map_of_mem hold)
  · rw [directory, List.map_append] at h
    exact (List.mem_append.mp h).imp_right List.mem_singleton.mp

/-- Every address in the directory was declared. -/
theorem mem_directory_ofDeclarations {declarations : List Declaration} {threshold : UInt32}
    {entry : String × String} (h : entry ∈ (ofDeclarations declarations threshold).directory) :
    ∃ d ∈ declarations, (d.id, d.address) = entry := by
  induction declarations using List.reverseRecOn with
  | nil => exact absurd h List.not_mem_nil
  | append_singleton declarations d ih =>
    rw [ofDeclarations, List.foldl_append] at h
    rcases mem_directory_add h with hold | rfl
    · obtain ⟨d', hd', heq⟩ := ih hold
      exact ⟨d', List.mem_append_left _ hd', heq⟩
    · exact ⟨d, List.mem_append_right _ (List.mem_singleton_self d), rfl⟩

/-- With one record for each id the last one with an id is the one that is found. -/
theorem get?_of_backendIn {r : Registry} (h : r.ids.Nodup) {id : String} {record : Record}
    (hrecord : Queue.backendIn r.records id = some record) : r.get? id = some record := by
  refine (find?_key_eq_some_iff h).mpr ⟨?_, Queue.backendIn_id hrecord⟩
  exact List.mem_reverse.mp (List.mem_of_find?_eq_some hrecord)

end Registry

namespace Config

/-- In a configuration without defects no backend is declared twice. -/
theorem nodup_of_defect? {config : Config} (h : config.defect? = none) :
    (config.backends.map (·.id)).Nodup :=
  (defect?_eq_none_iff.mp h).distinct

end Config

/-- A player for whom there is a place at the status does not need a place that is kept, or may take
one. -/
theorem Admission.Policy.unreserved_of_place {policy : Policy} {rank : Rank} {status : Status}
    (h : policy.capacity rank status = .place) : rank.atLeast policy.adminThreshold = true ∨
      status.current.toNat + policy.reservedSlots.toNat < status.max.toNat :=
  (capacity_eq_place_iff.mp h).unreserved.imp_left decide_eq_true

namespace Hub

variable {h start : Hub} {limit : Nat} {ids : List PlayerId}

theorem directory_run (h : Hub) (run : List Occurrence) :
    (h.run run).2.registry.directory = h.registry.directory := by
  induction run generalizing h with
  | nil => rfl
  | cons o rest ih =>
    exact (ih _).trans (map_records_step h (fun _ _ _ _ => rfl) (fun _ _ => rfl) o)

/-! ## The last time that a player joined -/

theorem joins_of_joinedBy {e : Event} {id : PlayerId} (hjoined : e.joinedBy h id) :
    ∃ sender target rank, e = .packet sender (.joinQueue target rank) := by
  cases e with
  | packet sender packet =>
    cases packet with
    | joinQueue target rank => exact ⟨sender, target, rank, rfl⟩
    | _ => exact hjoined.elim
  | _ => exact hjoined.elim

theorem NeverJoins.concat {id : PlayerId} {run : List Occurrence} {o : Occurrence}
    (hnever : h.NeverJoins id run) (ho : ¬ o.event.joinedBy (h.run run).2 id) :
    h.NeverJoins id (run ++ [o]) := by
  intro first o' rest hsplit
  rcases rest.eq_nil_or_concat with rfl | ⟨rest, last, rfl⟩
  · obtain ⟨rfl, hlast⟩ := List.append_inj' hsplit rfl
    obtain rfl := List.singleton_inj.mp hlast
    exact ho
  · rw [List.concat_eq_append, ← List.cons_append, ← List.append_assoc] at hsplit
    exact hnever first o' rest (List.append_inj' hsplit rfl).1

/-- When this player joined the line for the last time in the run, it was from this address, for
this backend and with this rank. -/
def LatestJoin (start : Hub) (run : List Occurrence) (id : PlayerId) (sender : Address)
    (target : String) (rank : Rank) : Prop :=
  ∃ first join rest, run = first ++ join :: rest ∧
    join.event = .packet sender (.joinQueue target rank) ∧
    (start.run first).2.clients.find? sender = some id ∧
    ((start.run first).2.step join).2.NeverJoins id rest

section LatestJoin

variable {run : List Occurrence} {o : Occurrence} {id : PlayerId} {sender : Address}
  {target : String} {rank : Rank}

theorem LatestJoin.concat (hjoin : start.LatestJoin run id sender target rank)
    (ho : ¬ o.event.joinedBy (start.run run).2 id) :
    start.LatestJoin (run ++ [o]) id sender target rank := by
  obtain ⟨first, join, rest, rfl, hevent, hsender, hnever⟩ := hjoin
  refine ⟨first, join, rest ++ [o], by simp, hevent, hsender, hnever.concat ?_⟩
  rwa [run_append] at ho

theorem latestJoin_concat (hevent : o.event = .packet sender (.joinQueue target rank))
    (hsender : (start.run run).2.clients.find? sender = some id) :
    start.LatestJoin (run ++ [o]) id sender target rank := by
  refine ⟨run, o, [], rfl, hevent, hsender, fun first o' rest hsplit => ?_⟩
  simp at hsplit

end LatestJoin

/-! ## Tickets -/

/-- A player who joins has the only new ticket, and no old one. -/
theorem Sound.held_handleJoin (hs : Sound limit ids h) {now : Moment} {gap : List Moment}
    {sender : Address} {target : String} {rank : Rank} {t : Ticket}
    (ht : t ∈ (h.handleJoin now gap sender target rank).2.held) :
    (∃ id, h.clients.find? sender = some id ∧ t.subject = id ∧ t.target = target ∧
      t.rank = rank) ∨
    (t ∈ h.held ∧ h.clients.find? sender ≠ some t.subject) := by
  have hidentified := hs.identify sender now gap
  have hheld := held_identify h sender now gap
  rw [Hub.handleJoin, identify_eq] at ht
  cases hsender : h.clients.find? sender with
  | none =>
    rw [hsender] at ht
    exact .inr ⟨hheld ▸ ht, by simp⟩
  | some id =>
    rw [hsender] at ht
    -- The transfer of the player is forgotten first, and the old entry makes way.
    have hperm := held_enqueue (hidentified.forgetTransfer id).tickets_nodup id rank target now.wall
    rcases List.mem_cons.mp (hperm.mem_iff.mp ht) with rfl | ht
    · exact .inl ⟨id, rfl, rfl, rfl, rfl⟩
    refine .inr ⟨?_, fun hsame => ?_⟩
    · rw [← hheld]
      exact (List.filter_sublist.append (List.filter_sublist.map _)).mem ht
    · obtain rfl := Option.some.inj hsame
      rcases List.mem_append.mp ht with ht | ht
      · simp at ht
      · obtain ⟨transfer, htransfer, rfl⟩ := List.mem_map.mp ht
        obtain ⟨htransfer, hne⟩ := List.mem_filter.mp htransfer
        exact of_decide_eq_true hne (hidentified.owner transfer htransfer).symm

/-- What is on a ticket is what its player said when joining the last time. -/
theorem Sound.latestJoin_run (hs : Sound limit ids start) (hempty : start.held = [])
    (run : List Occurrence) : ∀ t ∈ (start.run run).2.held,
      ∃ sender, start.LatestJoin run t.subject sender t.target t.rank := by
  -- From the back: the last event is a new join of the player, or it is not about the ticket.
  induction run using List.reverseRecOn with
  | nil =>
    intro t ht
    exact absurd (hempty ▸ ht) List.not_mem_nil
  | append_singleton run o ih =>
    intro t ht
    have hsrun := hs.run run
    rw [snd_run_concat] at ht
    by_cases hjoin : ∃ sender target rank, o.event = .packet sender (.joinQueue target rank)
    · obtain ⟨sender, target, rank, hevent⟩ := hjoin
      have hstep : ((start.run run).2.step o).2 =
          ((start.run run).2.handleJoin o.now o.firstGap sender target rank).2 := by
        rw [Hub.step, hevent]
        rfl
      rw [hstep] at ht
      rcases hsrun.held_handleJoin ht with ⟨id, hsender, rfl, rfl, rfl⟩ | ⟨hold, hother⟩
      · exact ⟨sender, latestJoin_concat hevent hsender⟩
      · obtain ⟨sender', hlatest⟩ := ih t hold
        refine ⟨sender', hlatest.concat ?_⟩
        rw [hevent]
        exact hother
    · have hold := (held_step hsrun.tickets_nodup o fun sender target rank hevent =>
        hjoin ⟨sender, target, rank, hevent⟩).subset ht
      obtain ⟨sender, hlatest⟩ := ih t hold
      exact ⟨sender, hlatest.concat fun hjoined => hjoin (joins_of_joinedBy hjoined)⟩

/-! ## Where a player connected -/

/-- As long as no id has come up twice, an id stands for one address. -/
theorem address_eq_of_prefix {config : Config} {options : Options} {first rest : List Occurrence}
    (hfew : (issued ((Hub.new config options).run (first ++ rest)).1).length < UInt32.size - 1)
    {id : PlayerId} {sender player : Address}
    (hsender : (sender, id) ∈ ((Hub.new config options).run first).2.clients.connections)
    (hplayer :
      (player, id) ∈ ((Hub.new config options).run (first ++ rest)).2.clients.connections) :
    sender = player := by
  have hs := Sound.new config options
  have hnodup := nodup_arrivals config options (first ++ rest) hfew
  have hearly := (hs.connections_run first hsender).resolve_left List.not_mem_nil
  have hlate := (hs.connections_run _ hplayer).resolve_left List.not_mem_nil
  rw [fst_run_append, arrivals_append] at hnodup hlate
  exact congrArg Prod.fst
    (List.inj_on_of_nodup_map hnodup (List.mem_append_left _ hearly) hlate rfl)

/-! ## Transfers that may still fail -/

theorem pendingOf_eq_none_iff {id : PlayerId} :
    h.pendingOf id = none ↔ ∀ transfer ∈ h.pending, transfer.1 ≠ id := by
  simp [pendingOf]

theorem pending_handleAcross_subset (h : Hub) (now : Moment) (gap : List Moment) (sender : Address)
    (packet : Packet) : (h.handleAcross now gap sender packet).2.pending ⊆ h.pending := by
  have hidentify := pending_identify h sender now gap
  cases packet with
  | connect version =>
    rw [handleAcross, handleConnect]
    split
    · exact List.Subset.refl _
    · split <;> exact List.Subset.refl _
  | joinQueue target rank =>
    rw [handleAcross, handleJoin, identify_eq, ← hidentify]
    cases h.clients.find? sender with
    | none => exact List.Subset.refl _
    | some id => exact List.filter_sublist.subset
  | leaveQueue =>
    rw [handleAcross, handleLeave, identify_eq, ← hidentify]
    cases h.clients.find? sender with
    | none => exact List.Subset.refl _
    | some id => exact List.Subset.refl _
  | queryPosition =>
    rw [handleAcross, handleQueryPosition_snd, hidentify]
    exact List.Subset.refl _
  | transferFailed reason =>
    rw [handleAcross, handleTransferFailed, identify_eq, ← hidentify]
    cases h.clients.find? sender with
    | none => exact List.Subset.refl _
    | some id =>
      dsimp only
      split
      · exact List.Subset.refl _
      · exact List.filter_sublist.subset
  | heartbeat =>
    rw [handleAcross, hidentify]
    exact List.Subset.refl _
  | disconnect =>
    rw [handleAcross, handleDisconnect]
    split
    · exact List.Subset.refl _
    · exact List.filter_sublist.subset
  | _ => exact List.Subset.refl _

/-- A transfer is remembered only for a player who has just been admitted and sent to a backend. -/
theorem pending_step (h : Hub) (o : Occurrence) {transfer : PlayerId × Pending}
    (ht : transfer ∈ (h.step o).2.pending) : transfer ∈ h.pending ∨
      ∃ d address, (h.queue.reconcile h.registry.records h.live).result = some d ∧
        (h.lapse o.firstGap).clients.addressOf? d.entry.subject = some address ∧
        transfer = (d.entry.subject, ⟨d, o.now.instant⟩) ∧
        .toAddress address (.transfer d.backend d.address) ∈ transfers (h.step o).1 := by
  rw [Hub.step] at ht ⊢
  cases hevent : o.event with
  | packet sender packet =>
    rw [hevent] at ht
    exact .inl (pending_handleAcross_subset h o.now o.firstGap sender packet ht)
  | reconcile =>
    rw [hevent] at ht
    dsimp only at ht ⊢
    rcases reconcileAcross_cases h o.now o.firstGap o.secondGap with
      ⟨-, heq⟩ | ⟨d, hadmitted, ⟨address, haddress, heq⟩ | ⟨-, heq⟩⟩
    · rw [heq] at ht
      exact .inl (pending_lapse h o.firstGap ▸ ht)
    · rw [heq] at ht ⊢
      rcases List.mem_cons.mp ht with rfl | ht
      · -- The transfer that this pass has sent is remembered; the others are older.
        refine .inr ⟨d, address, hadmitted, haddress, rfl, ?_⟩
        rw [transfers_append]
        exact List.mem_append_right _ List.mem_cons_self
      · exact .inl (pending_lapse h o.firstGap ▸ List.mem_of_mem_filter ht)
    · rw [heq] at ht
      exact .inl (pending_lapse h _ ▸ pending_lapse (h.lapse _) _ ▸ ht)
  | expireTransfers =>
    rw [hevent] at ht
    exact .inl (List.mem_of_mem_filter ht)
  | forgetOverdue place =>
    rw [hevent] at ht
    replace ht : transfer ∈ (h.forgetOverdue place).pending := ht
    rw [Hub.forgetOverdue] at ht
    split at ht
    · exact .inl (List.mem_of_mem_filter ht)
    · exact .inl ht
  | checkHealth | sweepRestarts | checkClients =>
    rw [hevent] at ht
    exact .inl ht

/-- As long as a player is not sent anywhere, no transfer of the player comes up. -/
theorem Sound.pendingOf_step (hs : Sound limit ids h) {id : PlayerId}
    (hnone : h.pendingOf id = none) {o : Occurrence}
    (hquiet : ∀ sent ∈ transfers (h.step o).1, ¬ sent.isFor h id) :
    (h.step o).2.pendingOf id = none := by
  rw [pendingOf_eq_none_iff] at hnone ⊢
  intro transfer ht hid
  rcases pending_step h o ht with hold | ⟨d, address, -, haddress, rfl, hsent⟩
  · exact hnone transfer hold hid
  · -- The player has been sent a transfer, to the address where the hub found it.
    obtain rfl : d.entry.subject = id := hid
    have hthere := (hs.lapse o.firstGap).clients.addressOf?_iff.mp haddress
    exact hquiet _ hsent
      (hs.clients.find?_iff.mpr ((connections_lapse h o.firstGap).mem hthere))

/-- In no event of the run is this player sent to a backend. -/
def NeverSent (h : Hub) (id : PlayerId) (run : List Occurrence) : Prop :=
  ∀ first o rest, run = first ++ o :: rest →
    ∀ sent ∈ transfers ((h.run first).2.step o).1, ¬ sent.isFor (h.run first).2 id

theorem Sound.pendingOf_run (hs : Sound limit ids h) {id : PlayerId} (hnone : h.pendingOf id = none)
    {run : List Occurrence} (hnever : h.NeverSent id run) : (h.run run).2.pendingOf id = none := by
  induction run generalizing ids h with
  | nil => exact hnone
  | cons o rest ih =>
    refine ih (hs.step o) (hs.pendingOf_step hnone (hnever [] o rest rfl)) ?_
    intro first o' rest' hrest
    exact hnever (o :: first) o' rest' (congrArg (o :: ·) hrest)

theorem queue_handleTransferFailed {id : PlayerId} (hnone : h.pendingOf id = none)
    {sender : Address} (hsender : h.clients.find? sender = some id) (now : Moment)
    (gap : List Moment) (reason : String) :
    (h.handleTransferFailed now gap sender reason).2.queue = h.queue := by
  have hpending := pendingOf_congr (pending_identify h sender now gap) id
  rw [handleTransferFailed, identify_eq, hsender]
  dsimp only
  rw [hpending, hnone]
  exact queue_identify h sender now gap

/-! ## The result -/

/-- Why the player at an address is sent to a backend: who it is, what was known of the backend, and
what the player said when joining the last time. -/
structure Justified (config : Config) (start : Hub) (before : List Occurrence) (player : Address)
    (backend address : String) (id : PlayerId) (rank : Rank) (record : Record) : Prop where
  connected : (start.run before).2.clients.find? player = some id
  joined : ∃ sender, start.LatestJoin before id sender backend rank ∧
    ((issued (start.run before).1).length < UInt32.size - 1 → sender = player)
  declared : ∃ d ∈ config.backends, d.id = backend ∧ d.address = address
  /-- The only declaration, if the hub takes the configuration. -/
  only : config.defect? = none → ∀ d ∈ config.backends, d.id = backend → d.address = address
  known : (start.run before).2.registry.get? backend = some record
  online : record.status.online = true
  free : record.status.current < record.status.max
  unreserved : rank.atLeast config.admission.adminThreshold = true ∨
    record.status.current.toNat + config.admission.reservedSlots.toNat < record.status.max.toNat

theorem length_transfers_step (h : Hub) (o : Occurrence) :
    (transfers (h.step o).1).length ≤ if o.event = .reconcile then 1 else 0 := by
  rcases transfers_step h o with hnone | ⟨hevent, d, address, -, -, hone⟩
  · rw [hnone]
    exact Nat.zero_le _
  · rw [hone, if_pos hevent]
    exact Nat.le_refl _

theorem length_transfers_run (h : Hub) (run : List Occurrence) :
    (transfers (h.run run).1).length ≤ run.countP (·.event = .reconcile) := by
  induction run generalizing h with
  | nil => exact Nat.zero_le _
  | cons o rest ih =>
    have hfirst := length_transfers_step h o
    have hrest := ih (h.step o).2
    rw [run_cons, transfers_append, List.length_append, List.countP_cons]
    simp only [decide_eq_true_iff]
    omega

theorem justified_of_admitted (config : Config) (options : Options) (before : List Occurrence)
    {gap : List Moment} {d : Decision} {player : Address} :
    let start := Hub.new config options
    let h := (start.run before).2
    (h.queue.reconcile h.registry.records h.live).result = some d →
    (h.lapse gap).clients.addressOf? d.entry.subject = some player →
    ∃ record, Justified config start before player d.backend d.address d.entry.subject d.entry.rank
      record := by
  intro start h hadmitted hplayer
  have hs : Sound options.maxClients _ h := (Sound.new config options).run before
  obtain ⟨hticket, record, hrecord, hplace, hbackend, haddress⟩ :=
    Queue.reconcile_serves hs.tickets_nodup hadmitted
  have htarget : d.backend = d.entry.target := hbackend.trans (Queue.backendIn_id hrecord)
  have hthere := (connections_lapse h gap).mem ((hs.lapse gap).clients.addressOf?_iff.mp hplayer)
  rw [show h.queue.policy = config.admission from policy_queue_run config options before] at hplace
  obtain ⟨honline, hfree⟩ := Policy.open_of_place hplace
  have hids : h.registry.ids.Nodup := by
    have hsame := congrArg Prod.fst (settings_run start before)
    rw [show h.registry.ids = start.registry.ids from hsame]
    exact Registry.nodup_ids_ofDeclarations _ _
  -- Records only ever have the addresses that were declared.
  have hdeclared : ∃ b ∈ config.backends, b.id = d.backend ∧ b.address = d.address := by
    have hdirectory : (record.id, record.address) ∈ start.registry.directory := by
      rw [← show h.registry.directory = start.registry.directory from directory_run start before]
      exact List.mem_map_of_mem (List.mem_reverse.mp (List.mem_of_find?_eq_some hrecord))
    obtain ⟨b, hb, heq⟩ := Registry.mem_directory_ofDeclarations hdirectory
    obtain ⟨hid, haddress'⟩ := Prod.mk.inj heq
    exact ⟨b, hb, hid.trans hbackend.symm, haddress'.trans haddress.symm⟩
  refine ⟨record, hs.clients.find?_iff.mpr hthere, ?_, hdeclared, fun hdefect b hb hid => ?_, ?_,
    honline, hfree, Policy.unreserved_of_place hplace⟩
  · -- The ticket comes from a join, and while ids last the player is still at the same address.
    obtain ⟨sender, hlatest⟩ := (Sound.new config options).latestJoin_run rfl before d.entry.ticket
      (List.mem_append_left _ hticket)
    rw [htarget]
    refine ⟨sender, hlatest, fun hfew => ?_⟩
    obtain ⟨first, join, rest, rfl, -, hsender, -⟩ := hlatest
    have hfirst := (Sound.new config options).run first
    exact address_eq_of_prefix hfew (hfirst.clients.find?_iff.mp hsender) hthere
  · obtain ⟨b', hb', hid', haddress'⟩ := hdeclared
    rw [List.inj_on_of_nodup_map (Config.nodup_of_defect? hdefect) hb hb' (hid.trans hid'.symm)]
    exact haddress'
  · rw [htarget]
    exact Registry.get?_of_backendIn hids hrecord

/-- **Whoever is sent to a backend asked for it when joining the last time, and there is a
place.** -/
theorem transfers_justified (config : Config) (options : Options) (before : List Occurrence)
    (o : Occurrence) :
    let start := Hub.new config options
    let h := (start.run before).2
    (∀ sent ∈ (h.step o).1, ∀ backend, sent.destination? = some backend →
      ∃ player address id rank record, sent = .toAddress player (.transfer backend address) ∧
        Justified config start before player backend address id rank record) ∧
    ((transfers (h.step o).1).length ≤ (if o.event = .reconcile then 1 else 0) ∧
      ∀ now, (transfers (h.tick now).1).length ≤ 1) ∧
    ∀ join between failed player sender target rank id reason,
      join.event = .packet player (.joinQueue target rank) → h.clients.find? player = some id →
      (h.step join).2.NeverSent id between →
      failed.event = .packet sender (.transferFailed reason) →
      ((h.step join).2.run between).2.clients.find? sender = some id →
      (((h.step join).2.run between).2.step failed).2.queue =
        ((h.step join).2.run between).2.queue := by
  intro start h
  have hs : Sound options.maxClients _ h := (Sound.new config options).run before
  refine ⟨fun sent hsent backend hbackend => ?_, ⟨length_transfers_step h o, fun now => ?_⟩, ?_⟩
  · have hmem : sent ∈ transfers (h.step o).1 := List.mem_filter.mpr ⟨hsent, by simp [hbackend]⟩
    rcases transfers_step h o with hnone | ⟨-, d, player, hadmitted, hplayer, hone⟩
    · rw [hnone] at hmem
      exact absurd hmem List.not_mem_nil
    · rw [hone, List.mem_singleton] at hmem
      subst hmem
      obtain rfl := Option.some.inj hbackend
      obtain ⟨record, hjustified⟩ := justified_of_admitted config options before hadmitted hplayer
      exact ⟨player, d.address, d.entry.subject, d.entry.rank, record, rfl, hjustified⟩
  · exact length_transfers_run h ([.reconcile, .expireTransfers, .checkHealth, .sweepRestarts,
      .checkClients].map (.plain now))
  · intro join between failed player sender target rank id reason hjoin hplayer hnever hfailed
      hsender
    -- The join forgets the transfer before it, so a late failure finds none.
    have hjoined : (h.step join).2.pendingOf id = none := by
      rw [step, hjoin]
      exact (hs.handleJoin_joins hplayer join.now join.firstGap target rank).2
    have hnone := (hs.step join).pendingOf_run hjoined hnever
    rw [step, hfailed]
    exact queue_handleTransferFailed hnone hsender failed.now failed.firstGap reason

section Anew

-- The runs below are evaluated by the kernel alone; unfolding them while terms are matched is slow.
attribute [local irreducible] Hub.run

/-- A player has been sent to one backend, joins for another one, and reports after the next health
check that the transfer failed. The player is sent to the other backend all the same. -/
theorem transfers_justified_of_joined_anew :
    let config : Config := ⟨[⟨"arena", none, "10.0.0.3:25565", none⟩,
      ⟨"lobby", none, "10.0.0.2:25565", none⟩], default, default, default⟩
    let now : Moment := ⟨0, ⟨0⟩⟩
    let player : Address := ⟨.v4 10 0 0 9, 4000⟩
    let backend : Address := ⟨.v4 10 0 0 2, 4001⟩
    let first : List Occurrence := [.plain now (.packet player (.connect protocolVersion)),
      .plain now (.packet backend (.statusReport "arena" 4 10)),
      .plain now (.packet backend (.statusReport "lobby" 4 10)),
      .plain now (.packet player (.joinQueue "lobby" .player)), .plain now .reconcile]
    let join : Occurrence := .plain now (.packet player (.joinQueue "arena" .player))
    let check : Occurrence := .plain now .checkHealth
    let failed : Occurrence := .plain now (.packet player (.transferFailed "full"))
    let start := Hub.new config default
    let h := (((start.run first).2.step join).2.run [check]).2
    let sent : Outbound := .toAddress player (.transfer "arena" "10.0.0.3:25565")
    (h.step failed).2.queue = h.queue ∧
      sent ∈ ((start.run (first ++ [join, check, failed])).2.step (.plain now .reconcile)).1 ∧
      ∃ player address id rank record, sent = .toAddress player (.transfer "arena" address) ∧
        Justified config start (first ++ [join, check, failed]) player "arena" address id rank
          record := by
  intro config now player backend first join check failed start h sent
  have hplayer : (start.run first).2.clients.find? player = some 1 := by decide +kernel
  have hstays : h.clients.find? player = some 1 := by decide +kernel
  have hsent : sent ∈
      ((start.run (first ++ [join, check, failed])).2.step (.plain now .reconcile)).1 := by
    decide +kernel
  obtain ⟨-, -, hlate⟩ := transfers_justified config default first join
  obtain ⟨hjustified, -⟩ :=
    transfers_justified config default (first ++ [join, check, failed]) (.plain now .reconcile)
  have hnever : ((start.run first).2.step join).2.NeverSent 1 [check] := by
    intro first' o rest hsplit
    cases first' with
    | nil =>
      obtain rfl := (List.cons.inj hsplit).1
      exact fun _ hmem => absurd hmem List.not_mem_nil
    | cons o' first' => exact absurd (List.cons.inj hsplit).2 (by simp)
  exact ⟨hlate join [check] failed player player "arena" .player 1 "full" rfl hplayer hnever rfl
    hstays, hsent, hjustified sent hsent "arena" rfl⟩

end Anew

end Hub

end GameHub
