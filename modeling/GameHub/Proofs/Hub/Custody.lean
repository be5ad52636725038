import GameHub.Proofs.Hub.Fate
import Mathlib.Data.List.Induction

/-!
# No player is lost

A player who has joined the line for a known backend, has stayed connected and has neither joined
again nor left is in one of two places: in line with the ticket of that join, or handed over.
`Custody` says which, and every event keeps it, because an event can only do what `Fate` lists.

**Theorem (`no_player_lost`).** That holds in every run, however packets, passes along the line and
silences are interleaved. While the transfer is remembered, a report that it failed brings back the
same ticket; and as long as ids last, it is remembered until the time for such reports is over.
-/

namespace GameHub.Hub

open Admission

/-! ## Where a ticket is -/

/-- Of a run, the events before a ticket was sent to its backend, the one that sent it, and the
events since then, during which it was not in line. -/
structure Handover (start : Hub) (run : List Occurrence) (player : Address) (t : Ticket)
    (first : List Occurrence) (sent : Occurrence) (rest : List Occurrence) : Prop where
  run_eq : run = first ++ sent :: rest
  line : (start.run first).2.queue.ticketsOf t.subject = [t]
  transfer : ∃ address,
    .toAddress player (.transfer t.target address) ∈ ((start.run first).2.step sent).1
  away : ∀ since, since <+: rest →
    (start.run (first ++ sent :: since)).2.queue.ticketsOf t.subject = []

/-- Where a ticket is at the end of a run: in line, or handed over. In the second case the transfer
is remembered, or it was forgotten because it was too old, unless ids have come up twice. -/
inductive Custody (ids : List PlayerId) (start : Hub) (run : List Occurrence) (player : Address)
    (t : Ticket) : Prop where
  | inLine (line : (start.run run).2.queue.ticketsOf t.subject = [t])
      (pending : (start.run run).2.pendingOf t.subject = none)
  | handedOver (first : List Occurrence) (sent : Occurrence) (rest : List Occurrence)
      (handover : Handover start run player t first sent rest) (d : Decision)
      (ticket : d.entry.ticket = t)
      (pending : (start.run run).2.pendingOf t.subject = some ⟨d, sent.now.instant⟩)
  | settled (first : List Occurrence) (sent : Occurrence) (rest : List Occurrence)
      (handover : Handover start run player t first sent rest)
      (pending : (start.run run).2.pendingOf t.subject = none)
      (why : (ids ++ issued (start.run run).1).length < UInt32.size - 1 →
        ∃ e ∈ rest, e.event = .expireTransfers ∧
          sent.now.instant.isPast e.now.instant start.transferGrace = true)

/-! ## One more event -/

namespace Handover

variable {start : Hub} {run first rest : List Occurrence} {player : Address} {t : Ticket}
  {sent o : Occurrence}

/-- The ticket is not in line now. -/
theorem not_inLine (h : Handover start run player t first sent rest) :
    (start.run run).2.queue.ticketsOf t.subject = [] := by
  rw [h.run_eq]
  exact h.away rest (List.prefix_refl rest)

/-- The ticket stays out of line at another event. -/
theorem concat (h : Handover start run player t first sent rest)
    (hline : (start.run (run ++ [o])).2.queue.ticketsOf t.subject = []) :
    Handover start (run ++ [o]) player t first sent (rest ++ [o]) := by
  refine ⟨by rw [h.run_eq, List.append_assoc, List.cons_append], h.line, h.transfer,
    fun since hsince => ?_⟩
  rcases List.prefix_concat_iff.mp hsince with rfl | hsince
  · rwa [h.run_eq, List.append_assoc, List.cons_append] at hline
  · exact h.away since hsince

end Handover

theorem Custody.concat {limit : Nat} {ids : List PlayerId} {start : Hub} {run : List Occurrence}
    {player : Address} {t : Ticket} {o : Occurrence} (hc : Custody ids start run player t)
    (hs : Sound limit (ids ++ issued (start.run run).1) (start.run run).2)
    (hbefore : (player, t.subject) ∈ (start.run run).2.clients.connections)
    (hfate : Fate (start.run run).2 o player t.subject ((start.run run).2.step o).1
      ((start.run run).2.step o).2) : Custody ids start (run ++ [o]) player t := by
  rw [← snd_run_concat] at hfate
  have hgrace : (start.run run).2.transferGrace = start.transferGrace :=
    congrArg Prod.snd (settings_run start run)
  -- Ids are only ever added, so a bound on them held before the event as well.
  have hearlier : (ids ++ issued (start.run (run ++ [o])).1).length < UInt32.size - 1 →
      (ids ++ issued (start.run run).1).length < UInt32.size - 1 := by
    rw [fst_run_concat, issued_append, ← List.append_assoc, List.length_append]
    omega
  cases hc with
  | inLine line pending =>
    cases hfate with
    | kept line' pending' =>
      exact .inLine (List.perm_singleton.mp (line ▸ line')) (pending'.trans pending)
    | sent d before line' pending' transfer =>
      have hticket : d.entry.ticket = t := List.singleton_inj.mp (before.symm.trans line)
      refine .handedOver run o [] ⟨rfl, line, ⟨d.address, ?_⟩, fun since hsince => ?_⟩ d hticket
        pending'
      · rwa [← hticket]
      · rw [List.prefix_nil.mp hsince]
        exact line'
    | returned p before => cases pending.symm.trans before
    | forgotten p before => cases pending.symm.trans before
  | handedOver first sent rest handover d ticket pending =>
    -- The ticket is away, so no event can send it again.
    have hempty := handover.not_inLine
    cases hfate with
    | kept line' pending' =>
      refine .handedOver first sent (rest ++ [o]) (handover.concat ?_) d ticket
        (pending'.trans pending)
      exact (hempty ▸ line').eq_nil
    | sent d' before => cases hempty.symm.trans before
    | returned p before line' pending' =>
      obtain rfl := Option.some.inj (pending.symm.trans before)
      exact .inLine (ticket ▸ line') pending'
    | forgotten p before line' pending' why =>
      obtain rfl := Option.some.inj (pending.symm.trans before)
      refine .settled first sent (rest ++ [o]) (handover.concat (hempty ▸ line').eq_nil) pending'
        fun hfew => ?_
      -- It was too old, or that of an overdue player; but an overdue player is gone.
      rcases why with ⟨hevent, hpast⟩ | hoverdue
      · exact ⟨o, by simp, hevent, hgrace ▸ hpast⟩
      · exact absurd (Clients.mem_ids_of_connection hbefore)
          (hs.gone (hearlier hfew) _ hoverdue)
  | settled first sent rest handover pending why =>
    -- Nothing is remembered any more, so nothing can put the ticket back.
    have hempty := handover.not_inLine
    cases hfate with
    | kept line' pending' =>
      refine .settled first sent (rest ++ [o]) (handover.concat (hempty ▸ line').eq_nil)
        (pending'.trans pending) fun hfew => ?_
      obtain ⟨e, he, hexpired⟩ := why (hearlier hfew)
      exact ⟨e, List.mem_append_left _ he, hexpired⟩
    | sent d before => cases hempty.symm.trans before
    | returned p before => cases pending.symm.trans before
    | forgotten p before => cases pending.symm.trans before

/-! ## Runs -/

/-- A ticket in line is kept in custody as long as its player stays, and neither joins again nor
leaves. -/
theorem custody_run {limit : Nat} {ids : List PlayerId} {start : Hub} (hs : Sound limit ids start)
    {player : Address} {t : Ticket} (hline : start.queue.ticketsOf t.subject = [t])
    (hpending : start.pendingOf t.subject = none) (hknown : t.target ∈ start.registry.ids)
    (run : List Occurrence) (hquiet : ∀ o ∈ run, o.event.joinsOrLeaves player = false)
    (hsame : t.subject ∉ issued (start.run run).1)
    (hthere : (player, t.subject) ∈ (start.run run).2.clients.connections) :
    Custody ids start run player t := by
  -- Along the run from its front: a connection that is there now was there after every event.
  induction run using List.reverseRecOn with
  | nil => exact .inLine hline hpending
  | append_singleton run o ih =>
    have hsrun := hs.run run
    rw [snd_run_concat] at hthere
    rw [fst_run_concat, issued_append, List.mem_append, not_or] at hsame
    have hbefore := (hsrun.connections_step o hthere).resolve_right fun harrived =>
      hsame.2 (issued_of_arrival harrived)
    have hcustody := ih (fun o' ho' => hquiet o' (List.mem_append_left _ ho')) hsame.1 hbefore
    have hids : (start.run run).2.registry.ids = start.registry.ids :=
      congrArg Prod.fst (settings_run start run)
    refine hcustody.concat hsrun hbefore (hsrun.fate_step o (hquiet o (by simp)) ?_ hbefore hthere)
    intro u hu
    have hone : u = t := by
      cases hcustody with
      | inLine line => exact List.mem_singleton.mp (line ▸ hu)
      | handedOver _ _ _ handover => exact absurd (handover.not_inLine ▸ hu) List.not_mem_nil
      | settled _ _ _ handover => exact absurd (handover.not_inLine ▸ hu) List.not_mem_nil
    rwa [hone, hids]

/-- Joining puts a player in line, with the number of the next insertion. -/
theorem Sound.handleJoin_joins {limit : Nat} {ids : List PlayerId} {h : Hub}
    (hs : Sound limit ids h) {player : Address} {id : PlayerId}
    (hsender : h.clients.find? player = some id) (now : Moment) (gap : List Moment)
    (target : String) (rank : Rank) :
    (h.handleJoin now gap player target rank).2.queue.ticketsOf id =
      [⟨id, rank, now.wall, target, h.queue.ledger.nextSeq⟩] ∧
    (h.handleJoin now gap player target rank).2.pendingOf id = none := by
  have hqueue := queue_identify h player now gap
  rw [Hub.handleJoin, identify_eq, hsender]
  refine ⟨?_, pendingOf_forgetTransfer _ id⟩
  rw [← hqueue]
  exact Queue.ticketsOf_enqueue (hqueue ▸ hs.tickets_nodup) rank target _
    (h.identify player now gap).2.registry

/-! ## The result -/

/-- A connected player joins the line, and from then on is the same player at the same address who
neither joins again nor leaves. -/
structure Stay (start : Hub) (join : Occurrence) (later : List Occurrence) (player : Address)
    (id : PlayerId) (target : String) (rank : Rank) : Prop where
  joins : join.event = .packet player (.joinQueue target rank)
  sender : start.clients.find? player = some id
  quiet : ∀ o ∈ later, o.event.joinsOrLeaves player = false
  same : id ∉ issued ((start.step join).2.run later).1
  there : ((start.step join).2.run later).2.clients.find? player = some id

/-- **No player is lost.** A player who has joined for a known backend and stays has exactly the
ticket of that join in line, or was sent to the backend since the ticket was last put there. As long
as ids last, the transfer is remembered until it is too old to fail. While it is remembered, a
report that it failed puts back the same ticket, unless the player is gone by then. -/
theorem no_player_lost (config : Config) (options : Options) (before later : List Occurrence)
    (join : Occurrence) (player : Address) (id : PlayerId) (target : String) (rank : Rank)
    (htarget : target ∈ config.backends.map (·.id))
    (hstay : Stay ((Hub.new config options).run before).2 join later player id target rank) :
    let start := ((Hub.new config options).run before).2
    let joined := (start.step join).2
    let h := (joined.run later).2
    let t : Ticket := ⟨id, rank, join.now.wall, target, start.queue.ledger.nextSeq⟩
    (h.queue.ticketsOf id = [t] ∨
      ∃ first sent rest, Handover joined later player t first sent rest ∧
      ((issued ((Hub.new config options).run (before ++ join :: later)).1).length <
          UInt32.size - 1 →
        (∃ p, h.pendingOf id = some p ∧ p.sentAt = sent.now.instant) ∨
        ∃ e ∈ rest, e.event = .expireTransfers ∧
          sent.now.instant.isPast e.now.instant options.transferGrace = true)) ∧
    ∀ p, h.pendingOf id = some p → p.decision.entry.ticket = t ∧ ∀ now gap reason,
      let after := (h.handleAcross now gap player (.transferFailed reason)).2
      after.clients.find? player = some id →
        after.queue.ledger.tickets.Perm (t :: h.queue.ledger.tickets) ∧
        after.queue.ticketsOf id = [t] := by
  intro start joined h t
  have hstart : Sound options.maxClients _ start := (Sound.new config options).run before
  have hjoined : Sound options.maxClients _ joined := hstart.step join
  have hh := hjoined.run later
  have hjoin : joined = (start.handleJoin join.now join.firstGap player target rank).2 := by
    show (start.step join).2 = _
    rw [step, hstay.joins]
    rfl
  obtain ⟨hline, hpending⟩ :=
    hstart.handleJoin_joins hstay.sender join.now join.firstGap target rank
  rw [← hjoin] at hline hpending
  have hsettings : joined.settings = (Hub.new config options).settings :=
    (settings_step start join).trans (settings_run _ before)
  have hknown : target ∈ joined.registry.ids := by
    rw [show joined.registry.ids = (Hub.new config options).registry.ids from
      congrArg Prod.fst hsettings]
    exact Registry.mem_ids_declare config.backends (.inr htarget)
  have hgrace : joined.transferGrace = options.transferGrace := congrArg Prod.snd hsettings
  -- The join puts the ticket in line; from there it is in custody.
  have hcustody := custody_run hjoined (t := t) hline hpending hknown later hstay.quiet hstay.same
    (hh.clients.find?_iff.mp hstay.there)
  constructor
  · cases hcustody with
    | inLine line => exact .inl line
    | handedOver first sent rest handover d ticket pending =>
      exact .inr ⟨first, sent, rest, handover, fun _ => .inl ⟨_, pending, rfl⟩⟩
    | settled first sent rest handover pending why =>
      refine .inr ⟨first, sent, rest, handover, fun hfew => .inr (hgrace ▸ why ?_)⟩
      rwa [run_append, run_cons, issued_append, issued_append, ← List.append_assoc] at hfew
  · intro p hp
    have hticket : p.decision.entry.ticket = t := by
      cases hcustody with
      | inLine line pending => cases pending.symm.trans hp
      | handedOver first sent rest handover d ticket pending =>
        obtain rfl := Option.some.inj (pending.symm.trans hp)
        exact ticket
      | settled first sent rest handover pending => cases pending.symm.trans hp
    refine ⟨hticket, fun now gap reason => ?_⟩
    intro after hafter
    have hs := hh.handleAcross now gap player (.transferFailed reason)
    obtain ⟨hperm, -⟩ := hh.handleTransferFailed_returns hstay.there hp
      (hs.clients.find?_iff.mp hafter)
    rw [hticket] at hperm
    exact ⟨hperm, Queue.ticketsOf_eq_singleton hs.tickets_nodup
      (hperm.mem_iff.mpr List.mem_cons_self)⟩

section Refused

-- The run below is evaluated by the kernel alone; unfolding it while terms are matched is slow.
attribute [local irreducible] Hub.run

/-- A player is refused by the backend, is sent there again, and is refused once more. -/
theorem no_player_lost_of_refused :
    let config : Config := ⟨[⟨"lobby", none, "10.0.0.2:25565", none⟩], default, default, default⟩
    let player : Address := ⟨.v4 10 0 0 9, 4000⟩
    let early : Moment := ⟨0, ⟨0⟩⟩
    let late : Moment := ⟨5000, ⟨5_000_000_000⟩⟩
    let before := [.plain early (.packet player (.connect protocolVersion)),
      .plain early (.packet ⟨.v4 10 0 0 2, 4001⟩ (.statusReport "lobby" 0 20))]
    let join := .plain early (.packet player (.joinQueue "lobby" .player))
    let later := [.plain early .reconcile, .plain late (.packet player (.transferFailed "full")),
      ⟨late, .reconcile, [late], []⟩]
    let start := ((Hub.new config default).run before).2
    let h := ((start.step join).2.run later).2
    let t : Ticket := ⟨1, .player, 0, "lobby", start.queue.ledger.nextSeq⟩
    let after := (h.handleAcross late [] player (.transferFailed "full")).2
    "lobby" ∈ config.backends.map (·.id) ∧ Stay start join later player 1 "lobby" .player ∧
      (∃ p, h.pendingOf 1 = some p ∧ p.decision.entry.ticket = t) ∧
      after.clients.find? player = some 1 ∧ after.queue.ticketsOf 1 = [t] := by
  intro config player early late before join later start h t after
  have htarget : "lobby" ∈ config.backends.map (·.id) := by decide +kernel
  have hstay : Stay start join later player 1 "lobby" .player :=
    ⟨rfl, by decide +kernel, by decide +kernel, by decide +kernel, by decide +kernel⟩
  have hpending : (h.pendingOf 1).isSome = true := by decide +kernel
  obtain ⟨p, hp⟩ := Option.isSome_iff_exists.mp hpending
  have hafter : after.clients.find? player = some 1 := by decide +kernel
  obtain ⟨-, hback⟩ := no_player_lost config default before later join player 1 "lobby" .player
    htarget hstay
  obtain ⟨hticket, hreturns⟩ := hback p hp
  exact ⟨htarget, hstay, ⟨p, hp, hticket⟩, hafter, (hreturns late [] "full" hafter).2⟩

end Refused

end GameHub.Hub
