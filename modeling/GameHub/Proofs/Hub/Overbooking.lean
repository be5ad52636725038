import GameHub.Proofs.Admission.Content
import GameHub.Proofs.Admission.Pass
import GameHub.Proofs.Hub.Transfers

/-!
# How many players a report lets through

The hub learns how full a backend is from its reports only, and takes the last one as it is: neither
the players that it has sent there since nor the transfers that may still fail are counted in. All
that holds back the hub between two reports is that a pass along the line admits one player.

**Theorem (`transfers_between_reports`).** Until a backend reports again, every pass along the line
sends it at most one player, and none if the report left no place free; nothing else that happens
to the hub sends it anybody. So the players that are sent to it are at most as many as there are
passes, and none are sent to a backend that was full.

The places that were free are no bound for the whole time between two reports
(`free_places_not_enough`): each pass may send a player to the same free place.
-/

namespace GameHub

open Admission Backend

/-! ## What is known of a backend -/

/-- A status with a place for some rank is that of a backend which is online and not full. -/
theorem Admission.Policy.open_of_place {policy : Policy} {rank : Rank} {status : Status}
    (h : policy.capacity rank status = .place) :
    status.online = true ∧ status.current < status.max :=
  have hroom := capacity_eq_place_iff.mp h
  ⟨hroom.online, UInt32.lt_iff_toNat_lt.mpr hroom.free⟩

/-- A missed report leaves the status as it was, or makes it that of a backend which is offline. -/
theorem Backend.Record.status_miss {b : Record} {threshold : UInt32}
    (h : (b.miss threshold).status.online = true) : (b.miss threshold).status = b.status := by
  by_cases hlost : threshold ≤ b.failures.addSat 1 ∧ b.status.online = true
  · simp [miss, hlost, Status.offline] at h
  · simp [miss, hlost]

namespace Registry

/-- A backend that is online is as full as this report says. -/
def Reported (r : Registry) (id : String) (current max : UInt32) : Prop :=
  ∀ b ∈ r.records, b.id = id → b.status.online = true → b.status = .up current max

variable {r : Registry} {id : String} {current max : UInt32}

theorem reported_report (r : Registry) (id : String) (current max : UInt32) (now : UInt64) :
    (r.report id current max now).2.Reported id current max := by
  intro b hb hid _
  obtain ⟨old, -, rfl⟩ := List.mem_map.mp hb
  by_cases hold : old.id = id
  · rw [if_pos hold]
    rfl
  · rw [if_neg hold] at hid
    exact absurd hid hold

/-- A change that only takes backends offline. -/
theorem Reported.map (h : r.Reported id current max) {change : Record → Record}
    (hid : ∀ b, (change b).id = b.id)
    (hstatus : ∀ b, b.id = id → (change b).status.online = true → (change b).status = b.status) :
    Reported { r with records := r.records.map change } id current max := by
  intro b hb hb' honline
  obtain ⟨old, hold, rfl⟩ := List.mem_map.mp hb
  have hold' : old.id = id := (hid old).symm.trans hb'
  have hsame := hstatus old hold' honline
  rw [hsame] at honline ⊢
  exact h old hold hold' honline

theorem Reported.report_of_ne (h : r.Reported id current max) {other : String} (hne : other ≠ id)
    (current' max' : UInt32) (now : UInt64) :
    (r.report other current' max' now).2.Reported id current max := by
  refine h.map (fun b => ?_) fun b hb _ => ?_
  · split <;> rfl
  · rw [if_neg (hb.trans_ne hne.symm)]

theorem Reported.sweepStale (h : r.Reported id current max) (now : UInt64) (timeout : Duration) :
    (r.sweepStale now timeout).2.Reported id current max := by
  refine h.map (fun b => ?_) fun b _ honline => ?_
  · split <;> rfl
  · split_ifs at honline ⊢
    · exact Record.status_miss honline
    · rfl

end Registry

namespace Hub

/-- The backend reports how full it is. -/
def Event.reports (backend : String) : Event → Bool
  | .packet _ (.statusReport server ..) => server = backend
  | _ => false

/-- How many packets send a player to a backend. -/
def sentTo (backend : String) (out : List Outbound) : Nat :=
  (transfers out).countP (·.destination? = some backend)

theorem sentTo_append (backend : String) (out out' : List Outbound) :
    sentTo backend (out ++ out') = sentTo backend out + sentTo backend out' := by
  rw [sentTo, transfers_append, List.countP_append, sentTo, sentTo]

variable {h : Hub} {backend : String} {current max : UInt32}

/-! ## One event -/

/-- Only a report of the backend itself makes the hub think otherwise of it. -/
theorem reported_step (hreported : h.registry.Reported backend current max) {o : Occurrence}
    (hsilent : o.event.reports backend = false) :
    (h.step o).2.registry.Reported backend current max := by
  rw [registry_step]
  unfold Event.observe
  split
  · next hevent =>
    rw [hevent] at hsilent
    exact hreported.report_of_ne (of_decide_eq_false hsilent) _ _ _
  · exact hreported.sweepStale _ _
  · exact hreported

/-- A pass along the line sends one player at most, and to a backend with a free place; other events
send nobody. -/
theorem sentTo_step (hreported : h.registry.Reported backend current max) (o : Occurrence) :
    sentTo backend (h.step o).1 ≤
      if o.event = .reconcile then min 1 (max.toNat - current.toNat) else 0 := by
  rw [sentTo]
  rcases transfers_step h o with hnone | ⟨hevent, d, address, hadmitted, -, hsent⟩
  · rw [hnone]
    exact Nat.zero_le _
  · rw [hsent, if_pos hevent]
    by_cases hbackend : d.backend = backend
    · obtain ⟨record, hrecord, hid, rank, hplace⟩ := Queue.reconcile_place hadmitted
      obtain ⟨honline, hfree⟩ := Policy.open_of_place hplace
      rw [hreported record hrecord (hid.trans hbackend) honline] at hfree
      have hfree : current.toNat < max.toNat := hfree
      refine Nat.le_trans List.countP_le_length ?_
      rw [List.length_singleton]
      omega
    · rw [List.countP_eq_zero.mpr]
      · exact Nat.zero_le _
      · intro sent hsent
        rw [List.mem_singleton.mp hsent]
        simpa [Outbound.destination?, Packet.destination?] using hbackend

/-! ## Runs -/

theorem reported_run (hreported : h.registry.Reported backend current max) {run : List Occurrence}
    (hsilent : ∀ o ∈ run, o.event.reports backend = false) :
    (h.run run).2.registry.Reported backend current max := by
  induction run generalizing h with
  | nil => exact hreported
  | cons o rest ih =>
    exact ih (reported_step hreported (hsilent o List.mem_cons_self))
      fun o' ho' => hsilent o' (List.mem_cons_of_mem o ho')

theorem sentTo_run (hreported : h.registry.Reported backend current max) {run : List Occurrence}
    (hsilent : ∀ o ∈ run, o.event.reports backend = false) :
    sentTo backend (h.run run).1 ≤
      run.countP (·.event = .reconcile) * min 1 (max.toNat - current.toNat) := by
  induction run generalizing h with
  | nil => exact Nat.zero_le _
  | cons o rest ih =>
    have hfirst := sentTo_step hreported o
    have hlater := ih (reported_step hreported (hsilent o List.mem_cons_self))
      fun o' ho' => hsilent o' (List.mem_cons_of_mem o ho')
    rw [run_cons, sentTo_append]
    rw [List.countP_cons, Nat.add_mul]
    split at hfirst
    · next hpass =>
      rw [if_pos (decide_eq_true hpass)]
      omega
    · omega

/-! ## The result -/

/-- **Between two reports of a backend the hub sends it at most one player in a pass along the line,
and nobody if it was full.** -/
theorem transfers_between_reports (h : Hub) (report : Occurrence) (later : List Occurrence)
    (sender : Address) (backend : String) (current max : UInt32)
    (hreport : report.event = .packet sender (.statusReport backend current max))
    (hsilent : ∀ o ∈ later, o.event.reports backend = false) :
    let start := (h.step report).2
    (∀ first o rest, later = first ++ o :: rest →
      sentTo backend ((start.run first).2.step o).1 ≤
        if o.event = .reconcile then min 1 (max.toNat - current.toNat) else 0) ∧
    sentTo backend (start.run later).1 ≤
      later.countP (·.event = .reconcile) * min 1 (max.toNat - current.toNat) := by
  intro start
  have hreported : start.registry.Reported backend current max := by
    rw [registry_step, hreport]
    exact Registry.reported_report _ _ _ _ _
  refine ⟨fun first o rest hlater => ?_, sentTo_run hreported hsilent⟩
  refine sentTo_step (reported_run hreported fun o' ho' => hsilent o' ?_) o
  rw [hlater]
  exact List.mem_append_left _ ho'

section OnePlace

-- The runs below are evaluated by the kernel alone; unfolding them while terms are matched is slow.
attribute [local irreducible] Hub.run

/-- One place is free at the report, and two passes along the line send two players there. -/
theorem transfers_between_reports_of_two_passes :
    let config : Config := ⟨[⟨"lobby", none, "10.0.0.2:25565", none⟩], default, default, default⟩
    let now : Moment := ⟨0, ⟨0⟩⟩
    let one : Address := ⟨.v4 10 0 0 8, 4000⟩
    let two : Address := ⟨.v4 10 0 0 9, 4000⟩
    let lobby : Address := ⟨.v4 10 0 0 2, 4001⟩
    let before := [.plain now (.packet one (.connect protocolVersion)),
      .plain now (.packet two (.connect protocolVersion)),
      .plain now (.packet one (.joinQueue "lobby" .admin)),
      .plain now (.packet two (.joinQueue "lobby" .admin))]
    let report : Occurrence := .plain now (.packet lobby (.statusReport "lobby" 9 10))
    let later : List Occurrence := [.plain now .reconcile, .plain now .reconcile]
    let h := ((Hub.new config default).run before).2
    (∀ o ∈ later, o.event.reports "lobby" = false) ∧
      sentTo "lobby" ((h.step report).2.run later).1 = 2 ∧
      sentTo "lobby" ((h.step report).2.run later).1 ≤
        later.countP (·.event = .reconcile) * min 1 ((10 : UInt32).toNat - (9 : UInt32).toNat) := by
  intro config now one two lobby before report later h
  have hsilent : ∀ o ∈ later, o.event.reports "lobby" = false := by decide +kernel
  exact ⟨hsilent, by decide +kernel,
    (transfers_between_reports h report later lobby "lobby" 9 10 rfl hsilent).2⟩

/-- The places that a report leaves free are no bound for the players that are sent until the next
one, even if all of them arrive. -/
theorem free_places_not_enough : ¬ ∀ (config : Config) (options : Options)
    (before later : List Occurrence) (report : Occurrence) (sender : Address) (backend : String)
    (current max : UInt32),
    report.event = .packet sender (.statusReport backend current max) →
    (∀ o ∈ later, o.event.reports backend = false) →
    (∀ o ∈ later, ∀ player reason, o.event ≠ .packet player (.transferFailed reason)) →
    sentTo backend ((((Hub.new config options).run before).2.step report).2.run later).1 ≤
      max.toNat - current.toNat := by
  intro hbound
  let config : Config := ⟨[⟨"lobby", none, "10.0.0.2:25565", none⟩], default, default, default⟩
  let now : Moment := ⟨0, ⟨0⟩⟩
  let one : Address := ⟨.v4 10 0 0 8, 4000⟩
  let two : Address := ⟨.v4 10 0 0 9, 4000⟩
  let lobby : Address := ⟨.v4 10 0 0 2, 4001⟩
  let before : List Occurrence := [.plain now (.packet one (.connect protocolVersion)),
    .plain now (.packet two (.connect protocolVersion)),
    .plain now (.packet one (.joinQueue "lobby" .admin)),
    .plain now (.packet two (.joinQueue "lobby" .admin))]
  let report : Occurrence := .plain now (.packet lobby (.statusReport "lobby" 9 10))
  have hone := hbound config default before [.plain now .reconcile, .plain now .reconcile] report
    lobby "lobby" 9 10 rfl (by decide +kernel) (by simp [Occurrence.plain])
  exact absurd hone (by decide +kernel)

end OnePlace

end Hub

end GameHub
