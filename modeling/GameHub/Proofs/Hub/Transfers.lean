import GameHub.Proofs.Hub.Frames

/-!
# Who is sent where

The hub sends a player to a backend in one place only: a pass along the line, which admits at most
one player and looks up the address of that player (`transfers_step`). No answer to a packet holds a
transfer.
-/

namespace GameHub

open Admission

/-- The backend that a packet sends its receiver to. -/
def Packet.destination? : Packet → Option String
  | .transfer backend _ => some backend
  | _ => none

/-- The backend that a packet on its way out sends its receiver to. -/
def Outbound.destination? : Outbound → Option String
  | .toAddress _ packet | .toPlayer _ packet => packet.destination?

namespace Hub

/-- Of what goes out, the packets that send a player to a backend. -/
def transfers (out : List Outbound) : List Outbound := out.filter (·.destination?.isSome)

theorem transfers_append (out out' : List Outbound) :
    transfers (out ++ out') = transfers out ++ transfers out' :=
  List.filter_append ..

@[simp]
theorem transfers_signals (signals : List Signal) : transfers (signals.map (·.outbound)) = [] := by
  rw [transfers, List.filter_map, List.map_eq_nil_iff, List.filter_eq_nil_iff]
  intro signal _
  cases signal <;> exact Bool.false_ne_true

variable (h : Hub)

theorem transfers_handleAcross (now : Moment) (gap : List Moment) (sender : Address)
    (packet : Packet) : transfers (h.handleAcross now gap sender packet).1 = [] := by
  rcases handleAcross_out h now gap sender packet with ⟨signals, hout⟩ | ⟨reply, hreply, hout⟩
  · rw [hout, transfers_signals]
  · rw [hout]
    cases hreply <;> rfl

/-- An event sends nobody to a backend, or it is a pass along the line that sends the player whom it
has admitted, at the address where that player is known. -/
theorem transfers_step (o : Occurrence) : transfers (h.step o).1 = [] ∨
    o.event = .reconcile ∧ ∃ d address,
      (h.queue.reconcile h.registry.records h.live).result = some d ∧
      (h.lapse o.firstGap).clients.addressOf? d.entry.subject = some address ∧
      transfers (h.step o).1 = [.toAddress address (.transfer d.backend d.address)] := by
  rw [step]
  cases o.event with
  | packet sender packet => exact .inl (transfers_handleAcross h o.now o.firstGap sender packet)
  | reconcile =>
    rcases reconcileAcross_cases h o.now o.firstGap o.secondGap with
      ⟨-, heq⟩ | ⟨d, hsome, ⟨address, haddress, heq⟩ | ⟨-, heq⟩⟩
    · refine .inl ?_
      rw [heq]
      exact transfers_signals _
    · refine .inr ⟨rfl, d, address, hsome, haddress, ?_⟩
      rw [heq, transfers_append, transfers_signals]
      rfl
    · refine .inl ?_
      rw [heq, transfers_append, transfers_signals, transfers_signals]
      rfl
  | _ => exact .inl rfl

end Hub

end GameHub
