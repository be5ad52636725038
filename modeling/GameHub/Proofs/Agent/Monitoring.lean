import GameHub.Proofs.Agent.Agreement
import GameHub.Proofs.Text.Wording

/-!
# Looking at the restart state

Whoever asks for the restart state gets one packet that fits into a datagram: the state, or if that
is too large the number of its bytes. The hub decides by the size of the snapshot, which it knows
without writing it.

**Theorem (`monitoring_faithful`).** The question is always answered and changes nothing in the hub.
An agent that asks gets exactly the state of the coordinator if its snapshot fits into a datagram,
and otherwise an error that names the true size.
-/

namespace GameHub

namespace Hub

/-! ## The notice in place of a snapshot -/

variable {state : Restart.State}

theorem fits_stateUnavailable {size : Nat} (hsize : size < UInt64.size) :
    (Packet.stateUnavailable s!"state is {size} bytes, limit is {maxPacketSize}").fits = true := by
  have htext : s!"state is {size} bytes, limit is {maxPacketSize}".utf8ByteSize =
      (toString size).utf8ByteSize + 31 := by
    have hstart : (toString "state is ").utf8ByteSize = 9 := by decide +kernel
    have hlimit : (toString " bytes, limit is ").utf8ByteSize = 17 := by decide +kernel
    have hmax : (toString maxPacketSize).utf8ByteSize = 5 := by decide +kernel
    have hend : (toString "").utf8ByteSize = 0 := by decide +kernel
    simp only [String.utf8ByteSize_append]
    omega
  have hdigits := utf8ByteSize_toString_le hsize
  have hbound : 4 + (8 + s!"state is {size} bytes, limit is {maxPacketSize}".utf8ByteSize) ≤
      65507 := by omega
  exact decide_eq_true hbound

theorem stateReply_of_fits (h : (Packet.stateSnapshot state).fits = true) :
    stateReply state = .stateSnapshot state := by
  rw [stateReply, if_pos h]

theorem stateReply_of_not_fits (h : (Packet.stateSnapshot state).fits = false) :
    stateReply state = .stateUnavailable
      s!"state is {(Packet.stateSnapshot state).size} bytes, limit is {maxPacketSize}" := by
  rw [stateReply, if_neg (by simp [h])]

theorem fits_stateReply (hsize : (Packet.stateSnapshot state).size < UInt64.size) :
    (stateReply state).fits = true := by
  cases h : (Packet.stateSnapshot state).fits with
  | true => rwa [stateReply_of_fits h]
  | false =>
    rw [stateReply_of_not_fits h]
    exact fits_stateUnavailable hsize

namespace Wired

open Agent

/-! ## The question and its answer -/

/-- What an agent makes of the answer to its question. -/
theorem queryState_eq {w : Wired} (run : String → CommandOutcome) (a : RestartAgent)
    (hsize : (Packet.stateSnapshot w.hub.restarts.state).size < UInt64.size) :
    let snapshot := Packet.stateSnapshot w.hub.restarts.state
    a.queryState.run.run (w.link run) =
      (if snapshot.fits then .ok w.hub.restarts.state
        else .error (.stateUnavailable
          s!"state is {snapshot.size} bytes, limit is {maxPacketSize}"), w.link run) := by
  intro snapshot
  have hhandle : w.hub.handle w.now w.agentAddress .stateQuery =
      ([.toAddress w.agentAddress (stateReply w.hub.restarts.state)], w.hub) := rfl
  have hquery : Packet.stateQuery.fits = true := by decide
  rw [RestartAgent.queryState, Session.bind_of_ok
    (w.request_eq run hquery (fits_stateReply hsize) hhandle a.retry.replyTimeout)]
  cases h : snapshot.fits with
  | true =>
    rw [stateReply_of_fits h]
    rfl
  | false =>
    rw [stateReply_of_not_fits h]
    rfl

/-- **Monitoring is faithful and always answered.** Whatever the state of the hub, a question for the
restart state leaves the hub as it is and has one packet as its answer. It goes to whoever asked and
fits into a datagram, and it is the snapshot exactly if the datagram of that is not too long. An
agent that asks gets the very state of the coordinator, or else is told the true length. The limit of
2⁶⁴ bytes is that of a byte string in memory. -/
theorem monitoring_faithful (w : Wired) (run : String → CommandOutcome) (a : RestartAgent)
    (hsize : (Packet.stateSnapshot w.hub.restarts.state).encode.length < UInt64.size) :
    let state := w.hub.restarts.state
    let snapshot := Packet.stateSnapshot state
    (∃ reply,
      (∀ now gap sender,
        w.hub.handleAcross now gap sender .stateQuery = ([.toAddress sender reply], w.hub) ∧
          w.hub.deliver? (.toAddress sender reply) = some (sender, reply)) ∧
      reply.size = reply.encode.length ∧ reply.encode.length ≤ maxPacketSize ∧
      ((∃ s, reply = .stateSnapshot s) ↔ snapshot.encode.length ≤ maxPacketSize) ∧
      (snapshot.encode.length ≤ maxPacketSize → reply = snapshot)) ∧
    snapshot.size = snapshot.encode.length ∧
    a.queryState.run.run (w.link run) =
      (if snapshot.encode.length ≤ maxPacketSize then .ok state
        else .error (.stateUnavailable
          s!"state is {snapshot.encode.length} bytes, limit is {maxPacketSize}"), w.link run) := by
  intro state snapshot
  have hlength : snapshot.encode.length = snapshot.size := snapshot.length_encode
  rw [Packet.length_encode] at hsize
  have hfits : (stateReply state).fits = true := fits_stateReply hsize
  refine ⟨⟨stateReply state, fun now gap sender => ⟨rfl, by simp [deliver?, hfits]⟩,
    (Packet.length_encode _).symm, ?_, ?_, fun h => ?_⟩, hlength.symm, ?_⟩
  · rw [Packet.length_encode]
    exact of_decide_eq_true hfits
  · rw [hlength]
    cases h : snapshot.fits with
    | true => exact iff_of_true ⟨state, stateReply_of_fits h⟩ (of_decide_eq_true h)
    | false =>
      refine iff_of_false ?_ (of_decide_eq_false h)
      rw [stateReply_of_not_fits h]
      rintro ⟨s, hs⟩
      cases hs
  · rw [hlength] at h
    exact stateReply_of_fits (decide_eq_true h)
  · rw [queryState_eq run a hsize, hlength]
    simp only [Packet.fits, decide_eq_true_eq]
    rfl

/-- A hub at which a backend with a name of so many letters has the slot. -/
def withLongName (length : Nat) : Wired :=
  let name := String.ofList (List.replicate length 'a')
  ⟨{ Hub.new ⟨[], default, default, default⟩ default with
      restarts := ⟨default, none, Restart.State.initial.grant name 0⟩ },
    ⟨1000, ⟨0⟩⟩, ⟨.v4 10 0 0 1, 4000⟩, ⟨.v4 10 0 0 2, 4001⟩, []⟩

/-- The snapshot has the name twice, for the slot and in the history. -/
theorem length_snapshot_withLongName (length : Nat) :
    (Packet.stateSnapshot (withLongName length).hub.restarts.state).encode.length =
      53 + 2 * length := by
  have hname := utf8ByteSize_replicate (c := 'a') (by decide) length
  generalize hlong : String.ofList (List.replicate length 'a') = name at hname
  rw [Packet.length_encode, withLongName, hlong]
  change 4 + (1 + (8 + name.utf8ByteSize) + 8 + (8 + (8 + name.utf8ByteSize + 8 + 0)) + 8) = _
  omega

/-- A snapshot of exactly 65507 bytes is sent, and one with a name that is one letter longer is
not. -/
theorem monitoring_faithful_at_limit :
    let fitting := withLongName 32727
    let tooLong := withLongName 32728
    let a : RestartAgent := ⟨"rot", default, fun _ => .ofMillis 0⟩
    let run : String → CommandOutcome := fun _ => .exited 0
    (Packet.stateSnapshot fitting.hub.restarts.state).encode.length = 65507 ∧
      (Packet.stateSnapshot tooLong.hub.restarts.state).encode.length = 65509 ∧
      (a.queryState.run.run (fitting.link run)).1 = .ok fitting.hub.restarts.state ∧
      (a.queryState.run.run (tooLong.link run)).1 =
        .error (.stateUnavailable "state is 65509 bytes, limit is 65507") := by
  intro fitting tooLong a run
  have hfitting : (Packet.stateSnapshot fitting.hub.restarts.state).encode.length = 65507 :=
    length_snapshot_withLongName 32727
  have htooLong : (Packet.stateSnapshot tooLong.hub.restarts.state).encode.length = 65509 :=
    length_snapshot_withLongName 32728
  have hanswer := (monitoring_faithful fitting run a (by rw [hfitting]; decide)).2.2
  have hrefusal := (monitoring_faithful tooLong run a (by rw [htooLong]; decide)).2.2
  refine ⟨hfitting, htooLong, ?_, ?_⟩
  · rw [hanswer, if_pos (by rw [hfitting]; decide)]
  · rw [hrefusal, if_neg (by rw [htooLong]; decide), htooLong]
    rfl

end Wired

end Hub

end GameHub
