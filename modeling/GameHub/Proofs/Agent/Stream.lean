import GameHub.Proofs.Agent.Session

/-!
# Agents before a stream of datagrams

Datagrams arrive at an agent from the hub and from strangers, and some hold no packet. The agent
skips all but the packets of the hub, which are its answers, in the order in which they arrive.

Nothing is assumed of who sends them. They come as a stream, cut where the agent sends a datagram of
its own (`Surroundings`). A request takes one answer, so the n-th request takes the n-th answer of
the stream, unless too few have arrived by then (`Surroundings.answer?`).

A request has a deadline, and nothing is assumed of how far ahead the clock can show a time either
(`Setting`). If it cannot show the deadline, the agent breaks down after it has sent the request,
and the answer is not taken (`Setting.request_run`).
-/

namespace GameHub.Agent

/-! ## What an agent does and meets -/

/-- Something that an agent does. -/
inductive Deed where
  | sent (datagram : List UInt8)
  | paused (d : Duration)
  | ran (command : String)
  deriving DecidableEq

/-- The datagrams that were sent, in order. -/
def Deed.datagrams (deeds : List Deed) : List (List UInt8) :=
  deeds.filterMap fun
    | .sent datagram => some datagram
    | _ => none

@[simp] theorem Deed.datagrams_append (deeds more : List Deed) :
    datagrams (deeds ++ more) = datagrams deeds ++ datagrams more :=
  List.filterMap_append

/-- What there is around an agent that sets no deadlines. -/
structure Surroundings where
  hub : Address
  /-- What arrives after the n-th datagram of the agent, counted from zero, until it sends the next
  or stops waiting. -/
  arrivals : Nat → List Datagram
  /-- The time, by what the agent has done. -/
  clock : List Deed → UInt64
  /-- How a command ends, by what the agent has done before. -/
  ends : List Deed → String → CommandOutcome

namespace Surroundings

/-- The world of an agent, which remembers what the agent does. -/
def world (far : Surroundings) : World (List Deed) where
  send datagram deeds := .ok (far.arrivals (Deed.datagrams deeds).length, deeds ++ [.sent datagram])
  now := far.clock
  reaches _ _ := true
  pause d deeds := deeds ++ [.paused d]
  run command deeds := (far.ends deeds command, deeds ++ [.ran command])

/-- The link of an agent that has done these things and has these datagrams in its socket. -/
def link (far : Surroundings) (deeds : List Deed) (inbox : List Datagram) : Link (List Deed) :=
  ⟨far.hub, far.world, deeds, inbox⟩

end Surroundings

/-- What there is around an agent, its clock included. -/
structure Setting extends Surroundings where
  /-- Whether the clock can show, after so many datagrams of the agent, a time so far ahead. -/
  reaches : Nat → Duration → Bool

namespace Setting

/-- The world of an agent, which remembers what the agent does. -/
def world (far : Setting) : World (List Deed) :=
  { far.toSurroundings.world with
    reaches := fun wait deeds => far.reaches (Deed.datagrams deeds).length wait }

/-- The link of an agent that has done these things and has these datagrams in its socket. -/
def link (far : Setting) (deeds : List Deed) (inbox : List Datagram) : Link (List Deed) :=
  ⟨far.hub, far.world, deeds, inbox⟩

end Setting

/-- How far a clock reaches that counts seconds in a signed 64-bit word and shows so many now. -/
def signedClock (seconds : Nat) (wait : Duration) : Bool :=
  seconds * 1_000_000_000 + wait.nanoseconds < 0x8000000000000000 * 1_000_000_000

/-! ## Answers -/

/-- The packets of the hub among datagrams. -/
def answersIn (hub : Address) (ds : List Datagram) : List Packet :=
  ds.filterMap (Link.packetOf? hub)

theorem answersIn_append (hub : Address) (ds more : List Datagram) :
    answersIn hub (ds ++ more) = answersIn hub ds ++ answersIn hub more :=
  List.filterMap_append

/-- What is read next is the first answer, and the others are left. -/
theorem firstPacket_cases (hub : Address) (ds : List Datagram) :
    Link.firstPacket hub ds = none ∧ answersIn hub ds = [] ∨
      ∃ p rest, Link.firstPacket hub ds = some (p, rest) ∧
        answersIn hub ds = p :: answersIn hub rest := by
  induction ds with
  | nil => exact .inl ⟨rfl, rfl⟩
  | cons d ds ih =>
    rw [Link.firstPacket, answersIn]
    cases h : Link.packetOf? hub d with
    | none => rwa [List.filterMap_cons_none h]
    | some p => exact .inr ⟨p, ds, rfl, List.filterMap_cons_some h⟩

namespace Surroundings

variable (far : Surroundings)

/-- The answers that have come when the agent stops waiting at the last of so many requests, from
those in the socket on. -/
def heard (link : Link (List Deed)) (requests : Nat) : List Packet :=
  answersIn far.hub (link.inbox ++ (List.range requests).flatMap fun i =>
    far.arrivals ((Deed.datagrams link.state).length + i))

/-- The answer to a request, the requests being counted from zero. -/
def answer? (link : Link (List Deed)) (request : Nat) : Option Packet :=
  (far.heard link (request + 1))[request]?

/-- Before any request, an agent has heard what is in its socket. -/
theorem heard_zero (link : Link (List Deed)) : far.heard link 0 = answersIn far.hub link.inbox := by
  simp [heard]

theorem heard_add (link : Link (List Deed)) (requests more : Nat) :
    far.heard link (requests + more) = far.heard link requests ++
      answersIn far.hub ((List.range more).flatMap fun i =>
        far.arrivals ((Deed.datagrams link.state).length + requests + i)) := by
  simp only [heard, List.range_add, List.flatMap_append, List.flatMap_map, ← answersIn_append,
    List.append_assoc, Nat.add_assoc]

theorem lt_length_heard {link : Link (List Deed)} {request : Nat}
    (h : far.answer? link request ≠ none) : request < (far.heard link (request + 1)).length := by
  rw [answer?, ne_eq, List.getElem?_eq_none_iff] at h
  exact Nat.lt_of_not_le h

/-- The later link is one at which so many of the answers of the earlier one have been read, each
after a request of its own. -/
structure HasRead (earlier : Link (List Deed)) (answers : Nat) (later : Link (List Deed)) :
    Prop where
  sent : (Deed.datagrams later.state).length = (Deed.datagrams earlier.state).length + answers
  heard : ∀ requests,
    far.heard later requests = (far.heard earlier (answers + requests)).drop answers

variable {far} {earlier later : Link (List Deed)} {answers : Nat}

/-- The answers that are left are the later ones of before. -/
theorem HasRead.answer? (h : far.HasRead earlier answers later) (request : Nat) :
    far.answer? later request = far.answer? earlier (answers + request) := by
  rw [Surroundings.answer?, Surroundings.answer?, h.heard, List.getElem?_drop, Nat.add_assoc]

/-- As many requests have been answered as were sent, and nothing but their answers is gone. -/
theorem hasRead_of_left
    (hsent : (Deed.datagrams later.state).length = (Deed.datagrams earlier.state).length + answers)
    (hanswered : answers ≤ (far.heard earlier answers).length)
    (hleft : answersIn far.hub later.inbox = (far.heard earlier answers).drop answers) :
    far.HasRead earlier answers later := by
  refine ⟨hsent, fun more => ?_⟩
  have hlater := far.heard_add later 0 more
  rw [Nat.zero_add, heard_zero, hleft] at hlater
  rw [hlater, heard_add, List.drop_append_of_le_length hanswered, Nat.add_zero, hsent]

end Surroundings

/-! ## Requests -/

namespace Setting

variable (far : Setting)

/-- The clock can show the deadline of a request, the requests being counted from zero. -/
def HasDeadline (link : Link (List Deed)) (wait : Duration) (request : Nat) : Prop :=
  far.reaches ((Deed.datagrams link.state).length + request + 1) wait = true

instance (link : Link (List Deed)) (wait : Duration) (request : Nat) :
    Decidable (far.HasDeadline link wait request) :=
  inferInstanceAs (Decidable (_ = _))

/-- The deadlines that are left are the later ones of before. -/
theorem hasDeadline_of_hasRead {far : Setting} {earlier later : Link (List Deed)} {answers : Nat}
    (h : far.HasRead earlier answers later) (wait : Duration) (request : Nat) :
    far.HasDeadline later wait request ↔ far.HasDeadline earlier wait (answers + request) := by
  rw [HasDeadline, HasDeadline, h.sent, Nat.add_assoc _ answers]

variable (deeds : List Deed) (inbox : List Datagram) (p : Packet) {wait : Duration}

/-- The deadline of a request is set after the request is sent. -/
theorem reaches_sent (datagram : List UInt8) (wait : Duration) :
    far.world.reaches wait (deeds ++ [.sent datagram]) =
      far.reaches ((Deed.datagrams deeds).length + 1) wait := by
  simp [world, Deed.datagrams]

/-- A request that has a deadline takes the next answer or times out. -/
theorem request_run (h : far.HasDeadline (far.link deeds inbox) wait 0) :
    ∃ left,
      (Session.request p wait).run.run (far.link deeds inbox) =
        ((far.answer? (far.link deeds inbox) 0).elim (.error (.timeout wait)) .ok,
          far.link (deeds ++ [.sent p.encode]) left) ∧
      answersIn far.hub left = (far.heard (far.link deeds inbox) 1).drop 1 := by
  let link := far.link deeds inbox
  let arriving := far.arrivals (Deed.datagrams deeds).length
  have hsend : link.world.send p.encode link.state = .ok (arriving, deeds ++ [.sent p.encode]) :=
    rfl
  have hrun := Session.request_run hsend ((far.reaches_sent deeds p.encode wait).trans h)
  have hheard : far.heard link 1 = answersIn far.hub (inbox ++ arriving) := by
    simp [Surroundings.heard, link, arriving, Setting.link]
  rw [Surroundings.answer?, hheard]
  rcases firstPacket_cases far.hub (inbox ++ arriving) with
    ⟨hfirst, hanswers⟩ | ⟨reply, left, hfirst, hanswers⟩
  · have hnone : Link.firstPacket link.hub (link.inbox ++ arriving) = none := hfirst
    refine ⟨[], ?_, by rw [hanswers]; rfl⟩
    rw [hrun, hnone, hanswers]
    rfl
  · have hsome : Link.firstPacket link.hub (link.inbox ++ arriving) = some (reply, left) := hfirst
    refine ⟨left, ?_, by rw [hanswers]; rfl⟩
    rw [hrun, hsome, hanswers]
    rfl

/-- A request that has none is sent all the same. -/
theorem request_overflow (h : ¬ far.HasDeadline (far.link deeds inbox) wait 0) :
    ∃ left, (Session.request p wait).run.run (far.link deeds inbox) =
      (.error (.overflow Session.deadlineOverflowMessage),
        far.link (deeds ++ [.sent p.encode]) left) := by
  let link := far.link deeds inbox
  let arriving := far.arrivals (Deed.datagrams deeds).length
  have hsend : link.world.send p.encode link.state = .ok (arriving, deeds ++ [.sent p.encode]) :=
    rfl
  have hreaches : link.world.reaches wait (deeds ++ [.sent p.encode]) = false :=
    (far.reaches_sent deeds p.encode wait).trans (Bool.eq_false_iff.mpr h)
  exact ⟨inbox ++ arriving, Session.request_overflow hsend hreaches⟩

end Setting

end GameHub.Agent
