import GameHub.Agent.Restart
import GameHub.Proofs.Agent.Agreement

/-!
# A hub that answers late

The hub answers every datagram with one packet, and its packets arrive in the order in which it sent
them. But a packet may arrive only after the agent has stopped waiting for it. It then stays in the
socket of the agent, where the next request finds it.

A session reads the answers of the hub one by one, in order, and nothing else of the hub. So what it
does can be told from the answers that it reads: it does the same at a hub that has just these to
give and gives each at once (`Mirrors`). The relation is shown for each step of a session and passes
to sequences of steps (`Mirrors.bind`).

A session may send one more request than it reads answers. That is its last one then, since a
request without an answer ends the session.
-/

namespace GameHub.Agent

/-! ## The hub -/

/-- A packet that fits into a datagram. -/
structure Answer where
  packet : Packet
  fits : packet.fits = true
  deriving DecidableEq

namespace Answer

/-- The answer on its way from the hub. -/
def sentFrom (hub : Address) (r : Answer) : Datagram := ⟨hub, r.packet.encode⟩

/-- The answer of the hub in a datagram. -/
def ofDatagram? (hub : Address) (d : Datagram) : Option Answer :=
  (Link.packetOf? hub d).bind fun p => if h : p.fits = true then some ⟨p, h⟩ else none

end Answer

/-- A hub that gives one answer to every datagram, in order, and what else the agent has around
it. -/
structure LateHub (η : Type) where
  address : Address
  answer : List UInt8 → η → Answer × η
  /-- How many answers arrive at most between the n-th datagram and the next. -/
  arrivals : Nat → Nat
  now : η → UInt64
  pause : Duration → η → η
  /-- How a command ends, some commands having been run before. -/
  run : List String → String → CommandOutcome

/-- The state of a late hub and of the network before it. -/
structure Delayed (η : Type) where
  hub : η
  /-- The answers to the datagrams, from the first to the last. -/
  given : List Answer
  /-- The answers that have not arrived, oldest first. -/
  underway : List Answer
  /-- The commands that the agent has run. -/
  commands : List String

/-- How far the exchange with a late hub has come. -/
structure Position (η : Type) where
  state : Delayed η
  /-- The answers that have arrived and have not been read, oldest first. -/
  arrived : List Answer

/-- The state of a hub that gives certain answers, each at once, and falls silent then. -/
structure Prompt where
  answers : List Answer
  /-- The commands that the agent has run. -/
  commands : List String

namespace LateHub

variable {η α β : Type}

/-- A datagram reaches the hub. Its answer leaves, and some answers arrive. -/
def send (far : LateHub η) (datagram : List UInt8) (s : Delayed η) : List Answer × Delayed η :=
  let (answer, hub) := far.answer datagram s.hub
  let sent := s.underway ++ [answer]
  let count := far.arrivals s.given.length
  (sent.take count, ⟨hub, s.given ++ [answer], sent.drop count, s.commands⟩)

/-- The world of an agent at a late hub. No deadline is too far ahead. -/
def world (far : LateHub η) : World (Delayed η) where
  send datagram s :=
    let (arriving, s) := far.send datagram s
    .ok (arriving.map (·.sentFrom far.address), s)
  now s := far.now s.hub
  reaches _ _ := true
  pause d s := { s with hub := far.pause d s.hub }
  run command s := (far.run s.commands command, { s with commands := s.commands ++ [command] })

/-- The link of an agent to a late hub. -/
def link (far : LateHub η) (w : Position η) : Link (Delayed η) :=
  ⟨far.address, far.world, w.state, w.arrived.map (·.sentFrom far.address)⟩

/-- The world of an agent at a prompt hub, in which the clock shows zero, waits are over at once,
and commands end as at the late one. -/
def promptWorld (far : LateHub η) : World Prompt where
  send _ s := .ok (s.answers.head?.toList.map (·.sentFrom far.address),
    { s with answers := s.answers.tail })
  now _ := 0
  reaches _ _ := true
  pause _ s := s
  run command s := (far.run s.commands command, { s with commands := s.commands ++ [command] })

/-- The link of an agent to a prompt hub. -/
def promptLink (far : LateHub η) (s : Prompt) : Link Prompt := ⟨far.address, far.promptWorld, s, []⟩

/-- What a session comes to at a prompt hub, and the commands that have been run after it. -/
def promptly (far : LateHub η) (y : Session Prompt α) (s : Prompt) :
    Except Error α × List String :=
  let (result, link) := y.run.run (far.promptLink s)
  (result, link.state.commands)

end LateHub

/-- The answers that the agent has not read, oldest first. -/
def Position.unread {η : Type} (w : Position η) : List Answer := w.arrived ++ w.state.underway

/-! ## Requests -/

namespace Answer

theorem packetOf?_sentFrom (hub : Address) (r : Answer) :
    Link.packetOf? hub (r.sentFrom hub) = some r.packet := by
  rw [sentFrom, Link.packetOf?, if_pos rfl, Packet.decode_encode_of_fits r.fits]
  rfl

theorem ofDatagram?_sentFrom (hub : Address) (r : Answer) :
    ofDatagram? hub (r.sentFrom hub) = some r := by
  rw [ofDatagram?, packetOf?_sentFrom]
  exact dif_pos r.fits

theorem filterMap_ofDatagram? (hub : Address) (rs : List Answer) :
    (rs.map (·.sentFrom hub)).filterMap (ofDatagram? hub) = rs := by
  rw [List.filterMap_map, show ofDatagram? hub ∘ (·.sentFrom hub) = some from
    funext (ofDatagram?_sentFrom hub), List.filterMap_some]

theorem firstPacket_cons (hub : Address) (r : Answer) (rest : List Datagram) :
    Link.firstPacket hub (r.sentFrom hub :: rest) = some (r.packet, rest) := by
  rw [Link.firstPacket, packetOf?_sentFrom]

end Answer

namespace LateHub

variable {η α β : Type} (far : LateHub η)

/-- A request at a late hub takes the oldest answer that has arrived. -/
theorem request_link (w : Position η) (p : Packet) (wait : Duration) :
    let (arriving, state) := far.send p.encode w.state
    (Session.request p wait).run.run (far.link w) =
      match w.arrived ++ arriving with
      | r :: arrived => (.ok r.packet, far.link ⟨state, arrived⟩)
      | [] => (.error (.timeout wait), far.link ⟨state, []⟩) := by
  have hsend : (far.link w).world.send p.encode w.state =
      .ok ((far.send p.encode w.state).1.map (·.sentFrom far.address),
        (far.send p.encode w.state).2) := rfl
  have hinbox : (far.link w).inbox ++ (far.send p.encode w.state).1.map (·.sentFrom far.address) =
      (w.arrived ++ (far.send p.encode w.state).1).map (·.sentFrom far.address) :=
    List.map_append.symm
  rw [Session.request_run hsend rfl, hinbox]
  cases h : w.arrived ++ (far.send p.encode w.state).1 with
  | nil => simp only [h]; rfl
  | cons r arrived =>
    simp only [h, List.map_cons]
    rw [show (far.link w).hub = far.address from rfl, r.firstPacket_cons]
    rfl

/-- A request at a prompt hub takes the next answer. -/
theorem request_promptLink (s : Prompt) (p : Packet) (wait : Duration) :
    (Session.request p wait).run.run (far.promptLink s) =
      match s.answers with
      | r :: answers => (.ok r.packet, far.promptLink ⟨answers, s.commands⟩)
      | [] => (.error (.timeout wait), far.promptLink s) := by
  have hsend : (far.promptLink s).world.send p.encode s =
      .ok (s.answers.head?.toList.map (·.sentFrom far.address),
        { s with answers := s.answers.tail }) := rfl
  obtain ⟨answers, commands⟩ := s
  cases answers with
  | nil =>
    rw [Session.request_run hsend rfl]
    rfl
  | cons r answers => exact Session.request_eq hsend (r.firstPacket_cons far.address []) rfl

/-- A wait at a prompt hub is over at once. -/
theorem backOff_promptLink {a : RestartAgent} {left : Nat} (h : a.HasDelay left)
    (retryAfter : UInt64) (s : Prompt) :
    (a.backOff retryAfter left).run.run (far.promptLink s) = (.ok (), far.promptLink s) := by
  obtain ⟨d, hrun⟩ := RestartAgent.backOff_of_hasDelay h retryAfter (far.promptLink s)
  exact hrun

end LateHub

/-! ## Sessions at a late hub and at a prompt one -/

/-- The result is that no answer came in time. -/
def TimedOut {α : Type} : Except Error α → Prop
  | .error (.timeout _) => True
  | _ => False

/-- The result is that no answer came in time, or it may hide that. -/
def MayMiss {α : Type} : Except Error α → Prop
  | .error (.timeout _) | .error (.commandFailed _) => True
  | _ => False

section

variable {α β : Type} {e : Error}

theorem timedOut_error (h : TimedOut (.error e : Except Error α)) :
    TimedOut (.error e : Except Error β) := by
  cases e <;> exact h

theorem mayMiss_error (h : MayMiss (.error e : Except Error α)) :
    MayMiss (.error e : Except Error β) := by
  cases e <;> exact h

end

namespace LateHub

variable {η α β : Type}

/-- A session goes from one position to another at a late hub. Meanwhile the hub gives the answers
to the session's `own` requests, and the session reads some, the oldest that there are. With these a
prompt hub leads to the same. -/
structure Exchange (far : LateHub η) (x : Session (Delayed η) α) (y : Session Prompt α)
    (w : Position η) (result : Except Error α) (w' : Position η) (own read : List Answer) :
    Prop where
  late : x.run.run (far.link w) = (result, far.link w')
  given : w'.state.given = w.state.given ++ own
  inOrder : w.unread ++ own = read ++ w'.unread
  prompt : y.run.run (far.promptLink ⟨read, w.state.commands⟩) =
    (result, far.promptLink ⟨[], w'.state.commands⟩)
  /-- Either every request is answered, and whatever answers come after these are left over. Or the
  last is not, and then more answers would change nothing, unless the result is just that none
  came. -/
  answered :
    (own.length = read.length ∧ ∀ rest,
      y.run.run (far.promptLink ⟨read ++ rest, w.state.commands⟩) =
        (result, far.promptLink ⟨rest, w'.state.commands⟩)) ∨
    (own.length = read.length + 1 ∧ MayMiss result ∧ (TimedOut result ∨ ∀ rest,
      far.promptly y ⟨read ++ rest, w.state.commands⟩ = (result, w'.state.commands)))

/-- What the one session does at the late hub, the other does at a prompt hub with the answers that
the first one reads. -/
def Mirrors (far : LateHub η) (x : Session (Delayed η) α) (y : Session Prompt α) : Prop :=
  ∀ w, ∃ result w' own read, far.Exchange x y w result w' own read

variable {far : LateHub η}

theorem promptly_of_run {y : Session Prompt α} {s s' : Prompt} {result : Except Error α}
    (h : y.run.run (far.promptLink s) = (result, far.promptLink s')) :
    far.promptly y s = (result, s'.commands) := by
  rw [promptly, h]
  rfl

theorem promptly_bind {y : Session Prompt α} {g : α → Session Prompt β} {s s' : Prompt} {a : α}
    (h : y.run.run (far.promptLink s) = (.ok a, far.promptLink s')) :
    far.promptly (y >>= g) s = far.promptly (g a) s' := by
  rw [promptly, Session.bind_of_ok h, promptly]

theorem promptly_bind_of_error {y : Session Prompt α} {g : α → Session Prompt β} {s : Prompt}
    {e : Error} {commands : List String} (h : far.promptly y s = (.error e, commands)) :
    far.promptly (y >>= g) s = (.error e, commands) := by
  obtain ⟨hresult, hcommands⟩ := Prod.mk.inj h
  have hrun : y.run.run (far.promptLink s) = (.error e, (y.run.run (far.promptLink s)).2) :=
    Prod.ext hresult rfl
  rw [promptly, Session.bind_of_error hrun]
  exact Prod.ext rfl hcommands

namespace Mirrors

/-- A session that ends at once, with any result. -/
theorem of_result {x : Session (Delayed η) α} {y : Session Prompt α} (result : Except Error α)
    (hx : ∀ w, x.run.run (far.link w) = (result, far.link w))
    (hy : ∀ s, y.run.run (far.promptLink s) = (result, far.promptLink s)) : far.Mirrors x y :=
  fun w => ⟨result, w, [], [], hx w, (List.append_nil _).symm, List.append_nil _, hy _,
    .inl ⟨rfl, fun rest => hy ⟨rest, w.state.commands⟩⟩⟩

theorem pure (a : α) : far.Mirrors (pure a) (pure a) :=
  of_result (.ok a) (fun _ => rfl) fun _ => rfl

theorem throw (e : Error) : far.Mirrors (throw e : Session _ α) (throw e) :=
  of_result (.error e) (fun _ => rfl) fun _ => rfl

theorem request (p : Packet) (wait : Duration) :
    far.Mirrors (Session.request p wait) (Session.request p wait) := by
  intro w
  let count := far.arrivals w.state.given.length
  rcases hanswer : far.answer p.encode w.state.hub with ⟨answer, hub⟩
  have hlate := far.request_link w p wait
  have hprompt := fun answers => far.request_promptLink ⟨answers, w.state.commands⟩ p wait
  have hunread : w.unread ++ [answer] = w.arrived ++ (w.state.underway ++ [answer]).take count ++
      (w.state.underway ++ [answer]).drop count := by
    rw [List.append_assoc, List.take_append_drop, Position.unread, List.append_assoc]
  rw [send, hanswer] at hlate
  dsimp only at hlate
  cases h : w.arrived ++ (w.state.underway ++ [answer]).take count with
  | nil =>
    rw [h] at hlate hunread
    exact ⟨_, _, [answer], [], hlate, rfl, hunread, hprompt [], .inr ⟨rfl, trivial, .inl trivial⟩⟩
  | cons r arrived =>
    rw [h] at hlate hunread
    exact ⟨_, _, [answer], [r], hlate, rfl, hunread, hprompt [r],
      .inl ⟨rfl, fun rest => hprompt (r :: rest)⟩⟩

/-- A session goes on as its parts do. -/
theorem bind {x : Session (Delayed η) α} {y : Session Prompt α}
    {f : α → Session (Delayed η) β} {g : α → Session Prompt β} (hxy : far.Mirrors x y)
    (hfg : ∀ a, far.Mirrors (f a) (g a)) : far.Mirrors (x >>= f) (y >>= g) := by
  intro w
  obtain ⟨result, w₁, own₁, read₁, first⟩ := hxy w
  cases result with
  | error e =>
    refine ⟨.error e, w₁, own₁, read₁, Session.bind_of_error first.late, first.given,
      first.inOrder, Session.bind_of_error first.prompt, first.answered.imp ?_ ?_⟩
    · exact fun ⟨hlength, hrest⟩ => ⟨hlength, fun rest => Session.bind_of_error (hrest rest)⟩
    · rintro ⟨hlength, hmiss, hrest⟩
      exact ⟨hlength, mayMiss_error hmiss, hrest.imp timedOut_error
        fun hrest rest => promptly_bind_of_error (hrest rest)⟩
  | ok a =>
    obtain ⟨result, w₂, own₂, read₂, second⟩ := hfg a w₁
    -- A part that went well has missed no answer, so it leaves further answers to the next.
    obtain ⟨hlength, hrest⟩ := first.answered.resolve_right fun h => h.2.1
    refine ⟨result, w₂, own₁ ++ own₂, read₁ ++ read₂, ?_, ?_, ?_, ?_, second.answered.imp ?_ ?_⟩
    · rw [Session.bind_of_ok first.late, second.late]
    · rw [second.given, first.given, List.append_assoc]
    · rw [← List.append_assoc, first.inOrder, List.append_assoc, second.inOrder, List.append_assoc]
    · rw [Session.bind_of_ok (hrest read₂), second.prompt]
    · rintro ⟨hlength₂, hrest₂⟩
      refine ⟨by simp only [List.length_append, hlength, hlength₂], fun rest => ?_⟩
      rw [List.append_assoc, Session.bind_of_ok (hrest (read₂ ++ rest)), hrest₂]
    · rintro ⟨hlength₂, hmiss, hrest₂⟩
      refine ⟨by simp only [List.length_append, hlength, hlength₂, Nat.add_assoc], hmiss,
        hrest₂.imp_right fun hrest₂ rest => ?_⟩
      rw [List.append_assoc, promptly_bind (hrest (read₂ ++ rest)), hrest₂]

/-- A wait passes unnoticed, since only the hub knows the time. Whether it overflows does not depend
on the time. -/
theorem backOff (a : RestartAgent) (retryAfter : UInt64) (left : Nat) :
    far.Mirrors (a.backOff retryAfter left) (a.backOff retryAfter left) := by
  by_cases hdelay : a.HasDelay left
  · intro w
    obtain ⟨d, hlate⟩ := RestartAgent.backOff_of_hasDelay hdelay retryAfter (far.link w)
    have hprompt := far.backOff_promptLink hdelay retryAfter
    let state := { w.state with hub := far.pause d w.state.hub }
    exact ⟨.ok (), ⟨state, w.arrived⟩, [], [], hlate, (List.append_nil _).symm, List.append_nil _,
      hprompt _, .inl ⟨rfl, fun rest => hprompt _⟩⟩
  · exact of_result (.error (.overflow delayOverflowMessage))
      (fun w => RestartAgent.backOff_of_not_hasDelay hdelay retryAfter (far.link w))
      fun s => RestartAgent.backOff_of_not_hasDelay hdelay retryAfter (far.promptLink s)

theorem runCommand (command : String) :
    far.Mirrors (Session.runCommand command) (Session.runCommand command) := by
  intro w
  let state := { w.state with commands := w.state.commands ++ [command] }
  exact ⟨.ok (far.run w.state.commands command), ⟨state, w.arrived⟩, [], [], rfl,
    (List.append_nil _).symm, List.append_nil _, rfl, .inl ⟨rfl, fun rest => rfl⟩⟩

end Mirrors

end LateHub

end GameHub.Agent
