import GameHub.Proofs.Agent.Stream
import Mathlib.Control.Monad.Basic

/-!
# How asking for the restart slot ends

**Theorem (`requestPermission_by_answers`).** Whatever stream of datagrams arrives, an agent asks
again exactly while it is told to wait, and how its asking ends is what the first other answer says,
or that none has come, or that it was told to wait as often as it may ask. It sends one request for
each attempt, and each takes one answer. All this is so until a deadline or a delay cannot be
represented, as happens if the agent is to be patient beyond all measure; then the agent breaks down
(`patience_overflows`).

What an attempt meets is its `Round`. It ends the asking (`RestartAgent.Stops`) or leaves the agent
where it has read one answer more (`RestartAgent.attempt_link`); the attempts after it go by the
rest of the stream.
-/

namespace GameHub.Agent.RestartAgent

/-! ## One answer -/

/-- The answer tells the agent to wait. -/
def IsWait (a : RestartAgent) (answer : Option Packet) : Prop :=
  ∃ retryAfter position reason,
    answer = some (.restartResponse a.server (.wait retryAfter position reason))

/-- The agent is told to wait by so many answers. -/
def ToldToWait (a : RestartAgent) (answers : Nat → Option Packet) (times : Nat) : Prop :=
  ∀ i < times, a.IsWait (answers i)

/-- How an answer, or that there is none, ends the asking. -/
inductive Ends (a : RestartAgent) : Option Packet → Except Error Unit → Prop
  | allowed : Ends a (some (.restartResponse a.server .allow)) (.ok ())
  | denied (reason : String) :
      Ends a (some (.restartResponse a.server (.deny reason))) (.error (.denied reason))
  | unexpected (p : Packet) : (∀ decision, p ≠ .restartResponse a.server decision) →
      Ends a (some p) (.error (.unexpectedReply p.inspect))
  | timedOut : Ends a none (.error (.timeout a.retry.replyTimeout))

section

variable {a : RestartAgent} {answer : Option Packet} {result result' : Except Error Unit}

theorem Ends.not_isWait (h : a.Ends answer result) : ¬ a.IsWait answer := by
  rintro ⟨retryAfter, position, reason, rfl⟩
  cases h with
  | unexpected p hother => exact hother _ rfl

theorem Ends.unique (h : a.Ends answer result) (h' : a.Ends answer result') : result = result' := by
  cases h with
  | allowed =>
    cases h' with
    | allowed => rfl
    | unexpected p hother => exact absurd rfl (hother .allow)
  | denied reason =>
    cases h' with
    | denied => rfl
    | unexpected p hother => exact absurd rfl (hother (.deny reason))
  | unexpected p hother =>
    cases h' with
    | allowed => exact absurd rfl (hother .allow)
    | denied reason => exact absurd rfl (hother (.deny reason))
    | unexpected => rfl
  | timedOut =>
    cases h' with
    | timedOut => rfl

theorem ends_ok_iff : a.Ends answer (.ok ()) ↔
    answer = some (.restartResponse a.server .allow) := by
  constructor
  · rintro ⟨⟩
    rfl
  · rintro rfl
    exact .allowed

theorem ends_denied_iff {reason : String} : a.Ends answer (.error (.denied reason)) ↔
    answer = some (.restartResponse a.server (.deny reason)) := by
  constructor
  · rintro ⟨⟩
    rfl
  · rintro rfl
    exact .denied reason

theorem ends_unexpectedReply_iff {shown : String} :
    a.Ends answer (.error (.unexpectedReply shown)) ↔
      ∃ p, answer = some p ∧ (∀ decision, p ≠ .restartResponse a.server decision) ∧
        shown = p.inspect := by
  constructor
  · rintro ⟨⟩
    exact ⟨_, rfl, ‹_›, rfl⟩
  · rintro ⟨p, rfl, hother, rfl⟩
    exact .unexpected p hother

theorem ends_timeout_iff {wait : Duration} : a.Ends answer (.error (.timeout wait)) ↔
    wait = a.retry.replyTimeout ∧ answer = none := by
  constructor
  · rintro ⟨⟩
    exact ⟨rfl, rfl⟩
  · rintro ⟨rfl, rfl⟩
    exact .timedOut

theorem not_ends_gaveUp {attempts : UInt32} : ¬ a.Ends answer (.error (.gaveUp attempts)) := by
  rintro ⟨⟩

theorem not_ends_overflow {message : String} : ¬ a.Ends answer (.error (.overflow message)) := by
  rintro ⟨⟩

end

/-! ## One attempt -/

/-- What an attempt meets: an answer or none, and whether its deadline and the delay after it can be
represented. -/
structure Round where
  answer : Option Packet
  deadline : Prop
  delay : Prop

/-- The agent asks again after the attempt. -/
structure GoesOn (a : RestartAgent) (r : Round) : Prop where
  deadline : r.deadline
  isWait : a.IsWait r.answer
  delay : r.delay

/-- How an attempt ends the asking. -/
inductive Stops (a : RestartAgent) (r : Round) : Except Error Unit → Prop
  | answered {result : Except Error Unit} : r.deadline → a.Ends r.answer result → Stops a r result
  | noDeadline : ¬ r.deadline → Stops a r (.error (.overflow Session.deadlineOverflowMessage))
  | noDelay : r.deadline → a.IsWait r.answer → ¬ r.delay →
      Stops a r (.error (.overflow delayOverflowMessage))

section

variable {a : RestartAgent} {r : Round} {result result' : Except Error Unit}

theorem Stops.not_goesOn (h : a.Stops r result) : ¬ a.GoesOn r := by
  intro hgoesOn
  cases h with
  | answered _ hends => exact hends.not_isWait hgoesOn.isWait
  | noDeadline hdeadline => exact hdeadline hgoesOn.deadline
  | noDelay _ _ hdelay => exact hdelay hgoesOn.delay

theorem Stops.unique (h : a.Stops r result) (h' : a.Stops r result') : result = result' := by
  cases h with
  | answered hdeadline hends =>
    cases h' with
    | answered _ hends' => exact hends.unique hends'
    | noDeadline hnone => exact absurd hdeadline hnone
    | noDelay _ hwait _ => exact absurd hwait hends.not_isWait
  | noDeadline hnone =>
    cases h' with
    | noDeadline => rfl
    | answered hdeadline _ | noDelay hdeadline _ _ => exact absurd hdeadline hnone
  | noDelay hdeadline hwait hnone =>
    cases h' with
    | noDelay => rfl
    | answered _ hends => exact absurd hwait hends.not_isWait
    | noDeadline hdeadline' => exact absurd hdeadline hdeadline'

/-- Without an overflow, the answer ends the asking. -/
theorem stops_iff_ends (h : ∀ message, result ≠ .error (.overflow message)) :
    a.Stops r result ↔ r.deadline ∧ a.Ends r.answer result := by
  refine ⟨fun hstops => ?_, fun ⟨hdeadline, hends⟩ => .answered hdeadline hends⟩
  cases hstops with
  | answered hdeadline hends => exact ⟨hdeadline, hends⟩
  | noDeadline | noDelay => exact absurd rfl (h _)

theorem stops_overflow_iff {message : String} : a.Stops r (.error (.overflow message)) ↔
    (¬ r.deadline ∧ message = Session.deadlineOverflowMessage) ∨
      (r.deadline ∧ a.IsWait r.answer ∧ ¬ r.delay ∧ message = delayOverflowMessage) := by
  constructor
  · intro h
    cases h with
    | answered _ hends => exact absurd hends not_ends_overflow
    | noDeadline hdeadline => exact .inl ⟨hdeadline, rfl⟩
    | noDelay hdeadline hwait hdelay => exact .inr ⟨hdeadline, hwait, hdelay, rfl⟩
  · rintro (⟨hdeadline, rfl⟩ | ⟨hdeadline, hwait, hdelay, rfl⟩)
    · exact .noDeadline hdeadline
    · exact .noDelay hdeadline hwait hdelay

end

section

variable {σ : Type} (a : RestartAgent) {link after : Link σ} {answer : Option Packet}

/-- An attempt has the hub's decision or ends the asking. -/
theorem requestOnce_cases
    (h : (Session.request (.restartRequest a.server) a.retry.replyTimeout).run.run link =
      (answer.elim (.error (.timeout a.retry.replyTimeout)) .ok, after)) :
    (∃ decision, answer = some (.restartResponse a.server decision) ∧
      a.requestOnce.run.run link = (.ok decision, after)) ∨
    ∃ e, a.Ends answer (.error e) ∧ a.requestOnce.run.run link = (.error e, after) := by
  cases answer with
  | none => exact .inr ⟨_, .timedOut, Session.bind_of_error h⟩
  | some p =>
    by_cases hp : ∃ decision, p = .restartResponse a.server decision
    · obtain ⟨decision, rfl⟩ := hp
      refine .inl ⟨decision, rfl, ?_⟩
      rw [requestOnce, Session.bind_of_ok h]
      simp only [if_pos]
      rfl
    · refine .inr ⟨_, .unexpected p (not_exists.mp hp), ?_⟩
      rw [requestOnce, Session.bind_of_ok h]
      cases p with
      | restartResponse server decision =>
        have hserver : server ≠ a.server := by
          rintro rfl
          exact hp ⟨decision, rfl⟩
        simp only [if_neg hserver]
        rfl
      | _ => rfl

/-- An agent that is told to wait does so and asks again, unless its delay is too long; otherwise
its asking has ended. -/
theorem askFor_succ_cases (attempts : Nat)
    (h : (Session.request (.restartRequest a.server) a.retry.replyTimeout).run.run link =
      (answer.elim (.error (.timeout a.retry.replyTimeout)) .ok, after)) :
    (a.IsWait answer ∧ a.HasDelay attempts ∧ ∃ d, (a.askFor (attempts + 1)).run.run link =
      (a.askFor attempts).run.run { after with state := after.world.pause d after.state }) ∨
    (a.IsWait answer ∧ ¬ a.HasDelay attempts ∧ (a.askFor (attempts + 1)).run.run link =
      (.error (.overflow delayOverflowMessage), after)) ∨
    ∃ result, a.Ends answer result ∧ (a.askFor (attempts + 1)).run.run link = (result, after) := by
  rcases a.requestOnce_cases h with ⟨decision, rfl, honce⟩ | ⟨e, hends, honce⟩
  · cases decision with
    | allow => exact .inr (.inr ⟨_, .allowed, Session.bind_of_ok honce⟩)
    | deny reason => exact .inr (.inr ⟨_, .denied reason, Session.bind_of_ok honce⟩)
    | wait retryAfter position reason =>
      have hwait : a.IsWait (some (.restartResponse a.server (.wait retryAfter position reason))) :=
        ⟨retryAfter, position, reason, rfl⟩
      by_cases hdelay : a.HasDelay attempts
      · obtain ⟨d, hpause⟩ := backOff_of_hasDelay hdelay retryAfter after
        exact .inl ⟨hwait, hdelay, d,
          (Session.bind_of_ok honce).trans (Session.bind_of_ok hpause)⟩
      · have hpause := backOff_of_not_hasDelay hdelay retryAfter after
        exact .inr (.inl ⟨hwait, hdelay,
          (Session.bind_of_ok honce).trans (Session.bind_of_error hpause)⟩)
  · exact .inr (.inr ⟨_, hends, Session.bind_of_error honce⟩)

end

/-- What the attempts of an agent meet, counted from zero, so many being made at most. -/
def rounds (a : RestartAgent) (far : Setting) (link : Link (List Deed)) (attempts i : Nat) :
    Round where
  answer := far.answer? link i
  deadline := far.HasDeadline link a.retry.replyTimeout i
  delay := a.HasDelay (attempts - (i + 1))

/-- What the attempts after the first meet is what the asking for the rest meets. -/
theorem rounds_of_hasRead (a : RestartAgent) {far : Setting} {earlier later : Link (List Deed)}
    (h : far.HasRead earlier 1 later) (attempts : Nat) :
    a.rounds far later attempts = fun i => a.rounds far earlier (attempts + 1) (i + 1) := by
  funext i
  simp only [rounds, h.answer?, far.hasDeadline_of_hasRead h, Nat.add_comm 1,
    Nat.add_sub_add_right]

/-- Over any stream, an attempt is a request. Either a wait comes after it, and what is left are the
later answers; or the asking has ended. -/
theorem attempt_link (a : RestartAgent) (far : Setting) (attempts : Nat) (deeds : List Deed)
    (inbox : List Datagram) :
    let link := far.link deeds inbox
    let round := a.rounds far link (attempts + 1) 0
    let request := Deed.sent (Packet.restartRequest a.server).encode
    (a.GoesOn round ∧ ∃ d left,
      (a.askFor (attempts + 1)).run.run link =
        (a.askFor attempts).run.run (far.link (deeds ++ [request, .paused d]) left) ∧
      far.HasRead link 1 (far.link (deeds ++ [request, .paused d]) left)) ∨
    ∃ result left, a.Stops round result ∧
      (a.askFor (attempts + 1)).run.run link = (result, far.link (deeds ++ [request]) left) ∧
      ((∀ message, result ≠ .error (.overflow message)) →
        answersIn far.hub left = (far.heard link 1).drop 1) := by
  intro link round request
  by_cases hdeadline : far.HasDeadline link a.retry.replyTimeout 0
  · obtain ⟨left, hrequest, hleft⟩ := far.request_run deeds inbox (.restartRequest a.server)
      hdeadline
    rcases a.askFor_succ_cases attempts hrequest with
      ⟨hwait, hdelay, d, hrun⟩ | ⟨hwait, hdelay, hrun⟩ | ⟨result, hends, hrun⟩
    · refine .inl ⟨⟨hdeadline, hwait, hdelay⟩, d, left, ?_, ?_⟩
      · rw [hrun]
        exact congrArg (fun done => (a.askFor attempts).run.run (far.link done left))
          (List.append_assoc deeds [request] [.paused d])
      · -- One datagram more is sent and one answer is taken, so the stream is read on from there.
        have hsent : (Deed.datagrams (deeds ++ [request, .paused d])).length =
            (Deed.datagrams deeds).length + 1 := by
          rw [Deed.datagrams_append, List.length_append]
          rfl
        have hanswered : 0 < (far.heard link 1).length := by
          refine far.lt_length_heard ?_
          obtain ⟨retryAfter, position, reason, hanswer⟩ := hwait
          rw [hanswer]
          nofun
        exact Surroundings.hasRead_of_left hsent hanswered hleft
    · exact .inr ⟨_, left, .noDelay hdeadline hwait hdelay, hrun, fun _ => hleft⟩
    · exact .inr ⟨result, left, .answered hdeadline hends, hrun, fun _ => hleft⟩
  · -- The deadline is beyond the clock: the request is sent, and nothing is read.
    obtain ⟨left, hrequest⟩ := far.request_overflow deeds inbox (.restartRequest a.server) hdeadline
    exact .inr ⟨_, left, .noDeadline hdeadline,
      Session.bind_of_error (Session.bind_of_error hrequest), fun hresult => absurd rfl (hresult _)⟩

/-! ## All attempts -/

/-- How asking up to so many times goes by what the attempts meet: after how many it ends, and how.
-/
inductive Asks (a : RestartAgent) (rounds : Nat → Round) (attempts : Nat) :
    Nat → Except Error Unit → Prop
  | gaveUp : (∀ i < attempts, a.GoesOn (rounds i)) →
      Asks a rounds attempts attempts (.error (.gaveUp a.retry.maxAttempts))
  | stopped {waits : Nat} {result : Except Error Unit} : waits < attempts →
      (∀ i < waits, a.GoesOn (rounds i)) → a.Stops (rounds waits) result →
      Asks a rounds attempts (waits + 1) result

section

variable {a : RestartAgent} {rounds : Nat → Round} {attempts begun : Nat}
  {result : Except Error Unit}

theorem goesOn_cons {times : Nat} (hfirst : a.GoesOn (rounds 0))
    (h : ∀ i < times, a.GoesOn (rounds (i + 1))) : ∀ i < times + 1, a.GoesOn (rounds i) := by
  intro i hi
  cases i with
  | zero => exact hfirst
  | succ i => exact h i (Nat.lt_of_succ_lt_succ hi)

/-- After an attempt that does not end it, the asking goes by the later ones. -/
theorem Asks.cons (hfirst : a.GoesOn (rounds 0))
    (h : a.Asks (fun i => rounds (i + 1)) attempts begun result) :
    a.Asks rounds (attempts + 1) (begun + 1) result := by
  cases h with
  | gaveUp hwaits => exact .gaveUp (goesOn_cons hfirst hwaits)
  | stopped hlt hwaits hstops =>
    exact .stopped (Nat.succ_lt_succ hlt) (goesOn_cons hfirst hwaits) hstops

/-- An attempt is begun if the agent went on after all before it. -/
theorem Asks.begun_iff (h : a.Asks rounds attempts begun result) (i : Nat) :
    i < begun ↔ i < attempts ∧ ∀ j < i, a.GoesOn (rounds j) := by
  cases h with
  | gaveUp hwaits => exact ⟨fun hi => ⟨hi, fun j hj => hwaits j (by omega)⟩, And.left⟩
  | @stopped waits _ hlt hwaits hstops =>
    refine ⟨fun hi => ⟨by omega, fun j hj => hwaits j (by omega)⟩, fun ⟨_, hgone⟩ => ?_⟩
    refine Nat.lt_of_not_le fun hi => ?_
    exact hstops.not_goesOn (hgone waits (by omega))

theorem Asks.begun_le (h : a.Asks rounds attempts begun result) : begun ≤ attempts := by
  cases h with
  | gaveUp => exact Nat.le_refl _
  | stopped hlt => exact hlt

/-- The agent gives up or is stopped by the first attempt after which it does not go on. -/
theorem Asks.result_iff (h : a.Asks rounds attempts begun result) (result' : Except Error Unit) :
    result = result' ↔
      ((∀ i < attempts, a.GoesOn (rounds i)) ∧
        result' = .error (.gaveUp a.retry.maxAttempts)) ∨
      ∃ n < attempts, (∀ i < n, a.GoesOn (rounds i)) ∧ a.Stops (rounds n) result' := by
  cases h with
  | gaveUp hwaits =>
    refine ⟨fun heq => .inl ⟨hwaits, heq.symm⟩, ?_⟩
    rintro (⟨-, rfl⟩ | ⟨n, hn, -, hstops⟩)
    · rfl
    · exact absurd (hwaits n hn) hstops.not_goesOn
  | @stopped waits _ hlt hwaits hstops =>
    refine ⟨?_, ?_⟩
    · rintro rfl
      exact .inr ⟨waits, hlt, hwaits, hstops⟩
    · rintro (⟨hgone, -⟩ | ⟨n, hn, hgone, hstops'⟩)
      · exact absurd (hgone waits hlt) hstops.not_goesOn
      · -- Both are the first attempt after which the agent does not go on.
        rcases Nat.lt_trichotomy n waits with hlt' | rfl | hlt'
        · exact absurd (hwaits n hlt') hstops'.not_goesOn
        · exact hstops.unique hstops'
        · exact absurd (hgone waits hlt') hstops.not_goesOn

/-- How the asking ends if not by giving up nor by an overflow. -/
theorem Asks.ends_iff (h : a.Asks rounds attempts begun result) {result' : Except Error Unit}
    (hgaveUp : result' ≠ .error (.gaveUp a.retry.maxAttempts))
    (hoverflow : ∀ message, result' ≠ .error (.overflow message)) :
    result = result' ↔ ∃ n < attempts, (∀ i < n, a.GoesOn (rounds i)) ∧ (rounds n).deadline ∧
      a.Ends (rounds n).answer result' := by
  simp only [h.result_iff, hgaveUp, and_false, false_or, stops_iff_ends hoverflow]

theorem Asks.gaveUp_iff (h : a.Asks rounds attempts begun result) :
    result = .error (.gaveUp a.retry.maxAttempts) ↔ ∀ i < attempts, a.GoesOn (rounds i) := by
  rw [h.result_iff, or_iff_left, and_iff_left rfl]
  rintro ⟨n, -, -, hstops⟩
  cases hstops with
  | answered _ hends => exact not_ends_gaveUp hends

theorem Asks.overflow_iff (h : a.Asks rounds attempts begun result) (message : String) :
    result = .error (.overflow message) ↔ ∃ n < attempts, (∀ i < n, a.GoesOn (rounds i)) ∧
      ((¬ (rounds n).deadline ∧ message = Session.deadlineOverflowMessage) ∨
        ((rounds n).deadline ∧ a.IsWait (rounds n).answer ∧ ¬ (rounds n).delay ∧
          message = delayOverflowMessage)) := by
  simp [h.result_iff, stops_overflow_iff]

/-- There are five ways in which asking can end, and the overflow. -/
theorem Asks.result_cases (h : a.Asks rounds attempts begun result) :
    result = .ok () ∨ (∃ reason, result = .error (.denied reason)) ∨
      (∃ shown, result = .error (.unexpectedReply shown)) ∨
      result = .error (.timeout a.retry.replyTimeout) ∨
      result = .error (.gaveUp a.retry.maxAttempts) ∨
      ∃ message, result = .error (.overflow message) := by
  cases h with
  | gaveUp => simp
  | @stopped waits _ _ _ hstops =>
    cases hstops with
    | answered _ hends =>
      generalize (rounds waits).answer = answer at hends
      cases hends <;> simp
    | noDeadline | noDelay => simp

end

/-- Over any stream, an agent asks as its attempts have it, sends a request for each and runs
nothing; the answers that it has not waited for are left, unless it has broken down. -/
theorem askFor_link (a : RestartAgent) (far : Setting) (attempts : Nat) (deeds : List Deed)
    (inbox : List Datagram) :
    ∃ begun result done left,
      (a.askFor attempts).run.run (far.link deeds inbox) =
        (result, far.link (deeds ++ done) left) ∧
      a.Asks (a.rounds far (far.link deeds inbox) attempts) attempts begun result ∧
      Deed.datagrams done = List.replicate begun (Packet.restartRequest a.server).encode ∧
      (∀ command, .ran command ∉ done) ∧
      ((∀ message, result ≠ .error (.overflow message)) →
        answersIn far.hub left = (far.heard (far.link deeds inbox) begun).drop begun) := by
  induction attempts generalizing deeds inbox with
  | zero =>
    refine ⟨0, _, [], inbox, ?_, .gaveUp fun i hi => absurd hi (Nat.not_lt_zero i), rfl,
      fun command => List.not_mem_nil, fun _ => ?_⟩
    · rw [List.append_nil]
      rfl
    · rw [far.heard_zero]
      rfl
  | succ attempts ih =>
    rcases a.attempt_link far attempts deeds inbox with
      ⟨hgoesOn, d, left, hrun, hread⟩ | ⟨result, left, hstops, hrun, hleft⟩
    · -- What this attempt has done comes before what the later ones do.
      let asked : List Deed := [.sent (Packet.restartRequest a.server).encode, .paused d]
      obtain ⟨begun, result, done, left', hrest, hasks, hsent, hran, hleft⟩ :=
        ih (deeds ++ asked) left
      rw [a.rounds_of_hasRead hread] at hasks
      rw [List.append_assoc] at hrest
      refine ⟨begun + 1, result, asked ++ done, left', hrun.trans hrest, .cons hgoesOn hasks, ?_,
        ?_, fun hresult => ?_⟩
      · rw [Deed.datagrams_append, hsent, List.replicate_succ]
        rfl
      · simpa [asked] using hran
      · rw [hleft hresult, hread.heard, List.drop_drop, Nat.add_comm]
    · exact ⟨1, result, [.sent (Packet.restartRequest a.server).encode], left, hrun,
        .stopped attempts.succ_pos (fun i hi => absurd hi (Nat.not_lt_zero i)) hstops, rfl, by simp,
        hleft⟩

theorem goesOn_rounds_iff {a : RestartAgent} {far : Setting} {link : Link (List Deed)}
    {attempts times : Nat} :
    (∀ i < times, a.GoesOn (a.rounds far link attempts i)) ↔
      a.ToldToWait (far.answer? link) times ∧
        ∀ i < times, far.HasDeadline link a.retry.replyTimeout i ∧
          a.HasDelay (attempts - (i + 1)) :=
  ⟨fun h => ⟨fun i hi => (h i hi).isWait, fun i hi => ⟨(h i hi).deadline, (h i hi).delay⟩⟩,
    fun ⟨htold, hclear⟩ i hi => ⟨(hclear i hi).1, htold i hi, (hclear i hi).2⟩⟩

/-- **How asking for the slot ends.** Whatever stream of datagrams arrives at an agent and however
much it has done before, the answers being the packets of the hub in the order of the stream, the
agent has the slot if the first answer that does not tell it to wait allows the restart, and is
denied it if that answer denies it. Any other packet there is an unexpected reply, also one with a
decision for another server; if there is no answer by then, the agent has timed out; and if it was
told to wait as often as it may ask, it gives up. It sends one request for each attempt that it
begins, takes one answer for each, and runs no command.

This is so for as long as the clock can show the deadlines and the delays are durations. The first
that cannot be represented breaks the agent down instead: a deadline as soon as the request is sent,
whatever its answer is, and a delay after the answer that told the agent to wait. -/
theorem requestPermission_by_answers (a : RestartAgent) (far : Setting) (deeds : List Deed)
    (inbox : List Datagram) :
    let link := far.link deeds inbox
    let answers := far.answer? link
    let max := a.retry.maxAttempts
    let deadline := far.HasDeadline link a.retry.replyTimeout
    let delay n := a.HasDelay (max.toNat - (n + 1))
    let asks n := n < max.toNat ∧ a.ToldToWait answers n ∧ ∀ i < n, deadline i ∧ delay i
    let result := (a.requestPermission.run.run link).1
    let after := (a.requestPermission.run.run link).2
    (result = .ok () ↔
      ∃ n, asks n ∧ deadline n ∧ answers n = some (.restartResponse a.server .allow)) ∧
    (∀ reason, result = .error (.denied reason) ↔
      ∃ n, asks n ∧ deadline n ∧ answers n = some (.restartResponse a.server (.deny reason))) ∧
    (∀ shown, result = .error (.unexpectedReply shown) ↔
      ∃ n, asks n ∧ deadline n ∧ ∃ p, answers n = some p ∧
        (∀ decision, p ≠ .restartResponse a.server decision) ∧ shown = p.inspect) ∧
    (result = .error (.timeout a.retry.replyTimeout) ↔
      ∃ n, asks n ∧ deadline n ∧ answers n = none) ∧
    (result = .error (.gaveUp max) ↔
      a.ToldToWait answers max.toNat ∧ ∀ i < max.toNat, deadline i ∧ delay i) ∧
    (∀ message, result = .error (.overflow message) ↔ ∃ n, asks n ∧
      ((¬ deadline n ∧ message = Session.deadlineOverflowMessage) ∨
        (deadline n ∧ a.IsWait (answers n) ∧ ¬ delay n ∧ message = delayOverflowMessage))) ∧
    (result = .ok () ∨ (∃ reason, result = .error (.denied reason)) ∨
      (∃ shown, result = .error (.unexpectedReply shown)) ∨
      result = .error (.timeout a.retry.replyTimeout) ∨ result = .error (.gaveUp max) ∨
      ∃ message, result = .error (.overflow message)) ∧
    (∃ begun done left, after = far.link (deeds ++ done) left ∧
      Deed.datagrams done = List.replicate begun (Packet.restartRequest a.server).encode ∧
      (∀ i, i < begun ↔ asks i) ∧ begun ≤ max.toNat ∧
      ((∀ message, result ≠ .error (.overflow message)) →
        answersIn far.hub left = (far.heard link begun).drop begun) ∧
      ∀ command, .ran command ∉ done) ∧
    (max = 0 → result = .error (.gaveUp 0) ∧ after = link) := by
  intro link answers max deadline delay asks result after
  obtain ⟨begun, result', done, left, hrun, hasks, hsent, hran, hleft⟩ :=
    a.askFor_link far max.toNat deeds inbox
  have hresult : result = result' := congrArg Prod.fst hrun
  have hafter : after = far.link (deeds ++ done) left := congrArg Prod.snd hrun
  rw [← hresult] at hasks hleft
  have hbegun (n : Nat) :
      asks n ↔ n < max.toNat ∧ ∀ i < n, a.GoesOn (a.rounds far link max.toNat i) :=
    and_congr_right' goesOn_rounds_iff.symm
  have hends (result' : Except Error Unit) (hgaveUp : result' ≠ .error (.gaveUp max))
      (hoverflow : ∀ message, result' ≠ .error (.overflow message)) :
      result = result' ↔ ∃ n, asks n ∧ deadline n ∧ a.Ends (answers n) result' := by
    rw [hasks.ends_iff hgaveUp hoverflow]
    simp only [hbegun, and_assoc]
    rfl
  have hnone (hzero : max = 0) :
      a.requestPermission.run.run link = (.error (.gaveUp max), link) := by
    rw [requestPermission, show a.retry.maxAttempts.toNat = 0 from congrArg UInt32.toNat hzero]
    rfl
  refine ⟨?_, fun reason => ?_, fun shown => ?_, ?_, ?_, fun message => ?_, hasks.result_cases,
    ⟨begun, done, left, hafter, hsent, ?_, hasks.begun_le, hleft, hran⟩, fun hzero => ?_⟩
  · simp only [hends (.ok ()) nofun nofun, ends_ok_iff]
  · simp only [hends (.error (.denied reason)) nofun nofun, ends_denied_iff]
  · simp only [hends (.error (.unexpectedReply shown)) nofun nofun, ends_unexpectedReply_iff]
  · simp only [hends (.error (.timeout a.retry.replyTimeout)) nofun nofun, ends_timeout_iff,
      true_and]
  · exact hasks.gaveUp_iff.trans goesOn_rounds_iff
  · rw [hasks.overflow_iff]
    simp only [hbegun, and_assoc]
    rfl
  · intro i
    rw [hasks.begun_iff, hbegun]
  · rw [← hzero]
    exact ⟨congrArg Prod.fst (hnone hzero), congrArg Prod.snd (hnone hzero)⟩

/-- A stranger allows the restart, the hub sends something that is no packet and then tells the
agent to wait, and after the second request it allows the restart. An agent that may not ask at all
gives up at once. -/
theorem requestPermission_by_answers_of_strangers :
    let hub : Address := ⟨.v4 10 0 0 1, 4000⟩
    let wait : Packet := .restartResponse "lobby" (.wait 31000 (some 1) "rot is restarting")
    let allow : Packet := .restartResponse "lobby" .allow
    let far : Setting := {
      hub
      arrivals := fun
        | 0 => [⟨⟨.v4 10 0 0 9, 4000⟩, allow.encode⟩, ⟨hub, [255]⟩, ⟨hub, wait.encode⟩]
        | _ => [⟨hub, allow.encode⟩]
      clock := fun _ => 0
      ends := fun _ _ => .exited 0
      reaches := fun _ => signedClock 1000 }
    let retry : Retry := default
    let asked (attempts : UInt32) :=
      (RestartAgent.mk "lobby" { retry with maxAttempts := attempts }
        fun _ => .ofMillis 0).requestPermission.run.run (far.link [] [])
    (asked 3).1 = .ok () ∧ (Deed.datagrams (asked 3).2.state).length = 2 ∧
      asked 0 = (.error (.gaveUp 0), far.link [] []) := by
  intro hub wait allow far retry asked
  let a (attempts : UInt32) : RestartAgent :=
    ⟨"lobby", { retry with maxAttempts := attempts }, fun _ => .ofMillis 0⟩
  obtain ⟨hok, -⟩ := (a 3).requestPermission_by_answers far [] []
  obtain ⟨-, -, -, -, -, -, -, -, hnone⟩ := (a 0).requestPermission_by_answers far [] []
  obtain ⟨hgaveUp, hsame⟩ := hnone rfl
  refine ⟨hok.mpr ⟨1, ⟨by decide, fun i hi => ?_, fun i hi => ?_⟩, by decide, by decide +kernel⟩,
    by decide +kernel, Prod.ext hgaveUp hsame⟩
  · obtain rfl : i = 0 := by omega
    exact ⟨31000, some 1, "rot is restarting", by decide +kernel⟩
  · obtain rfl : i = 0 := by omega
    decide

/-- The hub allows the restart in time, and the agent has no permission from it: one agent would
wait for the answer for longer than the clock can count, and another one would sleep between two
requests for longer than the longest duration. -/
theorem patience_overflows :
    let hub : Address := ⟨.v4 10 0 0 1, 4000⟩
    let wait : Packet := .restartResponse "lobby" (.wait 31000 (some 1) "rot is restarting")
    let allow : Packet := .restartResponse "lobby" .allow
    let far (sent : List Packet) : Setting := {
      hub
      arrivals := fun n => sent[n]?.toList.map fun p => ⟨hub, p.encode⟩
      clock := fun _ => 0
      ends := fun _ _ => .exited 0
      reaches := fun _ => signedClock 1000 }
    let retry : Retry := default
    let listener : RestartAgent := ⟨"lobby",
      { retry with replyTimeout := .ofSeconds 0xFFFFFFFFFFFFFFFF }, fun _ => .ofMillis 0⟩
    let sleeper : RestartAgent := ⟨"lobby",
      { retry with minWait := .ofSeconds 0xFFFFFFFFFFFFFFFF }, fun _ => .ofMillis 1000⟩
    let answers (sent : List Packet) := (far sent).answer? ((far sent).link [] [])
    let result (a : RestartAgent) (sent : List Packet) :=
      (a.requestPermission.run.run ((far sent).link [] [])).1
    (result listener [allow] = .error (.overflow "overflow when adding duration to instant") ∧
      ¬ (result listener [allow] = .ok () ↔ ∃ n < listener.retry.maxAttempts.toNat,
        listener.ToldToWait (answers [allow]) n ∧ answers [allow] n = some allow)) ∧
    (result sleeper [wait, allow] = .error (.overflow "overflow when adding durations") ∧
      ¬ (result sleeper [wait, allow] = .ok () ↔ ∃ n < sleeper.retry.maxAttempts.toNat,
        sleeper.ToldToWait (answers [wait, allow]) n ∧ answers [wait, allow] n = some allow)) := by
  intro hub wait allow far retry listener sleeper answers result
  have hlistener : result listener [allow] =
      .error (.overflow "overflow when adding duration to instant") := by decide +kernel
  have hsleeper : result sleeper [wait, allow] =
      .error (.overflow "overflow when adding durations") := by decide +kernel
  refine ⟨⟨hlistener, fun h => ?_⟩, hsleeper, fun h => ?_⟩
  · have hok := h.mpr ⟨0, by decide, fun i hi => absurd hi (Nat.not_lt_zero i), by decide +kernel⟩
    cases hlistener.symm.trans hok
  · have hok := h.mpr ⟨1, by decide, fun i hi => ?_, by decide +kernel⟩
    · cases hsleeper.symm.trans hok
    · obtain rfl : i = 0 := by omega
      exact ⟨31000, some 1, "rot is restarting", by decide +kernel⟩

end GameHub.Agent.RestartAgent
