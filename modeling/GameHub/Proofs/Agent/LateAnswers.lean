import GameHub.Proofs.Agent.Completion
import GameHub.Proofs.Agent.LateHub

/-!
# Late answers

An agent makes calls over one link, one after the other. An answer bears no mark of the request that
it is for, and a request takes the oldest answer that there is.

**Theorem (`answers_taken_in_order`).** At a hub that gives one answer to every request and may be
late with each, a call acts on the oldest answers that have not been read, just as if these were
given promptly. If no answer is left from before, they are the answers to its own requests; so it is
until a call times out. An answer that was missed is not dropped: the next call takes it for its
own.

The calls are built from requests, so each mirrors itself at a prompt hub (`Mirrors.perform`). What
a call must have been told before it runs a command or gains anything is shown there (`Learns`).
-/

namespace GameHub.Agent

/-! ## Calls -/

/-- A call of an agent. -/
inductive Call where
  | requestOnce
  | requestPermission
  | runRestart (command : String)
  | complete
  | reportUnauthorized
  | queryState
  deriving DecidableEq, Repr

/-- What a call gains. -/
inductive Gain where
  | done
  | decision (d : Restart.Decision)
  | state (s : Restart.State)
  deriving DecidableEq

section

variable {σ : Type}

/-- The call of an agent. -/
def Call.perform (c : Call) (a : RestartAgent) : Session σ Gain :=
  match c with
  | requestOnce => do return .decision (← a.requestOnce)
  | requestPermission => do a.requestPermission; return .done
  | runRestart command => do a.runRestart command; return .done
  | complete => do a.complete; return .done
  | reportUnauthorized => do a.reportUnauthorized; return .done
  | queryState => do return .state (← a.queryState)

/-- The call over a link, and the link after it. -/
def Call.over (c : Call) (a : RestartAgent) (link : Link σ) : Except Error Gain × Link σ :=
  (c.perform a).run.run link

/-- What the hub must have said for a call to gain this. -/
def Call.ToldBy (c : Call) (a : RestartAgent) (gain : Gain) (packets : List Packet) : Prop :=
  match c, gain with
  | requestOnce, .decision d => packets = [.restartResponse a.server d]
  | requestPermission, .done => .restartResponse a.server .allow ∈ packets
  | runRestart _, .done => .restartResponse a.server .allow ∈ packets ∧
      ∃ server reason, .restartAck server true reason ∈ packets
  | complete, .done => ∃ server reason, packets = [.restartAck server true reason]
  | reportUnauthorized, .done =>
    ∃ server accepted reason, packets = [.restartAck server accepted reason]
  | queryState, .state state => packets = [.stateSnapshot state]
  | _, _ => False

end

/-! ## Calls at a late hub -/

namespace LateHub.Mirrors

variable {η : Type} {far : LateHub η} (a : RestartAgent)

theorem requestOnce : far.Mirrors a.requestOnce a.requestOnce := by
  refine bind (request _ _) fun reply => ?_
  cases reply with
  | restartResponse server decision =>
    by_cases h : server = a.server
    · simp only [if_pos h]
      exact pure decision
    · simp only [if_neg h]
      exact throw _
  | _ => exact throw _

theorem askFor (attempts : Nat) : far.Mirrors (a.askFor attempts) (a.askFor attempts) := by
  induction attempts with
  | zero => exact throw _
  | succ attempts ih =>
    refine bind (requestOnce a) fun decision => ?_
    cases decision with
    | allow => exact pure ()
    | deny reason => exact throw _
    | wait retryAfter position reason =>
      exact bind (backOff a retryAfter attempts) fun _ => ih

theorem complete : far.Mirrors a.complete a.complete := by
  refine bind (request _ _) fun reply => ?_
  cases reply with
  | restartAck server accepted reason =>
    cases accepted with
    | true => exact pure ()
    | false => exact throw _
  | _ => exact throw _

theorem reportUnauthorized : far.Mirrors a.reportUnauthorized a.reportUnauthorized := by
  refine bind (request _ _) fun reply => ?_
  cases reply with
  | restartAck => exact pure ()
  | _ => exact throw _

theorem queryState : far.Mirrors a.queryState a.queryState := by
  refine bind (request _ _) fun reply => ?_
  cases reply with
  | stateSnapshot state => exact pure state
  | stateUnavailable => exact throw _
  | _ => exact throw _

end LateHub.Mirrors

/-! ## What a session has read -/

namespace LateHub

variable {η α β : Type} {far : LateHub η}

/-- At a prompt hub the session runs no command, and when it goes well, the packets that it has read
bear out what it gives. -/
def Learns (far : LateHub η) (y : Session Prompt α) (told : α → List Packet → Prop) : Prop :=
  ∀ s, ∃ result read rest, s.answers = read ++ rest ∧
    y.run.run (far.promptLink s) = (result, far.promptLink ⟨rest, s.commands⟩) ∧
    ∀ a, result = .ok a → told a (read.map (·.packet))

namespace Learns

variable {told : α → List Packet → Prop}

theorem pure {a : α} (h : told a []) : far.Learns (pure a) told :=
  fun s => ⟨.ok a, [], s.answers, rfl, rfl, by rintro b ⟨⟩; exact h⟩

theorem throw (e : Error) : far.Learns (throw e) told :=
  fun s => ⟨.error e, [], s.answers, rfl, rfl, by rintro a ⟨⟩⟩

theorem request (p : Packet) (wait : Duration) :
    far.Learns (Session.request p wait) fun reply packets => packets = [reply] := by
  rintro ⟨answers, commands⟩
  have hrequest := far.request_promptLink ⟨answers, commands⟩ p wait
  cases answers with
  | nil => exact ⟨.error (.timeout wait), [], [], rfl, hrequest, by rintro reply ⟨⟩⟩
  | cons r rest => exact ⟨.ok r.packet, [r], rest, rfl, hrequest, by rintro reply ⟨⟩; rfl⟩

theorem mono {y : Session Prompt α} {told' : α → List Packet → Prop} (hy : far.Learns y told)
    (h : ∀ a packets, told a packets → told' a packets) : far.Learns y told' := by
  intro s
  obtain ⟨result, read, rest, hanswers, hrun, htold⟩ := hy s
  exact ⟨result, read, rest, hanswers, hrun, fun a ha => h a _ (htold a ha)⟩

theorem bind {y : Session Prompt α} {g : α → Session Prompt β} {told' : β → List Packet → Prop}
    (hy : far.Learns y told)
    (hg : ∀ a packets, told a packets → far.Learns (g a) fun b more => told' b (packets ++ more)) :
    far.Learns (y >>= g) told' := by
  intro s
  obtain ⟨result, read, rest, hanswers, hrun, htold⟩ := hy s
  cases result with
  | error e => exact ⟨.error e, read, rest, hanswers, Session.bind_of_error hrun, by rintro b ⟨⟩⟩
  | ok a =>
    obtain ⟨result, more, rest', hrest, hrun', htold'⟩ :=
      hg a _ (htold a rfl) ⟨rest, s.commands⟩
    refine ⟨result, read ++ more, rest', ?_, ?_, ?_⟩
    · rw [hanswers, List.append_assoc, ← hrest]
    · rw [Session.bind_of_ok hrun, hrun']
    · rw [List.map_append]
      exact htold'

variable (far) (a : RestartAgent)

theorem backOff (retryAfter : UInt64) (left : Nat) :
    far.Learns (a.backOff retryAfter left) fun _ packets => packets = [] := by
  intro s
  by_cases hdelay : a.HasDelay left
  · exact ⟨.ok (), [], s.answers, rfl, far.backOff_promptLink hdelay retryAfter s, fun _ _ => rfl⟩
  · exact ⟨.error (.overflow delayOverflowMessage), [], s.answers, rfl,
      RestartAgent.backOff_of_not_hasDelay hdelay retryAfter (far.promptLink s), by rintro u ⟨⟩⟩

theorem requestOnce : far.Learns a.requestOnce fun decision packets =>
    packets = [.restartResponse a.server decision] := by
  refine bind (request _ _) ?_
  rintro reply packets rfl
  cases reply with
  | restartResponse server decision =>
    by_cases hserver : server = a.server
    · subst hserver
      simp only [if_pos]
      exact pure rfl
    · simp only [if_neg hserver]
      exact throw _
  | _ => exact throw _

theorem askFor (attempts : Nat) : far.Learns (a.askFor attempts) fun _ packets =>
    .restartResponse a.server .allow ∈ packets := by
  induction attempts with
  | zero => exact throw _
  | succ attempts ih =>
    refine bind (requestOnce far a) ?_
    rintro decision packets rfl
    cases decision with
    | allow => exact pure List.mem_cons_self
    | deny reason => exact throw _
    | wait retryAfter position reason =>
      refine bind (backOff far a retryAfter attempts) ?_
      rintro _ packets rfl
      exact ih.mono fun _ more hallow => List.mem_append_right _ hallow

theorem complete : far.Learns a.complete fun _ packets =>
    ∃ server reason, packets = [.restartAck server true reason] := by
  refine bind (request _ _) ?_
  rintro reply packets rfl
  cases reply with
  | restartAck server accepted reason =>
    cases accepted with
    | true => exact pure ⟨server, reason, rfl⟩
    | false => exact throw _
  | _ => exact throw _

theorem reportUnauthorized : far.Learns a.reportUnauthorized fun _ packets =>
    ∃ server accepted reason, packets = [.restartAck server accepted reason] := by
  refine bind (request _ _) ?_
  rintro reply packets rfl
  cases reply with
  | restartAck server accepted reason => exact pure ⟨server, accepted, reason, rfl⟩
  | _ => exact throw _

theorem queryState : far.Learns a.queryState fun state packets =>
    packets = [.stateSnapshot state] := by
  refine bind (request _ _) ?_
  rintro reply packets rfl
  cases reply with
  | stateSnapshot state => exact pure rfl
  | stateUnavailable => exact throw _
  | _ => exact throw _

/-- Every call but a restart runs no command, and gains nothing that the hub has not said. -/
theorem perform {c : Call} (hc : ∀ command, c ≠ .runRestart command) :
    far.Learns (c.perform a) (c.ToldBy a) := by
  have hgain {γ : Type} {y : Session Prompt γ} {heard : γ → List Packet → Prop} {gain : γ → Gain}
      (hy : far.Learns y heard) (h : ∀ b packets, heard b packets → c.ToldBy a (gain b) packets) :
      far.Learns (do return gain (← y)) (c.ToldBy a) :=
    bind hy fun b packets hheard => pure ((List.append_nil packets).symm ▸ h b packets hheard)
  cases c with
  | requestOnce => exact hgain (requestOnce far a) fun _ _ => id
  | requestPermission => exact hgain (askFor far a _) fun _ _ => id
  | runRestart command => exact absurd rfl (hc command)
  | complete => exact hgain (complete far a) fun _ _ => id
  | reportUnauthorized => exact hgain (reportUnauthorized far a) fun _ _ => id
  | queryState => exact hgain (queryState far a) fun _ _ => id

end Learns

/-! ## Restarts -/

section

variable (a : RestartAgent)

theorem promptly_complete_snd (s : Prompt) : (far.promptly a.complete s).2 = s.commands := by
  obtain ⟨result, read, rest, -, hrun, -⟩ := Learns.complete far a s
  rw [promptly_of_run hrun]

variable (far) in
/-- A prompt hub is asked in time, so the report comes to what its answer says. -/
theorem promptly_complete_fst (s : Prompt) :
    ∃ answer, (far.promptly a.complete s).1 = a.acknowledgement answer := by
  have hrequest := far.request_promptLink s (.restartComplete a.server) a.retry.replyTimeout
  obtain ⟨answers, commands⟩ := s
  cases answers with
  | nil =>
    have hrun : a.complete.run.run (far.promptLink ⟨[], commands⟩) =
        (a.acknowledgement none, far.promptLink ⟨[], commands⟩) := a.complete_run hrequest
    exact ⟨none, congrArg Prod.fst (promptly_of_run hrun)⟩
  | cons r rest =>
    have hrun : a.complete.run.run (far.promptLink ⟨r :: rest, commands⟩) =
        (a.acknowledgement (some r.packet), far.promptLink ⟨rest, commands⟩) :=
      a.complete_run hrequest
    exact ⟨some r.packet, congrArg Prod.fst (promptly_of_run hrun)⟩

theorem promptly_complete_fst_ne_overflow (s : Prompt) (message : String) :
    (far.promptly a.complete s).1 ≠ .error (.overflow message) := by
  obtain ⟨answer, hanswer⟩ := promptly_complete_fst far a s
  exact hanswer.trans_ne (RestartAgent.acknowledgement_ne_overflow message)

theorem promptly_finish (outcome : CommandOutcome) (s : Prompt) :
    far.promptly (a.finish outcome) s =
      (settle outcome (far.promptly a.complete s).1, (far.promptly a.complete s).2) := by
  have hrun : a.complete.run.run (far.promptLink s) = ((far.promptly a.complete s).1,
    (a.complete.run.run (far.promptLink s)).2) := rfl
  rw [promptly, a.finish_run outcome hrun]
  rfl

end

namespace Mirrors

variable (a : RestartAgent)

/-- The end of a restart. If the command failed, the answer to the report makes no difference. -/
theorem finish (outcome : CommandOutcome) : far.Mirrors (a.finish outcome) (a.finish outcome) := by
  intro w
  obtain ⟨completion, w', own, read, h⟩ := complete a w
  refine ⟨settle outcome completion, w', own, read, a.finish_run outcome h.late, h.given,
    h.inOrder, a.finish_run outcome h.prompt, h.answered.imp ?_ ?_⟩
  · exact fun ⟨hlength, hrest⟩ => ⟨hlength, fun rest => a.finish_run outcome (hrest rest)⟩
  · rintro ⟨hlength, hmiss, hrest⟩
    refine ⟨hlength, ?_⟩
    cases hfailure : outcome.failure? with
    | none =>
      rw [settle_of_success hfailure]
      refine ⟨hmiss, hrest.imp_right fun hrest rest => ?_⟩
      rw [promptly_finish, settle_of_success hfailure, hrest rest]
    | some how =>
      -- The command has failed, so its error stands, whatever was answered and whenever.
      have hprompt := promptly_of_run h.prompt
      have hcompletion (message : String) : completion ≠ .error (.overflow message) :=
        (congrArg Prod.fst hprompt).symm.trans_ne (promptly_complete_fst_ne_overflow a _ message)
      have hcommands : w.state.commands = w'.state.commands :=
        (promptly_complete_snd a ⟨read, w.state.commands⟩).symm.trans (congrArg Prod.snd hprompt)
      rw [settle_of_failure hfailure hcompletion]
      refine ⟨trivial, .inr fun rest => ?_⟩
      rw [promptly_finish, settle_of_failure hfailure (promptly_complete_fst_ne_overflow a _),
        promptly_complete_snd, hcommands]

/-- A whole restart. -/
theorem runRestart (command : String) : far.Mirrors (a.runRestart command) (a.runRestart command) :=
  bind (askFor a _) fun _ => bind (runCommand command) fun outcome => finish a outcome

variable (far) in
theorem perform (c : Call) : far.Mirrors (c.perform a) (c.perform a) := by
  cases c with
  | requestOnce => exact bind (requestOnce a) fun d => pure _
  | requestPermission => exact bind (askFor a _) fun _ => pure _
  | runRestart command => exact bind (runRestart a command) fun _ => pure _
  | complete => exact bind (complete a) fun _ => pure _
  | reportUnauthorized => exact bind (reportUnauthorized a) fun _ => pure _
  | queryState => exact bind (queryState a) fun s => pure _

end Mirrors

section

variable {a : RestartAgent} {command : String} {s : Prompt}

/-- A restart comes to nothing, or it is allowed and the command is run. -/
theorem runRestart_cases (far : LateHub η) (a : RestartAgent) (command : String) (s : Prompt) :
    (∃ e rest, (a.runRestart command).run.run (far.promptLink s) =
      (.error e, far.promptLink ⟨rest, s.commands⟩)) ∨
    ∃ read rest, s.answers = read ++ rest ∧
      .restartResponse a.server .allow ∈ read.map (·.packet) ∧
      (a.runRestart command).run.run (far.promptLink s) =
        (a.finish (far.run s.commands command)).run.run
          (far.promptLink ⟨rest, s.commands ++ [command]⟩) := by
  obtain ⟨permission, read, rest, hanswers, hrun, hallow⟩ :=
    Learns.askFor far a a.retry.maxAttempts.toNat s
  have hasked : a.requestPermission.run.run (far.promptLink s) =
      (permission, far.promptLink ⟨rest, s.commands⟩) := hrun
  cases permission with
  | error e => exact .inl ⟨e, rest, Session.bind_of_error hasked⟩
  | ok =>
    have hrestart := a.runRestart_of_allowed command hasked
    have hran : (far.promptLink ⟨rest, s.commands⟩).world.run command
        (far.promptLink ⟨rest, s.commands⟩).state =
          (far.run s.commands command, ⟨rest, s.commands ++ [command]⟩) := rfl
    rw [hran] at hrestart
    exact .inr ⟨read, rest, hanswers, hallow () rfl, hrestart⟩

/-- An agent runs a command only after it has read that it may. -/
theorem allowed_of_ran
    (hran : (far.promptly ((Call.runRestart command).perform a) s).2 ≠ s.commands) :
    .restartResponse a.server .allow ∈ s.answers.map (·.packet) := by
  rcases runRestart_cases far a command s with ⟨e, rest, hrun⟩ | ⟨read, rest, hanswers, hallow, -⟩
  · refine absurd ?_ hran
    exact congrArg Prod.snd (promptly_bind_of_error (promptly_of_run hrun))
  · rw [hanswers, List.map_append]
    exact List.mem_append_left _ hallow

/-- A restart goes well only if it was allowed and is known to be over. -/
theorem told_of_runRestart {link : Link Prompt} {gain : Gain}
    (h : ((Call.runRestart command).perform a).run.run (far.promptLink s) = (.ok gain, link)) :
    (Call.runRestart command).ToldBy a gain (s.answers.map (·.packet)) := by
  rcases runRestart_cases far a command s with
    ⟨e, rest, hrun⟩ | ⟨read, rest, hanswers, hallow, hrun⟩
  · cases (Session.bind_of_error hrun).symm.trans h
  · obtain ⟨completion, more, rest', hrest, hcomplete, htold⟩ :=
      Learns.complete far a ⟨rest, s.commands ++ [command]⟩
    have hfinished := hrun.trans (a.finish_run (far.run s.commands command) hcomplete)
    cases hresult : settle (far.run s.commands command) completion with
    | error e =>
      rw [hresult] at hfinished
      cases (Session.bind_of_error hfinished).symm.trans h
    | ok u =>
      rw [hresult] at hfinished
      obtain ⟨server, reason, hmore⟩ := htold u (eq_ok_of_settle hresult)
      cases (Session.bind_of_ok hfinished).symm.trans h
      have hrest : rest = more ++ rest' := hrest
      rw [hanswers, hrest, List.map_append, List.map_append, hmore]
      refine ⟨List.mem_append_left _ hallow, server, reason, ?_⟩
      exact List.mem_append_right _ List.mem_cons_self

/-- A call gains nothing that the hub has not said. -/
theorem told_of_perform {c : Call} {gain : Gain} {commands : List String}
    (h : (c.perform a).run.run (far.promptLink s) = (.ok gain, far.promptLink ⟨[], commands⟩)) :
    c.ToldBy a gain (s.answers.map (·.packet)) := by
  by_cases hc : ∃ command, c = .runRestart command
  · obtain ⟨command, rfl⟩ := hc
    exact told_of_runRestart h
  · obtain ⟨result, read, rest, hanswers, hrun, htold⟩ :=
      Learns.perform far a (not_exists.mp hc) s
    obtain ⟨rfl, hlink⟩ := Prod.mk.inj (hrun.symm.trans h)
    have hrest : rest = [] := congrArg (·.state.answers) hlink
    rw [hanswers, hrest, List.append_nil]
    exact htold gain rfl

end

/-! ## Sequences of calls -/

/-- The link of an agent that has not called yet. -/
def fresh (far : LateHub η) (start : η) : Link (Delayed η) :=
  ⟨far.address, far.world, ⟨start, [], [], []⟩, []⟩

end LateHub

section

variable {σ η : Type}

/-- Calls of agents over one link, one after the other, and how each ends. -/
def performAll : List (RestartAgent × Call) → Link σ → List (Except Error Gain) × Link σ
  | [], link => ([], link)
  | (a, c) :: calls, link =>
    let (outcome, link) := c.over a link
    let (outcomes, link) := performAll calls link
    (outcome :: outcomes, link)

/-- The answers of the hub that the agent has not read, oldest first. -/
def Link.unread (link : Link (Delayed η)) : List Answer :=
  link.inbox.filterMap (Answer.ofDatagram? link.hub) ++ link.state.underway

/-- The answers that the hub has given since an earlier state of the link. -/
def Link.givenSince (after before : Link (Delayed η)) : List Answer :=
  after.state.given.drop before.state.given.length

/-- A call that leads from one state of the link to another acts on these answers alone, or it has
timed out. -/
structure Call.ActsOn (far : LateHub η) (c : Call) (a : RestartAgent) (before : Link (Delayed η))
    (outcome : Except Error Gain) (after : Link (Delayed η)) (answers : List Answer) : Prop where
  /-- Given promptly, the answers lead to the same. -/
  determined : TimedOut outcome ∨
    far.promptly (c.perform a) ⟨answers, before.state.commands⟩ = (outcome, after.state.commands)
  allowed : ∀ command, c = .runRestart command → after.state.commands ≠ before.state.commands →
    .restartResponse a.server .allow ∈ answers.map (·.packet)
  told : ∀ gain, outcome = .ok gain → c.ToldBy a gain (answers.map (·.packet))

end

namespace LateHub

variable {η : Type} {far : LateHub η}

theorem unread_link (w : Position η) : (far.link w).unread = w.unread := by
  rw [Link.unread, link, Answer.filterMap_ofDatagram?, Position.unread]

/-- What is not read is left for the next session. -/
theorem Exchange.length_unread {α : Type} {x : Session (Delayed η) α} {y : Session Prompt α}
    {w w' : Position η} {result : Except Error α} {own read : List Answer}
    (h : far.Exchange x y w result w' own read) (hmiss : ¬ MayMiss result) :
    own.length = read.length ∧ w'.unread.length = w.unread.length := by
  have hlength := h.answered.resolve_right fun hmissed => hmiss hmissed.2.1
  have hinOrder := congrArg List.length h.inOrder
  simp only [List.length_append] at hinOrder
  exact ⟨hlength.1, by omega⟩

variable (far) in
theorem performAll_link (calls : List (RestartAgent × Call)) (w : Position η) :
    ∃ outcomes w', performAll calls (far.link w) = (outcomes, far.link w') ∧
      ((∀ outcome ∈ outcomes, ¬ MayMiss outcome) → w'.unread.length = w.unread.length) := by
  induction calls generalizing w with
  | nil => exact ⟨[], w, rfl, fun _ => rfl⟩
  | cons call calls ih =>
    obtain ⟨a, c⟩ := call
    obtain ⟨outcome, w₁, own, read, h⟩ := Mirrors.perform far a c w
    obtain ⟨outcomes, w₂, hrest, hunread⟩ := ih w₁
    have hcall : c.over a (far.link w) = (outcome, far.link w₁) := h.late
    refine ⟨outcome :: outcomes, w₂, ?_, fun hmiss => ?_⟩
    · simp only [performAll, hcall, hrest]
    · obtain ⟨hfirst, hlater⟩ := List.forall_mem_cons.mp hmiss
      exact (hunread hlater).trans (h.length_unread hfirst).2

theorem actsOn_of_exchange {a : RestartAgent} {c : Call} {w w' : Position η}
    {outcome : Except Error Gain} {own read : List Answer}
    (h : far.Exchange (c.perform a) (c.perform a) w outcome w' own read) :
    c.ActsOn far a (far.link w) outcome (far.link w') read where
  determined := .inr (promptly_of_run h.prompt)
  allowed := by
    rintro command rfl hran
    exact allowed_of_ran ((congrArg Prod.snd (promptly_of_run h.prompt)).trans_ne hran)
  told := by
    rintro gain rfl
    exact told_of_perform h.prompt

/-- With nothing left from before, a call reads the answers to its own requests, from the first
on. -/
theorem actsOn_own {a : RestartAgent} {c : Call} {w w' : Position η}
    {outcome : Except Error Gain} {own read : List Answer}
    (h : far.Exchange (c.perform a) (c.perform a) w outcome w' own read) (hunread : w.unread = []) :
    c.ActsOn far a (far.link w) outcome (far.link w') own := by
  have hown : own = read ++ w'.unread := by rw [← h.inOrder, hunread, List.nil_append]
  have hread := actsOn_of_exchange h
  obtain ⟨hlength, -⟩ | ⟨-, hmiss, hrest⟩ := h.answered
  · have hall : own = read := by
      rw [hown, List.length_append] at hlength
      have hnone : w'.unread = [] := List.eq_nil_of_length_eq_zero (by omega)
      rw [hown, hnone, List.append_nil]
    rwa [hall]
  · rw [hown]
    refine ⟨hrest.imp_right fun hrest => hrest w'.unread, fun command hc hran => ?_,
      fun gain hok => ?_⟩
    · rw [List.map_append]
      exact List.mem_append_left _ (hread.allowed command hc hran)
    · rw [hok] at hmiss
      exact hmiss.elim

/-! ## The result -/

/-- **An agent reads the answers in the order of its requests, whichever request it waits for.**
Over one link to a hub that gives one answer to every request and may be late with each, whatever
calls were made before, a call reads the oldest answers that have not been read, and these decide
how it ends and what it runs: a prompt hub with just these answers leads to the same. A command is
run only if `Allow` is among them, and whatever the call gains is what they say.

If no answer is left unread from before, the call acts on the answers to its own requests alone, or
it times out. So it is as long as no call has timed out (or has ended with a failed command, which
hides that the report after it timed out). -/
theorem answers_taken_in_order (far : LateHub η) (start : η)
    (earlier : List (RestartAgent × Call)) (a : RestartAgent) (c : Call) :
    let outcomes := (performAll earlier (far.fresh start)).1
    let before := (performAll earlier (far.fresh start)).2
    let outcome := (c.over a before).1
    let after := (c.over a before).2
    let own := after.givenSince before
    after.state.given = before.state.given ++ own ∧
    (∃ read, before.unread ++ own = read ++ after.unread ∧
      far.promptly (c.perform a) ⟨read, before.state.commands⟩ = (outcome, after.state.commands) ∧
      c.ActsOn far a before outcome after read ∧
      (¬ MayMiss outcome → own.length = read.length)) ∧
    (before.unread = [] → c.ActsOn far a before outcome after own) ∧
    ((∀ o ∈ outcomes, ¬ MayMiss o) → before.unread = []) := by
  obtain ⟨outcomes, w, hearlier, hunread⟩ :=
    performAll_link far earlier ⟨⟨start, [], [], []⟩, []⟩
  obtain ⟨outcome, w', own, read, h⟩ := Mirrors.perform far a c w
  have hfresh : performAll earlier (far.fresh start) = (outcomes, far.link w) := hearlier
  have hcall : c.over a (far.link w) = (outcome, far.link w') := h.late
  have hown : (far.link w').givenSince (far.link w) = own := by
    show w'.state.given.drop w.state.given.length = own
    rw [h.given, List.drop_left]
  simp only [hfresh, hcall, hown, unread_link]
  exact ⟨h.given, ⟨read, h.inOrder, promptly_of_run h.prompt, actsOn_of_exchange h,
    fun hmiss => (h.length_unread hmiss).1⟩, actsOn_own h,
    fun hmiss => List.eq_nil_of_length_eq_zero (hunread hmiss)⟩

/-- A hub that answers from a list, around an agent whose commands go well. -/
def scripted (arrivals : Nat → Nat) : LateHub (List Answer) where
  address := ⟨.v4 10 0 0 1, 4000⟩
  answer _ script := (script.headD ⟨.clearProgress, by decide⟩, script.tail)
  arrivals := arrivals
  now _ := 0
  pause _ script := script
  run _ _ := .exited 0

/-- An agent is told to wait and then makes a restart, all in time. -/
theorem answers_taken_in_order_of_prompt :
    let a : RestartAgent := ⟨"lobby", default, fun _ => .ofMillis 0⟩
    let wait : Answer := ⟨.restartResponse "lobby" (.wait 31000 (some 1) "rot is restarting"),
      by decide +kernel⟩
    let allow : Answer := ⟨.restartResponse "lobby" .allow, by decide +kernel⟩
    let accepted : Answer := ⟨.restartAck "lobby" true none, by decide +kernel⟩
    let far := scripted fun _ => 1
    let asked := performAll [(a, .requestOnce)] (far.fresh [wait, allow, accepted])
    let restart := (Call.runRestart "reboot").over a asked.2
    let own := restart.2.givenSince asked.2
    asked.1 = [.ok (.decision (.wait 31000 (some 1) "rot is restarting"))] ∧
      asked.2.unread = [] ∧ own = [allow, accepted] ∧ restart.1 = .ok .done ∧
      restart.2.state.commands = ["reboot"] ∧
      (Call.runRestart "reboot").ActsOn far a asked.2 restart.1 restart.2 own := by
  intro a wait allow accepted far asked restart own
  have hasked : asked.1 = [.ok (.decision (.wait 31000 (some 1) "rot is restarting"))] := by
    decide +kernel
  have hanswered : ∀ o ∈ asked.1, ¬ MayMiss o := by
    rw [hasked]
    rintro o ho
    rw [List.mem_singleton.mp ho]
    exact id
  obtain ⟨-, -, hacts, hunread⟩ :=
    answers_taken_in_order far [wait, allow, accepted] [(a, .requestOnce)] a (.runRestart "reboot")
  exact ⟨hasked, hunread hanswered, by decide +kernel, by decide +kernel, by decide +kernel,
    hacts (hunread hanswered)⟩

/-- An answer that comes too late is taken for that to the next request. An agent gives up waiting
for a permission, which comes when it asks anew and is told to wait; it runs its command. And one
whose completion is accepted too late takes the next for accepted, which is refused. -/
theorem acts_on_late_answer :
    let a : RestartAgent := ⟨"lobby", default, fun _ => .ofMillis 0⟩
    let allow : Answer := ⟨.restartResponse "lobby" .allow, by decide +kernel⟩
    let wait : Answer := ⟨.restartResponse "lobby" (.wait 31000 (some 1) "rot is restarting"),
      by decide +kernel⟩
    let accepted : Answer := ⟨.restartAck "lobby" true none, by decide +kernel⟩
    let refused : Answer := ⟨.restartAck "lobby" false (some "rot is restarting"),
      by decide +kernel⟩
    let far := scripted fun n => 2 * n
    let asked := performAll [(a, .requestOnce)] (far.fresh [allow, wait, refused])
    let restart := (Call.runRestart "reboot").over a asked.2
    let reported := performAll [(a, .complete)] (far.fresh [accepted, refused])
    let report := Call.complete.over a reported.2
    let restartOwn := restart.2.givenSince asked.2
    let reportOwn := report.2.givenSince reported.2
    (asked.1 = [.error (.timeout (.ofSeconds 5))] ∧ restartOwn = [wait, refused] ∧
      restart.2.state.commands = ["reboot"] ∧
      ¬ (Call.runRestart "reboot").ActsOn far a asked.2 restart.1 restart.2 restartOwn) ∧
    (reported.1 = [.error (.timeout (.ofSeconds 5))] ∧ reportOwn = [refused] ∧
      report.1 = .ok .done ∧
      ¬ Call.complete.ActsOn far a reported.2 report.1 report.2 reportOwn) := by
  intro a allow wait accepted refused far asked restart reported report restartOwn reportOwn
  have hrestartOwn : restartOwn = [wait, refused] := by decide +kernel
  have hreportOwn : reportOwn = [refused] := by decide +kernel
  have hran : restart.2.state.commands = ["reboot"] := by decide +kernel
  have hdone : report.1 = .ok .done := by decide +kernel
  have hasked : asked.1 = [.error (.timeout (.ofSeconds 5))] := by decide +kernel
  have hreported : reported.1 = [.error (.timeout (.ofSeconds 5))] := by decide +kernel
  refine ⟨⟨hasked, hrestartOwn, hran, fun h => ?_⟩, hreported, hreportOwn, hdone, fun h => ?_⟩
  · have hallow := h.allowed "reboot" rfl (by rw [hran]; decide)
    rw [hrestartOwn] at hallow
    revert hallow
    decide +kernel
  · obtain ⟨server, reason, haccepted⟩ := h.told .done hdone
    rw [hreportOwn] at haccepted
    cases List.singleton_inj.mp haccepted

end LateHub

end GameHub.Agent
