import GameHub.Proofs.Agent.Permission

/-!
# A restart that was allowed is reported

**Theorem (`runRestart_reports`).** Whatever stream of datagrams arrives and however the command
ends, an agent that has the permission to restart runs the command once and then reports the
completion once, so that the slot is free again. One that has not runs nothing and reports nothing.

A failed command is the error that is shown, whatever the hub says to the report. After any other it
is the answer to the report that counts, which is the next of the stream after the answers to the
requests (`hasRead_of_allowed`).

The report is a request like the others and has a deadline. If the clock cannot show it, the report
is still sent, and the agent breaks down with neither the failure of the command nor the answer to
the report (`restart_overflows`).
-/

namespace GameHub.Agent

/-- Only the code 0 is no failure. -/
theorem CommandOutcome.failure?_eq_none_iff (outcome : CommandOutcome) :
    outcome.failure? = none ↔ outcome = .exited 0 := by
  constructor
  · intro h
    cases outcome with
    | exited code =>
      cases code with
      | zero => rfl
      | succ code => cases h
    | stopped signal => cases h
    | notStarted reason => cases h
  · rintro rfl
    rfl

namespace RestartAgent

variable (a : RestartAgent)

/-! ## The answer to the report -/

/-- What an agent makes of an answer, or of none, to its report of completion. -/
def acknowledgement : Option Packet → Except Error Unit
  | some (.restartAck _ true _) => .ok ()
  | some (.restartAck _ false reason) =>
    .error (.completionRejected (reason.getD "no reason given"))
  | some p => .error (.unexpectedReply p.inspect)
  | none => .error (.timeout a.retry.replyTimeout)

section

variable {a} {answer : Option Packet}

/-- An answer is an acknowledgement, another packet or none. -/
theorem acknowledgement_cases (a : RestartAgent) (answer : Option Packet) :
    (∃ server accepted reason, answer = some (.restartAck server accepted reason)) ∨
    (∃ p, answer = some p ∧ (∀ server accepted reason, p ≠ .restartAck server accepted reason) ∧
      a.acknowledgement answer = .error (.unexpectedReply p.inspect)) ∨
    answer = none := by
  cases answer with
  | none => exact .inr (.inr rfl)
  | some p =>
    cases p with
    | restartAck server accepted reason => exact .inl ⟨server, accepted, reason, rfl⟩
    | _ => exact .inr (.inl ⟨_, rfl, nofun, rfl⟩)

theorem acknowledgement_eq_ok_iff :
    a.acknowledgement answer = .ok () ↔
      ∃ server reason, answer = some (.restartAck server true reason) := by
  rcases a.acknowledgement_cases answer with
    ⟨server, accepted, reason, rfl⟩ | ⟨p, rfl, hother, h⟩ | rfl
  · cases accepted <;> simp [acknowledgement]
  · simp [h, hother]
  · simp [acknowledgement]

theorem acknowledgement_eq_rejected_iff {reason : String} :
    a.acknowledgement answer = .error (.completionRejected reason) ↔
      ∃ server given, answer = some (.restartAck server false given) ∧
        reason = given.getD "no reason given" := by
  rcases a.acknowledgement_cases answer with
    ⟨server, accepted, given, rfl⟩ | ⟨p, rfl, hother, h⟩ | rfl
  · cases accepted with
    | true => simp [acknowledgement]
    | false =>
      constructor
      · rintro ⟨⟩
        exact ⟨server, given, rfl, rfl⟩
      · rintro ⟨server', given', ⟨⟩, rfl⟩
        rfl
  · simp [h, hother]
  · simp [acknowledgement]

theorem acknowledgement_eq_unexpectedReply_iff {shown : String} :
    a.acknowledgement answer = .error (.unexpectedReply shown) ↔
      ∃ p, answer = some p ∧ (∀ server accepted reason, p ≠ .restartAck server accepted reason) ∧
        shown = p.inspect := by
  rcases a.acknowledgement_cases answer with
    ⟨server, accepted, given, rfl⟩ | ⟨p, rfl, hother, h⟩ | rfl
  · cases accepted <;> simp [acknowledgement]
  · simp [h, hother, eq_comm]
  · simp [acknowledgement]

theorem acknowledgement_eq_timeout_iff :
    a.acknowledgement answer = .error (.timeout a.retry.replyTimeout) ↔ answer = none := by
  rcases a.acknowledgement_cases answer with
    ⟨server, accepted, given, rfl⟩ | ⟨p, rfl, hother, h⟩ | rfl
  · cases accepted <;> simp [acknowledgement]
  · simp [h]
  · simp [acknowledgement]

theorem acknowledgement_ne_overflow (message : String) :
    a.acknowledgement answer ≠ .error (.overflow message) := by
  rcases a.acknowledgement_cases answer with
    ⟨server, accepted, given, rfl⟩ | ⟨p, rfl, hother, h⟩ | rfl
  · cases accepted <;> simp [acknowledgement]
  · simp [h]
  · simp [acknowledgement]

end

/-! ## One restart -/

theorem complete_run {σ : Type} {link after : Link σ} {answer : Option Packet}
    (h : (Session.request (.restartComplete a.server) a.retry.replyTimeout).run.run link =
      (answer.elim (.error (.timeout a.retry.replyTimeout)) .ok, after)) :
    a.complete.run.run link = (a.acknowledgement answer, after) := by
  cases answer with
  | none => exact Session.bind_of_error h
  | some p =>
    rw [complete, Session.bind_of_ok h]
    cases p with
    | restartAck server accepted reason => cases accepted <;> rfl
    | _ => rfl

/-- What the report of completion comes to, so many requests having been made before it. -/
def report (far : Setting) (link : Link (List Deed)) (requests : Nat) : Except Error Unit :=
  if far.HasDeadline link a.retry.replyTimeout requests then
    a.acknowledgement (far.answer? link requests)
  else .error (.overflow Session.deadlineOverflowMessage)

/-- Over any stream, the report is sent. -/
theorem complete_link (far : Setting) (deeds : List Deed) (inbox : List Datagram) :
    ∃ left, a.complete.run.run (far.link deeds inbox) =
      (a.report far (far.link deeds inbox) 0,
        far.link (deeds ++ [.sent (Packet.restartComplete a.server).encode]) left) := by
  by_cases hdeadline : far.HasDeadline (far.link deeds inbox) a.retry.replyTimeout 0
  · obtain ⟨left, hrequest, -⟩ := far.request_run deeds inbox (.restartComplete a.server) hdeadline
    rw [report, if_pos hdeadline]
    exact ⟨left, a.complete_run hrequest⟩
  · obtain ⟨left, hrequest⟩ :=
      far.request_overflow deeds inbox (.restartComplete a.server) hdeadline
    rw [report, if_neg hdeadline]
    exact ⟨left, Session.bind_of_error hrequest⟩

/-- With some answers read, the report goes by the next. -/
theorem report_of_hasRead {far : Setting} {earlier later : Link (List Deed)} {answers : Nat}
    (h : far.HasRead earlier answers later) :
    a.report far later 0 = a.report far earlier answers := by
  simp only [report, far.hasDeadline_of_hasRead h, h.answer?, Nat.add_zero]

/-- With the slot allowed, every request has been answered. -/
theorem hasRead_of_allowed {far : Setting} {earlier later : Link (List Deed)}
    {attempts begun : Nat} (hasks : a.Asks (a.rounds far earlier attempts) attempts begun (.ok ()))
    (hsent : (Deed.datagrams later.state).length = (Deed.datagrams earlier.state).length + begun)
    (hleft : answersIn far.hub later.inbox = (far.heard earlier begun).drop begun) :
    far.HasRead earlier begun later := by
  refine Surroundings.hasRead_of_left hsent ?_ hleft
  cases hasks with
  | stopped _ _ hstops =>
    cases hstops with
    | answered _ hends =>
      refine far.lt_length_heard (ne_of_eq_of_ne (ends_ok_iff.mp hends) ?_)
      nofun

/-- A request for the slot is no report. -/
theorem restartComplete_ne_restartRequest (server : String) :
    (Packet.restartComplete server).encode ≠ (Packet.restartRequest server).encode := by
  intro h
  cases congrArg List.head? h

/-- Over any stream, a restart that was allowed is the command and the report, and comes to what
the two come to. -/
theorem runRestart_link (far : Setting) (deeds : List Deed) (inbox : List Datagram)
    (command : String) :
    ∃ permission begun asking left,
      a.requestPermission.run.run (far.link deeds inbox) =
        (permission, far.link (deeds ++ asking) left) ∧
      Deed.datagrams asking = List.replicate begun (Packet.restartRequest a.server).encode ∧
      (∀ command, .ran command ∉ asking) ∧
      (∀ e, permission = .error e → (a.runRestart command).run.run (far.link deeds inbox) =
        (.error e, far.link (deeds ++ asking) left)) ∧
      (permission = .ok () → ∃ left', (a.runRestart command).run.run (far.link deeds inbox) =
        (settle (far.ends (deeds ++ asking) command) (a.report far (far.link deeds inbox) begun),
          far.link (deeds ++ asking ++
            [.ran command, .sent (Packet.restartComplete a.server).encode]) left')) := by
  obtain ⟨begun, permission, asking, left, hrun, hasks, hsent, hran, hleft⟩ :=
    a.askFor_link far a.retry.maxAttempts.toNat deeds inbox
  have hasked : a.requestPermission.run.run (far.link deeds inbox) =
      (permission, far.link (deeds ++ asking) left) := hrun
  refine ⟨permission, begun, asking, left, hasked, hsent, hran, ?_, ?_⟩
  · rintro e rfl
    exact Session.bind_of_error hasked
  · rintro rfl
    let ran := deeds ++ asking ++ [.ran command]
    -- The command is no datagram, so it does not come between the requests and the report.
    have hsent' : (Deed.datagrams ran).length = (Deed.datagrams deeds).length + begun := by
      rw [Deed.datagrams_append, Deed.datagrams_append, hsent]
      simp [Deed.datagrams]
    have hread : far.HasRead (far.link deeds inbox) begun (far.link ran left) :=
      a.hasRead_of_allowed hasks hsent' (hleft fun message h => by cases h)
    obtain ⟨left', hcomplete⟩ := a.complete_link far ran left
    rw [a.report_of_hasRead hread] at hcomplete
    have hfinish := a.finish_run (far.ends (deeds ++ asking) command) hcomplete
    rw [List.append_assoc (deeds ++ asking)] at hfinish
    exact ⟨left', (a.runRestart_of_allowed command hasked).trans hfinish⟩

/-- **A restart that was allowed is reported.** Whatever stream of datagrams arrives at an agent,
however much it has done before and however the command ends, asking for the slot is only requests
and pauses. Without the permission that is all that happens, and the agent fails as the asking did.
With it the command is run once, and after it the completion is reported once. A command that was
not started or did not end with the code 0 is the error then, whatever the hub says to the report.
Otherwise the next answer of the stream decides: an accepting acknowledgement, a refusing one,
another packet, or none.

If the clock cannot show the deadline of the report, the agent breaks down after it has sent the
report, however the command ended. -/
theorem runRestart_reports (a : RestartAgent) (far : Setting) (deeds : List Deed)
    (inbox : List Datagram) (command : String) :
    let link := far.link deeds inbox
    let answers := far.answer? link
    let deadline := far.HasDeadline link a.retry.replyTimeout
    let permission := a.requestPermission.run.run link
    let restart := (a.runRestart command).run.run link
    ∃ begun asking,
      permission.2.state = deeds ++ asking ∧
      Deed.datagrams asking = List.replicate begun (Packet.restartRequest a.server).encode ∧
      (Packet.restartComplete a.server).encode ∉ Deed.datagrams asking ∧
      (∀ command, .ran command ∉ asking) ∧
      ((∃ command, .ran command ∈ restart.2.state.drop deeds.length) ↔ permission.1 = .ok ()) ∧
      (∀ e, permission.1 = .error e → restart = (.error e, permission.2)) ∧
      (permission.1 = .ok () →
        let outcome := far.ends (deeds ++ asking) command
        restart.2.state = deeds ++ asking ++
          [.ran command, .sent (Packet.restartComplete a.server).encode] ∧
        (¬ deadline begun →
          restart.1 = .error (.overflow Session.deadlineOverflowMessage)) ∧
        (deadline begun →
          (outcome ≠ .exited 0 →
            ∃ how, outcome.failure? = some how ∧ restart.1 = .error (.commandFailed how)) ∧
          (outcome = .exited 0 →
            (restart.1 = .ok () ↔
              ∃ server reason, answers begun = some (.restartAck server true reason)) ∧
            (∀ reason, restart.1 = .error (.completionRejected reason) ↔
              ∃ server given, answers begun = some (.restartAck server false given) ∧
                reason = given.getD "no reason given") ∧
            (∀ shown, restart.1 = .error (.unexpectedReply shown) ↔
              ∃ p, answers begun = some p ∧
                (∀ server accepted reason, p ≠ .restartAck server accepted reason) ∧
                shown = p.inspect) ∧
            (restart.1 = .error (.timeout a.retry.replyTimeout) ↔ answers begun = none)))) := by
  intro link answers deadline permission restart
  obtain ⟨result, begun, asking, left, hasked, hsent, hran, hfailed, hallowed⟩ :=
    a.runRestart_link far deeds inbox command
  have hpermission : permission = (result, far.link (deeds ++ asking) left) := hasked
  rw [hpermission]
  refine ⟨begun, asking, rfl, hsent, ?_, hran, ?_, hfailed, fun hok => ?_⟩
  · rw [hsent]
    intro hmem
    exact restartComplete_ne_restartRequest a.server (List.eq_of_mem_replicate hmem)
  · cases result with
    | error e =>
      -- Without permission the state is the one that the asking has left.
      have hrestart : restart.2.state = deeds ++ asking :=
        congrArg (fun r => r.2.state) (hfailed e rfl)
      rw [hrestart, List.drop_left]
      exact ⟨fun ⟨c, hc⟩ => absurd hc (hran c), nofun⟩
    | ok =>
      obtain ⟨left', hrestart⟩ := hallowed rfl
      have hstate : restart.2.state = deeds ++ (asking ++
          [.ran command, .sent (Packet.restartComplete a.server).encode]) :=
        (congrArg (fun r => r.2.state) hrestart).trans (List.append_assoc ..)
      rw [hstate, List.drop_left]
      exact ⟨fun _ => rfl, fun _ => ⟨command, List.mem_append_right _ List.mem_cons_self⟩⟩
  · obtain ⟨left', hrestart⟩ := hallowed hok
    have hresult : restart.1 = settle (far.ends (deeds ++ asking) command)
        (a.report far link begun) := congrArg Prod.fst hrestart
    refine ⟨congrArg (fun r => r.2.state) hrestart, fun hnone => ?_, fun hdeadline => ?_⟩
    · rw [hresult, report, if_neg hnone]
      rfl
    · rw [report, if_pos hdeadline] at hresult
      refine ⟨fun hfail => ?_, fun hdone => ?_⟩
      · cases hfailure : (far.ends (deeds ++ asking) command).failure? with
        | none => exact absurd ((CommandOutcome.failure?_eq_none_iff _).mp hfailure) hfail
        | some how =>
          rw [settle_of_failure hfailure acknowledgement_ne_overflow] at hresult
          exact ⟨how, rfl, hresult⟩
      · have hsuccess := (CommandOutcome.failure?_eq_none_iff _).mpr hdone
        have hresult : restart.1 = a.acknowledgement (answers begun) :=
          hresult.trans (settle_of_success hsuccess)
        rw [hresult]
        exact ⟨acknowledgement_eq_ok_iff, fun _ => acknowledgement_eq_rejected_iff,
          fun _ => acknowledgement_eq_unexpectedReply_iff, acknowledgement_eq_timeout_iff⟩

/-- The hub refuses the report. That is the error if the command went well, and not if it failed;
the report is made in both cases. An agent to whom the restart is denied does nothing more. -/
theorem runRestart_reports_of_refused :
    let a : RestartAgent := ⟨"lobby", default, fun _ => .ofMillis 0⟩
    let hub : Address := ⟨.v4 10 0 0 1, 4000⟩
    let far (answers : List Packet) : Setting := {
      hub
      arrivals := fun n => answers[n]?.toList.map fun p => ⟨hub, p.encode⟩
      clock := fun _ => 0
      ends := fun _ command => .exited (if command = "reboot" then 0 else 1)
      reaches := fun _ => signedClock 1000 }
    let refused := [Packet.restartResponse "lobby" .allow,
      .restartAck "lobby" false (some "rot has the slot")]
    let denied := [Packet.restartResponse "lobby" (.deny "no restarts today")]
    let restart (answers : List Packet) (command : String) :=
      (a.runRestart command).run.run ((far answers).link [] [])
    let request := Deed.sent (Packet.restartRequest "lobby").encode
    let report := Deed.sent (Packet.restartComplete "lobby").encode
    (restart refused "reboot").1 = .error (.completionRejected "rot has the slot") ∧
      (restart refused "reboot").2.state = [request, .ran "reboot", report] ∧
      (restart refused "halt").1 = .error (.commandFailed "exited with exit status: 1") ∧
      (restart refused "halt").2.state = [request, .ran "halt", report] ∧
      (restart denied "reboot").1 = .error (.denied "no restarts today") ∧
      (restart denied "reboot").2.state = [request] := by
  intro a hub far refused denied restart request report
  have hallowed : (a.requestPermission.run.run ((far refused).link [] [])).1 = .ok () := by
    decide +kernel
  have hrequest : (a.requestPermission.run.run ((far refused).link [] [])).2.state = [request] := by
    decide +kernel
  have hdenied : (a.requestPermission.run.run ((far denied).link [] [])).1 =
      .error (.denied "no restarts today") := by decide +kernel
  have hasked : (a.requestPermission.run.run ((far denied).link [] [])).2.state = [request] := by
    decide +kernel
  obtain ⟨begun, asking, hstate, hsent, -, -, -, -, hreboot⟩ :=
    runRestart_reports a (far refused) [] [] "reboot"
  obtain ⟨_, asking', hstate', hsent', -, -, -, -, hhalt⟩ :=
    runRestart_reports a (far refused) [] [] "halt"
  obtain ⟨-, -, -, -, -, -, -, hnothing, -⟩ := runRestart_reports a (far denied) [] [] "reboot"
  obtain rfl : [request] = asking := hrequest.symm.trans hstate
  obtain rfl : [request] = asking' := hrequest.symm.trans hstate'
  obtain rfl : 1 = begun := by simpa [Deed.datagrams, request] using congrArg List.length hsent
  obtain rfl : 1 = _ := by simpa [Deed.datagrams, request] using congrArg List.length hsent'
  obtain ⟨hdeeds, -, hintime⟩ := hreboot hallowed
  obtain ⟨hdeeds', -, hintime'⟩ := hhalt hallowed
  obtain ⟨-, hwell⟩ := hintime (by decide)
  obtain ⟨hfail, -⟩ := hintime' (by decide)
  obtain ⟨how, hhow, hfailed⟩ := hfail (by decide +kernel)
  have hnothing := hnothing _ hdenied
  refine ⟨((hwell (by decide +kernel)).2.1 _).mpr ⟨"lobby", some "rot has the slot",
    by decide +kernel, rfl⟩, hdeeds, ?_, hdeeds', congrArg Prod.fst hnothing,
    (congrArg (fun r => r.2.state) hnothing).trans hasked⟩
  have hexit : some "exited with exit status: 1" = some how :=
    (by decide +kernel : CommandOutcome.failure? (.exited 1) = _).symm.trans hhow
  cases hexit
  exact hfailed

/-- The hub allows the restart and accepts the report, and ten seconds pass between two datagrams of
the agent. The clock comes so near to its end that it can show the deadline of the request but not
that of the report. Then neither the failure of the command nor the answer to the report is told.
With a longer timeout, the slot that the hub gave is neither used nor given back. -/
theorem restart_overflows :
    let hub : Address := ⟨.v4 10 0 0 1, 4000⟩
    let accepted : Packet := .restartAck "lobby" true none
    let sent := [Packet.restartResponse "lobby" .allow, accepted]
    let far : Setting := {
      hub
      arrivals := fun n => sent[n]?.toList.map fun p => ⟨hub, p.encode⟩
      clock := fun _ => 0
      ends := fun _ command => .exited (if command = "reboot" then 0 else 1)
      reaches := fun n => signedClock (1000 + 10 * n) }
    let retry : Retry := default
    let restart (timeout : UInt64) (command : String) :=
      (RestartAgent.mk "lobby" { retry with replyTimeout := .ofSeconds timeout }
        fun _ => .ofMillis 0).runRestart command |>.run.run (far.link [] [])
    let request := Deed.sent (Packet.restartRequest "lobby").encode
    let report := Deed.sent (Packet.restartComplete "lobby").encode
    let overflow : Error := .overflow "overflow when adding duration to instant"
    ((restart 9223372036854774793 "halt").1 = .error overflow ∧
      (restart 9223372036854774793 "halt").2.state = [request, .ran "halt", report] ∧
      ¬ ∃ how, (restart 9223372036854774793 "halt").1 = .error (.commandFailed how)) ∧
    ((restart 9223372036854774793 "reboot").1 = .error overflow ∧
      (restart 9223372036854774793 "reboot").2.state = [request, .ran "reboot", report] ∧
      ¬ ((restart 9223372036854774793 "reboot").1 = .ok () ↔
        far.answer? (far.link [] []) 1 = some accepted)) ∧
    ((restart 0xFFFFFFFFFFFFFFFF "reboot").1 = .error overflow ∧
      (restart 0xFFFFFFFFFFFFFFFF "reboot").2.state = [request]) := by
  intro hub accepted sent far retry restart request report overflow
  have hhalt : (restart 9223372036854774793 "halt").1 =
      .error (.overflow "overflow when adding duration to instant") := by decide +kernel
  have hreboot : (restart 9223372036854774793 "reboot").1 =
      .error (.overflow "overflow when adding duration to instant") := by decide +kernel
  refine ⟨⟨hhalt, by decide +kernel, ?_⟩, ⟨hreboot, by decide +kernel, fun h => ?_⟩,
    by decide +kernel, by decide +kernel⟩
  · rintro ⟨how, hfailed⟩
    cases hhalt.symm.trans hfailed
  · cases hreboot.symm.trans (h.mpr (by decide +kernel))

end RestartAgent

end GameHub.Agent
