import GameHub.Agent.Restart

/-!
# What a session does, by its parts

A session goes on after a part that went well and ends with one that failed. A request is sent and
takes the first packet that is there; at the end of a restart the report is made, whatever the
command came to.

Two sums can overflow, and then the session has broken down: the deadline of a request, which the
clock may be unable to show (`Session.request_overflow`), and the delay before the next request
(`RestartAgent.HasDelay`).
-/

namespace GameHub.Agent

namespace Session

variable {σ α β : Type}

/-- What a session does after a part that went well. -/
theorem bind_of_ok {x : Session σ α} {f : α → Session σ β} {link link' : Link σ} {a : α}
    (h : x.run.run link = (.ok a, link')) : (x >>= f).run.run link = (f a).run.run link' := by
  show (ExceptT.bindCont f (x.run.run link).1).run (x.run.run link).2 = _
  rw [h]
  rfl

/-- What a session does after a part that failed. -/
theorem bind_of_error {x : Session σ α} {f : α → Session σ β} {link link' : Link σ} {e : Error}
    (h : x.run.run link = (.error e, link')) : (x >>= f).run.run link = (.error e, link') := by
  show (ExceptT.bindCont f (x.run.run link).1).run (x.run.run link).2 = _
  rw [h]
  rfl

/-- What a session does if its result is of no use. -/
theorem discard_run {x : Session σ α} {link link' : Link σ} {result : Except Error α}
    (h : x.run.run link = (result, link')) :
    (discard x).run.run link = (result.map fun _ => (), link') := by
  have hdiscard : discard x = x >>= fun _ => pure () := (bind_pure_comp (fun _ => ()) x).symm
  rw [hdiscard]
  cases result with
  | ok a => rw [bind_of_ok h]; rfl
  | error e => rw [bind_of_error h]; rfl

theorem tryCatch_run {x : Session σ α} {handle : Error → Session σ α} {link link' : Link σ}
    {result : Except Error α} (h : x.run.run link = (result, link')) :
    (tryCatch x handle).run.run link =
      (match result with
        | .ok a => pure a
        | .error e => handle e : Session σ α).run.run link' := by
  have hrun : StateT.run (m := Id) x link = (result, link') := h
  simp only [tryCatch, tryCatchThe, MonadExceptOf.tryCatch, ExceptT.tryCatch, ExceptT.run_mk,
    StateT.run_bind, hrun]
  cases result <;> rfl

theorem observing_run {x : Session σ α} {link link' : Link σ} {result : Except Error α}
    (h : x.run.run link = (result, link')) :
    (observing x : Session σ (Except Error α)).run.run link = (.ok result, link') := by
  cases result with
  | ok a =>
    have hok : (x >>= fun a => pure (.ok a) : Session σ (Except Error α)).run.run link =
        (.ok (.ok a), link') := bind_of_ok h
    exact tryCatch_run hok
  | error e =>
    have herror : (x >>= fun a => pure (.ok a) : Session σ (Except Error α)).run.run link =
        (.error e, link') := bind_of_error h
    exact tryCatch_run herror

/-- Nothing is done after an overflow. -/
theorem attempt_of_overflow {x : Session σ α} {link link' : Link σ} {message : String}
    (h : x.run.run link = (.error (.overflow message), link')) :
    (attempt x).run.run link = (.error (.overflow message), link') :=
  bind_of_ok (observing_run h)

/-- Any other failure is kept for what comes after it. -/
theorem attempt_run {x : Session σ α} {link link' : Link σ} {result : Except Error α}
    (h : x.run.run link = (result, link'))
    (hresult : ∀ message, result ≠ .error (.overflow message)) :
    (attempt x).run.run link = (.ok result, link') := by
  rw [attempt, bind_of_ok (observing_run h)]
  cases result with
  | ok a => rfl
  | error e =>
    cases e with
    | overflow message => exact absurd rfl (hresult message)
    | _ => rfl

/-! ## Requests -/

section

variable {p : Packet} {link : Link σ} {arriving : List Datagram} {state : σ} {wait : Duration}

theorem get_run (link : Link σ) : (get : Session σ (Link σ)).run.run link = (.ok link, link) := rfl

theorem now_run (link : Link σ) :
    (now : Session σ UInt64).run.run link = (.ok (link.world.now link.state), link) := rfl

theorem send_run (hsend : link.world.send p.encode link.state = .ok (arriving, state)) :
    (Session.send p).run.run link =
      (.ok (), { link with state, inbox := link.inbox ++ arriving }) := by
  rw [Session.send, bind_of_ok (get_run link), hsend]
  rfl

/-- A request takes the first packet that has arrived after it is sent, or else times out. -/
theorem request_run (hsend : link.world.send p.encode link.state = .ok (arriving, state))
    (hreaches : link.world.reaches wait state = true) :
    (Session.request p wait).run.run link =
      match Link.firstPacket link.hub (link.inbox ++ arriving) with
      | some (reply, inbox) => (.ok reply, { link with state, inbox })
      | none => (.error (.timeout wait), { link with state, inbox := [] }) := by
  rw [Session.request, bind_of_ok (send_run hsend), Session.receive, bind_of_ok (get_run _)]
  simp only [hreaches, if_true]
  cases Link.firstPacket link.hub (link.inbox ++ arriving) <;> rfl

/-- A request whose deadline the clock cannot show is sent, and nothing is read. -/
theorem request_overflow (hsend : link.world.send p.encode link.state = .ok (arriving, state))
    (hreaches : link.world.reaches wait state = false) :
    (Session.request p wait).run.run link = (.error (.overflow deadlineOverflowMessage),
      { link with state, inbox := link.inbox ++ arriving }) := by
  rw [Session.request, bind_of_ok (send_run hsend), Session.receive, bind_of_ok (get_run _)]
  simp only [hreaches, Bool.false_eq_true, if_false]
  rfl

/-- The answer to a request is the first packet that has arrived after it is sent. -/
theorem request_eq {reply : Packet} {inbox : List Datagram}
    (hsend : link.world.send p.encode link.state = .ok (arriving, state))
    (hfirst : Link.firstPacket link.hub (link.inbox ++ arriving) = some (reply, inbox))
    (hreaches : link.world.reaches wait state = true) :
    (Session.request p wait).run.run link = (.ok reply, { link with state, inbox }) := by
  rw [request_run hsend hreaches, hfirst]

end

end Session

/-! ## The wait before the next request -/

namespace RestartAgent

variable {σ : Type} (a : RestartAgent)

/-- The shortest wait and the random delay of an attempt add up to a duration, so many attempts
being left. -/
def HasDelay (left : Nat) : Prop := a.retry.minWait.add? (a.drawn left) ≠ none

instance (left : Nat) : Decidable (a.HasDelay left) := inferInstanceAs (Decidable (_ ≠ _))

/-- A hint of the hub is short beside the longest duration, and so is a random delay. So whether
there is a delay does not depend on the hint, nor on the time. -/
theorem retryDelay?_drawn_eq_none_iff (retryAfter now : UInt64) (left : Nat) :
    retryDelay? retryAfter now a.retry.minWait (a.drawn left) = none ↔ ¬ a.HasDelay left := by
  rw [HasDelay, Decidable.not_not, retryDelay?, Duration.add?, Duration.add?, Duration.ofNanos?,
    Duration.ofNanos?, Duration.longer]
  have hdrawn : (a.drawn left).nanoseconds < 0x10000000000000000 * 1_000_000 :=
    Nat.mul_lt_mul_of_pos_right (UInt64.toNat_lt _) (by decide)
  have hhint : (Duration.ofMillis (retryAfter.subSat now)).nanoseconds <
      0x10000000000000000 * 1_000_000 :=
    Nat.mul_lt_mul_of_pos_right (UInt64.toNat_lt _) (by decide)
  split
  · rfl
  · next hlonger =>
    rw [dif_pos (by omega), dif_pos (by omega)]
    simp

variable {a} {left : Nat}

theorem backOff_of_hasDelay (h : a.HasDelay left) (retryAfter : UInt64) (link : Link σ) :
    ∃ d, (a.backOff retryAfter left).run.run link =
      (.ok (), { link with state := link.world.pause d link.state }) := by
  have hdelay := mt (a.retryDelay?_drawn_eq_none_iff retryAfter (link.world.now link.state) left).mp
    (not_not_intro h)
  obtain ⟨d, hd⟩ := Option.ne_none_iff_exists'.mp hdelay
  refine ⟨d, ?_⟩
  rw [backOff, Session.bind_of_ok (Session.now_run link), hd]
  rfl

theorem backOff_of_not_hasDelay (h : ¬ a.HasDelay left) (retryAfter : UInt64) (link : Link σ) :
    (a.backOff retryAfter left).run.run link = (.error (.overflow delayOverflowMessage), link) := by
  rw [backOff, Session.bind_of_ok (Session.now_run link),
    (a.retryDelay?_drawn_eq_none_iff ..).mpr h]
  rfl

end RestartAgent

/-! ## The end of a restart -/

section

variable {σ : Type}

/-- What is left to do after the command: to report the end of the restart. -/
def RestartAgent.finish (a : RestartAgent) (outcome : CommandOutcome) : Session σ Unit := do
  let completion ← Session.attempt a.complete
  match outcome.failure? with
  | some how => throw (.commandFailed how)
  | none => MonadExcept.ofExcept completion

/-- With the permission, the command is run, and then the end of the restart is reported. -/
theorem RestartAgent.runRestart_of_allowed (a : RestartAgent) (command : String)
    {link after : Link σ} (h : a.requestPermission.run.run link = (.ok (), after)) :
    (a.runRestart command).run.run link =
      (a.finish (after.world.run command after.state).1).run.run
        { after with state := (after.world.run command after.state).2 } :=
  Session.bind_of_ok h

/-- What a restart comes to, by how the command and the report ended. -/
def settle (outcome : CommandOutcome) : Except Error Unit → Except Error Unit
  | .error (.overflow message) => .error (.overflow message)
  | completion =>
    match outcome.failure? with
    | some how => .error (.commandFailed how)
    | none => completion

section

variable {outcome : CommandOutcome} {completion : Except Error Unit}

theorem settle_of_success (h : outcome.failure? = none) :
    settle outcome completion = completion := by
  unfold settle
  split
  · rfl
  · rw [h]

theorem settle_of_failure {how : String} (h : outcome.failure? = some how)
    (hcompletion : ∀ message, completion ≠ .error (.overflow message)) :
    settle outcome completion = .error (.commandFailed how) := by
  unfold settle
  split
  · next message => exact absurd rfl (hcompletion message)
  · rw [h]

theorem eq_ok_of_settle {u : Unit} (h : settle outcome completion = .ok u) :
    completion = .ok u := by
  unfold settle at h
  split at h
  · cases h
  · split at h
    · cases h
    · exact h

end

theorem RestartAgent.finish_run (a : RestartAgent) (outcome : CommandOutcome) {link link' : Link σ}
    {completion : Except Error Unit} (h : a.complete.run.run link = (completion, link')) :
    (a.finish outcome).run.run link = (settle outcome completion, link') := by
  by_cases hoverflow : ∃ message, completion = .error (.overflow message)
  · obtain ⟨message, rfl⟩ := hoverflow
    exact Session.bind_of_error (Session.attempt_of_overflow h)
  · have hcompletion := not_exists.mp hoverflow
    rw [finish, Session.bind_of_ok (Session.attempt_run h hcompletion)]
    cases hfailure : outcome.failure? with
    | some how =>
      rw [settle_of_failure hfailure hcompletion]
      rfl
    | none =>
      rw [settle_of_success hfailure]
      cases completion <;> rfl

end

end GameHub.Agent
