import GameHub.Packet.Wire
import GameHub.Proofs.Restart.Invariant
import Mathlib.Algebra.BigOperators.Group.Finset.Basic

/-!
# How large the restart state can get

The state knows only names that some call has brought. Of each name it keeps at most one request in
the backlog or the slot, one time in the history and one list of 32 times, however many calls there
were. So the snapshot of the state that travels over the wire is bounded by the names alone.

**Theorem (`snapshot_length_le`).** After any run of calls about backends from a finite set, the
datagram of the snapshot has at most 29 bytes, and 320 bytes and three times its name for each
backend.
-/

namespace GameHub.Restart

open Wire

/-! ## The names that are known -/

/-- All names that the state knows are among these. -/
structure State.Knows (s : State) (names : Finset String) : Prop where
  holder : ∀ name, s.holder = some name → name ∈ names
  waiting : ∀ name ∈ s.waiting, name ∈ names
  history : ∀ e ∈ s.history.entries, e.1 ∈ names
  unauthorized : ∀ e ∈ s.unauthorized.entries, e.1 ∈ names

namespace State.Knows

variable {s : State} {names : Finset String} {server : String}

theorem initial (names : Finset String) : State.initial.Knows names where
  holder _ h := by cases h
  waiting _ h := (List.not_mem_nil h).elim
  history _ h := (List.not_mem_nil h).elim
  unauthorized _ h := (List.not_mem_nil h).elim

theorem of_sublist (h : s.Knows names) {backlog : List Request}
    (hsub : backlog.Sublist s.backlog) : { s with backlog }.Knows names :=
  { h with waiting := fun name hname => h.waiting name ((hsub.map _).subset hname) }

theorem of_mem_insert {α : Type} {m : NameMap α} {value : α} (hserver : server ∈ names)
    (h : ∀ e ∈ m.entries, e.1 ∈ names) : ∀ e ∈ (m.insert server value).entries, e.1 ∈ names := by
  intro e he
  rcases NameMap.mem_insertSorted he with rfl | he
  · exact hserver
  · exact h e he

theorem grant (h : s.Knows names) (hserver : server ∈ names) (now : UInt64) :
    (s.grant server now).Knows names :=
  { h.of_sublist (s.backlog_dequeue_sublist server) with
    holder := fun _ hname => Option.some.inj hname ▸ hserver
    history := of_mem_insert hserver h.history }

theorem audit (h : s.Knows names) (hserver : server ∈ names) (now : UInt64) :
    (s.audit server now).Knows names :=
  { h with
    history := of_mem_insert hserver h.history
    unauthorized := of_mem_insert hserver h.unauthorized }

theorem release (h : s.Knows names) (now : UInt64) : (s.release now).2.Knows names := by
  have hfree : { s with holder := none }.Knows names :=
    { h with holder := fun _ hname => by cases hname }
  cases hbacklog : s.backlog with
  | nil =>
    rw [release_of_nil s now hbacklog]
    exact hfree
  | cons next rest =>
    have hnext : next.server ∈ names := h.waiting _ (by simp [State.waiting, hbacklog])
    have hsub : rest.Sublist s.backlog := by simp [hbacklog]
    rw [release_of_cons s now hbacklog]
    exact (hfree.of_sublist hsub).grant hnext now

end State.Knows

namespace Coordinator

variable {c c' : Coordinator} {call : Call} {given : Option String} {names : Finset String}

theorem knows_prepared (h : c.state.Knows names) {call : Call}
    (hcall : ∀ server, call.server? = some server → server ∈ names) :
    (c.prepared call).Knows names := by
  cases call with
  | request server now => exact h
  | complete server now => exact h
  | unauthorized server now =>
    exact (h.audit (hcall server rfl) now).of_sublist (State.backlog_dequeue_sublist _ server)
  | sweep now => exact h.of_sublist List.filter_sublist

theorem Transition.knows (ht : Transition c call given c') (h : c.state.Knows names)
    (hcall : ∀ server, call.server? = some server → server ∈ names) : c'.state.Knows names := by
  cases ht with
  | @granted server now => exact h.grant (hcall server rfl) now
  | @queued server holder now =>
    exact {
      holder := by rw [holder_enqueue]; exact h.holder
      waiting := fun name hname => by
        rw [waiting_enqueue] at hname
        split at hname
        · exact h.waiting name hname
        · rcases List.mem_append.mp hname with hname | hname
          · exact h.waiting name hname
          · exact List.mem_singleton.mp hname ▸ hcall server rfl
      history := by rw [history_enqueue]; exact h.history
      unauthorized := by rw [unauthorized_enqueue]; exact h.unauthorized }
  | kept => exact knows_prepared h hcall
  | freed => exact (knows_prepared h hcall).release call.now

theorem knows_run {calls : List Call} (h : c.state.Knows names)
    (hcalls : ∀ call ∈ calls, ∀ server, call.server? = some server → server ∈ names) :
    (c.run calls).state.Knows names := by
  induction calls generalizing c with
  | nil => exact h
  | cons call calls ih =>
    exact ih ((c.transition_step call).knows h (hcalls call List.mem_cons_self))
      fun later hmem => hcalls later (List.mem_cons_of_mem call hmem)

end Coordinator

/-! ## Bytes for each name -/

/-- Values with different names take at most what all names allow. -/
theorem foldr_size_le {α : Type} {size : α → Nat} {key : α → String} (weight : String → Nat)
    {as : List α} {names : Finset String} (hnodup : (as.map key).Nodup)
    (hnames : ∀ a ∈ as, key a ∈ names) (hsize : ∀ a ∈ as, size a ≤ weight (key a)) :
    as.foldr (size · + ·) 0 ≤ ∑ name ∈ names, weight name := by
  induction as generalizing names with
  | nil => exact Nat.zero_le _
  | cons a as ih =>
    obtain ⟨ha, hnodup⟩ := List.nodup_cons.mp hnodup
    have hothers : ∀ b ∈ as, key b ∈ names.erase (key a) := fun b hb =>
      Finset.mem_erase.mpr
        ⟨fun h => ha (h ▸ List.mem_map_of_mem hb), hnames b (List.mem_cons_of_mem a hb)⟩
    have hrest := ih hnodup hothers fun b hb => hsize b (List.mem_cons_of_mem a hb)
    rw [List.foldr_cons, ← Finset.add_sum_erase names weight (hnames a List.mem_cons_self)]
    exact Nat.add_le_add (hsize a List.mem_cons_self) hrest

namespace State

variable {s : State} {roster : Option (List String)} {names : Finset String}

/-- A name has the slot or one place in the backlog. -/
theorem size_slot_and_backlog_le (hv : s.Valid roster) (h : s.Knows names) :
    (Codec.option Codec.text).size s.holder + (Codec.list Request.codec).size s.backlog ≤
      9 + ∑ name ∈ names, (32 + name.utf8ByteSize) := by
  let weight (name : String) : Nat := 32 + name.utf8ByteSize
  have hrequest : ∀ r : Request, Request.codec.size r ≤ weight r.server := by
    intro r
    change 8 + r.server.utf8ByteSize + 8 + 8 + 4 + 4 ≤ 32 + r.server.utf8ByteSize
    omega
  change _ ≤ 9 + ∑ name ∈ names, weight name
  have hwaiting : ∀ r ∈ s.backlog, r.server ∈ names := fun r hr =>
    h.waiting _ (List.mem_map_of_mem hr)
  cases hholder : s.holder with
  | none =>
    have hbacklog := foldr_size_le weight hv.nodup hwaiting fun r _ => hrequest r
    change 1 + (8 + s.backlog.foldr (Request.codec.size · + ·) 0) ≤ _
    omega
  | some name =>
    -- The holder is not in the backlog, so the requests are those of other names.
    have hothers : ∀ r ∈ s.backlog, r.server ∈ names.erase name := fun r hr =>
      Finset.mem_erase.mpr ⟨fun hname => hv.holder_not_waiting name hholder
        (hname ▸ List.mem_map_of_mem hr), hwaiting r hr⟩
    have hbacklog := foldr_size_le weight hv.nodup hothers fun r _ => hrequest r
    have hname := Finset.add_sum_erase names weight (h.holder name hholder)
    change 1 + (8 + name.utf8ByteSize) + (8 + s.backlog.foldr (Request.codec.size · + ·) 0) ≤ _
    change 32 + name.utf8ByteSize + _ = _ at hname
    omega

theorem size_history_le (h : s.Knows names) :
    (Codec.nameMap Codec.u64).size s.history ≤
      8 + ∑ name ∈ names, (16 + name.utf8ByteSize) := by
  have hentry : ∀ e ∈ s.history.entries,
      (Codec.pair Codec.text Codec.u64).size e ≤ 16 + e.1.utf8ByteSize := by
    intro e _
    change 8 + e.1.utf8ByteSize + 8 ≤ _
    omega
  exact Nat.add_le_add_left
    (foldr_size_le (16 + ·.utf8ByteSize) s.history.nodup_keys h.history hentry) 8

theorem size_times (times : List UInt64) :
    (Codec.list Codec.u64).size times = 8 + 8 * times.length := by
  have hfoldr : times.foldr (Codec.u64.size · + ·) 0 = 8 * times.length := by
    induction times with
    | nil => rfl
    | cons time times ih =>
      rw [List.foldr_cons, ih, List.length_cons]
      change 8 + 8 * times.length = _
      omega
  exact congrArg (8 + ·) hfoldr

/-- A name has one audit list, of at most 32 times. -/
theorem size_unauthorized_le (hv : s.Valid roster) (h : s.Knows names) :
    (Codec.nameMap (Codec.list Codec.u64)).size s.unauthorized ≤
      8 + ∑ name ∈ names, (272 + name.utf8ByteSize) := by
  have hentry : ∀ e ∈ s.unauthorized.entries,
      (Codec.pair Codec.text (Codec.list Codec.u64)).size e ≤ 272 + e.1.utf8ByteSize := by
    intro e he
    have haudit := (hv.audits e.1 e.2 (NameMap.get?_of_mem he)).2
    change 8 + e.1.utf8ByteSize + (Codec.list Codec.u64).size e.2 ≤ _
    rw [size_times]
    omega
  exact Nat.add_le_add_left
    (foldr_size_le (272 + ·.utf8ByteSize) s.unauthorized.nodup_keys h.unauthorized hentry) 8

theorem size_snapshot_le (hv : s.Valid roster) (h : s.Knows names) :
    (Packet.stateSnapshot s).size ≤ 29 + ∑ name ∈ names, (320 + 3 * name.utf8ByteSize) := by
  have hparts : ∑ name ∈ names, (320 + 3 * name.utf8ByteSize) =
      ∑ name ∈ names, (32 + name.utf8ByteSize) + ∑ name ∈ names, (16 + name.utf8ByteSize) +
        ∑ name ∈ names, (272 + name.utf8ByteSize) := by
    rw [← Finset.sum_add_distrib, ← Finset.sum_add_distrib]
    exact Finset.sum_congr rfl fun name _ => by omega
  have hslot := size_slot_and_backlog_le hv h
  have hhistory := size_history_le h
  have haudits := size_unauthorized_le hv h
  change 4 + ((Codec.option Codec.text).size s.holder + (Codec.list Request.codec).size s.backlog +
    (Codec.nameMap Codec.u64).size s.history +
    (Codec.nameMap (Codec.list Codec.u64)).size s.unauthorized) ≤ _
  omega

end State

namespace Coordinator

/-! ## Runs -/

/-- **The state does not outgrow its names.** However many requests, retries and reports there were,
and whatever the policy and the roster, the snapshot takes 29 bytes, and for each backend at most 320
bytes and three times the bytes of its name. -/
theorem snapshot_length_le (policy : Policy) (roster : Option (List String))
    (names : Finset String) (calls : List Call)
    (hcalls : ∀ call ∈ calls, ∀ server, call.server? = some server → server ∈ names) :
    (Packet.stateSnapshot ((new policy roster).run calls).state).encode.length ≤
      29 + ∑ name ∈ names, (320 + 3 * name.utf8ByteSize) := by
  rw [Packet.length_encode]
  exact State.size_snapshot_le (run_new_valid policy roster calls)
    (knows_run (.initial names) hcalls)

/-- Two backends with full audit lists, of which one has the slot and the other one waits. The
snapshot is 24 bytes below the limit, because the slot takes 24 bytes less than a place in the
backlog. -/
theorem snapshot_length_le_of_full_audits :
    let policy : Policy := ⟨.ofMillis 100, .ofMillis 30, .ofMillis 600, .ofMillis 300⟩
    let calls : List Call := List.replicate 40 (.unauthorized "a" 0) ++
      List.replicate 40 (.unauthorized "b" 0) ++ [.request "a" 100, .request "b" 100]
    let names : Finset String := ["a", "b"].toFinset
    let snapshot := Packet.stateSnapshot ((new policy none).run calls).state
    (∀ call ∈ calls, ∀ server, call.server? = some server → server ∈ names) ∧
      snapshot.encode.length + 24 = 29 + 2 * 323 ∧
      snapshot.encode.length ≤ 29 + ∑ name ∈ names, (320 + 3 * name.utf8ByteSize) := by
  intro policy calls names snapshot
  have hknown : ∀ call ∈ calls, call.server? = some "a" ∨ call.server? = some "b" := by
    decide +kernel
  have hcalls : ∀ call ∈ calls, ∀ server, call.server? = some server → server ∈ names := by
    intro call hcall server hserver
    rcases hknown call hcall with h | h
    · exact List.mem_toFinset.mpr (by simp [Option.some.inj (h.symm.trans hserver)])
    · exact List.mem_toFinset.mpr (by simp [Option.some.inj (h.symm.trans hserver)])
  exact ⟨hcalls, by decide +kernel, snapshot_length_le policy none names calls hcalls⟩

end Coordinator

end GameHub.Restart
