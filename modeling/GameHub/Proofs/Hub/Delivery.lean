import GameHub.Proofs.Hub.Fate

/-!
# Notices reach the right player

A notice waits for the sender under the id of its player, who may be gone when its turn comes, and
somebody else may be at the address by then.

**Theorem (`notices_reach_their_player`).** However the stages of a run and the steps of the sender
are interleaved, as long as fewer than `2 ^ 32 - 1` connections were ever made, a packet for a
player is sent if and only if that player is connected at this moment and it fits into a datagram,
and then it goes to the address from which the player connected. A player who is seen and then not
seen any more gets nothing from there on.

From stage to stage players only go, but for one who arrives under a new id (`Flow`). So the
connections that can be seen are among those that were ever made, and since no id is given out twice
a player who is gone does not come back.
-/

namespace GameHub

namespace Hub

/-! ## What the stages of a run come to -/

section Stages

variable (h : Hub)

/-- The hub as it is seen after these stages. -/
def seenAfter (stages : List Stage) : Hub := stages.foldl (fun _ stage => stage.hub) h

theorem seenAfter_append (first later : List Stage) :
    h.seenAfter (first ++ later) = (h.seenAfter first).seenAfter later :=
  List.foldl_append

theorem seenAfter_strikes (gap : List Moment) : h.seenAfter (h.strikes gap) = h.lapse gap := by
  induction gap generalizing h with
  | nil => rfl
  | cons now gap ih => exact ih (h.checkClients now)

theorem out_strikes (gap : List Moment) : (h.strikes gap).flatMap (·.out) = [] := by
  induction gap generalizing h with
  | nil => rfl
  | cons now gap ih => exact ih (h.checkClients now)

/-- The stages put what the event puts on the way out into the channel. -/
theorem out_stages (o : Occurrence) : (h.stages o).flatMap (·.out) = (h.step o).1 := by
  rw [stages]
  cases hevent : o.event with
  | packet sender packet =>
    dsimp only
    split
    · simp [out_strikes]
    · simp
  | reconcile =>
    rw [step, hevent]
    dsimp only [reconcileAcross]
    rw [List.flatMap_cons, List.flatMap_append, out_strikes, List.nil_append]
    cases (h.queue.reconcile h.registry.records h.live).result with
    | none => exact List.append_nil _
    | some decision =>
      -- The signals of the pass come first; what is left is the packets for the one admitted.
      refine congrArg (_ ++ ·) ?_
      dsimp only
      rw [List.flatMap_append]
      split
      · simp
      · simp [out_strikes]
  | _ => simp

/-- After the last stage the hub is as the event leaves it. -/
theorem seenAfter_stages (o : Occurrence) : h.seenAfter (h.stages o) = (h.step o).2 := by
  rw [stages]
  cases hevent : o.event with
  | packet sender packet =>
    dsimp only
    split
    · rw [← List.cons_append, seenAfter_append]
      rfl
    · rfl
  | reconcile =>
    rw [step, hevent]
    dsimp only [reconcileAcross]
    cases (h.queue.reconcile h.registry.records h.live).result with
    | none =>
      rw [List.append_nil]
      exact seenAfter_strikes _ o.firstGap
    | some decision =>
      rw [← List.cons_append, ← List.append_assoc, seenAfter_append]
      rfl
  | _ => rfl

theorem out_history (run : List Occurrence) :
    (h.history run).flatMap (·.out) = (h.run run).1 := by
  induction run generalizing h with
  | nil => rfl
  | cons o rest ih => rw [history, List.flatMap_append, out_stages, ih, run_cons]

theorem seenAfter_history (run : List Occurrence) :
    h.seenAfter (h.history run) = (h.run run).2 := by
  induction run generalizing h with
  | nil => rfl
  | cons o rest ih => rw [history, seenAfter_append, seenAfter_stages, ih, run_cons]

end Stages

/-! ## The channel -/

namespace Sender

variable (s : Sender)

theorem run_append (first later : List Move) : s.run (first ++ later) = (s.run first).run later :=
  List.foldl_append

theorem hub_run (moves : List Move) :
    (s.run moves).hub = s.hub.seenAfter (moves.filterMap Move.stage?) := by
  induction moves generalizing s with
  | nil => rfl
  | cons m moves ih =>
    cases m with
    | stage stage => exact ih (s.move (.stage stage))
    | send =>
      have hsame : (s.move .send).hub = s.hub := by
        rw [move]
        split <;> rfl
      exact (ih (s.move .send)).trans (by rw [hsame]; rfl)

/-- First in, first out: what has been taken and what is left is what was put in. -/
theorem taken_run (moves : List Move) :
    (s.run moves).taken.map (·.1) ++ (s.run moves).channel =
      s.taken.map (·.1) ++ s.channel ++ (moves.filterMap Move.stage?).flatMap (·.out) := by
  induction moves generalizing s with
  | nil => exact (List.append_nil _).symm
  | cons m moves ih =>
    refine (ih (s.move m)).trans ?_
    cases m with
    | stage stage => simp [move, Move.stage?]
    | send =>
      have hkept : (s.move .send).taken.map (·.1) ++ (s.move .send).channel =
          s.taken.map (·.1) ++ s.channel := by
        rw [move]
        split
        · rfl
        · next out channel hchannel => simp [hchannel]
      rw [hkept]
      rfl

end Sender

/-! ## Arrivals -/

/-- This player connected from this address in the run. -/
def ConnectedFrom (h : Hub) (run : List Occurrence) (id : PlayerId) (address : Address) : Prop :=
  ∃ first o rest version, run = first ++ o :: rest ∧ o.event = .packet address (.connect version) ∧
    ((h.run first).2.step o).1 = [.toAddress address (.connected id)]

/-- Nobody arrives but by connecting. -/
theorem arrivals_step (h : Hub) (o : Occurrence) : arrivals (h.step o).1 = [] ∨
    ∃ address version id, o.event = .packet address (.connect version) ∧
      (h.step o).1 = [.toAddress address (.connected id)] := by
  rw [step]
  cases hevent : o.event with
  | packet sender packet =>
    rcases handleAcross_out h o.now o.firstGap sender packet with
      ⟨signals, hout⟩ | ⟨reply, hreply, hout⟩
    · exact .inl (hout ▸ arrivals_eq_nil (issued_signals signals))
    · cases hreply with
      | welcomed => exact .inr ⟨sender, _, _, rfl, hout⟩
      | _ => exact .inl (hout ▸ rfl)
  | reconcile =>
    refine .inl (arrivals_eq_nil ?_)
    rcases reconcileAcross_cases h o.now o.firstGap o.secondGap with
      ⟨-, heq⟩ | ⟨d, -, ⟨address, -, heq⟩ | ⟨-, heq⟩⟩
    · rw [heq]
      exact issued_signals _
    · rw [heq, issued_append, issued_signals]
      rfl
    · rw [heq, issued_append, issued_signals, issued_signals]
      rfl
  | _ => exact .inl rfl

theorem connectedFrom_iff (h : Hub) (run : List Occurrence) (id : PlayerId) (address : Address) :
    h.ConnectedFrom run id address ↔ (address, id) ∈ arrivals (h.run run).1 := by
  constructor
  · rintro ⟨first, o, rest, version, rfl, -, hout⟩
    rw [Hub.run_append, run_cons, arrivals_append, arrivals_append, hout]
    exact List.mem_append_right _ (List.mem_append_left _ List.mem_cons_self)
  · intro hmem
    induction run generalizing h with
    | nil => exact absurd hmem List.not_mem_nil
    | cons o rest ih =>
      rw [run_cons, arrivals_append] at hmem
      rcases List.mem_append.mp hmem with hmem | hmem
      · rcases arrivals_step h o with hnone | ⟨sender, version, other, hevent, hout⟩
        · rw [hnone] at hmem
          exact absurd hmem List.not_mem_nil
        · rw [hout] at hmem
          obtain ⟨rfl, rfl⟩ := Prod.mk.inj (List.mem_singleton.mp hmem)
          exact ⟨[], o, rest, version, rfl, hevent, hout⟩
      · obtain ⟨first, o', rest', version, rfl, hconnects⟩ := ih (h.step o).2 hmem
        exact ⟨o :: first, o', rest', version, rfl, hconnects⟩

/-! ## Stage by stage -/

/-- From stage to stage nobody arrives, or one player does. The lists are the connections that were
made so far. -/
inductive Flow : List (Address × PlayerId) → Hub → List Stage → List (Address × PlayerId) →
    Hub → Prop
  | nil {known : List (Address × PlayerId)} {h : Hub} : Flow known h [] known h
  | fewer {known known' : List (Address × PlayerId)} {h h' : Hub} {stage : Stage}
    {rest : List Stage} (hsound : stage.hub.clients.Sound)
    (hsub : stage.hub.clients.connections ⊆ h.clients.connections)
    (hrest : Flow known stage.hub rest known' h') : Flow known h (stage :: rest) known' h'
  | arrival {known known' : List (Address × PlayerId)} {h h' : Hub} {stage : Stage}
    {rest : List Stage} (c : Address × PlayerId) (hsound : stage.hub.clients.Sound)
    (hsub : stage.hub.clients.connections ⊆ c :: h.clients.connections)
    (hrest : Flow (known ++ [c]) stage.hub rest known' h') : Flow known h (stage :: rest) known' h'

namespace Flow

variable {known known' known'' : List (Address × PlayerId)} {h h' h'' : Hub}
  {first later stages : List Stage}

theorem append (hf : Flow known h first known' h') (hl : Flow known' h' later known'' h'') :
    Flow known h (first ++ later) known'' h'' := by
  induction hf with
  | nil => exact hl
  | fewer hsound hsub _ ih => exact .fewer hsound hsub (ih hl)
  | arrival c hsound hsub _ ih => exact .arrival c hsound hsub (ih hl)

theorem split (hf : Flow known h (first ++ later) known'' h'') :
    ∃ known', Flow known h first known' (h.seenAfter first) ∧
      Flow known' (h.seenAfter first) later known'' h'' := by
  induction first generalizing known h with
  | nil => exact ⟨known, .nil, hf⟩
  | cons stage first ih =>
    cases hf with
    | fewer hsound hsub hrest =>
      obtain ⟨known', hfirst, hlater⟩ := ih hrest
      exact ⟨known', .fewer hsound hsub hfirst, hlater⟩
    | arrival c hsound hsub hrest =>
      obtain ⟨known', hfirst, hlater⟩ := ih hrest
      exact ⟨known', .arrival c hsound hsub hfirst, hlater⟩

theorem known_prefix (hf : Flow known h stages known' h') : known <+: known' := by
  induction hf with
  | nil => exact List.prefix_rfl
  | fewer _ _ _ ih => exact ih
  | arrival c _ _ _ ih => exact (List.prefix_append _ [c]).trans ih

theorem sound (hf : Flow known h stages known' h') (hsound : h.clients.Sound) :
    h'.clients.Sound := by
  induction hf with
  | nil => exact hsound
  | fewer hstage _ _ ih => exact ih hstage
  | arrival _ hstage _ _ ih => exact ih hstage

/-- Whoever can be seen has arrived. -/
theorem connections_subset (hf : Flow known h stages known' h')
    (hknown : h.clients.connections ⊆ known) : h'.clients.connections ⊆ known' := by
  induction hf with
  | nil => exact hknown
  | fewer _ hsub _ ih => exact ih (List.Subset.trans hsub hknown)
  | arrival c _ hsub _ ih =>
    refine ih fun other hother => List.mem_append.mpr ?_
    rcases List.mem_cons.mp (hsub hother) with rfl | hother
    · exact .inr (List.mem_singleton_self _)
    · exact .inl (hknown hother)

/-- Whoever has arrived and is gone does not come back, if no id is given out twice. -/
theorem stays_gone (hf : Flow known h stages known' h') (hnodup : (known'.map (·.2)).Nodup)
    {id : PlayerId} (hid : id ∈ known.map (·.2)) (hgone : id ∉ h.clients.ids) :
    id ∉ h'.clients.ids := by
  induction hf with
  | nil => exact hgone
  | fewer _ hsub _ ih =>
    refine ih hnodup hid fun hthere => hgone ?_
    rw [← Clients.map_snd_connections] at hthere ⊢
    exact List.map_subset _ hsub hthere
  | @arrival known known' h h' stage rest c _ hsub hrest ih =>
    have hnew : id ≠ c.2 := by
      have harrived := hnodup.sublist (hrest.known_prefix.sublist.map _)
      rw [List.map_append] at harrived
      exact (List.nodup_append.mp harrived).2.2 id hid c.2 (List.mem_singleton_self _)
    refine ih hnodup (List.mem_map.mpr ?_) fun hthere => ?_
    · obtain ⟨other, hother, rfl⟩ := List.mem_map.mp hid
      exact ⟨other, List.mem_append_left _ hother, rfl⟩
    · rw [← Clients.map_snd_connections] at hthere hgone
      rcases List.mem_cons.mp (List.map_subset _ hsub hthere) with heq | hold
      · exact hnew heq
      · exact hgone hold

/-- Whoever is seen and then not seen any more is not seen again. -/
theorem not_seen_again {earlier between : List Stage}
    (hf : Flow known h (earlier ++ between ++ later) known' h')
    (hknown : h.clients.connections ⊆ known) (hnodup : (known'.map (·.2)).Nodup) {id : PlayerId}
    (hseen : id ∈ (h.seenAfter earlier).clients.ids)
    (hgone : id ∉ (h.seenAfter (earlier ++ between)).clients.ids) : id ∉ h'.clients.ids := by
  obtain ⟨knownGone, hbetween, hlater⟩ := hf.split
  obtain ⟨knownSeen, hearlier, hbetween⟩ := hbetween.split
  have harrived := List.Subset.trans (hearlier.connections_subset hknown)
    hbetween.known_prefix.subset
  rw [← Clients.map_snd_connections] at hseen
  exact hlater.stays_gone hnodup (List.map_subset _ harrived hseen) hgone

end Flow

section Stages

variable {h before : Hub} {known : List (Address × PlayerId)}

theorem flow_strikes (hsound : h.clients.Sound) (gap : List Moment) :
    Flow known h (h.strikes gap) known (h.lapse gap) := by
  induction gap generalizing h with
  | nil => exact .nil
  | cons now gap ih =>
    have hsub := h.clients.connections_dropTimedOut now.instant
    have hnext : (h.checkClients now).clients.Sound := hsound.of_sublist hsub rfl
    exact .fewer hnext hsub.subset (ih hnext)

/-- One stage at which nobody arrives. -/
theorem flow_quiet (hsound : h.clients.Sound) (out : List Outbound)
    (hsub : h.clients.connections ⊆ before.clients.connections) :
    Flow known before [⟨out, h⟩] known h :=
  .fewer hsound hsub .nil

theorem flow_reconcile (hsound : h.clients.Sound) {o : Occurrence} (hevent : o.event = .reconcile) :
    Flow known h (h.stages o) known (h.step o).2 := by
  rw [stages, step, hevent]
  dsimp only [reconcileAcross]
  generalize h.queue.reconcile h.registry.records h.live = pass
  generalize hpassed : { h with queue := pass.queue } = passed
  have hclients : passed.clients = h.clients := hpassed ▸ rfl
  have hstrikes : Flow known passed (passed.strikes o.firstGap) known (passed.lapse o.firstGap) :=
    flow_strikes (hclients ▸ hsound) o.firstGap
  have hfound := hstrikes.sound (hclients ▸ hsound)
  refine .fewer (hclients ▸ hsound) (hclients ▸ List.Subset.refl _) (hstrikes.append ?_)
  cases pass.result with
  | none => exact .nil
  | some decision =>
    dsimp only [sendAdmitted]
    cases (passed.lapse o.firstGap).clients.addressOf? decision.entry.subject with
    | some address => exact .fewer hfound (List.Subset.refl _) .nil
    | none =>
      have hgap : Flow known _ _ known _ := flow_strikes hfound o.secondGap
      exact hgap.append (.fewer (hgap.sound hfound) (List.Subset.refl _) .nil)

end Stages

/-- The stages of an event lead from the hub before it to the hub after it. -/
theorem Sound.flow_stages {limit : Nat} {ids : List PlayerId} {h : Hub}
    (hs : Sound limit ids h) (known : List (Address × PlayerId)) (o : Occurrence) :
    Flow known h (h.stages o) (known ++ arrivals (h.step o).1) (h.step o).2 := by
  have hstep := (hs.step o).clients
  have hconnections := fun c hc => hs.connections_step o (c := c) hc
  rcases arrivals_step h o with hnone | ⟨address, version, id, hevent, hout⟩
  · -- Nobody arrives, so the connections can only become fewer on the way.
    have hsub : (h.step o).2.clients.connections ⊆ h.clients.connections := fun c hc =>
      (hconnections c hc).resolve_right (hnone ▸ List.not_mem_nil)
    rw [hnone, List.append_nil]
    cases hevent : o.event with
    | packet sender packet =>
      rw [stages, hevent]
      dsimp only
      split
      · next hlookup =>
        have hseen : (h.identify sender o.now []).2.clients.Sound := (hs.identify ..).clients
        -- Seen right after the look-up, and then through the checks that fall into the gap.
        have hgap : (h.identify sender o.now []).2.lapse o.firstGap =
            (h.identify sender o.now o.firstGap).2 := by
          rw [Hub.identify, Hub.identify]
          split <;> rfl
        obtain ⟨queue, pending, hafter⟩ :=
          handleAcross_of_looksUpSender h sender o.now o.firstGap hlookup
        refine .fewer hseen (connections_identify h sender o.now []).subset ?_
        refine (flow_strikes hseen o.firstGap).append (flow_quiet hstep _ ?_)
        rw [hgap, Hub.step, hevent]
        dsimp only
        rw [hafter]
        exact List.Subset.refl _
      · exact .fewer hstep hsub (flow_quiet hstep _ (List.Subset.refl _))
    | reconcile => exact flow_reconcile hs.clients hevent
    | _ =>
      rw [stages, hevent]
      exact flow_quiet hstep _ hsub
  · -- The player is there before the reply is put into the channel.
    have hsub : (h.step o).2.clients.connections ⊆ (address, id) :: h.clients.connections := by
      intro c hc
      rcases hconnections c hc with hold | hnew
      · exact List.mem_cons_of_mem _ hold
      · rw [hout] at hnew
        exact List.mem_cons.mpr (.inl (List.mem_singleton.mp hnew))
    have hstages : h.stages o = [⟨[], (h.step o).2⟩, ⟨(h.step o).1, (h.step o).2⟩] := by
      rw [stages, hevent]
      rfl
    rw [hstages, show arrivals (h.step o).1 = [(address, id)] from hout ▸ rfl]
    exact .arrival (address, id) hstep hsub (flow_quiet hstep _ (List.Subset.refl _))

theorem Sound.flow_history {limit : Nat} {ids : List PlayerId} {h : Hub}
    (hs : Sound limit ids h) (known : List (Address × PlayerId)) (run : List Occurrence) :
    Flow known h (h.history run) (known ++ arrivals (h.run run).1) (h.run run).2 := by
  induction run generalizing ids h known with
  | nil =>
    rw [show arrivals (h.run []).1 = [] from rfl, List.append_nil]
    exact .nil
  | cons o rest ih =>
    rw [history, run_cons, arrivals_append, ← List.append_assoc]
    exact (hs.flow_stages known o).append (ih (hs.step o) _)

/-! ## The result -/

theorem deliver?_toPlayer {h : Hub} (hsound : h.clients.Sound) {id : PlayerId}
    {packet packet' : Packet} {address : Address} :
    h.deliver? (.toPlayer id packet) = some (address, packet') ↔
      packet' = packet ∧ packet.fits = true ∧ (address, id) ∈ h.clients.connections := by
  rw [deliver?, Option.filter_eq_some_iff, Option.map_eq_some_iff]
  constructor
  · rintro ⟨⟨address', haddress, heq⟩, hfits⟩
    obtain ⟨rfl, rfl⟩ := Prod.mk.inj heq
    exact ⟨rfl, hfits, hsound.addressOf?_iff.mp haddress⟩
  · rintro ⟨rfl, hfits, hthere⟩
    exact ⟨⟨address, hsound.addressOf?_iff.mpr hthere, rfl⟩, hfits⟩

/-- **A packet for a player reaches that player or nobody**, whenever the sender gets to it. -/
theorem notices_reach_their_player (config : Config) (options : Options) (run : List Occurrence)
    (moves : List Move)
    (hmoves : moves.filterMap Move.stage? = (Hub.new config options).history run)
    (hfew : (issued ((Hub.new config options).run run).1).length < UInt32.size - 1) :
    let start := Hub.new config options
    let sender := Sender.start start
    ((sender.run moves).taken.map (·.1) ++ (sender.run moves).channel = (start.run run).1 ∧
      (sender.run moves).hub = (start.run run).2) ∧
    (∀ id address other, start.ConnectedFrom run id address → start.ConnectedFrom run id other →
      address = other) ∧
    ∀ first rest, moves = first ++ .send :: rest →
      ∀ id packet channel, (sender.run first).channel = .toPlayer id packet :: channel →
      ∃ sent, (sender.run (first ++ [.send])).taken =
          (sender.run first).taken ++ [(.toPlayer id packet, sent)] ∧
        (∀ address packet', sent = some (address, packet') ↔ packet' = packet ∧
          packet.fits = true ∧ id ∈ (sender.run first).hub.clients.ids ∧
          start.ConnectedFrom run id address) ∧
        ∀ earlier between later, first = earlier ++ between ++ later →
          id ∈ (sender.run earlier).hub.clients.ids →
          id ∉ (sender.run (earlier ++ between)).hub.clients.ids → sent = none := by
  intro start sender
  have hs := Sound.new config options
  have hflow := hs.flow_history [] run
  rw [List.nil_append] at hflow
  have hnodup : ((arrivals (start.run run).1).map (·.2)).Nodup :=
    nodup_arrivals config options run hfew
  have hunique : ∀ id address other, start.ConnectedFrom run id address →
      start.ConnectedFrom run id other → address = other := by
    intro id address other haddress hother
    rw [connectedFrom_iff] at haddress hother
    exact congrArg Prod.fst (List.inj_on_of_nodup_map hnodup haddress hother rfl)
  refine ⟨⟨?_, ?_⟩, hunique, ?_⟩
  · rw [sender.taken_run, hmoves]
    exact out_history start run
  · rw [sender.hub_run, hmoves]
    exact seenAfter_history start run
  intro first rest hsplit id packet channel hchannel
  have hfirst : (sender.run first).hub = start.seenAfter (first.filterMap Move.stage?) :=
    sender.hub_run first
  rw [← hmoves, hsplit, List.filterMap_append] at hflow
  -- The stages are cut where the sender takes the packet.
  obtain ⟨known, hbefore, hafter⟩ := hflow.split
  have hsound := hbefore.sound hs.clients
  have harrived := hbefore.connections_subset (List.nil_subset _)
  rw [← hfirst] at hsound harrived hbefore
  refine ⟨(sender.run first).hub.deliver? (.toPlayer id packet), ?_, ?_, ?_⟩
  · rw [Sender.run_append]
    show (Sender.move _ .send).taken = _
    rw [Sender.move, hchannel]
  · intro address packet'
    rw [deliver?_toPlayer hsound, connectedFrom_iff]
    refine and_congr_right fun _ => and_congr_right fun _ => ⟨fun hthere => ?_, ?_⟩
    · exact ⟨Clients.mem_ids_of_connection hthere, hafter.known_prefix.subset (harrived hthere)⟩
    · rintro ⟨hid, hconnected⟩
      rw [← Clients.map_snd_connections] at hid
      obtain ⟨⟨other, _⟩, hthere, rfl⟩ := List.mem_map.mp hid
      have hother := hafter.known_prefix.subset (harrived hthere)
      rw [List.inj_on_of_nodup_map hnodup hconnected hother rfl]
      exact hthere
  · rintro earlier between later rfl hseen hgone
    rw [sender.hub_run] at hseen hgone
    rw [List.filterMap_append] at hbefore hgone
    rw [List.filterMap_append] at hbefore
    have hout := hbefore.not_seen_again (List.nil_subset _)
      (hnodup.sublist (hafter.known_prefix.sublist.map _)) hseen hgone
    refine Option.eq_none_iff_forall_ne_some.mpr fun ⟨address, packet'⟩ hsent => hout ?_
    exact Clients.mem_ids_of_connection ((deliver?_toPlayer hsound).mp hsent).2.2

/-- A player joins twice, falls silent and connects again from the same address. The sender gets to
the first notice before the silence, and to the second one after the new connection. -/
theorem notices_reach_their_player_of_reconnected :
    let config : Config := ⟨[], default, default, default⟩
    let player : Address := ⟨.v4 10 0 0 9, 4000⟩
    let early : Moment := ⟨0, ⟨0⟩⟩
    let late : Moment := ⟨20000, ⟨20_000_000_000⟩⟩
    let run := [.plain early (.packet player (.connect protocolVersion)),
      .plain early (.packet player (.joinQueue "lobby" .player)),
      .plain early (.packet player (.joinQueue "lobby" .player)),
      .plain late .checkClients, .plain late (.packet player (.connect protocolVersion))]
    let start := Hub.new config default
    let stages := (start.history run).map Move.stage
    let earlier := stages.take 6 ++ [.send, .send]
    let first := earlier ++ stages.drop 6
    let sender := Sender.start start
    let notice := Packet.notice (Notice.joined "lobby" none)
    (sender.run earlier).taken = [(.toAddress player (.connected 1), some (player, .connected 1)),
        (.toPlayer 1 notice, some (player, notice))] ∧
      (sender.run first).channel = [.toPlayer 1 notice, .toAddress player (.connected 2)] ∧
      (sender.run first).hub.clients.find? player = some 2 ∧
      (sender.run (first ++ [.send])).taken =
        (sender.run first).taken ++ [(.toPlayer 1 notice, none)] := by
  intro config player early late run start stages earlier first sender notice
  have hmoves : (first ++ [Move.send]).filterMap Move.stage? = start.history run := by
    decide +kernel
  have hchannel : (sender.run first).channel =
      [.toPlayer 1 notice, .toAddress player (.connected 2)] := by decide +kernel
  obtain ⟨-, -, hsent⟩ := notices_reach_their_player config default run (first ++ [.send]) hmoves
    (by decide +kernel)
  obtain ⟨sent, htaken, -, hdropped⟩ := hsent first [] rfl 1 notice _ hchannel
  have hnone : sent = none :=
    hdropped earlier ((stages.drop 6).take 1) ((stages.drop 6).drop 1)
      (by rw [List.append_assoc, List.take_append_drop]) (by decide +kernel) (by decide +kernel)
  exact ⟨by decide +kernel, hchannel, by decide +kernel, hnone ▸ htaken⟩

end Hub

end GameHub
