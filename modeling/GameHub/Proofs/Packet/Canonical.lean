import GameHub.Packet.Wire
import GameHub.Proofs.Wire.Canonical

/-!
# Which bytes stand for a packet

**Theorem (`decode_canonical`).** A packet that was read from arbitrary bytes is written again in no
more bytes, from which it is read back. Except for snapshots they are the same bytes, so a packet
has one datagram and no other. A snapshot is written in the same bytes exactly if the keys of both
its maps stood there in ascending order: a map forgets the order of its entries and, of entries with
one key, all but the last.

What stands in the bytes of a snapshot is its `Listing`, in which the maps are still lists of
entries.
-/

namespace GameHub

open Wire

/-! ## Parts of packets -/

theorem Rank.canonical_codec : codec.Canonical := by
  intro bytes r rest h
  obtain ⟨i, middle, hi, htakes, h⟩ := Codec.variant_bind_eq_ok h
  match i, hi, h with
  | 0, _, h | 1, _, h | 2, _, h | 3, _, h | 4, _, h =>
    cases h
    exact htakes.then_pure rfl

namespace Restart

theorem RequestStatus.canonical_codec : codec.Canonical := by
  intro bytes s rest h
  obtain ⟨i, middle, hi, htakes, h⟩ := Codec.variant_bind_eq_ok h
  match i, hi, h with
  | 0, _, h | 1, _, h | 2, _, h =>
    cases h
    exact htakes.then_pure rfl

theorem Request.canonical_codec : Request.codec.Canonical := by
  intro bytes r rest h
  obtain ⟨server, _, hserver, h⟩ := Codec.canonical_text.bind_eq_ok h
  obtain ⟨requestTime, _, hrequest, h⟩ := Codec.canonical_u64.bind_eq_ok h
  obtain ⟨lastRetry, _, hretry, h⟩ := Codec.canonical_u64.bind_eq_ok h
  obtain ⟨retries, _, hretries, h⟩ := Codec.canonical_u32.bind_eq_ok h
  obtain ⟨status, _, hstatus, h⟩ := RequestStatus.canonical_codec.bind_eq_ok h
  cases h
  show Takes _ _ (_ ++ _ ++ _ ++ _ ++ _) _ _
  simp only [List.append_assoc]
  exact hserver.bind <| hrequest.bind <| hretry.bind <| hretries.bind <| hstatus.then_pure rfl

theorem Decision.canonical_codec : Decision.codec.Canonical := by
  intro bytes d rest h
  obtain ⟨i, middle, hi, htakes, h⟩ := Codec.variant_bind_eq_ok h
  match i, hi, h with
  | 0, _, h =>
    cases h
    exact htakes.then_pure rfl
  | 1, _, h =>
    obtain ⟨retryAfter, _, hretry, h⟩ := Codec.canonical_u64.bind_eq_ok h
    obtain ⟨position, _, hposition, h⟩ :=
      (Codec.canonical_option Codec.canonical_u64).bind_eq_ok h
    obtain ⟨reason, _, hreason, h⟩ := Codec.canonical_text.bind_eq_ok h
    cases h
    show Takes _ _ (_ ++ _ ++ _ ++ _) _ _
    simp only [List.append_assoc]
    exact htakes.bind <| hretry.bind <| hposition.bind <| hreason.then_pure rfl
  | 2, _, h =>
    obtain ⟨reason, _, hreason, h⟩ := Codec.canonical_text.bind_eq_ok h
    cases h
    exact htakes.bind (hreason.then_pure rfl)

/-! ## Snapshots -/

/-- A restart state as it stands in bytes: the entries of its maps in their order, with every entry
of a key that comes twice. -/
structure Listing where
  holder : Option String
  backlog : List Request
  history : List (String × UInt64)
  unauthorized : List (String × List UInt64)
  deriving DecidableEq

namespace Listing

/-- Reads a restart state and leaves its maps as they are listed. -/
def read : Reader Listing := return {
  holder := ← (Codec.option Codec.text).decode
  backlog := ← (Codec.list Request.codec).decode
  history := ← (Codec.list (Codec.pair Codec.text Codec.u64)).decode
  unauthorized := ← (Codec.list (Codec.pair Codec.text (Codec.list Codec.u64))).decode }

/-- The bytes in which a listing stands. -/
def bytes (l : Listing) : List UInt8 :=
  (Codec.option Codec.text).encode l.holder ++ (Codec.list Request.codec).encode l.backlog ++
    (Codec.list (Codec.pair Codec.text Codec.u64)).encode l.history ++
    (Codec.list (Codec.pair Codec.text (Codec.list Codec.u64))).encode l.unauthorized

/-- The restart state: of entries with one key the last counts. -/
def state (l : Listing) : State :=
  ⟨l.holder, l.backlog, .ofList l.history, .ofList l.unauthorized⟩

/-- The keys of both maps ascend. -/
structure Ascending (l : Listing) : Prop where
  history : NameMap.Ascending l.history
  unauthorized : NameMap.Ascending l.unauthorized

instance (l : Listing) : Decidable l.Ascending :=
  decidable_of_iff (NameMap.Ascending l.history ∧ NameMap.Ascending l.unauthorized)
    ⟨fun h => ⟨h.1, h.2⟩, fun h => ⟨h.1, h.2⟩⟩

end Listing

/-- Two parts that are written in no more bytes each take the same bytes only if both do. -/
theorem append_eq_iff_of_length_le {a b a' b' : List UInt8} (ha : a.length ≤ a'.length)
    (hb : b.length ≤ b'.length) : a ++ b = a' ++ b' ↔ a = a' ∧ b = b' := by
  constructor
  · intro h
    have hlength := congrArg List.length h
    rw [List.length_append, List.length_append] at hlength
    exact List.append_inj h (by omega)
  · rintro ⟨rfl, rfl⟩
    rfl

theorem State.decode_eq_ok {bytes rest : List UInt8} {s : State}
    (h : State.codec.decode bytes = .ok (s, rest)) :
    ∃ l, Listing.read bytes = .ok (l, rest) ∧ s = l.state ∧ bytes = l.bytes ++ rest ∧
      Codec.Rewrites State.codec l.bytes s l.Ascending := by
  obtain ⟨holder, _, hholder, h⟩ := (Codec.canonical_option Codec.canonical_text).bind_eq_ok h
  obtain ⟨backlog, _, hbacklog, h⟩ := (Codec.canonical_list Request.canonical_codec).bind_eq_ok h
  obtain ⟨history, _, hhistory, h⟩ := bind_eq_ok h
  obtain ⟨unauthorized, _, hunauthorized, h⟩ := bind_eq_ok h
  cases h
  obtain ⟨listed, rfl, hlisted, hsplit, hagain⟩ :=
    Codec.nameMap_eq_ok Codec.canonical_u64 hhistory
  obtain ⟨audits, rfl, haudits, hsplit', hagain'⟩ :=
    Codec.nameMap_eq_ok (Codec.canonical_list Codec.canonical_u64) hunauthorized
  refine ⟨⟨holder, backlog, listed, audits⟩, ?_, rfl, ?_, ?_, ?_, ?_⟩
  · exact (bind_of_ok hholder.eq_ok).trans <| (bind_of_ok hbacklog.eq_ok).trans <|
      (bind_of_ok hlisted).trans (bind_of_ok haudits)
  · rw [hholder.split, hbacklog.split, hsplit, hsplit']
    simp only [Listing.bytes, List.append_assoc]
  · show Reads _ (_ ++ _ ++ _ ++ _) _
    simp only [List.append_assoc]
    exact hholder.reads.bind <| hbacklog.reads.bind <| hagain.reads.bind <|
      hagain'.reads.then_pure rfl
  · -- Only the maps can be written shorter than they were read.
    have := hagain.length_le
    have := hagain'.length_le
    simp only [State.codec, Listing.bytes, List.length_append]
    omega
  · show _ ++ _ ++ _ ++ _ = _ ++ _ ++ _ ++ _ ↔ _
    -- Neither map can make up for the other one, since neither becomes longer.
    rw [List.append_assoc, List.append_assoc (_ ++ _), List.append_cancel_left_eq,
      append_eq_iff_of_length_le hagain.length_le hagain'.length_le, hagain.eq_iff, hagain'.eq_iff]
    exact ⟨fun h => ⟨h.1, h.2⟩, fun h => ⟨h.1, h.2⟩⟩

end Restart

/-! ## Packets -/

namespace Packet

variable {bytes rest : List UInt8} {p : Packet}

/-- What stands in a datagram of a snapshot. -/
def listing? (datagram : List UInt8) : Option Restart.Listing :=
  match (Codec.variant 23).decode datagram with
  | .ok (kind, fields) =>
    if kind = 21 then (Restart.Listing.read fields).toOption.map (·.1) else none
  | .error _ => none

/-- The one field of many kinds of packets is a text. -/
theorem takes_text {kind : Nat} (make : String → Packet)
    (hread : decodeFields kind = Codec.text.decode >>= fun s => return make s)
    (hkind : ∀ s, (make s).kind = kind) (hwrite : ∀ s, (make s).encodeFields = Codec.text.encode s)
    (h : decodeFields kind bytes = .ok (p, rest)) :
    p.kind = kind ∧ Takes (decodeFields kind) bytes p.encodeFields rest p := by
  rw [hread] at h ⊢
  obtain ⟨s, _, hs, h⟩ := Codec.canonical_text.bind_eq_ok h
  cases h
  rw [hwrite]
  exact ⟨hkind s, hs.then_pure rfl⟩

/-- Fields without maps are read from the bytes in which they are written. -/
theorem takes_fields {kind : Nat} (hkind : kind < 23) (hplain : kind ≠ 21)
    (h : decodeFields kind bytes = .ok (p, rest)) :
    p.kind = kind ∧ Takes (decodeFields kind) bytes p.encodeFields rest p := by
  -- Each kind reads its fields in the order in which they are written.
  match kind, hkind, hplain, h with
  | 0, _, _, h | 7, _, _, h =>
    obtain ⟨n, _, hn, h⟩ := Codec.canonical_u32.bind_eq_ok h
    cases h
    exact ⟨rfl, hn.then_pure rfl⟩
  | 1, _, _, h =>
    obtain ⟨target, _, htarget, h⟩ := Codec.canonical_text.bind_eq_ok h
    obtain ⟨rank, _, hrank, h⟩ := Rank.canonical_codec.bind_eq_ok h
    cases h
    exact ⟨rfl, htarget.bind (hrank.then_pure rfl)⟩
  | 2, _, _, h | 3, _, _, h | 5, _, _, h | 6, _, _, h | 11, _, _, h | 18, _, _, h =>
    cases h
    exact ⟨rfl, .pure _ _⟩
  | 4, _, _, h => exact takes_text transferFailed rfl (fun _ => rfl) (fun _ => rfl) h
  | 8, _, _, h =>
    obtain ⟨position, _, hposition, h⟩ :=
      (Codec.canonical_option Codec.canonical_u64).bind_eq_ok h
    obtain ⟨size, _, hsize, h⟩ := Codec.canonical_u64.bind_eq_ok h
    cases h
    exact ⟨rfl, hposition.bind (hsize.then_pure rfl)⟩
  | 9, _, _, h => exact takes_text notice rfl (fun _ => rfl) (fun _ => rfl) h
  | 10, _, _, h => exact takes_text progress rfl (fun _ => rfl) (fun _ => rfl) h
  | 12, _, _, h =>
    obtain ⟨backend, _, hbackend, h⟩ := Codec.canonical_text.bind_eq_ok h
    obtain ⟨address, _, haddress, h⟩ := Codec.canonical_text.bind_eq_ok h
    cases h
    exact ⟨rfl, hbackend.bind (haddress.then_pure rfl)⟩
  | 13, _, _, h => exact takes_text disconnected rfl (fun _ => rfl) (fun _ => rfl) h
  | 14, _, _, h =>
    obtain ⟨server, _, hserver, h⟩ := Codec.canonical_text.bind_eq_ok h
    obtain ⟨current, _, hcurrent, h⟩ := Codec.canonical_u32.bind_eq_ok h
    obtain ⟨max, _, hmax, h⟩ := Codec.canonical_u32.bind_eq_ok h
    cases h
    refine ⟨rfl, ?_⟩
    show Takes _ _ (_ ++ _ ++ _) _ _
    rw [List.append_assoc]
    exact hserver.bind <| hcurrent.bind <| hmax.then_pure rfl
  | 15, _, _, h => exact takes_text restartRequest rfl (fun _ => rfl) (fun _ => rfl) h
  | 16, _, _, h => exact takes_text restartComplete rfl (fun _ => rfl) (fun _ => rfl) h
  | 17, _, _, h => exact takes_text unauthorizedRestart rfl (fun _ => rfl) (fun _ => rfl) h
  | 19, _, _, h =>
    obtain ⟨server, _, hserver, h⟩ := Codec.canonical_text.bind_eq_ok h
    obtain ⟨decision, _, hdecision, h⟩ := Restart.Decision.canonical_codec.bind_eq_ok h
    cases h
    exact ⟨rfl, hserver.bind (hdecision.then_pure rfl)⟩
  | 20, _, _, h =>
    obtain ⟨server, _, hserver, h⟩ := Codec.canonical_text.bind_eq_ok h
    obtain ⟨accepted, _, haccepted, h⟩ := Codec.canonical_bool.bind_eq_ok h
    obtain ⟨reason, _, hreason, h⟩ := (Codec.canonical_option Codec.canonical_text).bind_eq_ok h
    cases h
    refine ⟨rfl, ?_⟩
    show Takes _ _ (_ ++ _ ++ _) _ _
    rw [List.append_assoc]
    exact hserver.bind <| haccepted.bind <| hreason.then_pure rfl
  | 22, _, _, h => exact takes_text stateUnavailable rfl (fun _ => rfl) (fun _ => rfl) h
  | _ + 23, hkind, _, _ => omega

theorem decode_eq_ok (h : codec.decode bytes = .ok (p, rest)) :
    ∃ used, bytes = used ++ rest ∧
      Codec.Rewrites codec used p (∀ l ∈ listing? bytes, l.Ascending) ∧
      ((∃ l, listing? bytes = some l ∧ p = stateSnapshot l.state) ∨
        (p.encode = used ∧ ∀ state, p ≠ stateSnapshot state)) := by
  obtain ⟨kind, fields, hlt, hkind, h⟩ := Codec.variant_bind_eq_ok h
  by_cases hsnapshot : kind = 21
  · subst hsnapshot
    obtain ⟨state, _, hstate, h⟩ := bind_eq_ok h
    cases h
    obtain ⟨l, hl, rfl, hsplit, hagain⟩ := Restart.State.decode_eq_ok hstate
    -- The one packet with maps in it.
    have hlisting : listing? bytes = some l := by
      rw [listing?, hkind.eq_ok]
      exact (if_pos rfl).trans (by rw [hl]; rfl)
    refine ⟨(Codec.variant 23).encode 21 ++ l.bytes, ?_, ⟨?_, ?_, ?_⟩, .inl ⟨l, hlisting, rfl⟩⟩
    · rw [hkind.split, hsplit, List.append_assoc]
    · exact hkind.reads.bind (hagain.reads.then_pure rfl)
    · show ((Codec.variant 23).encode 21 ++ Restart.State.codec.encode l.state).length ≤ _
      rw [List.length_append, List.length_append]
      exact Nat.add_le_add_left hagain.length_le _
    · show (Codec.variant 23).encode 21 ++ Restart.State.codec.encode l.state = _ ↔ _
      rw [List.append_cancel_left_eq, hagain.eq_iff, hlisting]
      simp
  · obtain ⟨rfl, hfields⟩ := takes_fields hlt hsnapshot h
    have hnone : listing? bytes = none := by
      rw [listing?, hkind.eq_ok]
      exact if_neg hsnapshot
    have htakes := hkind.bind hfields
    refine ⟨p.encode, htakes.split, ⟨htakes.reads, Nat.le_refl _, ?_⟩, .inr ⟨rfl, ?_⟩⟩
    · exact iff_of_true rfl (by simp [hnone])
    · rintro state rfl
      exact hsnapshot rfl

/-- A packet without maps is read from no other bytes than those that it is written in. -/
theorem eq_encode_of_decode (h : codec.decode bytes = .ok (p, rest))
    (hplain : ∀ state, p ≠ stateSnapshot state) : bytes = p.encode ++ rest := by
  obtain ⟨used, hsplit, -, ⟨l, -, hstate⟩ | ⟨rfl, -⟩⟩ := decode_eq_ok h
  · exact absurd hstate (hplain l.state)
  · exact hsplit

/-- **Bytes are what would have been written, but for the order in maps.** Whatever bytes a packet
is read from, it is written again in no more bytes, and read back from them. They are the same bytes
exactly if the keys of all maps ascended; a packet without maps is read from no others. -/
theorem decode_canonical (h : codec.decode bytes = .ok (p, rest)) :
    ∃ used, bytes = used ++ rest ∧ p.encode.length ≤ used.length ∧
      (∀ tail, codec.decode (p.encode ++ tail) = .ok (p, tail)) ∧
      (p.encode = used ↔ ∀ l ∈ listing? bytes, l.Ascending) ∧
      (∀ state, p = stateSnapshot state → ∃ l, listing? bytes = some l ∧ state = l.state) ∧
      ((∀ state, p ≠ stateSnapshot state) → p.encode = used ∧
        ∀ other tail, codec.decode other = .ok (p, tail) → other = used ++ tail) := by
  obtain ⟨used, hsplit, hagain, hkind⟩ := decode_eq_ok h
  refine ⟨used, hsplit, hagain.length_le, hagain.reads.whole, hagain.eq_iff, ?_, ?_⟩
  · rintro state rfl
    rcases hkind with ⟨l, hl, hstate⟩ | ⟨-, hplain⟩
    · exact ⟨l, hl, stateSnapshot.inj hstate⟩
    · exact absurd rfl (hplain state)
  · intro hplain
    have hused : p.encode = used :=
      List.append_cancel_right ((eq_encode_of_decode h hplain).symm.trans hsplit)
    exact ⟨hused, fun other tail hother => hused ▸ eq_encode_of_decode hother hplain⟩

/-- A snapshot whose history names a backend twice, with a byte behind it. -/
theorem decode_canonical_of_repeated :
    let l : Restart.Listing := ⟨some "rot", [], [("rot", 1), ("grün", 2), ("rot", 3)], []⟩
    let used := (Codec.variant 23).encode 21 ++ l.bytes
    let p := stateSnapshot l.state
    codec.decode (used ++ [0xFF]) = .ok (p, [0xFF]) ∧ listing? (used ++ [0xFF]) = some l ∧
      ¬l.Ascending ∧ p.encode ≠ used ∧ p.encode.length ≤ used.length ∧
      codec.decode (p.encode ++ [0xFF]) = .ok (p, [0xFF]) := by
  intro l used p
  have h : codec.decode (used ++ [0xFF]) = .ok (p, [0xFF]) := by decide +kernel
  have hl : listing? (used ++ [0xFF]) = some l := by decide +kernel
  have hkeys : ¬l.Ascending := by decide
  obtain ⟨front, hsplit, hle, hback, hiff, -⟩ := decode_canonical h
  obtain rfl := List.append_cancel_right hsplit
  exact ⟨h, hl, hkeys, fun hsame => hkeys (hiff.mp hsame l hl), hle, hback [0xFF]⟩

end Packet

end GameHub
