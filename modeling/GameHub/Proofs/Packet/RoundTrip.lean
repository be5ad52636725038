import GameHub.Packet.Wire
import GameHub.Proofs.Wire.Reads

/-!
# Packets come back from their datagrams

**Theorem (`decode_datagram`).** A packet is read back from its datagram, whatever follows it, and a
datagram that was cut short is never read as a packet: the reader runs out of bytes.

Both are read off `Reads`. Each field is read from the bytes that its codec wrote, and the index in
front of the fields says which reader is the right one.
-/

namespace GameHub

open Wire

/-! ## Parts of packets -/

theorem Rank.reads_codec (r : Rank) : Reads codec.decode (codec.encode r) r := by
  have hlevel : r.level < 5 := by cases r <;> decide
  refine (Codec.reads_variant hlevel (by decide)).then_pure ?_
  cases r <;> rfl

namespace Restart

theorem RequestStatus.reads_codec (s : RequestStatus) :
    Reads codec.decode (codec.encode s) s := by
  cases s with
  | wait => exact (Codec.reads_variant (i := 0) (by decide) (by decide)).then_pure rfl
  | allow => exact (Codec.reads_variant (i := 1) (by decide) (by decide)).then_pure rfl
  | deny => exact (Codec.reads_variant (i := 2) (by decide) (by decide)).then_pure rfl

theorem Request.sound_codec : Request.codec.Sound := by
  intro r hsize
  change Codec.text.size r.server + 8 + 8 + 4 + 4 < UInt64.size at hsize
  have hserver := Codec.sound_text r.server (by omega)
  show Reads codec.decode (_ ++ _ ++ _ ++ _ ++ _) r
  simp only [List.append_assoc]
  exact hserver.bind <| (Codec.reads_u64 _).bind <| (Codec.reads_u64 _).bind <|
    (Codec.reads_u32 _).bind <| (RequestStatus.reads_codec _).then_pure rfl

theorem State.sound_codec : State.codec.Sound := by
  intro s hsize
  change (Codec.option Codec.text).size s.holder + (Codec.list Request.codec).size s.backlog +
    (Codec.nameMap Codec.u64).size s.history +
    (Codec.nameMap (Codec.list Codec.u64)).size s.unauthorized < UInt64.size at hsize
  have hbyte : ∀ n, 0 < Codec.u64.size n := fun _ => Nat.zero_lt_succ 7
  have hrequest : ∀ r, 0 < Request.codec.size r := fun r => Nat.zero_lt_succ _
  have hholder := Codec.sound_option Codec.sound_text s.holder (by omega)
  have hbacklog := Codec.sound_list Request.sound_codec hrequest s.backlog (by omega)
  have hhistory := Codec.sound_nameMap Codec.sound_u64 s.history (by omega)
  have haudits := Codec.sound_nameMap (Codec.sound_list Codec.sound_u64 hbyte) s.unauthorized
    (by omega)
  show Reads codec.decode (_ ++ _ ++ _ ++ _) s
  simp only [List.append_assoc]
  exact hholder.bind <| hbacklog.bind <| hhistory.bind <| haudits.then_pure rfl

theorem Decision.sound_codec : Decision.codec.Sound := by
  intro d hsize
  cases d with
  | allow => exact (Codec.reads_variant (i := 0) (by decide) (by decide)).then_pure rfl
  | wait retryAfter position reason =>
    change 4 + 8 + (Codec.option Codec.u64).size position + Codec.text.size reason <
      UInt64.size at hsize
    have hposition := Codec.sound_option Codec.sound_u64 position (by omega)
    have hreason := Codec.sound_text reason (by omega)
    show Reads codec.decode (_ ++ _ ++ _ ++ _) _
    simp only [List.append_assoc]
    exact (Codec.reads_variant (i := 1) (by decide) (by decide)).bind <|
      (Codec.reads_u64 _).bind <| hposition.bind <| hreason.then_pure rfl
  | deny reason =>
    change 4 + Codec.text.size reason < UInt64.size at hsize
    have hreason := Codec.sound_text reason (by omega)
    exact (Codec.reads_variant (i := 2) (by decide) (by decide)).bind (hreason.then_pure rfl)

end Restart

/-! ## Packets -/

namespace Packet

theorem reads_fields (p : Packet) (hsize : p.fieldsSize < UInt64.size) :
    Reads (decodeFields p.kind) p.encodeFields p := by
  -- Only texts and what contains them can be too long; the other fields have a fixed size.
  cases p with
  | connect version => exact (Codec.reads_u32 version).then_pure rfl
  | joinQueue target rank =>
    change Codec.text.size target + 4 < UInt64.size at hsize
    exact (Codec.sound_text target (by omega)).bind ((Rank.reads_codec rank).then_pure rfl)
  | connected id => exact (Codec.reads_u32 id).then_pure rfl
  | queuePosition position size =>
    change (Codec.option Codec.u64).size position + 8 < UInt64.size at hsize
    have hposition := Codec.sound_option Codec.sound_u64 position (by omega)
    exact hposition.bind ((Codec.reads_u64 size).then_pure rfl)
  | transfer backend address =>
    change Codec.text.size backend + Codec.text.size address < UInt64.size at hsize
    have hbackend := Codec.sound_text backend (by omega)
    exact hbackend.bind ((Codec.sound_text address (by omega)).then_pure rfl)
  | statusReport server current max =>
    change Codec.text.size server + 4 + 4 < UInt64.size at hsize
    show Reads _ (_ ++ _ ++ _) _
    simp only [List.append_assoc]
    exact (Codec.sound_text server (by omega)).bind <| (Codec.reads_u32 current).bind <|
      (Codec.reads_u32 max).then_pure rfl
  | restartResponse server decision =>
    change Codec.text.size server + Restart.Decision.codec.size decision < UInt64.size at hsize
    have hdecision := Restart.Decision.sound_codec decision (by omega)
    exact (Codec.sound_text server (by omega)).bind (hdecision.then_pure rfl)
  | restartAck server accepted reason =>
    change Codec.text.size server + 1 + (Codec.option Codec.text).size reason < UInt64.size at hsize
    have hreason := Codec.sound_option Codec.sound_text reason (by omega)
    show Reads _ (_ ++ _ ++ _) _
    simp only [List.append_assoc]
    exact (Codec.sound_text server (by omega)).bind <| (Codec.reads_bool accepted).bind <|
      hreason.then_pure rfl
  | stateSnapshot state => exact (Restart.State.sound_codec state hsize).then_pure rfl
  | transferFailed s | notice s | progress s | disconnected s | restartRequest s | restartComplete s
  | unauthorizedRestart s | stateUnavailable s => exact (Codec.sound_text s hsize).then_pure rfl
  | leaveQueue | queryPosition | heartbeat | disconnect | clearProgress | stateQuery =>
    exact .pure _

theorem kind_lt (p : Packet) : p.kind < 23 := by
  cases p <;> simp [kind]

theorem sound_codec : codec.Sound := by
  intro p hsize
  have hfields := p.reads_fields (Nat.lt_of_le_of_lt (Nat.le_add_left _ 4) hsize)
  exact (Codec.reads_variant p.kind_lt (by decide)).bind hfields

/-- **Packets come back.** A packet is read back from its datagram with anything behind it, and a
proper beginning of its datagram holds no packet at all. The limit of 2⁶⁴ bytes is that of a byte
string in memory. -/
theorem decode_datagram (p : Packet) (hsize : p.encode.length < UInt64.size) :
    (∀ rest, Packet.decode (p.encode ++ rest) = .ok p) ∧
      ∀ front, front <+: p.encode → front ≠ p.encode →
        Packet.decode front = .error .outOfBytes := by
  rw [length_encode] at hsize
  have hreads := sound_codec p hsize
  refine ⟨fun rest => ?_, fun front hpre hne => ?_⟩
  · exact congrArg (Except.map Prod.fst) (hreads.whole rest)
  · exact congrArg (Except.map Prod.fst) (hreads.cut front hpre hne)

/-- A snapshot with a backlog and both maps, once with a byte behind it and once cut in a text. -/
theorem decode_datagram_of_snapshot :
    let p := stateSnapshot ⟨some "rot", [.first "grün" 7], .ofList [("rot", 5), ("grün", 6)],
      .ofList [("rot", [3, 4])]⟩
    let front := p.encode.take 34
    p.encode.length < UInt64.size ∧ front <+: p.encode ∧ front ≠ p.encode ∧
      Packet.decode (p.encode ++ [0xFF]) = .ok p ∧
      Packet.decode front = .error .outOfBytes := by
  intro p front
  have hsize : p.encode.length < UInt64.size := by decide +kernel
  have hpre : front <+: p.encode := List.take_prefix 34 _
  have hne : front ≠ p.encode := by decide +kernel
  obtain ⟨hwhole, hcut⟩ := decode_datagram p hsize
  exact ⟨hsize, hpre, hne, hwhole [0xFF], hcut front hpre hne⟩

end Packet

end GameHub
