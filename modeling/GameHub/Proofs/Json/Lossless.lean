import GameHub.Config.File
import GameHub.Proofs.Json.Forms
import GameHub.Proofs.Json.Reading

/-!
# States and configurations survive their texts

A restart state is written for people who inspect the hub, and a configuration is kept in a file.
Whoever reads such a text gets back what was written, whatever names and numbers it holds and in
either layout (`Json.texts_lossless`).

For each record it is enough that its view recovers its form; the way through the text is the same
for all of them (`Json.Recovers.compact` and `Json.Recovers.pretty`).
-/

namespace GameHub

open Json Backend

/-! ## Restart states -/

namespace Restart

theorem RequestStatus.mem_all (status : RequestStatus) : status ∈ all := by
  cases status <;> decide

theorem RequestStatus.tag_inj (a b : RequestStatus) (h : a.tag = b.tag) : a = b := by
  cases a <;> cases b <;> first | rfl | exact absurd h (by decide)

theorem recovers_status : Recovers RequestStatus.ofJson? fun status => .case status.tag [] :=
  recovers_tag RequestStatus.mem_all RequestStatus.tag_inj

theorem recovers_time : Recovers asUInt64? timeForm := recovers_uint64

theorem recovers_request : Recovers Request.ofJson? Request.form := by
  intro r
  rw [Request.ofJson?, Request.form, slots?_record _ (by rfl) (by decide)]
  simp [Slot.required, recovers_text r.server, recovers_uint64 r.requestTime,
    recovers_uint64 r.lastRetry, recovers_uint32 r.retries, recovers_status r.status]

theorem recovers_state : Recovers State.ofJson? State.form := by
  intro s
  have hholder := recovers_text.option (fun _ => Json.noConfusion) s.holder
  have hbacklog := recovers_request.list s.backlog
  have hhistory := recovers_time.map s.history
  have hunauthorized := recovers_time.list.map s.unauthorized
  rw [State.ofJson?, State.form, slots?_record _ (by rfl) (by decide)]
  simp [Slot.required, Slot.nullable, hholder, hbacklog, hhistory, hunauthorized]

end Restart

/-! ## Configurations -/

theorem recovers_rank : Recovers Rank.ofJson? Rank.form :=
  recovers_tag Rank.mem_all fun a b h => by
    cases a <;> cases b <;> first | rfl | exact absurd h (by decide)

theorem recovers_declaration : Recovers Declaration.ofJson? Declaration.form := by
  intro d
  have hname := recovers_text.option (fun _ => Json.noConfusion) d.displayName
  have hicon := recovers_text.option (fun _ => Json.noConfusion) d.icon
  rw [Declaration.ofJson?, Declaration.form, slots?_record _ (by rfl) (by decide)]
  simp [Slot.required, Slot.withDefault, recovers_text d.id, recovers_text d.address, hname, hicon]

theorem recovers_policy : Recovers Admission.Policy.ofJson? Admission.Policy.form := by
  intro p
  rw [Admission.Policy.ofJson?, Admission.Policy.form, slots?_record _ (by rfl) (by decide)]
  simp [Slot.withDefault, recovers_uint32 p.reservedSlots, recovers_rank p.adminThreshold]

namespace Config

theorem recovers_restart : Recovers RestartSettings.ofJson? RestartSettings.form := by
  intro s
  rw [RestartSettings.ofJson?, RestartSettings.form, slots?_record _ (by rfl) (by decide)]
  simp [Slot.withDefault, recovers_uint64 s.cooldown, recovers_uint64 s.backoff,
    recovers_uint64 s.queueTimeout, recovers_uint64 s.maxRestart, recovers_uint64 s.sweepInterval,
    recovers_truth s.restrictToBackends]

theorem recovers_health : Recovers HealthSettings.ofJson? HealthSettings.form := by
  intro s
  rw [HealthSettings.ofJson?, HealthSettings.form, slots?_record _ (by rfl) (by decide)]
  simp [Slot.withDefault, recovers_uint64 s.reportTimeout, recovers_uint32 s.failureThreshold,
    recovers_uint64 s.checkInterval]

theorem recovers_config : Recovers Config.ofJson? Config.form := by
  intro c
  have hbackends := recovers_declaration.list c.backends
  rw [Config.ofJson?, Config.form, slots?_record _ (by rfl) (by decide)]
  simp [Slot.required, Slot.withDefault, hbackends, recovers_policy c.admission,
    recovers_restart c.restart, recovers_health c.health]

end Config

/-! ## Texts -/

namespace Json

variable {α : Type} {view : Json → Option α} {form : α → Form}

theorem Recovers.compact (h : Recovers view form) (a : α) :
    (ofText? (form a).toJson.compact).bind view = some a := by
  rw [ofText?_compact (form a).legible_toJson, Option.bind_some, h a]

theorem Recovers.pretty (h : Recovers view form) (a : α) :
    (ofText? (form a).toJson.pretty).bind view = some a := by
  rw [ofText?_pretty (form a).legible_toJson, Option.bind_some, h a]

/-- A restart state is read back from either of its texts, and so is a configuration without
defects. -/
theorem texts_lossless :
    (∀ s : Restart.State,
      Restart.State.ofText? s.pretty = some s ∧
        Restart.State.ofText? s.form.toJson.compact = some s) ∧
      ∀ c : Config, c.defect? = none →
        Config.ofText c.form.toJson.compact = .ok c ∧
          Config.ofText c.form.toJson.pretty = .ok c := by
  refine ⟨fun s => ⟨Restart.recovers_state.pretty s, Restart.recovers_state.compact s⟩,
    fun c hc => ⟨?_, ?_⟩⟩
  · simp only [Config.ofText, Config.recovers_config.compact c, hc]
  · simp only [Config.ofText, Config.recovers_config.pretty c, hc]

/-- A state and a configuration whose names are full of quotes, backslashes and controls, with the
greatest numbers there are. -/
theorem texts_lossless_of_controls :
    let s : Restart.State := {
      holder := some "\"\\\x00\n\x1f\x7f"
      backlog := [⟨"", 0xFFFFFFFFFFFFFFFF, 0, 0xFFFFFFFF, .deny⟩, .first "\x08é😀" 1]
      history := NameMap.ofList [("\t", 0xFFFFFFFFFFFFFFFF), ("", 0)]
      unauthorized := NameMap.ofList [("[]", []), ("null", [1, 10])] }
    let c : Config := {
      (default : Config) with
      backends := [⟨"\"", some "\\u0041", "\x0c:1", none⟩, ⟨"a", none, "b", some "\r"⟩] }
    Restart.State.ofText? s.pretty = some s ∧ c.defect? = none ∧
      Config.ofText c.form.toJson.pretty = .ok c := by
  intro s c
  have hc : c.defect? = none := by decide
  exact ⟨(texts_lossless.1 s).1, hc, (texts_lossless.2 c hc).2⟩

end Json

end GameHub
