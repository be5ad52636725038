import GameHub.Agent.Report
import GameHub.Proofs.Agent.Stream
import GameHub.Proofs.Text.Counts
import GameHub.Proofs.Wire.Utf8

/-!
# Reports of a count in a file

A backend keeps its player count in a file, and its agent reads the file again at every turn. The
file may be missing, and its bytes may be anything.

**Theorem (`Reporter.run_reports_counts`).** While the file is missing or holds text, a report is
sent at each turn at which the text writes a count, with that count, and the other turns pass in
silence. Bytes that are no text end the reports, and later counts stay unreported
(`Reporter.run_ended_by_bytes`).
-/

namespace GameHub.Agent

open Text

/-! ## Files -/

/-- The file holds a text that writes the count. -/
def Counts (file : FileState) (n : UInt32) : Prop :=
  ∃ text, file = some (Utf8.encode text) ∧ Writes text n

/-- The file is missing or holds a text. -/
def Legible (file : FileState) : Prop := file = none ∨ ∃ text, file = some (Utf8.encode text)

theorem readCount_of_text (path text : String) :
    readCount path (some (Utf8.encode text)) =
      match count? (trim text) with
      | some count => .ok count
      | none => .error (.count s!"'{trim text}' in {path}") := by
  cases h : count? (trim text) with
  | none => simp only [readCount, Utf8.decode_encode, h]
  | some count => simp only [readCount, Utf8.decode_encode, h]

/-- The count in the file is read, and no other. -/
theorem readCount_eq_ok_iff {path : String} {file : FileState} {n : UInt32} :
    readCount path file = .ok n ↔ Counts file n := by
  constructor
  · intro h
    cases file with
    | none => cases h
    | some bytes =>
      cases hdecode : Utf8.decode bytes with
      | error e => rw [readCount, hdecode] at h; cases h
      | ok text =>
        obtain rfl := Utf8.encode_of_decode hdecode
        rw [readCount_of_text] at h
        split at h
        · next count hcount =>
          rw [← Except.ok.inj h]
          exact ⟨text, rfl, count?_trim.mp hcount⟩
        · cases h
  · rintro ⟨text, rfl, hwrites⟩
    rw [readCount_of_text, count?_trim.mpr hwrites]

theorem legible_some_iff {bytes : List UInt8} :
    Legible (some bytes) ↔ ∃ text, Utf8.decode bytes = .ok text := by
  constructor
  · rintro (h | ⟨text, h⟩)
    · cases h
    · exact ⟨text, by rw [Option.some_inj.mp h, Utf8.decode_encode]⟩
  · rintro ⟨text, h⟩
    exact .inr ⟨text, congrArg some (Utf8.encode_of_decode h).symm⟩

/-- The byte 0xFF begins no character. -/
theorem not_legible_byte : ¬ Legible (some [0xFF]) := by
  have hdecode : Utf8.decode [0xFF] = .error (.invalid 1 0) := by
    rw [Utf8.decode, Utf8.decodeFrom]
    rfl
  rw [legible_some_iff, hdecode]
  rintro ⟨text, htext⟩
  cases htext

/-- Nothing that is wrong with a legible file ends the reports. -/
theorem isFinal_of_legible (path : String) {file : FileState} (h : Legible file) {e : Error}
    (he : readCount path file = .error e) : Reporter.isFinal e = false := by
  rcases h with rfl | ⟨text, rfl⟩
  · rw [← Except.error.inj he]
    rfl
  · rw [readCount_of_text] at he
    split at he
    · cases he
    · rw [← Except.error.inj he]
      rfl

theorem readCount_of_not_legible (path : String) {file : FileState} (h : ¬ Legible file) :
    readCount path file = .error (.system .invalidData) := by
  cases file with
  | none => exact absurd (.inl rfl) h
  | some bytes =>
    cases hdecode : Utf8.decode bytes with
    | error e => rw [readCount, hdecode]
    | ok text => exact absurd (legible_some_iff.mpr ⟨text, hdecode⟩) h

/-! ## Turns -/

namespace Reporter

variable (r : Reporter) (far : Surroundings) (deeds : List Deed) (inbox : List Datagram)
  (rest : List FileState) {file : FileState}

/-- The reports of these counts. -/
def reports (counts : List UInt32) : List Deed :=
  counts.map fun n => .sent (Packet.statusReport r.server n r.max).encode

/-- What is reported when the file is in a state. -/
def told (file : FileState) : Option UInt32 := (r.source.read file).toOption

theorem told_of_ok {n : UInt32} (h : r.source.read file = .ok n) : r.told file = some n := by
  rw [told, h, Except.toOption]

theorem told_of_error {e : Error} (h : r.source.read file = .error e) : r.told file = none := by
  rw [told, h, Except.toOption]

theorem told_eq_some_iff {path : String} (hsource : r.source = .file path) {n : UInt32} :
    r.told file = some n ↔ Counts file n := by
  have hread : r.source.read file = readCount path file := by rw [hsource, CountSource.read]
  rw [← @readCount_eq_ok_iff path, ← hread]
  cases hcount : r.source.read file with
  | ok m => rw [r.told_of_ok hcount, Option.some_inj, Except.ok.injEq]
  | error e => simp [r.told_of_error hcount]

theorem reportOnce_of_ok {n : UInt32} (h : r.source.read file = .ok n) :
    ∃ left, (r.reportOnce file).run.run (far.link deeds inbox) =
      (.ok n, far.link (deeds ++ r.reports [n]) left) := by
  rw [reportOnce, h]
  exact ⟨_, rfl⟩

theorem reportOnce_of_error {e : Error} (h : r.source.read file = .error e) :
    (r.reportOnce file).run.run (far.link deeds inbox) = (.error e, far.link deeds inbox) := by
  rw [reportOnce, h]
  rfl

/-- A count is reported, and the next turn comes. -/
theorem run_of_ok {n : UInt32} (h : r.source.read file = .ok n) :
    ∃ left, (r.run (file :: rest)).run.run (far.link deeds inbox) =
      (r.run rest).run.run (far.link (deeds ++ r.reports [n]) left) := by
  obtain ⟨left, hreport⟩ := r.reportOnce_of_ok far deeds inbox h
  exact ⟨left, Session.bind_of_ok (Session.tryCatch_run (Session.discard_run hreport))⟩

theorem run_of_error {e : Error} (h : r.source.read file = .error e) :
    (r.run (file :: rest)).run.run (far.link deeds inbox) =
      if isFinal e then (.error e, far.link deeds inbox)
      else (r.run rest).run.run (far.link deeds inbox) := by
  have hreport := Session.discard_run (r.reportOnce_of_error far deeds inbox h)
  -- The handler throws a final error again and swallows any other one.
  have hcaught := @Session.tryCatch_run _ _ _
    (fun e => if isFinal e then throw e else return) _ _ _ hreport
  cases hfinal : isFinal e with
  | true =>
    simp only [Except.map, hfinal] at hcaught
    exact Session.bind_of_error hcaught
  | false =>
    simp only [Except.map, hfinal] at hcaught
    exact Session.bind_of_ok hcaught

/-- While nothing final is read, the counts that are read are reported, one after the other. What
arrives in the meantime stays in the socket. -/
theorem run_append {files : List FileState}
    (h : ∀ file ∈ files, ∀ e, r.source.read file = .error e → isFinal e = false) :
    ∃ left, (r.run (files ++ rest)).run.run (far.link deeds inbox) =
      (r.run rest).run.run (far.link (deeds ++ r.reports (files.filterMap r.told)) left) := by
  induction files generalizing deeds inbox with
  | nil => exact ⟨inbox, by rw [List.filterMap_nil, reports, List.map_nil, List.append_nil]; rfl⟩
  | cons file files ih =>
    have hfiles := fun file hfile => h file (List.mem_cons_of_mem _ hfile)
    cases hread : r.source.read file with
    | ok n =>
      obtain ⟨left, hfirst⟩ := r.run_of_ok far deeds inbox (files ++ rest) hread
      obtain ⟨left', hothers⟩ := ih (deeds ++ r.reports [n]) left hfiles
      refine ⟨left', ?_⟩
      rw [List.cons_append, hfirst, hothers, List.filterMap_cons_some (r.told_of_ok hread),
        List.append_assoc]
      rfl
    | error e =>
      have hskip := r.run_of_error far deeds inbox (files ++ rest) hread
      rw [if_neg (by simp [h file List.mem_cons_self e hread])] at hskip
      obtain ⟨left, hothers⟩ := ih deeds inbox hfiles
      refine ⟨left, ?_⟩
      rw [List.cons_append, hskip, hothers, List.filterMap_cons_none (r.told_of_error hread)]

/-! ## The result -/

/-- **Counts are reported, and other texts and missing files are passed over.** There is one report
for each legible file with a count in it, in order, and nothing else is done. The reports go on over
any number of legible files; the first file that is not legible ends them. -/
theorem run_reports_counts (server path : String) (max : UInt32) (far : Surroundings)
    (deeds : List Deed) (inbox : List Datagram) :
    let r : Reporter := ⟨server, max, .file path⟩
    ∃ told : FileState → Option UInt32, (∀ file n, told file = some n ↔ Counts file n) ∧
      ∀ files : List FileState, (∀ file ∈ files, Legible file) →
        let done := deeds ++ (files.filterMap told).map fun n =>
          .sent (Packet.statusReport server n max).encode
        (∃ left, (r.run files).run.run (far.link deeds inbox) = (.ok (), far.link done left)) ∧
        ∀ file later, ¬ Legible file →
          ∃ left, (r.run (files ++ file :: later)).run.run (far.link deeds inbox) =
            (.error (.system .invalidData), far.link done left) := by
  intro r
  refine ⟨r.told, fun file n => r.told_eq_some_iff rfl, fun files hfiles => ?_⟩
  have hlegible : ∀ file ∈ files, ∀ e, r.source.read file = .error e → isFinal e = false :=
    fun file hfile e he => isFinal_of_legible path (hfiles file hfile) he
  refine ⟨?_, fun file later hfile => ?_⟩
  · obtain ⟨left, hrun⟩ := r.run_append far deeds inbox [] hlegible
    rw [List.append_nil] at hrun
    exact ⟨left, hrun⟩
  · obtain ⟨left, hrun⟩ := r.run_append far deeds inbox (file :: later) hlegible
    have hread : r.source.read file = .error (.system .invalidData) :=
      readCount_of_not_legible path hfile
    exact ⟨left, hrun.trans (r.run_of_error far _ left later hread)⟩

/-- The file is missing first, then a count has blanks around it, then there are other words, then a
count has a sign and a zero in front, and at last there is a byte that is no text. -/
theorem run_reports_counts_between_texts :
    let far : Surroundings := ⟨default, fun _ => [], fun _ => 0, fun _ _ => .exited 0⟩
    let r : Reporter := ⟨"lobby", 50, .file "count"⟩
    let files : List FileState :=
      none :: [" 37 \n", "many", "+08"].map fun text => some (Utf8.encode text)
    let done : List Deed := [.sent (Packet.statusReport "lobby" 37 50).encode,
      .sent (Packet.statusReport "lobby" 8 50).encode]
    (∀ file ∈ files, Legible file) ∧ ¬ Legible (some [0xFF]) ∧
      (∃ left, (r.run files).run.run (far.link [] []) = (.ok (), far.link done left)) ∧
      ∃ left, (r.run (files ++ [some [0xFF]])).run.run (far.link [] []) =
        (.error (.system .invalidData), far.link done left) := by
  intro far r files done
  have hlegible : ∀ file ∈ files, Legible file := by
    intro file hfile
    rcases List.mem_cons.mp hfile with rfl | hfile
    · exact .inl rfl
    · obtain ⟨text, -, rfl⟩ := List.mem_map.mp hfile
      exact .inr ⟨text, rfl⟩
  obtain ⟨told, htold, hrun⟩ := run_reports_counts "lobby" "count" 50 far [] []
  obtain rfl : told = r.told := funext fun file => Option.ext fun n =>
    (htold file n).trans (r.told_eq_some_iff rfl).symm
  have hdone : [] ++ (files.filterMap r.told).map (fun n => Deed.sent
      (Packet.statusReport "lobby" n 50).encode) = done := by decide +kernel
  have hfiles := hrun files hlegible
  rw [hdone] at hfiles
  exact ⟨hlegible, not_legible_byte, hfiles.1, hfiles.2 _ [] not_legible_byte⟩

/-- A byte that is no text is in the file before the next count is, and that count is not reported.
-/
theorem run_ended_by_bytes :
    let far : Surroundings := ⟨default, fun _ => [], fun _ => 0, fun _ _ => .exited 0⟩
    let r : Reporter := ⟨"lobby", 50, .file "count"⟩
    Counts (some [0x35]) 5 ∧
      (r.run [some [0xFF], some [0x35]]).run.run (far.link [] []) =
        (.error (.system .invalidData), far.link [] []) := by
  intro far r
  have hread : r.source.read (some [0xFF]) = .error (.system .invalidData) :=
    readCount_of_not_legible "count" not_legible_byte
  have hfive : Writes "5" 5 :=
    ⟨[], ['5'], [], by decide +kernel, by simp, [], ['5'], by simp, .inl rfl, by simp,
      List.all_eq_true.mp rfl, by decide +kernel⟩
  exact ⟨⟨"5", by decide +kernel, hfive⟩, r.run_of_error far [] [] _ hread⟩

end Reporter

end GameHub.Agent
