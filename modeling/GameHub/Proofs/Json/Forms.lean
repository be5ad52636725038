import Mathlib.Data.List.Nodup
import GameHub.Restart.Form

/-!
# Forms, viewed again

A view and a form belong together if the view finds in the form of a value that value
(`Json.Recovers`). The property is closed under options, lists and maps, and a record has it if its
fields have: in the object that a record is written as, every field is found under its name
(`Json.slots?_record`). What is left for a record is to name its fields.
-/

namespace GameHub

namespace Json

/-- The view gets every value back from its form. -/
def Recovers {α : Type} (view : Json → Option α) (form : α → Form) : Prop :=
  ∀ a, view (form a).toJson = some a

variable {α : Type} {view : Json → Option α} {form : α → Form}

/-! ## Simple values -/

theorem recovers_text : Recovers asText? .text := fun _ => rfl

theorem recovers_truth : Recovers asBool? .truth := fun _ => rfl

theorem recovers_uint32 : Recovers asUInt32? fun n => .natural n.toNat := by
  intro n
  have hlt : n.toNat < UInt32.size := n.toNat_lt
  simp [Form.toJson, asUInt32?, asNatural?, hlt]

theorem recovers_uint64 : Recovers asUInt64? fun n => .natural n.toNat := by
  intro n
  have hlt : n.toNat < UInt64.size := n.toNat_lt
  simp [Form.toJson, asUInt64?, asNatural?, hlt]

/-- A case without fields is known by its tag. -/
theorem recovers_tag {all : List α} {tag : α → String} (hall : ∀ a, a ∈ all)
    (hinj : ∀ a b, tag a = tag b → a = b) :
    Recovers (fun j => (asTag? j).bind fun word => all.find? (tag · = word))
      (fun a => .case (tag a) []) := by
  intro a
  have hfind : (all.find? fun b => tag b = tag a).isSome :=
    List.find?_isSome.mpr ⟨a, hall a, by simp⟩
  obtain ⟨b, hb⟩ := Option.isSome_iff_exists.mp hfind
  have heq : tag b = tag a := by simpa using List.find?_some hb
  simpa [Form.toJson, Json.text, asTag?, ← hinj b a heq] using hb

/-! ## Composed values -/

theorem Recovers.option (h : Recovers view form) (hnull : ∀ a, (form a).toJson ≠ .null) :
    Recovers (asNullable? view) (Form.ofOption form) := by
  intro o
  cases o with
  | none => rfl
  | some a =>
    rw [Form.ofOption, Form.toJson, asNullable?]
    · rw [h a, Option.map_some]
    · exact hnull a

theorem listToJson_eq_map (items : List Form) : Form.listToJson items = items.map (·.toJson) := by
  induction items with
  | nil => rfl
  | cons item rest ih => rw [Form.listToJson, ih, List.map_cons]

theorem fieldsToJson_eq_map (fields : List (String × Form)) :
    Form.fieldsToJson fields = fields.map fun field => (some field.1, field.2.toJson) := by
  induction fields with
  | nil => rfl
  | cons field rest ih => rw [Form.fieldsToJson, ih, List.map_cons]

theorem Recovers.list (h : Recovers view form) :
    Recovers (asList? view) fun xs => .list (xs.map form) := by
  intro xs
  rw [Form.toJson, listToJson_eq_map, List.map_map, asList?]
  induction xs with
  | nil => rfl
  | cons x xs ih => simp [List.mapM_cons, h x, ih]

theorem Recovers.map (h : Recovers view form) :
    Recovers (asMap? view) (Restart.mapForm form) := by
  intro m
  have hmembers : (Form.fieldsToJson (m.entries.map fun e => (e.1, form e.2))).mapM
      (asMember? view) = some m.entries := by
    rw [fieldsToJson_eq_map, List.map_map]
    induction m.entries with
    | nil => rfl
    | cons e entries ih => simp [List.mapM_cons, asMember?, h e.2, ih]
  change ((Form.fieldsToJson (m.entries.map fun e => (e.1, form e.2))).mapM
    (asMember? view)).map NameMap.ofList = some m
  rw [hmembers, Option.map_some, NameMap.ofList_entries]

/-! ## Records -/

theorem member?_fieldsToJson {fields : List (String × Form)} {field : String × Form}
    (hnodup : (fields.map (·.1)).Nodup) (h : field ∈ fields) :
    member? field.1 (Form.fieldsToJson fields) = some field.2.toJson := by
  induction fields with
  | nil => exact absurd h List.not_mem_nil
  | cons head rest ih =>
    obtain ⟨hhead, hrest⟩ := List.nodup_cons.mp hnodup
    rw [Form.fieldsToJson, member?]
    rcases List.mem_cons.mp h with rfl | h
    · simp
    · have hne : head.1 ≠ field.1 := fun heq =>
        hhead (List.mem_map.mpr ⟨field, h, heq.symm⟩)
      simpa [hne, member?] using ih hrest h

theorem keysFit_fieldsToJson {fields : List (String × Form)} (names : List String)
    (hnodup : (fields.map (·.1)).Nodup) : keysFit names (Form.fieldsToJson fields) := by
  have hcount (name : String) :
      ((Form.fieldsToJson fields).filter (·.1 = some name)).length =
        (fields.map (·.1)).count name := by
    rw [fieldsToJson_eq_map, ← List.countP_eq_length_filter, List.countP_map, List.count,
      List.countP_map]
    congr 1
    funext field
    simp [beq_eq_decide]
  simp only [keysFit, hcount, Bool.and_eq_true, List.all_eq_true, decide_eq_true_eq]
  refine ⟨fun member h => ?_, fun name _ => List.nodup_iff_count_le_one.mp hnodup name⟩
  rw [fieldsToJson_eq_map] at h
  obtain ⟨field, -, rfl⟩ := List.mem_map.mp h
  rfl

/-- Every field of a record is given under its name. -/
theorem slots?_record (name : String) {names : List String} {fields : List (String × Form)}
    (hnames : fields.map (·.1) = names) (hnodup : names.Nodup) :
    slots? names (Form.record name fields).toJson =
      some (fields.map fun field => .given field.2.toJson) := by
  subst hnames
  rw [Form.toJson, slots?, objectSlots?, if_pos (keysFit_fieldsToJson _ hnodup), List.map_map]
  · congr 1
    refine List.map_congr_left fun field h => ?_
    rw [Function.comp_apply, member?_fieldsToJson hnodup h]
  · exact fun _ h => Json.noConfusion h

end Json

end GameHub
