import TypedVocabulary.Proofs.Outcomes
import TypedVocabulary.Schema.Document

/-! # Faults of documents

Reading a document checks the kind of almost every value before it uses it, and what is of the wrong
kind is reported. Two checks are missing: lists of references and the values of an enumeration are
gone through whatever they are, and a number cannot be. Here it is said exactly which documents
stumble over one, in terms of what is read before it; all others are read or their fault is
reported.
-/
namespace TypedVocabulary.Document

open Json (field find?)

/-- A number or a truth value, which no loop goes through. -/
def Unlisted (v : Json) : Prop := v.number?.isSome = true

/-! ## Where reading stumbles -/

def entries : Json → List (Json × Json)
  | .obj members => members.map fun (name, data) => (data, .str name)
  | .arr items => items.map fun data => (data, .null)
  | _ => []

/-- The first entry of a collection that cannot be read is one over which reading stumbles. -/
def FirstStumbles {α : Type} (read : Json → Json → Attempt α) (stumbles : Json → Json → Prop)
    (collection : Json) : Prop :=
  ∃ before x after, entries collection = before ++ x :: after ∧
    (∀ y ∈ before, ∃ a, read y.1 y.2 = .ok a) ∧ stumbles x.1 x.2

/-- All that comes before a list of references is in order, and the list is a number. -/
def FieldStumbles (data entryName : Json) : Prop :=
  ∃ ms, data = .obj ms ∧ ((field ms "fieldName").orElse entryName).truthy = true ∧
    (∃ order, readOrder ((field ms "fieldName").orElse entryName) ms = .ok order) ∧
    (∃ ref, readReference (field ms "requiredType") = .ok ref) ∧
    (Unlisted (field ms "alternativeTypes") ∨
      (∃ refs, readReferences (field ms "alternativeTypes") = .ok refs) ∧
      (∃ ref, readReference (field ms "model") = .ok ref) ∧
      Unlisted (field ms "alternativeModels"))

def ModelStumbles (data entryName : Json) : Prop :=
  ∃ ms, data = .obj ms ∧ ((field ms "type").orElse entryName).truthy = true ∧
    ∃ fields, find? "fields" ms = some fields ∧ FirstStumbles readField FieldStumbles fields

/-- Values that are given have to be a list, so null will not do either. -/
def EnumStumbles (data entryName : Json) : Prop :=
  ∃ ms, data = .obj ms ∧ ((field ms "type").orElse entryName).truthy = true ∧
    (field ms "namespace").truthy = true ∧
    ∃ values, find? "values" ms = some values ∧ (values = .null ∨ Unlisted values)

def Stumbles (document : Json) : Prop :=
  ∃ ms, document = .obj ms ∧ (find? "models" ms).isSome = true ∧
    (FirstStumbles readModel ModelStumbles (field ms "models") ∨
      (∃ models, readCollection readModel "models" (field ms "models") = .ok models) ∧
      FirstStumbles readEnum EnumStumbles (field ms "enums"))

/-! ## Values -/

def IsReported (e : Failure) : Prop := ∃ fault, e = .schema fault

/-- A fault is reported, unless it is that of an operand and reading stumbles. -/
def Accounted (e : Failure) (stumbles : Prop) : Prop :=
  IsReported e ∨ e = .misuse .wrongOperand ∧ stumbles

variable {v data entryName : Json} {e : Failure}

theorem visit_of_unlisted (h : Unlisted v) : v.visit = .error (.misuse .wrongOperand) := by
  cases v with
  | bool | int | float => rfl
  | null | str | arr | obj => cases h

theorem visit_error (h : v.visit = .error e) :
    e = .misuse .wrongOperand ∧ (v = .null ∨ Unlisted v) := by
  cases v with
  | null => exact ⟨(Except.error.inj h).symm, .inl rfl⟩
  | bool | int | float => exact ⟨(Except.error.inj h).symm, .inr rfl⟩
  | str | arr | obj => cases h

theorem parse_error (h : TypeReference.parse v = .error e) : IsReported e := by
  cases v with
  | str s =>
    rw [TypeReference.parse] at h
    cases hs : s.isEmpty with
    | true =>
      rw [hs, if_pos rfl] at h
      exact ⟨_, (Except.error.inj h).symm⟩
    | false =>
      rw [hs, if_neg Bool.false_ne_true] at h
      cases h
  | null | bool | int | float | arr | obj => exact ⟨_, (Except.error.inj h).symm⟩

theorem readLines_error (h : readLines v = .error e) : IsReported e := by
  cases v with
  | null | str | arr => cases h
  | bool | int | float | obj => exact ⟨_, (Except.error.inj h).symm⟩

theorem readOrder_error {ms : List (String × Json)} (h : readOrder v ms = .error e) :
    IsReported e := by
  unfold readOrder at h
  split at h
  · cases h
  · cases h
  · exact ⟨_, (Except.error.inj h).symm⟩

theorem readReference_error (h : readReference v = .error e) : IsReported e := by
  unfold readReference at h
  split at h
  · cases h
  · rcases Attempt.bind_error_iff.mp h with h | ⟨ref, -, h⟩
    · exact parse_error h
    · exact absurd h Attempt.pure_ne_error

theorem readReferences_error (h : readReferences v = .error e) : Accounted e (Unlisted v) := by
  unfold readReferences at h
  split at h
  · cases h
  · rcases Attempt.bind_error_iff.mp h with h | ⟨ref, -, h⟩
    · exact .inl (parse_error h)
    · exact absurd h Attempt.pure_ne_error
  · rename_i hnull _
    rcases Attempt.bind_error_iff.mp h with h | ⟨items, -, h⟩
    · obtain ⟨he, hv⟩ := visit_error h
      exact .inr ⟨he, hv.resolve_left hnull⟩
    · obtain ⟨_, item, _, -, -, hitem⟩ := Attempt.mapM_error_iff.mp h
      exact .inl (parse_error hitem)

theorem readReferences_of_unlisted (h : Unlisted v) :
    readReferences v = .error (.misuse .wrongOperand) := by
  unfold readReferences
  split
  · cases h
  · cases h
  · rw [visit_of_unlisted h]
    rfl

/-! ## Collections -/

section
variable {α : Type} {read : Json → Json → Attempt α} {stumbles : Json → Json → Prop}
  {collection : Json}

theorem mapM_members (read : Json → Json → Attempt α) (members : List (String × Json)) :
    (members.mapM fun (name, data) => read data (.str name)) =
      (entries (.obj members)).mapM fun x => read x.1 x.2 := by
  rw [entries, List.mapM_map]
  rfl

theorem mapM_items (read : Json → Json → Attempt α) (items : List Json) :
    (items.mapM fun data => read data .null) =
      (entries (.arr items)).mapM fun x => read x.1 x.2 := by
  rw [entries, List.mapM_map]
  rfl

theorem mapM_entries_error
    (hread : ∀ data name e, read data name = .error e → Accounted e (stumbles data name))
    (h : ((entries collection).mapM fun x => read x.1 x.2) = .error e) :
    Accounted e (FirstStumbles read stumbles collection) := by
  obtain ⟨before, x, after, hsplit, hbefore, hx⟩ := Attempt.mapM_error_iff.mp h
  rcases hread _ _ _ hx with hreported | ⟨he, hstumbles⟩
  · exact .inl hreported
  · exact .inr ⟨he, before, x, after, hsplit, hbefore, hstumbles⟩

theorem mapM_entries_of_stumbles
    (hread : ∀ data name, stumbles data name → read data name = .error (.misuse .wrongOperand))
    (h : FirstStumbles read stumbles collection) :
    ((entries collection).mapM fun x => read x.1 x.2) = .error (.misuse .wrongOperand) := by
  obtain ⟨before, x, after, hsplit, hbefore, hx⟩ := h
  exact Attempt.mapM_error_iff.mpr ⟨before, x, after, hsplit, hbefore, hread _ _ hx⟩

theorem not_firstStumbles_of_entries_nil (h : entries collection = []) :
    ¬ FirstStumbles read stumbles collection := by
  rintro ⟨before, x, after, hsplit, -, -⟩
  rw [h] at hsplit
  simp at hsplit

theorem readCollection_error {kind : String}
    (hread : ∀ data name e, read data name = .error e → Accounted e (stumbles data name))
    (h : readCollection read kind collection = .error e) :
    Accounted e (FirstStumbles read stumbles collection) := by
  cases collection with
  | null => cases h
  | obj members =>
    rw [readCollection, mapM_members] at h
    exact mapM_entries_error hread h
  | arr items =>
    rw [readCollection, mapM_items] at h
    exact mapM_entries_error hread h
  | bool | int | float | str => exact .inl ⟨_, (Except.error.inj h).symm⟩

theorem readCollection_of_stumbles {kind : String}
    (hread : ∀ data name, stumbles data name → read data name = .error (.misuse .wrongOperand))
    (h : FirstStumbles read stumbles collection) :
    readCollection read kind collection = .error (.misuse .wrongOperand) := by
  cases collection with
  | obj members =>
    rw [readCollection, mapM_members]
    exact mapM_entries_of_stumbles hread h
  | arr items =>
    rw [readCollection, mapM_items]
    exact mapM_entries_of_stumbles hread h
  | null | bool | int | float | str => exact absurd h (not_firstStumbles_of_entries_nil rfl)

end

/-! ## Fields, models and enumerations -/

theorem readField_error (h : readField data entryName = .error e) :
    Accounted e (FieldStumbles data entryName) := by
  cases data with
  | obj ms =>
    rw [readField] at h
    cases hname : ((field ms "fieldName").orElse entryName).truthy with
    | false =>
      simp only [hname, Bool.not_false, if_true] at h
      exact .inl ⟨_, (Attempt.throw_error_iff.mp h).symm⟩
    | true =>
      simp only [hname, Bool.not_true, Bool.false_eq_true, if_false, Attempt.bind_error_iff,
        Attempt.pure_ne_error, and_false, exists_false, or_false] at h
      rcases h with h | ⟨order, horder, h | ⟨required, hrequired, h | ⟨types, htypes, h⟩⟩⟩
      · exact .inl (readOrder_error h)
      · exact .inl (readReference_error h)
      · refine (readReferences_error h).imp_right ?_
        rintro ⟨he, hlist⟩
        exact ⟨he, ms, rfl, hname, ⟨order, horder⟩, ⟨required, hrequired⟩, .inl hlist⟩
      · rcases h with h | ⟨model, hmodel, h | ⟨models, -, h⟩⟩
        · exact .inl (readReference_error h)
        · refine (readReferences_error h).imp_right ?_
          rintro ⟨he, hlist⟩
          exact ⟨he, ms, rfl, hname, ⟨order, horder⟩, ⟨required, hrequired⟩,
            .inr ⟨⟨types, htypes⟩, ⟨model, hmodel⟩, hlist⟩⟩
        · exact .inl (readLines_error h)
  | null | bool | int | float | str | arr => exact .inl ⟨_, (Except.error.inj h).symm⟩

theorem readField_of_stumbles (data entryName : Json) (h : FieldStumbles data entryName) :
    readField data entryName = .error (.misuse .wrongOperand) := by
  obtain ⟨ms, rfl, hname, ⟨order, horder⟩, ⟨required, hrequired⟩, hlists⟩ := h
  simp only [readField, hname, Bool.not_true, Bool.false_eq_true, if_false, horder, hrequired,
    Attempt.ok_bind]
  rcases hlists with hlist | ⟨⟨types, htypes⟩, ⟨model, hmodel⟩, hlist⟩
  · rw [readReferences_of_unlisted hlist]
    rfl
  · rw [htypes, Attempt.ok_bind, hmodel, Attempt.ok_bind, readReferences_of_unlisted hlist]
    rfl

theorem readFields_error {type : Json} {ms : List (String × Json)}
    (h : readFields type ms = .error e) :
    Accounted e (∃ fields, find? "fields" ms = some fields ∧
      FirstStumbles readField FieldStumbles fields) := by
  have hread (data name : Json) (e : Failure) (h : readField data name = .error e) :
      Accounted e (FieldStumbles data name) := readField_error h
  unfold readFields at h
  split at h
  · cases h
  · rename_i members hfields
    rw [mapM_members] at h
    exact (mapM_entries_error hread h).imp_right fun ⟨he, hfirst⟩ => ⟨he, _, hfields, hfirst⟩
  · rename_i items hfields
    rw [mapM_items] at h
    exact (mapM_entries_error hread h).imp_right fun ⟨he, hfirst⟩ => ⟨he, _, hfields, hfirst⟩
  · exact .inl ⟨_, (Except.error.inj h).symm⟩

theorem readFields_of_stumbles {type fields : Json} {ms : List (String × Json)}
    (hfields : find? "fields" ms = some fields)
    (h : FirstStumbles readField FieldStumbles fields) :
    readFields type ms = .error (.misuse .wrongOperand) := by
  rw [readFields, hfields]
  cases fields with
  | obj members => exact (mapM_members _ _).trans (mapM_entries_of_stumbles readField_of_stumbles h)
  | arr items => exact (mapM_items _ _).trans (mapM_entries_of_stumbles readField_of_stumbles h)
  | null | bool | int | float | str => exact absurd h (not_firstStumbles_of_entries_nil rfl)

theorem readModel_error (h : readModel data entryName = .error e) :
    Accounted e (ModelStumbles data entryName) := by
  cases data with
  | obj ms =>
    rw [readModel] at h
    cases htype : ((field ms "type").orElse entryName).truthy with
    | false =>
      simp only [htype, Bool.not_false, if_true] at h
      exact .inl ⟨_, (Attempt.throw_error_iff.mp h).symm⟩
    | true =>
      simp only [htype, Bool.not_true, Bool.false_eq_true, if_false, Attempt.bind_error_iff,
        Attempt.pure_ne_error, and_false, exists_false, or_false] at h
      rcases h with h | ⟨fields, -, h⟩
      · refine (readFields_error h).imp_right ?_
        rintro ⟨he, hfirst⟩
        exact ⟨he, ms, rfl, htype, hfirst⟩
      · exact .inl (readLines_error h)
  | null | bool | int | float | str | arr => exact .inl ⟨_, (Except.error.inj h).symm⟩

theorem readModel_of_stumbles (data entryName : Json) (h : ModelStumbles data entryName) :
    readModel data entryName = .error (.misuse .wrongOperand) := by
  obtain ⟨ms, rfl, htype, fields, hfields, hfirst⟩ := h
  simp only [readModel, htype, Bool.not_true, Bool.false_eq_true, if_false]
  rw [readFields_of_stumbles hfields hfirst]
  rfl

theorem readEnum_error (h : readEnum data entryName = .error e) :
    Accounted e (EnumStumbles data entryName) := by
  cases data with
  | obj ms =>
    rw [readEnum] at h
    cases htype : ((field ms "type").orElse entryName).truthy with
    | false =>
      simp only [htype, Bool.not_false, if_true] at h
      exact .inl ⟨_, (Attempt.throw_error_iff.mp h).symm⟩
    | true =>
      cases hspace : (field ms "namespace").truthy with
      | false =>
        simp only [htype, hspace, Bool.not_true, Bool.not_false, Bool.false_eq_true, if_false,
          if_true] at h
        exact .inl ⟨_, (Attempt.throw_error_iff.mp h).symm⟩
      | true =>
        simp only [htype, hspace, Bool.not_true, Bool.false_eq_true, if_false,
          Attempt.bind_error_iff, Attempt.pure_ne_error, and_false, exists_false, or_false] at h
        rcases h with h | ⟨values, -, h⟩
        · obtain ⟨he, hlist⟩ := visit_error h
          refine .inr ⟨he, ms, rfl, htype, hspace, ?_⟩
          cases hvalues : find? "values" ms with
          | none =>
            rw [hvalues] at h
            cases h
          | some values =>
            rw [hvalues] at hlist
            exact ⟨values, rfl, hlist⟩
        · exact .inl (readLines_error h)
  | null | bool | int | float | str | arr => exact .inl ⟨_, (Except.error.inj h).symm⟩

theorem readEnum_of_stumbles (data entryName : Json) (h : EnumStumbles data entryName) :
    readEnum data entryName = .error (.misuse .wrongOperand) := by
  obtain ⟨ms, rfl, htype, hspace, values, hvalues, hlist⟩ := h
  have hvisit : values.visit = .error (.misuse .wrongOperand) := by
    rcases hlist with rfl | hlist
    · rfl
    · exact visit_of_unlisted hlist
  simp only [readEnum, htype, hspace, Bool.not_true, Bool.false_eq_true, if_false, hvalues,
    Option.getD_some]
  rw [hvisit]
  rfl

/-! ## Documents -/

theorem readSchema_error {document : Json} (h : readSchema document = .error e) :
    Accounted e (Stumbles document) := by
  cases document with
  | obj ms =>
    rw [readSchema] at h
    cases hmodels : find? "models" ms with
    | none =>
      simp only [hmodels, Option.isNone_none, if_true] at h
      exact .inl ⟨_, (Attempt.throw_error_iff.mp h).symm⟩
    | some models =>
      have hsome : (find? "models" ms).isSome = true := by rw [hmodels]; rfl
      simp only [hmodels, Option.isNone_some, Bool.false_eq_true, if_false, Attempt.bind_error_iff,
        Attempt.pure_ne_error, and_false, exists_false, or_false] at h
      rcases h with h | ⟨models, hread, h⟩
      · refine (readCollection_error (fun _ _ _ => readModel_error) h).imp_right ?_
        rintro ⟨he, hfirst⟩
        exact ⟨he, ms, rfl, hsome, .inl hfirst⟩
      · refine (readCollection_error (fun _ _ _ => readEnum_error) h).imp_right ?_
        rintro ⟨he, hfirst⟩
        exact ⟨he, ms, rfl, hsome, .inr ⟨⟨models, hread⟩, hfirst⟩⟩
  | null | bool | int | float | str | arr => exact .inl ⟨_, (Except.error.inj h).symm⟩

theorem readSchema_of_stumbles {document : Json} (h : Stumbles document) :
    readSchema document = .error (.misuse .wrongOperand) := by
  obtain ⟨ms, rfl, hsome, hfirst⟩ := h
  have hpresent : (find? "models" ms).isNone = false := by
    rw [Option.isNone_eq_false_iff]
    exact hsome
  simp only [readSchema, hpresent, Bool.false_eq_true, if_false]
  rcases hfirst with hfirst | ⟨⟨models, hread⟩, hfirst⟩
  · rw [readCollection_of_stumbles readModel_of_stumbles hfirst]
    rfl
  · rw [hread, Attempt.ok_bind, readCollection_of_stumbles readEnum_of_stumbles hfirst]
    rfl

theorem outcome_parse (document : Json) : (parse document).outcome = readSchema document := by
  rw [parse, Logged.outcome_bind, Logged.outcome_lift]
  cases readSchema document <;> rfl

/-- A document is read or its fault is reported, exactly if reading does not stumble; if it does, the
fault is that of an operand. -/
theorem parse_reported_iff (document : Json) :
    (((∃ schema, (parse document).outcome = .ok schema) ∨
      ∃ fault, (parse document).outcome = .error (.schema fault)) ↔ ¬ Stumbles document) ∧
    (Stumbles document ↔ (parse document).outcome = .error (.misuse .wrongOperand)) := by
  rw [outcome_parse]
  refine ⟨⟨?_, fun hnot => ?_⟩, readSchema_of_stumbles, fun h => ?_⟩
  · rintro (⟨schema, h⟩ | ⟨fault, h⟩) hstumbles
    · rw [readSchema_of_stumbles hstumbles] at h
      cases h
    · rw [readSchema_of_stumbles hstumbles] at h
      cases h
  · cases h : readSchema document with
    | ok schema => exact .inl ⟨schema, rfl⟩
    | error e =>
      rcases readSchema_error h with ⟨fault, rfl⟩ | ⟨-, hstumbles⟩
      · exact .inr ⟨fault, rfl⟩
      · exact absurd hstumbles hnot
  · rcases readSchema_error h with ⟨fault, hfault⟩ | ⟨-, hstumbles⟩
    · cases hfault
    · exact hstumbles

/-- A number for the alternative types of a field. -/
example : (parse (.obj [("models", .obj [("Event", .obj [("fields",
    .obj [("name", .obj [("alternativeTypes", .int 5)])])])])])).outcome =
      .error (.misuse .wrongOperand) := rfl

end TypedVocabulary.Document
