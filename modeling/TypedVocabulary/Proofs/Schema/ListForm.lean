import TypedVocabulary.Proofs.Json.Members
import TypedVocabulary.Proofs.Schema.ReportedFaults

/-! # The list form of documents

A collection is an object keyed by name or a list of entries that carry their names. Every document
has a form in which all its collections are lists. It is read as the document itself is, in the same
order, and where one of them cannot be read the other cannot be read for a fault of the same class.
-/
namespace TypedVocabulary.Document

open Json (field find?)

/-! ## The form -/

def change (key : String) (f : Json → Json) (ms : List (String × Json)) : List (String × Json) :=
  ms.map fun (k, v) => (k, if k = key then f v else v)

/-- An entry without a name of its own carries the one that it is kept under. -/
def carryName (key name : String) : Json → Json
  | .obj ms => .obj (if (field ms key).truthy then ms else KeyedList.put key (.str name) ms)
  | data => data

def listed (key : String) : Json → Json
  | .obj ms => .arr (ms.map fun (name, data) => carryName key name data)
  | collection => collection

def mapEntries (f : Json → Json) : Json → Json
  | .obj ms => .obj (ms.map fun (name, data) => (name, f data))
  | .arr items => .arr (items.map f)
  | collection => collection

def modelListForm : Json → Json
  | .obj ms => .obj (change "fields" (listed "fieldName") ms)
  | data => data

/-- A document with its models, their fields and its enumerations as lists. -/
def listForm : Json → Json
  | .obj ms => .obj (change "models" (fun models => listed "type" (mapEntries modelListForm models))
      (change "enums" (listed "type") ms))
  | document => document

theorem find?_change (key : String) (f : Json → Json) (ms : List (String × Json)) (k : String) :
    find? k (change key f ms) = if k = key then (find? k ms).map f else find? k ms := by
  induction ms with
  | nil => exact (ite_self none).symm
  | cons m rest ih =>
    obtain ⟨name, v⟩ := m
    have hrest : change key f ((name, v) :: rest) =
        (name, if name = key then f v else v) :: change key f rest := rfl
    rw [hrest, Json.find?_cons, Json.find?_cons, ih]
    by_cases hk : name = k
    · subst hk
      by_cases hkey : name = key
      · rw [if_pos rfl, if_pos rfl, if_pos hkey, if_pos hkey, Option.map_some]
      · rw [if_pos rfl, if_pos rfl, if_neg hkey, if_neg hkey]
    · rw [if_neg hk, if_neg hk]

theorem field_change_of_ne {key k : String} (h : k ≠ key) (f : Json → Json)
    (ms : List (String × Json)) : field (change key f ms) k = field ms k := by
  rw [field, find?_change, if_neg h, field]

theorem field_change_self {f : Json → Json} (hf : f .null = .null) (key : String)
    (ms : List (String × Json)) : field (change key f ms) key = f (field ms key) := by
  rw [field, find?_change, if_pos rfl, field]
  cases find? key ms with
  | none => exact hf.symm
  | some v => rfl

/-! ## Outcomes of one class -/

/-- One outcome, or two faults that are both reported. -/
inductive Alike {α : Type} : Attempt α → Attempt α → Prop
  | refl (x : Attempt α) : Alike x x
  | reported (fault fault' : SchemaError) : Alike (.error (.schema fault)) (.error (.schema fault'))

namespace Alike
variable {α β : Type} {x y z : Attempt α}

theorem of_eq (h : x = y) : Alike x y := h ▸ .refl x

theorem trans (h : Alike x y) (h' : Alike y z) : Alike x z := by
  cases h with
  | refl => exact h'
  | reported fault fault' =>
    cases h' with
    | refl => exact .reported fault fault'
    | reported _ fault'' => exact .reported fault fault''

theorem bind {f g : α → Attempt β} (h : Alike x y) (hf : ∀ a, Alike (f a) (g a)) :
    Alike (x >>= f) (y >>= g) := by
  cases h with
  | refl =>
    cases x with
    | ok a => exact hf a
    | error e => exact .refl _
  | reported fault fault' => exact .reported fault fault'

theorem mapM {γ δ : Type} {f : γ → Attempt β} {g : δ → Attempt β} {xs : List γ} {ys : List δ}
    (h : List.Forall₂ (fun x y => Alike (f x) (g y)) xs ys) : Alike (xs.mapM f) (ys.mapM g) := by
  induction h with
  | nil => exact .refl _
  | cons hxy _ ih =>
    rw [List.mapM_cons, List.mapM_cons]
    exact hxy.bind fun b => ih.bind fun bs => .refl _

theorem mapM_map {γ δ : Type} {f : γ → Attempt β} {g : δ → Attempt β} {change : γ → δ} {xs : List γ}
    (h : ∀ x ∈ xs, Alike (f x) (g (change x))) : Alike (xs.mapM f) ((xs.map change).mapM g) := by
  refine mapM ?_
  rw [List.forall₂_map_right_iff, List.forall₂_same]
  exact h

end Alike

/-! ## Entries that carry their names -/

/-- One name, or two that are both absent. -/
def SameName (v w : Json) : Prop := v = w ∨ v.truthy = false ∧ w.truthy = false

/-- A reader takes the name from an entry or else from where the entry is kept, and then looks at
the other members only; what is no object it reports. -/
structure ReadsNamed {α : Type} (key : String) (read : Json → Json → Attempt α) : Prop where
  object : ∀ {ms ms' : List (String × Json)} {kept kept' : Json},
    (∀ k, k ≠ key → find? k ms = find? k ms') →
    SameName ((field ms key).orElse kept) ((field ms' key).orElse kept') →
    read (.obj ms) kept = read (.obj ms') kept'
  other : ∀ {data : Json} (kept : Json), (¬∃ ms, data = .obj ms) →
    ∃ fault, read data kept = .error (.schema fault)

variable {α : Type} {key : String} {read : Json → Json → Attempt α}

theorem field_eq_of_find? {ms ms' : List (String × Json)}
    (h : ∀ k, k ≠ key → find? k ms = find? k ms') {k : String} (hk : k ≠ key) :
    field ms k = field ms' k := by
  rw [field, h k hk, field]

theorem carryName_of_not_object {data : Json} (h : ¬∃ ms, data = .obj ms) (key name : String) :
    carryName key name data = data := by
  cases data with
  | obj ms => exact absurd ⟨ms, rfl⟩ h
  | null | bool | int | float | str | arr => rfl

theorem ReadsNamed.carryName (h : ReadsNamed key read) (name : String) (data : Json) :
    Alike (read data (.str name)) (read (carryName key name data) .null) := by
  by_cases hdata : ∃ ms, data = .obj ms
  · obtain ⟨ms, rfl⟩ := hdata
    rw [Document.carryName]
    cases hown : (field ms key).truthy with
    | true =>
      refine .of_eq (h.object (fun k _ => rfl) (.inl ?_))
      rw [if_pos rfl, Json.orElse, Json.orElse, hown, if_pos rfl, if_pos rfl]
    | false =>
      have hput : field (KeyedList.put key (.str name) ms) key = .str name := by
        rw [field, Json.find?_put, if_pos rfl, Option.getD_some]
      rw [if_neg Bool.false_ne_true]
      refine .of_eq (h.object (fun k hk => ?_) ?_)
      · rw [Json.find?_put, if_neg hk.symm]
      · rw [hput, Json.orElse, hown, if_neg Bool.false_ne_true, Json.orElse]
        -- An empty name is no name in either form.
        cases hname : (Json.str name).truthy with
        | true => exact .inl rfl
        | false => exact .inr ⟨hname, rfl⟩
  · obtain ⟨fault, hfault⟩ := h.other (.str name) hdata
    obtain ⟨fault', hfault'⟩ := h.other .null hdata
    rw [carryName_of_not_object hdata, hfault, hfault']
    exact .reported fault fault'

theorem ReadsNamed.mapM_listed (h : ReadsNamed key read) (ms : List (String × Json)) :
    Alike (ms.mapM fun (name, data) => read data (.str name))
      ((ms.map fun (name, data) => Document.carryName key name data).mapM fun data =>
        read data .null) :=
  .mapM_map fun m _ => h.carryName m.1 m.2

theorem ReadsNamed.listed (h : ReadsNamed key read) (kind : String) (collection : Json) :
    Alike (readCollection read kind collection)
      (readCollection read kind (listed key collection)) := by
  cases collection with
  | obj ms => exact h.mapM_listed ms
  | null | bool | int | float | str | arr => exact .refl _

theorem readCollection_mapEntries {f : Json → Json}
    (h : ∀ data kept, Alike (read data kept) (read (f data) kept)) (kind : String)
    (collection : Json) :
    Alike (readCollection read kind collection)
      (readCollection read kind (mapEntries f collection)) := by
  cases collection with
  | obj ms => exact .mapM_map fun m _ => h m.2 (.str m.1)
  | arr items => exact .mapM_map fun data _ => h data .null
  | null | bool | int | float | str => exact .refl _

/-! ## Fields, models and enumerations -/

theorem readsNamed_readField : ReadsNamed "fieldName" readField := by
  constructor
  · intro ms ms' kept kept' hothers hname
    unfold readField
    dsimp only
    rcases hname with hname | ⟨hname, hname'⟩
    · simp (disch := decide) only [hname, readOrder, hothers, field_eq_of_find? hothers]
    · simp only [hname, hname', Bool.not_false, if_true]
      rfl
  · exact fun kept hdata => ⟨_, readField.eq_2 _ kept fun ms hms => hdata ⟨ms, hms⟩⟩

theorem readsNamed_readModel : ReadsNamed "type" readModel := by
  constructor
  · intro ms ms' kept kept' hothers hname
    unfold readModel
    dsimp only
    rcases hname with hname | ⟨hname, hname'⟩
    · simp (disch := decide) only [hname, readFields, hothers, field_eq_of_find? hothers]
    · simp only [hname, hname', Bool.not_false, if_true]
      rfl
  · exact fun kept hdata => ⟨_, readModel.eq_2 _ kept fun ms hms => hdata ⟨ms, hms⟩⟩

theorem readsNamed_readEnum : ReadsNamed "type" readEnum := by
  constructor
  · intro ms ms' kept kept' hothers hname
    unfold readEnum
    dsimp only
    rcases hname with hname | ⟨hname, hname'⟩
    · simp (disch := decide) only [hname, hothers, field_eq_of_find? hothers]
    · simp only [hname, hname', Bool.not_false, if_true]
      rfl
  · exact fun kept hdata => ⟨_, readEnum.eq_2 _ kept fun ms hms => hdata ⟨ms, hms⟩⟩

theorem readFields_listed (type : Json) (ms : List (String × Json)) :
    Alike (readFields type ms) (readFields type (change "fields" (listed "fieldName") ms)) := by
  unfold readFields
  rw [find?_change, if_pos rfl]
  cases find? "fields" ms with
  | none => exact .refl _
  | some fields =>
    cases fields with
    | obj entries => exact readsNamed_readField.mapM_listed entries
    | null | bool | int | float | str | arr => exact .refl _

theorem readModel_modelListForm (data kept : Json) :
    Alike (readModel data kept) (readModel (modelListForm data) kept) := by
  cases data with
  | obj ms =>
    rw [modelListForm, readModel, readModel]
    simp (disch := decide) only [field_change_of_ne]
    cases ((field ms "type").orElse kept).truthy with
    | false => exact .refl _
    | true => exact (readFields_listed _ ms).bind fun fields => .refl _
  | null | bool | int | float | str | arr => exact .refl _

/-! ## Documents -/

theorem readSchema_listForm (document : Json) :
    Alike (readSchema document) (readSchema (listForm document)) := by
  cases document with
  | obj ms =>
    let enumsListed := change "enums" (listed "type") ms
    let members :=
      change "models" (fun models => listed "type" (mapEntries modelListForm models)) enumsListed
    have hpresent : (find? "models" members).isNone = (find? "models" ms).isNone := by
      rw [find?_change, if_pos rfl, find?_change, if_neg (by decide), Option.isNone_map]
    have hmodels : field members "models" =
        listed "type" (mapEntries modelListForm (field ms "models")) := by
      rw [field_change_self rfl, field_change_of_ne (by decide)]
    have henums : field members "enums" = listed "type" (field ms "enums") := by
      rw [field_change_of_ne (by decide), field_change_self rfl]
    change Alike _ (readSchema (.obj members))
    rw [readSchema, readSchema, hpresent, hmodels, henums]
    cases (find? "models" ms).isNone with
    | true => exact .refl _
    | false =>
      have hread : Alike (readCollection readModel "models" (field ms "models"))
          (readCollection readModel "models"
            (listed "type" (mapEntries modelListForm (field ms "models")))) :=
        (readCollection_mapEntries readModel_modelListForm _ _).trans
          (readsNamed_readModel.listed _ _)
      exact hread.bind fun models => (readsNamed_readEnum.listed _ _).bind fun enums => .refl _
  | null | bool | int | float | str | arr => exact .refl _

/-- A document and its list form give one schema, or both are faults of one class: the same fault,
or faults that are both reported. -/
theorem parse_listForm (document : Json) :
    Alike (parse document).outcome (parse (listForm document)).outcome := by
  rw [outcome_parse, outcome_parse]
  exact readSchema_listForm document

/-- Names of entries go into the entries that have none, at both levels. -/
example :
    listForm (.obj [("models", .obj [("Event", .obj [("type", .str ""), ("fields",
      .obj [("name", .obj []), ("id", .obj [("fieldName", .str "identifier")])])])])]) =
    .obj [("models", .arr [.obj [("type", .str "Event"), ("fields",
      .arr [.obj [("fieldName", .str "name")], .obj [("fieldName", .str "identifier")]])]])] := rfl

end TypedVocabulary.Document
