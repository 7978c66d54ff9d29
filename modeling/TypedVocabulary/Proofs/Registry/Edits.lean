import TypedVocabulary.Proofs.Registry.Lookup

/-! # Registration in place

A registry in use is one object that its requests read and overwrite a name at a time, so a request
that fails halfway could leave some of its writes behind. Performed in place, a registration and a
removal leave the registry that `registerValue` and `unregister` yield, and the old one after a fault:
every name is looked at before the first one is written.
-/
namespace TypedVocabulary.Registry
open Attempt

/-- A program that works on one registry. A fault ends it and undoes nothing. -/
abbrev Edit := ExceptT Failure (StateM Registry)

variable {α β : Type}

/-- How a program ends, and the registry that it leaves. -/
def perform (x : Edit α) (r : Registry) : Attempt α × Registry := StateT.run (ExceptT.run x) r

def ask (f : Registry → Attempt α) : Edit α := do
  let r ← get
  liftExcept (f r)

def change (f : Registry → Registry) : Edit Unit := modify f

theorem perform_bind (x : Edit α) (f : α → Edit β) (r : Registry) :
    perform (x >>= f) r =
      match perform x r with
      | (.ok a, s) => perform (f a) s
      | (.error e, s) => (.error e, s) := by
  unfold perform
  rw [ExceptT.run_bind, StateT.run_bind]
  cases h : StateT.run (ExceptT.run x) r with
  | mk outcome s => cases outcome <;> rfl

@[simp] theorem perform_pure (a : α) (r : Registry) : perform (pure a) r = (.ok a, r) := rfl

@[simp] theorem perform_change (f : Registry → Registry) (r : Registry) :
    perform (change f) r = (.ok (), f r) := rfl

@[simp] theorem perform_ask (f : Registry → Attempt α) (r : Registry) :
    perform (ask f) r = (f r, r) := by
  have hask : perform (ask f) r = perform (liftExcept (f r)) r := rfl
  rw [hask]
  cases f r <;> rfl

theorem perform_forM_ask (f : String → Registry → Attempt Unit) (names : List String)
    (r : Registry) :
    perform (names.forM fun name => ask (f name)) r = (names.forM fun name => f name r, r) := by
  induction names with
  | nil => rfl
  | cons first rest ih =>
    rw [List.forM_eq_forM, List.forM_cons, List.forM_eq_forM, List.forM_cons, perform_bind,
      perform_ask]
    cases f first r with
    | error e => rfl
    | ok u => exact ih

theorem perform_forM_change (f : String → Registry → Registry) (names : List String)
    (r : Registry) :
    perform (names.forM fun name => change (f name)) r =
      (.ok (), names.foldl (fun r name => f name r) r) := by
  induction names generalizing r with
  | nil => rfl
  | cons first rest ih =>
    rw [List.forM_eq_forM, List.forM_cons, perform_bind, perform_change]
    exact ih (f first r)

/-! ## Registration -/

/-- Writes the entry of a language, then its aliases one by one. -/
def enter (key : String) (b : Backend) (names : List String) : Edit Unit := do
  change fun r =>
    ⟨putEntry ⟨key, b, distinct (names ++ r.formerAliases key)⟩ r.entries, r.aliases⟩
  names.forM fun name => change fun r => ⟨r.entries, KeyedList.put name key r.aliases⟩

theorem perform_enter (key : String) (b : Backend) (names : List String) (r : Registry) :
    perform (enter key b names) r = (.ok (), r.entered key b names) := by
  have haliases : ∀ (names : List String) (r : Registry),
      names.foldl (fun r name => ⟨r.entries, KeyedList.put name key r.aliases⟩) r =
        (⟨r.entries, putAliases key names r.aliases⟩ : Registry) := by
    intro names
    induction names with
    | nil => exact fun _ => rfl
    | cons first rest ih => exact fun r => ih ⟨r.entries, KeyedList.put first key r.aliases⟩
  unfold enter
  rw [perform_bind, perform_change]
  simp only
  rw [perform_forM_change, haliases]
  rfl

def registerIn (language : Json) (b : Option Backend) (aliases : Json) : Edit Unit := do
  match b with
  | none => throw (.registry .notGenerator)
  | some b =>
    let name ← ask fun _ => language.asText
    ask fun r => (r.checkLanguage (Text.lower name)).mapError .registry
    let given ← ask fun _ => aliasTexts aliases
    let names := aliasKeys (Text.lower name) given
    names.forM fun other => ask fun r => (r.checkAlias (Text.lower name) other).mapError .registry
    enter (Text.lower name) b names

theorem forM_mapError (f : String → Except RegistryError Unit) (names : List String) :
    (names.forM fun name => (f name).mapError .registry : Attempt Unit) =
      (names.forM f).mapError .registry := by
  induction names with
  | nil => rfl
  | cons first rest ih =>
    simp only [List.forM_eq_forM, List.forM_cons] at ih ⊢
    rw [ih]
    cases f first <;> rfl

theorem perform_registerIn (r : Registry) (language : Json) (b : Option Backend) (aliases : Json) :
    perform (registerIn language b aliases) r =
      match r.registerValue language b aliases with
      | .ok r' => (.ok (), r')
      | .error e => (.error e, r) := by
  cases b with
  | none => rfl
  | some b =>
    rw [registerValue_some]
    unfold registerIn
    simp only [perform_bind, perform_ask, perform_forM_ask, perform_enter, forM_mapError, register_eq]
    cases language.asText with
    | error e => rfl
    | ok name =>
      simp only [ok_bind]
      cases hlanguage : r.checkLanguage (Text.lower name) with
      | error e => rfl
      | ok u =>
        simp only [Except.mapError, ok_bind]
        cases aliasTexts aliases with
        | error e => rfl
        | ok given =>
          simp only [ok_bind]
          cases (aliasKeys (Text.lower name) given).forM (r.checkAlias (Text.lower name)) with
          | error e => rfl
          | ok u => rfl

/-! ## Removal -/

def unregisterIn (language : String) : Edit Unit := do
  let key := Text.lower language
  match ← ask fun r => .ok (r.entry? key) with
  | none => return
  | some e =>
    change fun r => ⟨r.entries.filter (·.language ≠ key), r.aliases⟩
    e.aliases.forM fun name => change fun r => ⟨r.entries, r.aliases.filter (·.1 ≠ name)⟩

theorem perform_unregisterIn (r : Registry) (language : String) :
    perform (unregisterIn language) r = (.ok (), r.unregister language) := by
  have haliases : ∀ (names : List String) (r : Registry),
      names.foldl (fun r name => ⟨r.entries, r.aliases.filter (·.1 ≠ name)⟩) r =
        (⟨r.entries, r.aliases.filter fun a => !names.contains a.1⟩ : Registry) := by
    intro names
    induction names with
    | nil => simp
    | cons first rest ih =>
      intro r
      rw [List.foldl_cons, ih]
      simp [List.filter_filter, Bool.and_comm]
  unfold unregisterIn
  simp only [perform_bind, perform_ask]
  cases h : r.entry? (Text.lower language) with
  | none => rw [unregister_of_none h, perform_pure]
  | some e =>
    simp only [perform_bind, perform_change, perform_forM_change]
    rw [unregister_of_some h, haliases]
    rfl

end TypedVocabulary.Registry
