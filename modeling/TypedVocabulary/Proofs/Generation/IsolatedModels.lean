import TypedVocabulary.Proofs.Generation.RunBoundary

/-! # Isolated models

A model is compiled against tables that hold no more of the other models than their names, and its
outcome has a place of its own among the results. Another body for one model changes what stands at
that place and nothing else, whether either body compiles or not.
-/
namespace TypedVocabulary
open Attempt

/-- The same declarations but for the body of the model at one place. -/
structure SchemaSet.AlikeBut (j : Nat) (s s' : SchemaSet) : Prop where
  enums : s'.enums = s.enums
  types : s'.models.map Model.type = s.models.map Model.type
  others : ∀ i, i ≠ j → s'.models[i]? = s.models[i]?

namespace SchemaSet.AlikeBut
variable {j : Nat} {s s' : SchemaSet} (h : s.AlikeBut j s')
include h

theorem length_models : s'.models.length = s.models.length := by
  simpa using congrArg List.length h.types

theorem models_eq_set {m : Model} (hm : s'.models[j]? = some m) :
    s'.models = s.models.set j m := by
  apply List.ext_getElem?
  intro i
  by_cases hi : i = j
  · subst hi
    have hlt : i < s.models.length := h.length_models ▸ (List.getElem?_eq_some_iff.mp hm).1
    rw [hm, List.getElem?_set_self hlt]
  · rw [h.others i hi, List.getElem?_set_ne (Ne.symm hi)]

theorem eq_of_none (hm : s'.models[j]? = none) : s' = s := by
  have hmodels : s'.models = s.models := by
    apply List.ext_getElem?
    intro i
    by_cases hi : i = j
    · have hm' : s.models[j]? = none := by
        rw [List.getElem?_eq_none_iff] at hm ⊢
        exact h.length_models ▸ hm
      rw [hi, hm, hm']
    · exact h.others i hi
  obtain ⟨models, enums⟩ := s
  obtain ⟨models', enums'⟩ := s'
  obtain rfl : models' = models := hmodels
  obtain rfl : enums' = enums := h.enums
  rfl

end SchemaSet.AlikeBut

/-- The tables ask for the types of models and for nothing else of them. -/
theorem LookupTables.readTables_congr {s s' : SchemaSet} (henums : s'.enums = s.enums)
    (htypes : s'.models.map Model.type = s.models.map Model.type) (v : Vocabulary) :
    readTables s' v = readTables s v := by
  have hname : Model.shortName =
      (fun type : Json => do return Reference.shortName (← type.asText)) ∘ Model.type := rfl
  have hnames : s'.models.mapM Model.shortName = s.models.mapM Model.shortName := by
    rw [hname, ← List.mapM_map, ← List.mapM_map, htypes]
  unfold readTables
  rw [henums, hnames]

namespace Resolver
variable {r : Resolver} {s s' : SchemaSet} {workers : Json} {results : List Compilation}

/-- One outcome for each declaration, under its type: enumerations first, then models. -/
structure OneEach (r : Resolver) (s : SchemaSet) (results : List Compilation) : Prop where
  names : results.map Compilation.name = s.enums.map Enumeration.type ++ s.models.map Model.type
  enums : List.Forall₂ (fun e c => r.compileEnumOutcome e = .ok c) s.enums
    (results.take s.enums.length)
  models : List.Forall₂ (fun m c => (r.compileModel m).outcome = .ok c) s.models
    (results.drop s.enums.length)

theorem name_of_compileEnumOutcome {e : Enumeration} {c : Compilation}
    (h : r.compileEnumOutcome e = .ok c) : c.name = e.type := by
  obtain ⟨d, -, hc⟩ := bind_ok_iff.mp h
  rw [pure_ok_iff] at hc
  subst hc
  rfl

theorem oneEach_of_compileSchema (h : (r.compileSchema s workers).outcome = .ok results) :
    r.OneEach s results := by
  obtain ⟨enums, models, henums, -, hmodels, rfl⟩ := compileSchema_ok_iff.mp h
  have henums := mapM_ok_iff.mp henums
  have hmodels := mapM_ok_iff.mp hmodels
  have hlength : s.enums.length = enums.length := henums.length_eq
  constructor
  · have he : enums.map Compilation.name = s.enums.map Enumeration.type :=
      map_eq_map_of_forall₂ henums fun e c hc => name_of_compileEnumOutcome hc
    have hm : models.map Compilation.name = s.models.map Model.type :=
      map_eq_map_of_forall₂ hmodels fun m c hc => name_of_compileModel hc
    rw [List.map_append, he, hm]
  · rw [hlength, List.take_left]
    exact henums
  · rw [hlength, List.drop_left]
    exact hmodels

/-- With another body for one model, the results are the same but for the outcome of that body. -/
theorem compileSchema_set (h : (r.compileSchema s workers).outcome = .ok results) {j : Nat}
    (hj : j < s.models.length) {m : Model} (henums : s'.enums = s.enums)
    (hmodels : s'.models = s.models.set j m) :
    (r.compileSchema s' workers).outcome =
      (results.set (s.enums.length + j) ·) <$> (r.compileModel m).outcome := by
  obtain ⟨enums, models, henumResults, ⟨u, hu⟩, hmodelResults, rfl⟩ := compileSchema_ok_iff.mp h
  have hlength : enums.length = s.enums.length := (mapM_ok_iff.mp henumResults).length_eq.symm
  have hset (c : Compilation) :
      (enums ++ models).set (s.enums.length + j) c = enums ++ models.set j c := by
    rw [← hlength, List.set_append_right _ _ (Nat.le_add_right _ _), Nat.add_sub_cancel_left]
  have hreplaced := mapM_set hmodelResults hj m
  rw [outcome_compileSchema, henums, hmodels, henumResults, hu, hreplaced]
  simp only [ok_bind, hset]
  cases (r.compileModel m).outcome <;> rfl

end Resolver

namespace DotNet
open LookupTables
variable {settings : Settings} {s s' : SchemaSet} {v : Vocabulary} {tables : LookupTables}
  {results results' : List Compilation} {j : Nat}

theorem outcome_compile (hv : settings.vocabulary = .ok v)
    (htables : readTables s v = .ok tables) : (compile settings s).outcome =
      ((⟨tables, settings⟩ : Resolver).compileSchema s settings.maxWorkers).outcome := by
  unfold compile
  simp only [Logged.outcome_bind, Logged.outcome_lift, outcome_build, hv, htables, ok_bind]

theorem compile_set (hv : settings.vocabulary = .ok v) (htables : readTables s v = .ok tables)
    (h : (compile settings s).outcome = .ok results) (halike : s.AlikeBut j s') {m : Model}
    (hm : s'.models[j]? = some m) :
    (compile settings s').outcome = (results.set (s.enums.length + j) ·) <$>
      ((⟨tables, settings⟩ : Resolver).compileModel m).outcome := by
  have hj : j < s.models.length := halike.length_models ▸ (List.getElem?_eq_some_iff.mp hm).1
  have htables' : readTables s' v = .ok tables := by
    rw [readTables_congr halike.enums halike.types, htables]
  rw [outcome_compile hv htables] at h
  rw [outcome_compile hv htables']
  exact Resolver.compileSchema_set h hj halike.enums (halike.models_eq_set hm)

theorem getElem?_compile_of_ne (h : (compile settings s).outcome = .ok results)
    (halike : s.AlikeBut j s') (h' : (compile settings s').outcome = .ok results') {i : Nat}
    (hi : i ≠ s.enums.length + j) : results'[i]? = results[i]? := by
  cases hm : s'.models[j]? with
  | none =>
    rw [halike.eq_of_none hm] at h'
    rw [Except.ok.inj (h'.symm.trans h)]
  | some m =>
    obtain ⟨v, tables, hv, htables, -⟩ := compile_ok_iff.mp h
    rw [compile_set hv htables h halike hm] at h'
    cases hmodel : ((⟨tables, settings⟩ : Resolver).compileModel m).outcome with
    | error e =>
      rw [hmodel] at h'
      cases h'
    | ok c =>
      rw [hmodel] at h'
      obtain rfl : results.set (s.enums.length + j) c = results' := Except.ok.inj h'
      rw [List.getElem?_set_ne (Ne.symm hi)]

/-- A typed run over a textual schema has results, and any run that has some has one for each
declaration. Another body for the model at one place leaves all other results as they are: what
comes of the run is the outcome of the new body, put at its place. -/
theorem other_results_kept (settings : Settings) (s : SchemaSet) :
    (settings.Typed → s.Textual → ∃ results, (compile settings s).outcome = .ok results) ∧
    ∀ results, (compile settings s).outcome = .ok results →
      ∃ v tables, settings.vocabulary = .ok v ∧ readTables s v = .ok tables ∧
        (⟨tables, settings⟩ : Resolver).OneEach s results ∧
        ∀ j s', s.AlikeBut j s' →
          (∀ results', (compile settings s').outcome = .ok results' →
            ∀ i, i ≠ s.enums.length + j → results'[i]? = results[i]?) ∧
          ∀ m, s'.models[j]? = some m →
            (compile settings s').outcome = (results.set (s.enums.length + j) ·) <$>
              ((⟨tables, settings⟩ : Resolver).compileModel m).outcome := by
  constructor
  · intro hs htextual
    have hfields : FieldsNamed s := fun m hm => (htextual.models m hm).named.fields
    exact (requires_compile hs hfields).met htextual
  · intro results h
    obtain ⟨v, tables, hv, htables, hresults⟩ := compile_ok_iff.mp h
    refine ⟨v, tables, hv, htables, Resolver.oneEach_of_compileSchema hresults, ?_⟩
    intro j s' halike
    constructor
    · intro results' h' i hi
      exact getElem?_compile_of_ne h halike h' hi
    · intro m hm
      exact compile_set hv htables h halike hm

/-- An event and a place, after an enumeration; the event is derived from what is given. -/
def eventSchema (parent : Json) : SchemaSet where
  models :=
    [⟨.str "Event", [], .null, parent, []⟩,
     ⟨.str "Place", [], .null, .str "https://schema.org/Place", []⟩]
  enums := [⟨.str "Status", .str "https://openactive.io/", [.str "Open"], [], .null⟩]

/-- The event compiles with a parent and fails without one; in both runs the enumeration and the
place have the same results. -/
theorem other_results_kept_event :
    let settings := Settings.default
    let s := eventSchema (.str "https://schema.org/Event")
    let s' := eventSchema .null
    settings.Typed ∧ s.Textual ∧ s'.Textual ∧ s.AlikeBut 0 s' ∧
    ∃ results results', (compile settings s).outcome = .ok results ∧
      (compile settings s').outcome = .ok results' ∧
      results.map Compilation.name = [.str "Status", .str "Event", .str "Place"] ∧
      results.map Compilation.succeeded = [true, true, true] ∧
      results'.map Compilation.succeeded = [true, false, true] ∧
      ∀ i, i ≠ 1 → results'[i]? = results[i]? := by
  intro settings s s'
  have htextual (parent : Json) (hp : parent.AbsentOrText) : (eventSchema parent).Textual := by
    constructor
    · intro m hm
      rcases List.mem_pair.mp hm with rfl | rfl
      · exact ⟨⟨⟨_, rfl⟩, by simp⟩, hp⟩
      · exact ⟨⟨⟨_, rfl⟩, by simp⟩, fun _ => ⟨_, rfl⟩⟩
    · intro e he
      obtain rfl := List.mem_singleton.mp he
      exact ⟨⟨_, rfl⟩, fun _ => ⟨_, rfl⟩, by simp [Json.IsText]⟩
  have hs : s.Textual := htextual _ fun _ => ⟨_, rfl⟩
  have hs' : s'.Textual := htextual _ Json.absentOrText_null
  have halike : s.AlikeBut 0 s' := by
    refine ⟨rfl, rfl, fun i hi => ?_⟩
    cases i with
    | zero => exact absurd rfl hi
    | succ i => rfl
  obtain ⟨results, hresults, hsucceeded⟩ : ∃ results, (compile settings s).outcome = .ok results ∧
      results.map Compilation.succeeded = [true, true, true] :=
    Attempt.exists_ok_of_decide (by decide +kernel)
  obtain ⟨results', hresults', hfailed⟩ : ∃ results', (compile settings s').outcome = .ok results' ∧
      results'.map Compilation.succeeded = [true, false, true] :=
    Attempt.exists_ok_of_decide (by decide +kernel)
  obtain ⟨v, tables, -, -, honeEach, hkept⟩ := (other_results_kept settings s).2 results hresults
  exact ⟨Settings.typed_default, hs, hs', halike, results, results', hresults, hresults',
    honeEach.names, hsucceeded, hfailed,
    (hkept 0 s' halike).1 results' hresults'⟩

end DotNet
end TypedVocabulary
