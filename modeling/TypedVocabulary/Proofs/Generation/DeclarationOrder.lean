import TypedVocabulary.Proofs.Classes.AgreeingTables
import TypedVocabulary.Proofs.Generation.Files

/-! # Order of declarations in a run

Two runs over the same definitions in different orders are compared, step by step: the tables
answer alike, so each definition has one outcome in both; the results of one run are those of the
other in another order; and files are texts by path, for which the order is of no account as long as
no two definitions have one path.
-/
namespace TypedVocabulary

namespace Resolver
variable {t t' : LookupTables} {settings : Settings} {s s' : SchemaSet} {workers : Json}

theorem compileSchema_reordered (ht : t.Agree t') (hs : s.Reordered s') {results : List Compilation}
    (h : ((⟨t, settings⟩ : Resolver).compileSchema s workers).outcome = .ok results) :
    ∃ results', ((⟨t', settings⟩ : Resolver).compileSchema s' workers).outcome = .ok results' ∧
      results.Perm results' := by
  obtain ⟨enums, models, henums, hworkers, hmodels, rfl⟩ := compileSchema_ok_iff.mp h
  have henum : (⟨t, settings⟩ : Resolver).compileEnumOutcome =
      (⟨t', settings⟩ : Resolver).compileEnumOutcome := by
    funext e
    unfold compileEnumOutcome
    rw [compileEnum_agree ht]
  have hmodel : (fun m => ((⟨t, settings⟩ : Resolver).compileModel m).outcome) =
      fun m => ((⟨t', settings⟩ : Resolver).compileModel m).outcome := by
    funext m
    rw [compileModel_agree ht]
  rw [henum] at henums
  rw [hmodel] at hmodels
  obtain ⟨enums', henums', hpermEnums⟩ := Attempt.mapM_perm hs.enums henums
  obtain ⟨models', hmodels', hpermModels⟩ := Attempt.mapM_perm hs.models hmodels
  exact ⟨enums' ++ models',
    compileSchema_ok_iff.mpr ⟨enums', models', henums', hworkers, hmodels', rfl⟩,
    hpermEnums.append hpermModels⟩

end Resolver

namespace DotNet
variable {settings : Settings} {templates : TemplateStore} {s s' : SchemaSet}

theorem compile_reordered (hs : s.Reordered s')
    (hd : ∀ v, settings.vocabulary = .ok v → s.DistinctKeys v) {results : List Compilation}
    (h : (compile settings s).outcome = .ok results) :
    ∃ results', (compile settings s').outcome = .ok results' ∧ results.Perm results' := by
  obtain ⟨v, tables, hv, htables, hresults⟩ := compile_ok_iff.mp h
  obtain ⟨tables', htables'⟩ := LookupTables.exists_readTables_of_reordered hs htables
  have hagree : tables.Agree tables' :=
    LookupTables.agree_of_reordered hs (hd v hv) htables htables'
  obtain ⟨results', hresults', hperm⟩ := Resolver.compileSchema_reordered hagree hs hresults
  exact ⟨results', compile_ok_iff.mpr ⟨v, tables', hv, htables', hresults'⟩, hperm⟩

/-- No two definitions that are rendered have the same path. -/
def DistinctPaths (results : List Compilation) : Prop := (KeyedList.keys (plan results)).Nodup

instance (results : List Compilation) : Decidable (DistinctPaths results) :=
  inferInstanceAs (Decidable (List.Nodup _))

theorem files_of_distinctPaths {results : List Compilation} (hn : DistinctPaths results)
    {texts : List (String × String)}
    (htexts : (plan results).mapM (renderPair settings templates) = .ok texts) :
    KeyedList.putAll [] texts = texts ∧ (KeyedList.keys texts).Nodup := by
  have hkeys : KeyedList.keys texts = KeyedList.keys (plan results) :=
    KeyedList.keys_of_related (related_of_renderPair htexts)
  have hnodup : (KeyedList.keys texts).Nodup := by
    rw [hkeys]
    exact hn
  exact ⟨KeyedList.putAll_of_nodup hnodup, hnodup⟩

theorem render_perm {results results' : List Compilation} (hp : results.Perm results')
    (hn : DistinctPaths results) {files : GeneratedFiles}
    (h : (render settings templates results).outcome = .ok files) :
    ∃ files', (render settings templates results').outcome = .ok files' ∧
      ∀ path, KeyedList.value? files path = KeyedList.value? files' path := by
  have hplan : (plan results).Perm (plan results') := hp.filterMap _
  have hn' : DistinctPaths results' := (hplan.map Prod.fst).nodup_iff.mp hn
  obtain ⟨texts, htexts, rfl⟩ := render_ok_iff.mp h
  obtain ⟨texts', htexts', hperm⟩ := Attempt.mapM_perm hplan htexts
  obtain ⟨hfiles, hnodup⟩ := files_of_distinctPaths hn htexts
  obtain ⟨hfiles', -⟩ := files_of_distinctPaths hn' htexts'
  refine ⟨texts', render_ok_iff.mpr ⟨texts', htexts', hfiles'.symm⟩, ?_⟩
  rw [hfiles]
  exact KeyedList.value?_of_perm hperm hnodup

/-- What is the same in two runs: the outcome of each definition, the results as far as their order
does not count, and the text that each path leads to. -/
structure RunsAlike (settings : Settings) (templates : TemplateStore) (s s' : SchemaSet) :
    Prop where
  outcomes : ∀ v tables, settings.vocabulary = .ok v →
    LookupTables.readTables s v = .ok tables →
    ∃ tables', LookupTables.readTables s' v = .ok tables' ∧
      (∀ m, ((⟨tables, settings⟩ : Resolver).compileModel m).outcome =
        ((⟨tables', settings⟩ : Resolver).compileModel m).outcome) ∧
      ∀ e, (⟨tables, settings⟩ : Resolver).compileEnum e =
        (⟨tables', settings⟩ : Resolver).compileEnum e
  results : ∀ results, (compile settings s).outcome = .ok results →
    ∃ results', (compile settings s').outcome = .ok results' ∧ results.Perm results'
  files : ∀ results files, (compile settings s).outcome = .ok results → DistinctPaths results →
    ((⟨backend, settings, templates⟩ : Generator).generate s).outcome = .ok files →
    ∃ files', ((⟨backend, settings, templates⟩ : Generator).generate s').outcome = .ok files' ∧
      ∀ path, KeyedList.value? files path = KeyedList.value? files' path

theorem runsAlike_of_reordered (hs : s.Reordered s')
    (hd : ∀ v, settings.vocabulary = .ok v → s.DistinctKeys v) :
    RunsAlike settings templates s s' := by
  constructor
  · intro v tables hv htables
    obtain ⟨tables', htables'⟩ := LookupTables.exists_readTables_of_reordered hs htables
    have hagree : tables.Agree tables' :=
      LookupTables.agree_of_reordered hs (hd v hv) htables htables'
    refine ⟨tables', htables', fun m => ?_, Resolver.compileEnum_agree hagree settings⟩
    rw [Resolver.compileModel_agree hagree]
  · intro results hresults
    exact compile_reordered hs hd hresults
  · intro results files hresults hn hfiles
    obtain ⟨results₁, hresults₁, hok, hrender⟩ := Generator.generate_ok_iff.mp hfiles
    obtain rfl : results₁ = results := Except.ok.inj (hresults₁.symm.trans hresults)
    obtain ⟨results', hresults', hperm⟩ := compile_reordered hs hd hresults
    obtain ⟨files', hrender', hvalue⟩ := render_perm hperm hn hrender
    have hok' : ∀ c ∈ results', c.succeeded = true := fun c hc => hok c (hperm.mem_iff.mpr hc)
    exact ⟨files', Generator.generate_ok_iff.mpr ⟨results', hresults', hok', hrender'⟩, hvalue⟩

/-- An event that refers to a place and to an enumeration, with its definitions arranged. -/
def venueDocument (arrange : List (String × Json) → List (String × Json)) :
    List (String × Json) :=
  [("models", .obj (arrange [
      ("Event", .obj [
        ("derivedFrom", .str "https://schema.org/Event"),
        ("fields", .obj [
          ("location", .obj [("requiredType", .str "#Place")]),
          ("status", .obj [("requiredType", .str "https://openactive.io/Status")])])]),
      ("Place", .obj [("derivedFrom", .str "https://schema.org/Place")])])),
   ("enums", .obj (arrange [
      ("Status", .obj [("namespace", .str "https://openactive.io/")]),
      ("Gender", .obj [("namespace", .str "https://schema.org/")])]))]

end DotNet
end TypedVocabulary
