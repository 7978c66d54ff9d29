import TypedVocabulary.Proofs.Classes.TypeShape
import TypedVocabulary.Proofs.Generation.Files
import TypedVocabulary.Proofs.Schema.Lookup

/-! # References between generated files

A type without a namespace is expected beside the class that uses it. Its name is made from the
reference, its file from the definition: both come from one short name, since a model is found by it
and the key of an enumeration determines it. The renderer leaves out an enumeration by the test that
puts its type into the foundation library.
-/
namespace TypedVocabulary

namespace TypeExpr

/-- The file that a class or enumeration without a namespace is expected in. -/
def localPath? (t : TypeExpr) : Option String :=
  if t.namespace.truthy then none
  else match t.kind with
    | .model => some ("/models/" ++ t.name.display ++ ".cs")
    | .enumeration => some ("/enums/" ++ t.name.display ++ ".cs")
    | _ => none

theorem localPath?_model (name : String) (nullable : Bool) :
    (plain name nullable .model).localPath? = some ("/models/" ++ name ++ ".cs") := rfl

theorem localPath?_enumeration (name : String) (nullable : Bool) :
    (plain name nullable .enumeration).localPath? = some ("/enums/" ++ name ++ ".cs") := rfl

theorem kind_of_localPath? {t : TypeExpr} {path : String} (h : t.localPath? = some path) :
    t.kind = .model ∨ t.kind = .enumeration := by
  unfold localPath? at h
  split at h
  · cases h
  · cases hkind : t.kind with
    | model => exact .inl rfl
    | enumeration => exact .inr rfl
    | scalar | list | union | foundation =>
      rw [hkind] at h
      cases h

theorem not_truthy_of_localPath? {t : TypeExpr} {path : String} (h : t.localPath? = some path) :
    t.namespace.truthy = false := by
  cases ht : t.namespace.truthy with
  | false => rfl
  | true =>
    rw [localPath?, if_pos ht] at h
    cases h

end TypeExpr

namespace Resolver
variable {r : Resolver} {ref : TypeReference} {isExtension : Bool} {t : TypeExpr}

/-- The compact key of the reference is that of an enumeration of the foundation vocabulary. -/
def IsFoundationEnum (r : Resolver) (ref : TypeReference) : Prop :=
  ∃ key entry, r.tables.vocabulary.compact ref.uri = .ok key ∧ r.tables.enum? key = some entry ∧
    entry.isExternal = true

/-- A type that the foundation library has for an enumeration of the field. -/
def Supplied (r : Resolver) (f : Field) (t : TypeExpr) : Prop :=
  ∃ ref ∈ f.references, r.IsFoundationEnum ref ∧ t.name = .str (typeName ref.shortName) ∧
    t.namespace = r.settings.foundationNamespace ∧ t.kind = .enumeration

theorem mem_tokens_resolvePure {type : TypeExpr} (h : r.resolvePure ref isExtension = .ok type)
    (ht : t ∈ type.tokens) :
    t.kind = .list ∨
      ∃ base, r.resolveBase ref isExtension = .ok base ∧ (t = base ∨ t = base.asNonNullable) := by
  obtain ⟨base, hbase, rfl⟩ := resolvePure_ok_iff.mp h
  have hleaf : base.IsLeaf := isLeaf_resolveBase hbase
  cases hlist : ref.isArray with
  | false =>
    refine .inr ⟨base, hbase, .inl ?_⟩
    simpa [hlist, hleaf.tokens_eq] using ht
  | true =>
    rw [hlist, if_pos rfl, TypeExpr.tokens_eq] at ht
    rcases List.mem_cons.mp ht with rfl | ht
    · exact .inl rfl
    · refine .inr ⟨base, hbase, .inr ?_⟩
      simpa [listOf, hleaf.asNonNullable.tokens_eq] using ht

theorem mem_tokens_combine {types : List TypeExpr} (ht : t ∈ (r.combine types).tokens) :
    t.kind = .union ∨ ∃ type ∈ types, t ∈ type.tokens := by
  have hunion : t ∈ (r.unionOf types).tokens → t.kind = .union ∨ ∃ type ∈ types, t ∈ type.tokens := by
    intro ht
    rw [TypeExpr.tokens_eq] at ht
    rcases List.mem_cons.mp ht with rfl | ht
    · exact .inl rfl
    · exact .inr (List.mem_flatMap.mp ht)
  match types with
  | [] => exact hunion ht
  | [type] => exact .inr ⟨type, List.mem_cons_self, ht⟩
  | _ :: _ :: _ => exact hunion ht

theorem mem_tokens_compose {f : Field} {type : TypeExpr}
    (h : (r.compose f isExtension).outcome = .ok type) (ht : t ∈ type.tokens) {path : String}
    (hpath : t.localPath? = some path) :
    ∃ ref ∈ f.references, ∃ base, r.resolveBase ref isExtension = .ok base ∧
      (t = base ∨ t = base.asNonNullable) := by
  obtain ⟨-, types, htypes, rfl⟩ := outcome_compose.mp h
  rcases mem_tokens_combine ht with hkind | ⟨type, htype, ht⟩
  · simp [TypeExpr.localPath?, hkind] at hpath
  · obtain ⟨ref, href, hresolved⟩ := (Attempt.mem_mapM_iff htypes).mp htype
    rcases mem_tokens_resolvePure hresolved ht with hkind | ⟨base, hbase, hbase'⟩
    · simp [TypeExpr.localPath?, hkind] at hpath
    · exact ⟨ref, href, base, hbase, hbase'⟩

end Resolver

/-- Every enumeration has a namespace that ends in a separator. -/
def SchemaSet.EndsSeparated (s : SchemaSet) : Prop :=
  ∀ e ∈ s.enums, ∃ space : String, e.namespace = .str space ∧
    Reference.endsInSeparator space.toList = true

namespace DotNet
variable {settings : Settings} {schema : SchemaSet} {results : List Compilation} {v : Vocabulary}
  {tables : LookupTables} {ref : TypeReference}

theorem exists_class {r : Resolver} {workers : Json}
    (hcompiled : (r.compileSchema schema workers).outcome = .ok results)
    (hs : ∀ c ∈ results, c.succeeded = true) {m : Model} (hm : m ∈ schema.models) :
    ∃ d, (r.compileClass m).outcome = .ok d ∧
      (⟨m.type, d.notices, .ok (some (.ofClass d))⟩ : Compilation) ∈ results := by
  obtain ⟨enums, models, -, hmodels, rfl⟩ := Resolver.compileSchema_ok hcompiled
  obtain ⟨c, hc, hcm⟩ := exists_right_of_forall₂ hmodels hm
  have hmem : c ∈ enums ++ models := List.mem_append_right enums hc
  rcases Resolver.compileModel_ok_iff.mp hcm with ⟨d, hd, rfl⟩ | ⟨e, -, rfl⟩
  · exact ⟨d, hd, hmem⟩
  · cases hs _ hmem

theorem exists_enum {r : Resolver} {workers : Json}
    (hcompiled : (r.compileSchema schema workers).outcome = .ok results) {e : Enumeration}
    (he : e ∈ schema.enums) :
    ∃ d, r.compileEnum e = .ok d ∧
      (⟨e.type, [], .ok (some (.ofEnum d))⟩ : Compilation) ∈ results := by
  obtain ⟨enums, models, henums, -, rfl⟩ := Resolver.compileSchema_ok hcompiled
  obtain ⟨c, hc, d, hd, rfl⟩ := exists_right_of_forall₂ henums he
  exact ⟨d, hd, List.mem_append_left models hc⟩

theorem model_in_plan {workers : Json} (htables : LookupTables.readTables schema v = .ok tables)
    (hcompiled :
      ((⟨tables, settings⟩ : Resolver).compileSchema schema workers).outcome = .ok results)
    (hs : ∀ c ∈ results, c.succeeded = true) {name : String}
    (hm : tables.hasModel name = true) :
    ∃ d, ("/models/" ++ typeName name ++ ".cs", d) ∈ plan results := by
  obtain ⟨m, hmem, hname⟩ := LookupTables.exists_of_hasModel htables hm
  obtain ⟨d, hd, hresult⟩ := exists_class hcompiled hs hmem
  obtain ⟨base, shortName, names, -, hname', -, -, heq⟩ := Resolver.compileClass_ok_iff.mp hd
  obtain rfl := Except.ok.inj (hname.symm.trans hname')
  refine ⟨.ofClass d, mem_plan hresult rfl ?_⟩
  rw [path?, SourceText.classPath, heq]

theorem enum_in_plan {workers : Json} (hv : v.EndsSeparated) (hschema : schema.EndsSeparated)
    (htables : LookupTables.readTables schema v = .ok tables)
    (hcompiled :
      ((⟨tables, settings⟩ : Resolver).compileSchema schema workers).outcome = .ok results)
    {key : String} (hkey : v.compact ref.uri = .ok key) {entry : EnumEntry}
    (he : tables.enum? key = some entry) (hx : entry.isExternal = false) :
    ∃ d, ("/enums/" ++ typeName ref.shortName ++ ".cs", d) ∈ plan results := by
  obtain ⟨e, hmem, hentry⟩ := LookupTables.exists_of_enum? htables he
  obtain ⟨space, hspace, hsep⟩ := hschema e hmem
  have hname : e.shortName = .ok ref.shortName :=
    LookupTables.shortName_of_enumEntry hv hspace hsep hentry hkey
  obtain ⟨d, hd, hresult⟩ := exists_enum hcompiled hmem
  obtain ⟨members, shortName, isExternal, -, hname', hexternal, rfl⟩ :=
    Resolver.compileEnum_ok_iff.mp hd
  obtain rfl := Except.ok.inj (hname.symm.trans hname')
  obtain ⟨-, -, -, hexternal'⟩ := LookupTables.enumEntry_ok hentry
  have hsame : isExternal = entry.isExternal := by
    have hvocabulary := LookupTables.vocabulary_readTables htables
    dsimp only at hexternal
    rw [hvocabulary, hexternal'] at hexternal
    exact (Except.ok.inj hexternal).symm
  refine ⟨_, mem_plan hresult rfl ?_⟩
  simp only [path?, hsame, hx, Bool.false_eq_true, if_false, SourceText.enumPath]

theorem resolved_in_plan {workers : Json} (hv : v.EndsSeparated) (hschema : schema.EndsSeparated)
    (htables : LookupTables.readTables schema v = .ok tables)
    (hcompiled :
      ((⟨tables, settings⟩ : Resolver).compileSchema schema workers).outcome = .ok results)
    (hs : ∀ c ∈ results, c.succeeded = true) {isExtension : Bool} {t : TypeExpr}
    (ht : (⟨tables, settings⟩ : Resolver).resolveBase ref isExtension = .ok t) {path : String}
    (hpath : t.localPath? = some path) :
    (∃ d, (path, d) ∈ plan results) ∨
      ((⟨tables, settings⟩ : Resolver).IsFoundationEnum ref ∧
        t = (⟨tables, settings⟩ : Resolver).foundationType ref.shortName true .enumeration) := by
  obtain ⟨key, hkey, hr⟩ := Resolver.resolveBase_ok_iff.mp ht
  have hkey' : v.compact ref.uri = .ok key := LookupTables.vocabulary_readTables htables ▸ hkey
  cases hr with
  | @scalar kind hs => cases kind <;> cases hpath
  | foundationEnum _ he hx => exact .inr ⟨⟨key, _, hkey, he, hx⟩, rfl⟩
  | localEnum _ he hx =>
    rw [TypeExpr.localPath?_enumeration, Option.some.injEq] at hpath
    subst hpath
    exact .inl (enum_in_plan hv hschema htables hcompiled hkey' he hx)
  | model _ _ hm =>
    rw [TypeExpr.localPath?_model, Option.some.injEq] at hpath
    subst hpath
    exact .inl (model_in_plan htables hcompiled hs hm)
  | foundation _ _ _ _ => rcases TypeExpr.kind_of_localPath? hpath with hkind | hkind <;> cases hkind
  | unverified _ _ _ _ _ =>
    rcases TypeExpr.kind_of_localPath? hpath with hkind | hkind <;> cases hkind

/-- In the resolved type of every field, each token without a namespace has its file among those
generated, if it is not left out. -/
def ReferencesGenerated (settings : Settings) (schema : SchemaSet) (files : GeneratedFiles)
    (leftOut : Resolver → Field → TypeExpr → Prop) : Prop :=
  ∃ v tables, settings.vocabulary = .ok v ∧ LookupTables.readTables schema v = .ok tables ∧
    ∀ m ∈ schema.models, ∃ d, ((⟨tables, settings⟩ : Resolver).compileClass m).outcome = .ok d ∧
      List.Forall₂ (fun f p =>
        ((⟨tables, settings⟩ : Resolver).compose f f.isExtension).outcome = .ok p.type ∧
        ∀ t ∈ p.type.tokens, ∀ path, t.localPath? = some path →
          path ∈ files.paths ∨ leftOut ⟨tables, settings⟩ f t)
        m.fields d.properties

/-- The foundation library supplies nothing without a namespace unless its own is left empty. -/
theorem ReferencesGenerated.of_truthy {files : GeneratedFiles}
    (h : ReferencesGenerated settings schema files Resolver.Supplied)
    (hspace : settings.foundationNamespace.truthy = true) :
    ReferencesGenerated settings schema files fun _ _ _ => False := by
  obtain ⟨v, tables, hv, htables, hmodels⟩ := h
  refine ⟨v, tables, hv, htables, fun m hm => ?_⟩
  obtain ⟨d, hd, hfields⟩ := hmodels m hm
  refine ⟨d, hd, hfields.imp fun f p hp => ⟨hp.1, fun t ht path hpath => .inl ?_⟩⟩
  rcases hp.2 t ht path hpath with hmem | ⟨ref, -, -, -, hsupplied, -⟩
  · exact hmem
  · have hempty := TypeExpr.not_truthy_of_localPath? hpath
    rw [hsupplied] at hempty
    exact absurd (hspace.symm.trans hempty) Bool.noConfusion

theorem references_in_plan {templates : TemplateStore} {files : GeneratedFiles}
    (hvocabulary : ∀ v, settings.vocabulary = .ok v → v.EndsSeparated)
    (hschema : schema.EndsSeparated)
    (h : ((⟨backend, settings, templates⟩ : Generator).generate schema).outcome = .ok files) :
    ReferencesGenerated settings schema files Resolver.Supplied := by
  obtain ⟨results, hresults, hs, hrender⟩ := Generator.generate_ok_iff.mp h
  obtain ⟨v, tables, hv, htables, hcompiled⟩ := compile_ok_iff.mp hresults
  refine ⟨v, tables, hv, htables, fun m hm => ?_⟩
  obtain ⟨d, hd, -⟩ := exists_class hcompiled hs hm
  obtain ⟨base, shortName, names, -, -, -, hproperties, -⟩ := Resolver.compileClass_ok_iff.mp hd
  refine ⟨d, hd, hproperties.imp fun f p hp => ?_⟩
  obtain ⟨type, name, converter, htype, -, -, rfl⟩ := Resolver.compileField_ok_iff.mp hp
  refine ⟨htype, fun t ht path hpath => ?_⟩
  obtain ⟨ref, href, base, hbase, hsame⟩ := Resolver.mem_tokens_compose htype ht hpath
  -- As an element of a list the type differs from the base in being not nullable only.
  have hpath' : base.localPath? = some path := by
    rcases hsame with rfl | rfl <;> exact hpath
  rcases resolved_in_plan (hvocabulary v hv) hschema htables hcompiled hs hbase hpath' with
    hplan | ⟨henum, hfoundation⟩
  · exact .inl ((mem_paths_render hrender).mpr hplan)
  · refine .inr ⟨ref, href, henum, ?_⟩
    subst hfoundation
    rcases hsame with rfl | rfl <;> exact ⟨rfl, rfl, rfl⟩

/-- Every class and enumeration that a property refers to without a namespace has been generated,
however deep it stands in the type of the property. Only if the settings leave the namespace of the
foundation library empty can it be an enumeration that the library has. -/
theorem local_references_generated {templates : TemplateStore} {files : GeneratedFiles}
    (hvocabulary : ∀ v, settings.vocabulary = .ok v → v.EndsSeparated)
    (hschema : schema.EndsSeparated)
    (h : ((⟨backend, settings, templates⟩ : Generator).generate schema).outcome = .ok files) :
    ReferencesGenerated settings schema files Resolver.Supplied ∧
      (settings.foundationNamespace.truthy = true →
        ReferencesGenerated settings schema files fun _ _ _ => False) := by
  have hplan := references_in_plan hvocabulary hschema h
  exact ⟨hplan, hplan.of_truthy⟩

/-- An event whose status is of an enumeration in a namespace, or a list of events. -/
def statusModel (space : String) : Model where
  type := .str "Event"
  fields := [{
    fieldName := .str "eventStatus"
    order := 1
    requiredType := some ⟨space ++ "EventStatusType", false⟩
    alternativeTypes := [⟨"#Event", true⟩]
    model := none
    alternativeModels := []
    memberName := .null
    extensionPrefix := .null
    obsolete := false
    override := false
    derivedFromSchema := false
    description := []
    sample := .null }]
  subclassOf := .null
  derivedFrom := .str "https://schema.org/Event"
  description := []

def statusSchema (space : String) : SchemaSet :=
  ⟨[statusModel space], [⟨.str "EventStatusType", .str space, [], [], .null⟩]⟩

theorem endsSeparated_statusSchema {space : String}
    (h : Reference.endsInSeparator space.toList = true) :
    (statusSchema space).EndsSeparated := by
  intro e he
  obtain rfl := List.mem_singleton.mp he
  exact ⟨space, rfl, h⟩

theorem endsSeparated_of_standard {s : Settings} (hs : s.vocabulary = .ok Vocabulary.standard)
    {v : Vocabulary} (hv : s.vocabulary = .ok v) : v.EndsSeparated := by
  rw [hs] at hv
  cases hv
  exact Vocabulary.endsSeparated_standard

/-- An enumeration of the local vocabulary, met inside a union beside a list of the class itself. -/
theorem local_references_generated_status :
    let settings := Settings.default
    let schema := statusSchema "https://openactive.io/"
    ((∀ v, settings.vocabulary = .ok v → v.EndsSeparated) ∧ schema.EndsSeparated) ∧
    ∃ files : GeneratedFiles,
      ((⟨backend, settings, .empty⟩ : Generator).generate schema).outcome = .ok files ∧
      files.paths = ["/enums/EventStatusType.cs", "/models/Event.cs"] ∧
      ReferencesGenerated settings schema files fun _ _ _ => False := by
  intro settings schema
  have hvocabulary (v : Vocabulary) (hv : settings.vocabulary = .ok v) : v.EndsSeparated :=
    endsSeparated_of_standard Vocabulary.default_vocabulary hv
  have hschema : schema.EndsSeparated := endsSeparated_statusSchema (by decide)
  obtain ⟨files, hfiles, hpaths⟩ :
      ∃ files, ((⟨backend, settings, .empty⟩ : Generator).generate schema).outcome = .ok files ∧
        (files.paths == ["/enums/EventStatusType.cs", "/models/Event.cs"]) = true :=
    Attempt.exists_ok_of_any (by decide +kernel)
  exact ⟨⟨hvocabulary, hschema⟩, files, hfiles, beq_iff_eq.mp hpaths,
    (local_references_generated hvocabulary hschema hfiles).2 rfl⟩

/-- Under an empty foundation namespace a foundation enumeration is written without a namespace, and
no file has it. -/
theorem external_enum_without_file :
    ¬ ∀ (settings : Settings) (schema : SchemaSet) (templates : TemplateStore)
      (files : GeneratedFiles), (∀ v, settings.vocabulary = .ok v → v.EndsSeparated) →
      schema.EndsSeparated →
      ((⟨backend, settings, templates⟩ : Generator).generate schema).outcome = .ok files →
      ReferencesGenerated settings schema files fun _ _ _ => False := by
  intro hall
  let settings : Settings := { Settings.default with foundationNamespace := .str "" }
  let schema := statusSchema "https://schema.org/"
  have hvocabulary (v : Vocabulary) (hv : settings.vocabulary = .ok v) : v.EndsSeparated :=
    @endsSeparated_of_standard settings rfl v hv
  obtain ⟨files, hfiles, hpaths⟩ :
      ∃ files, ((⟨backend, settings, .empty⟩ : Generator).generate schema).outcome = .ok files ∧
        (files.paths == ["/models/Event.cs"]) = true :=
    Attempt.exists_ok_of_any (by decide +kernel)
  obtain ⟨v, tables, hv, htables, hclosed⟩ := hall settings schema .empty files hvocabulary
    (endsSeparated_statusSchema (by decide)) hfiles
  obtain ⟨d, hd, hfields⟩ := hclosed (statusModel "https://schema.org/") List.mem_cons_self
  have hbare : (d.properties.any fun p => p.type.tokens.any fun t =>
      t.localPath? == some "/enums/EventStatusType.cs") = true := by
    obtain ⟨d', hd', hbare⟩ :
        ∃ d', (settings.vocabulary >>= fun v => LookupTables.readTables schema v >>= fun tables =>
            ((⟨tables, settings⟩ : Resolver).compileClass
              (statusModel "https://schema.org/")).outcome) = .ok d' ∧
          (d'.properties.any fun p => p.type.tokens.any fun t =>
            t.localPath? == some "/enums/EventStatusType.cs") = true :=
      Attempt.exists_ok_of_any (by decide +kernel)
    rw [hv, Attempt.ok_bind, htables, Attempt.ok_bind, hd] at hd'
    exact Except.ok.inj hd' ▸ hbare
  obtain ⟨p, hp, hbare⟩ := List.any_eq_true.mp hbare
  obtain ⟨t, ht, hpath⟩ := List.any_eq_true.mp hbare
  obtain ⟨f, -, -, hgenerated⟩ := exists_left_of_forall₂ hfields hp
  rcases hgenerated t ht _ (beq_iff_eq.mp hpath) with hmem | hleftOut
  · rw [beq_iff_eq.mp hpaths] at hmem
    simp at hmem
  · exact hleftOut

end DotNet
end TypedVocabulary
