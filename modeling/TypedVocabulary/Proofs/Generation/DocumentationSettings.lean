import TypedVocabulary.Proofs.Classes.Documentation
import TypedVocabulary.Proofs.Generation.Files

/-! # Settings of documentation

Settings that switch documentation on and off take no part in compilation, and rendering succeeds
under all of them or under none. What they can change of a file is its comments, as long as no
documentation of its definition has a line feed in it that leads out of the comment.
-/
namespace TypedVocabulary

/-- The same settings with documentation and examples switched on or off. -/
def Settings.documented (s : Settings) (comments examples : Json) : Settings :=
  { s with addComments := comments, addCodeExamples := examples }

/-! ## Compilation -/

section
variable (t : LookupTables) (s : Settings) (comments examples : Json)

theorem BaseClass.resolve_documented (v : Vocabulary) :
    resolve v (s.documented comments examples) = resolve v s := by
  funext type subclassOf derivedFrom
  simp only [resolve, named, root, Settings.documented]

theorem BaseClass.hasMembers_documented :
    hasMembers (s.documented comments examples) = hasMembers s := by
  funext base
  simp only [hasMembers, root, Settings.documented]

namespace Resolver

theorem resolveBase_documented :
    resolveBase ⟨t, s.documented comments examples⟩ = resolveBase ⟨t, s⟩ := by
  have hfoundation :
      foundationType ⟨t, s.documented comments examples⟩ = foundationType ⟨t, s⟩ := by
    funext name nullable kind
    simp only [foundationType, Settings.documented]
  have hnotice :
      unverifiedNotice ⟨t, s.documented comments examples⟩ = unverifiedNotice ⟨t, s⟩ := by
    funext name key
    unfold unverifiedNotice Settings.documented
    dsimp only
  funext ref isExtension
  unfold resolveBase
  simp only [hfoundation, hnotice]

theorem compose_documented :
    compose ⟨t, s.documented comments examples⟩ = compose ⟨t, s⟩ := by
  have hlist : listOf ⟨t, s.documented comments examples⟩ = listOf ⟨t, s⟩ := by
    funext element
    simp only [listOf, Settings.documented]
  have hcombine : combine ⟨t, s.documented comments examples⟩ = combine ⟨t, s⟩ := by
    funext types
    simp only [combine, unionOf, Settings.documented]
  funext f isExtension
  simp only [compose, resolve, resolvePure, resolveBase_documented, hlist, hcombine]

theorem compileClass_documented :
    compileClass ⟨t, s.documented comments examples⟩ = compileClass ⟨t, s⟩ := by
  have hfield :
      compileField ⟨t, s.documented comments examples⟩ = compileField ⟨t, s⟩ := by
    funext f hasBase chosen
    simp only [compileField, composeLocated, converterFor, requiresTime, compose_documented]
  funext m
  simp only [compileClass, BaseClass.resolve_documented, BaseClass.hasMembers_documented, hfield]

end Resolver

theorem DotNet.compile_documented : compile (s.documented comments examples) = compile s := by
  have hmodel (t : LookupTables) :
      Resolver.compileModel ⟨t, s.documented comments examples⟩ = Resolver.compileModel ⟨t, s⟩ := by
    funext m
    simp only [Resolver.compileModel, Resolver.compileClass_documented]
  have henum (t : LookupTables) :
      Resolver.compileEnum ⟨t, s.documented comments examples⟩ = Resolver.compileEnum ⟨t, s⟩ := by
    funext e
    simp only [Resolver.compileEnum]
  funext schema
  simp only [compile, Resolver.compileSchema, hmodel, henum]
  rfl

end

/-! ## Views -/

/-- All documentation of a class is comments, with that of its properties and its page. -/
def ClassDefinition.Contained (s : Settings) (c : ClassDefinition) : Prop :=
  (∀ t ∈ c.description, Text.Contained (Text.markup t)) ∧
    (s.docsUrlPrefix.truthy = true → SourceText.Commented
      (SourceText.docsLine c.type.display (s.docsUrlPrefix.display ++ Text.lower c.name))) ∧
    ∀ p ∈ c.properties, ∀ t ∈ p.description, Text.Contained (Text.markup t)

def EnumDefinition.Contained (e : EnumDefinition) : Prop :=
  ∀ t ∈ e.description, Text.Contained (Text.markup t)

def Definition.Contained (s : Settings) : Definition → Prop
  | .ofClass c => c.Contained s
  | .ofEnum e => e.Contained

namespace SourceText
variable {s : Settings} {comments examples : Json}

theorem forall_shownDescription_iff (description : List String) (P : String → Prop) :
    (∀ t ∈ shownDescription (s.documented comments examples) description, P t) ↔
      (comments.truthy = true → ∀ t ∈ description, P t) := by
  have hshown : shownDescription (s.documented comments examples) description =
      if comments.truthy then description else [] := rfl
  rw [hshown]
  cases comments.truthy <;> simp

theorem propertyView_ok {converters : Converters} {p : Property} {view : PropertyView}
    (h : propertyView s converters p = .ok view) :
    ∃ type, p.type.text = .ok type ∧
      view = ⟨p.name, type, shownDescription s p.description, shownSample s p,
        attributes converters p, declaration p type⟩ := by
  obtain ⟨type, htype, h⟩ := Attempt.bind_ok_iff.mp h
  exact ⟨type, htype, (Except.ok.inj h).symm⟩

theorem not_mem_sampleLines (value fieldName : Json) (numeric : Bool) {line : String}
    (h : line ∈ Sample.lines value fieldName numeric) : '\n' ∉ line.toList := by
  rw [Sample.lines, List.cons_append, List.mem_cons, List.mem_append, List.mem_singleton] at h
  rcases h with rfl | h | rfl
  · decide
  · obtain ⟨piece, hpiece, rfl⟩ := List.mem_map.mp h
    rw [String.toList_ofList]
    exact Text.not_mem_of_mem_splitOn hpiece
  · decide

theorem bracket_append {a : String} (h : ∃ b, a = "[" ++ b) (c : String) :
    ∃ b, a ++ c = "[" ++ b := by
  obtain ⟨b, rfl⟩ := h
  exact ⟨b ++ c, String.append_assoc⟩

theorem bracket_memberAttribute (p : Property) : ∃ a, memberAttribute p = "[" ++ a := by
  have hfirst : ∃ b, "[DataMember(Name = \"" = "[" ++ b := ⟨"DataMember(Name = \"", by decide⟩
  exact bracket_append (bracket_append (bracket_append (bracket_append hfirst _) _) _) _

theorem bracket_attributes (converters : Converters) (p : Property) :
    ∃ a rest, attributes converters p = ("[" ++ a) :: rest := by
  have hobsolete : ∃ b, "[Obsolete(\"" = "[" ++ b := ⟨"Obsolete(\"", by decide⟩
  unfold attributes
  cases p.disinherited with
  | true =>
    obtain ⟨a, ha⟩ := bracket_append (bracket_append hobsolete disinheritedMessage) "\", true)]"
    exact ⟨a, [], by rw [if_pos rfl, ha]⟩
  | false =>
    obtain ⟨a, ha⟩ := bracket_memberAttribute p
    exact ⟨a, converterAttribute (converters.get p.converter),
      by rw [if_neg Bool.false_ne_true, ha]⟩

theorem wellFormed_propertyView {converters : Converters} {p : Property} {view : PropertyView}
    (h : propertyView s converters p = .ok view) : view.WellFormed := by
  obtain ⟨type, -, rfl⟩ := propertyView_ok h
  refine ⟨bracket_attributes converters p, ?_⟩
  · intro line hline
    dsimp only [shownSample] at hline
    split at hline
    · split at hline
      · cases hline
      · exact not_mem_sampleLines _ _ _ hline
    · cases hline

theorem propertyView_bare {converters : Converters} {p : Property} {view : PropertyView}
    (h : propertyView s converters p = .ok view) :
    propertyView (s.documented .null .null) converters p = .ok view.bare := by
  obtain ⟨type, htype, rfl⟩ := propertyView_ok h
  rw [propertyView, htype]
  rfl

theorem classView_ok {c : ClassDefinition} {view : ClassView} (h : classView s c = .ok view) :
    ∃ converters base properties, Converters.ofSettings s = .ok converters ∧
      c.base.render = .ok base ∧ c.properties.mapM (propertyView s converters) = .ok properties ∧
      view = ⟨s.namespace.display, c.name, base.display, c.type.display,
        shownDescription s c.description, docsUrl s c.name, properties⟩ := by
  obtain ⟨converters, hconverters, h⟩ := Attempt.bind_ok_iff.mp h
  obtain ⟨base, hbase, h⟩ := Attempt.bind_ok_iff.mp h
  obtain ⟨properties, hproperties, h⟩ := Attempt.bind_ok_iff.mp h
  exact ⟨converters, base, properties, hconverters, hbase, hproperties, (Except.ok.inj h).symm⟩

theorem wellFormed_classView {c : ClassDefinition} {view : ClassView}
    (h : classView s c = .ok view) : ∀ p ∈ view.properties, p.WellFormed := by
  obtain ⟨converters, base, properties, -, -, hproperties, rfl⟩ := classView_ok h
  intro p hp
  obtain ⟨property, -, hview⟩ := (Attempt.mem_mapM_iff hproperties).mp hp
  exact wellFormed_propertyView hview

theorem classView_bare {c : ClassDefinition} {view : ClassView} (h : classView s c = .ok view) :
    classView (s.documented .null .null) c = .ok view.bare := by
  obtain ⟨converters, base, properties, hconverters, hbase, hproperties, rfl⟩ := classView_ok h
  have hbare : c.properties.mapM (propertyView (s.documented .null .null) converters) =
      .ok (properties.map PropertyView.bare) := by
    rw [Attempt.mapM_ok_iff, List.forall₂_map_right_iff]
    exact (Attempt.mapM_ok_iff.mp hproperties).imp fun p view => propertyView_bare
  have hconverters' : Converters.ofSettings (s.documented .null .null) = .ok converters :=
    hconverters
  rw [classView, hconverters', Attempt.ok_bind, hbase, Attempt.ok_bind, hbare]
  rfl

theorem exists_classView_documented {c : ClassDefinition} {view : ClassView}
    (h : classView s c = .ok view) (comments examples : Json) :
    ∃ view', classView (s.documented comments examples) c = .ok view' := by
  obtain ⟨converters, base, properties, hconverters, hbase, hproperties, -⟩ := classView_ok h
  have hviews : ∃ views,
      c.properties.mapM (propertyView (s.documented comments examples) converters) = .ok views := by
    refine Attempt.exists_mapM_ok fun p hp => ?_
    obtain ⟨view, -, hview⟩ := Attempt.exists_of_mem_mapM hproperties hp
    obtain ⟨type, htype, -⟩ := propertyView_ok hview
    rw [propertyView, htype]
    exact ⟨_, rfl⟩
  obtain ⟨views, hviews⟩ := hviews
  have hconverters' : Converters.ofSettings (s.documented comments examples) = .ok converters :=
    hconverters
  rw [classView, hconverters', Attempt.ok_bind, hbase, Attempt.ok_bind, hviews]
  exact ⟨_, rfl⟩

theorem forall_docsUrl_iff (name : String) (P : String → Prop) :
    (∀ url ∈ docsUrl (s.documented comments examples) name, P url) ↔
      (comments.truthy = true → s.docsUrlPrefix.truthy = true →
        P (s.docsUrlPrefix.display ++ Text.lower name)) := by
  have hurl : docsUrl (s.documented comments examples) name =
      if comments.truthy && s.docsUrlPrefix.truthy then
        some (s.docsUrlPrefix.display ++ Text.lower name) else none := rfl
  rw [hurl]
  cases comments.truthy <;> cases s.docsUrlPrefix.truthy <;> simp

theorem forall_properties_iff {converters : Converters} {properties : List Property}
    {views : List PropertyView}
    (h : List.Forall₂ (fun p view =>
      propertyView (s.documented comments examples) converters p = .ok view) properties views) :
    (∀ view ∈ views, view.Contained) ↔
      (comments.truthy = true →
        ∀ p ∈ properties, ∀ t ∈ p.description, Text.Contained (Text.markup t)) := by
  induction h with
  | nil => simp
  | @cons p view _ _ hp _ ih =>
    obtain ⟨type, -, rfl⟩ := propertyView_ok hp
    rw [List.forall_mem_cons, ih, PropertyView.Contained, forall_shownDescription_iff, ← imp_and,
      List.forall_mem_cons]

theorem contained_classView_iff {c : ClassDefinition} {view : ClassView}
    (h : classView (s.documented comments examples) c = .ok view) :
    view.Contained ↔ (comments.truthy = true → c.Contained s) := by
  obtain ⟨converters, base, properties, -, -, hproperties, rfl⟩ := classView_ok h
  rw [ClassView.Contained, forall_shownDescription_iff, forall_docsUrl_iff,
    forall_properties_iff (Attempt.mapM_ok_iff.mp hproperties), ← imp_and, ← imp_and]
  rfl

/-! ## Files -/

/-- No template stands in for a built-in layout. -/
def BuiltIn (t : TemplateStore) : Prop :=
  t.added? classTemplate = none ∧ t.added? enumTemplate = none

variable {t : TemplateStore}

theorem ofClass_ok_iff (ht : t.added? classTemplate = none) {c : ClassDefinition} {text : String} :
    ofClass s t c = .ok text ↔ ∃ view, classView s c = .ok view ∧ text = ofLines (classLines view) := by
  rw [ofClass, Attempt.bind_ok_iff]
  refine exists_congr fun view => and_congr_right fun _ => ?_
  rw [ht, Attempt.pure_ok_iff]
  exact eq_comm

theorem ofEnum_ok_iff (ht : t.added? enumTemplate = none) {e : EnumDefinition} {text : String} :
    ofEnum s t e = .ok text ↔ text = ofLines (enumLines (enumView s e)) := by
  rw [ofEnum, ht, Attempt.pure_ok_iff]
  exact eq_comm

end SourceText

namespace DotNet
open SourceText
variable {s : Settings} {t : TemplateStore} {comments examples : Json}

theorem exists_source_documented (ht : BuiltIn t) {d : Definition} {text : String}
    (h : source s t d = .ok text) (comments examples : Json) :
    ∃ text', source (s.documented comments examples) t d = .ok text' := by
  cases d with
  | ofClass c =>
    obtain ⟨view, hview, -⟩ := (ofClass_ok_iff ht.1).mp h
    obtain ⟨view', hview'⟩ := exists_classView_documented hview comments examples
    exact ⟨_, (ofClass_ok_iff ht.1).mpr ⟨view', hview', rfl⟩⟩
  | ofEnum e => exact ⟨_, (ofEnum_ok_iff ht.2).mpr rfl⟩

theorem codeLines_source_iff (ht : BuiltIn t) {d : Definition} {text bare : String}
    (h : source (s.documented comments examples) t d = .ok text)
    (hbare : source (s.documented .null .null) t d = .ok bare) :
    Text.codeLines text = Text.codeLines bare ↔ (comments.truthy = true → d.Contained s) := by
  cases d with
  | ofClass c =>
    obtain ⟨view, hview, rfl⟩ := (ofClass_ok_iff ht.1).mp h
    obtain ⟨view', hview', rfl⟩ := (ofClass_ok_iff ht.1).mp hbare
    obtain rfl := Except.ok.inj ((classView_bare hview).symm.trans hview')
    rw [codeLines_class_iff (wellFormed_classView hview), contained_classView_iff hview]
    rfl
  | ofEnum e =>
    obtain rfl := (ofEnum_ok_iff ht.2).mp h
    obtain rfl := (ofEnum_ok_iff ht.2).mp hbare
    have hview : enumView (s.documented .null .null) e =
        (enumView (s.documented comments examples) e).bare := rfl
    rw [hview, codeLines_enum_iff]
    exact forall_shownDescription_iff e.description _

end DotNet

namespace GeneratedFiles

/-- The code of files by path. -/
def code (files : GeneratedFiles) : List (String × List (List Char)) :=
  files.map fun x => (x.1, Text.codeLines x.2)

theorem code_eq_iff {α : Type} {R R' : α → String → Prop} {P : α → Prop} {xs : List (String × α)}
    {files files' : GeneratedFiles} (h : KeyedList.Related R xs files)
    (h' : KeyedList.Related R' xs files')
    (hP : ∀ a text text', R a text → R' a text' →
      (Text.codeLines text = Text.codeLines text' ↔ P a)) :
    files.code = files'.code ↔ ∀ x ∈ xs, P x.2 := by
  induction h generalizing files' with
  | nil =>
    cases h'
    simp
  | @cons x y _ _ hxy _ ih =>
    cases h' with
    | @cons _ z _ _ hxz hrest =>
      have hpath : y.1 = z.1 := hxy.1.symm.trans hxz.1
      simp only [code] at ih
      rw [code, code, List.map_cons, List.map_cons, List.cons.injEq, ih hrest, List.forall_mem_cons,
        Prod.mk.injEq, hP x.2 y.2 z.2 hxy.2 hxz.2]
      simp only [hpath, true_and]

end GeneratedFiles

namespace DotNet
open SourceText
variable {s : Settings} {t : TemplateStore} {schema : SchemaSet} {results : List Compilation}
  {files : GeneratedFiles}

theorem exists_render_documented (ht : BuiltIn t)
    (h : (render s t results).outcome = .ok files) (comments examples : Json) :
    ∃ files', (render (s.documented comments examples) t results).outcome = .ok files' := by
  obtain ⟨texts, htexts, -⟩ := render_ok_iff.mp h
  have hall : ∃ texts',
      (plan results).mapM (renderPair (s.documented comments examples) t) = .ok texts' := by
    refine Attempt.exists_mapM_ok fun x hx => ?_
    obtain ⟨y, -, hy⟩ := Attempt.exists_of_mem_mapM htexts hx
    obtain ⟨text, htext, -⟩ := Attempt.bind_ok_iff.mp hy
    obtain ⟨text', htext'⟩ := exists_source_documented ht htext comments examples
    exact ⟨(x.1, text'), by rw [renderPair, htext']; rfl⟩
  obtain ⟨texts', htexts'⟩ := hall
  exact ⟨_, render_ok_iff.mpr ⟨texts', htexts', rfl⟩⟩

theorem generate_documented_iff (hresults : (compile s schema).outcome = .ok results)
    (hs : ∀ c ∈ results, c.succeeded = true) (comments examples : Json) :
    ((⟨backend, s.documented comments examples, t⟩ : Generator).generate schema).outcome =
        .ok files ↔
      (render (s.documented comments examples) t results).outcome = .ok files := by
  have hcompile : (compile (s.documented comments examples) schema).outcome = .ok results := by
    rw [compile_documented, hresults]
  rw [Generator.generate_ok_iff]
  constructor
  · rintro ⟨results', hresults', -, hrender⟩
    obtain rfl := Except.ok.inj (hcompile.symm.trans hresults')
    exact hrender
  · intro hrender
    exact ⟨results, hcompile, hs, hrender⟩

theorem code_render_iff (ht : BuiltIn t) {comments examples : Json} {bare : GeneratedFiles}
    (h : (render (s.documented comments examples) t results).outcome = .ok files)
    (hbare : (render (s.documented .null .null) t results).outcome = .ok bare) :
    files.code = bare.code ↔
      ∀ x ∈ rendered results, comments.truthy = true → x.2.Contained s :=
  GeneratedFiles.code_eq_iff (related_render h) (related_render hbare) fun _ _ _ htext hbare =>
    codeLines_source_iff ht htext hbare

/-- Documentation settings leave the paths of the files alone, and their code exactly if all
documentation that can be shown is comments. -/
theorem code_independent_iff (ht : BuiltIn t)
    (h : ((⟨backend, s, t⟩ : Generator).generate schema).outcome = .ok files) :
    (∀ comments examples, ∃ files',
      ((⟨backend, s.documented comments examples, t⟩ : Generator).generate schema).outcome =
        .ok files' ∧ files'.paths = files.paths) ∧
    ∃ results, (compile s schema).outcome = .ok results ∧
      ((∀ comments examples files',
        ((⟨backend, s.documented comments examples, t⟩ : Generator).generate schema).outcome =
          .ok files' → files'.code = files.code) ↔
      ∀ x ∈ rendered results, x.2.Contained s) := by
  obtain ⟨results, hresults, hs, hrender⟩ := Generator.generate_ok_iff.mp h
  have hgenerate {files' : GeneratedFiles} (comments examples : Json) :=
    @generate_documented_iff s t schema results files' hresults hs comments examples
  obtain ⟨bare, hbare⟩ := exists_render_documented ht hrender .null .null
  have hself : files.code = bare.code ↔
      ∀ x ∈ rendered results, s.addComments.truthy = true → x.2.Contained s :=
    @code_render_iff s t results files ht s.addComments s.addCodeExamples bare hrender hbare
  refine ⟨fun comments examples => ?_, results, hresults, ?_, ?_⟩
  · obtain ⟨files', hfiles'⟩ := exists_render_documented ht hrender comments examples
    refine ⟨files', (hgenerate comments examples).mpr hfiles', ?_⟩
    exact (KeyedList.keys_of_related (related_render hfiles')).trans
      (KeyedList.keys_of_related (related_render hrender)).symm
  · intro hsame x hx
    obtain ⟨full, hfull⟩ := exists_render_documented ht hrender (.bool true) (.bool true)
    have hfullCode := hsame _ _ full ((hgenerate _ _).mpr hfull)
    have hbareCode := hsame _ _ bare ((hgenerate _ _).mpr hbare)
    exact (code_render_iff ht hfull hbare).mp (hfullCode.trans hbareCode.symm) x hx rfl
  · intro hcontained comments examples files' hfiles'
    have hcode : files'.code = bare.code :=
      (code_render_iff ht ((hgenerate _ _).mp hfiles') hbare).mpr fun x hx _ => hcontained x hx
    exact hcode.trans (hself.mpr fun x hx _ => hcontained x hx).symm

/-- A class whose description goes on in a second line. -/
def lineFeedSchema : SchemaSet :=
  ⟨[⟨.str "Event", [], .null, .str "https://schema.org/Event",
    ["One\npublic class Other {}"]⟩], []⟩

/-- The second line of a description is code, so it comes and goes with the documentation. -/
theorem code_changed_by_line_feed :
    BuiltIn .empty ∧ ∃ files : GeneratedFiles,
      ((⟨backend, Settings.default, .empty⟩ : Generator).generate lineFeedSchema).outcome =
        .ok files ∧
      ¬ ∀ comments examples files',
        ((⟨backend, Settings.default.documented comments examples, .empty⟩ :
          Generator).generate lineFeedSchema).outcome = .ok files' → files'.code = files.code := by
  have ht : BuiltIn .empty := ⟨rfl, rfl⟩
  obtain ⟨files, hfiles⟩ :
      ∃ files, ((⟨backend, Settings.default, .empty⟩ : Generator).generate
        lineFeedSchema).outcome = .ok files :=
    Attempt.exists_ok_of_isSome (by decide +kernel)
  refine ⟨ht, files, hfiles, fun hsame => ?_⟩
  obtain ⟨-, results, hresults, hiff⟩ := code_independent_iff ht hfiles
  have hcontained := hiff.mp hsame
  obtain ⟨results', hresults', hspilled⟩ :
      ∃ results', (compile Settings.default lineFeedSchema).outcome = .ok results' ∧
        ((rendered results').any fun x => match x.2 with
          | .ofClass c => c.description.any fun line => !decide (Text.Contained (Text.markup line))
          | .ofEnum _ => false) = true :=
    Attempt.exists_ok_of_any (by decide +kernel)
  obtain rfl := Except.ok.inj (hresults.symm.trans hresults')
  obtain ⟨⟨path, d⟩, hx, hspilled⟩ := List.any_eq_true.mp hspilled
  have hd := hcontained _ hx
  cases d with
  | ofClass c =>
    obtain ⟨line, hline, hspilled⟩ := List.any_eq_true.mp hspilled
    simp [hd.1 line hline] at hspilled
  | ofEnum e => cases hspilled

end DotNet
end TypedVocabulary
