import TypedVocabulary.Proofs.Classes.PropertyNames
import TypedVocabulary.Proofs.Classes.ResolvedReference

/-! # Fields marked as extensions

The mark of an extension is looked at in three places. Resolution asks for it last, where it replaces
a fault, so it takes no type away and changes none. The order of a property and the way it hides an
inherited member depend on it openly. Names are assigned without it. So a model that compiles can have
its fields marked, and apart from the mark itself only order and shadowing follow.
-/
namespace TypedVocabulary

/-! ## Marks -/

/-- The field itself, or the field as that of an extension if it was none before. -/
inductive Field.Marks : Field → Field → Prop
  | kept (f : Field) : Marks f f
  | marked {f : Field} {extensionPrefix : Json} (hf : f.isExtension = false)
      (hp : extensionPrefix.truthy = true) : Marks f { f with extensionPrefix }

/-- The same model with some of its fields marked. -/
structure Model.Marks (m m' : Model) : Prop where
  type : m'.type = m.type
  fields : List.Forall₂ Field.Marks m.fields m'.fields
  subclassOf : m'.subclassOf = m.subclassOf
  derivedFrom : m'.derivedFrom = m.derivedFrom
  description : m'.description = m.description

/-- An extension property: it comes after all others, and it hides nothing unless it is disinherited. -/
def Property.marked (p : Property) : Property :=
  { p with
    isExtension := true
    order := p.order.map (· + extensionOffset)
    shadowing := if p.disinherited then p.shadowing else .none }

def Property.following (p : Property) (f : Field) : Property :=
  if f.isExtension = p.isExtension then p else p.marked

def ClassDefinition.following (c : ClassDefinition) (m : Model) : ClassDefinition :=
  { c with properties := List.zipWith Property.following c.properties m.fields }

variable {f f' : Field} {m m' : Model}

theorem Property.notices_following (p : Property) (f : Field) :
    (p.following f).notices = p.notices := by
  unfold following
  split <;> rfl

theorem notices_zipWith_following {properties : List Property} {fields : List Field}
    (h : properties.length = fields.length) :
    (List.zipWith Property.following properties fields).map Property.notices =
      properties.map Property.notices := by
  rw [List.map_zipWith, ← List.map_uncurry_zip_eq_zipWith]
  calc
    _ = ((properties.zip fields).map Prod.fst).map Property.notices := by
      rw [List.map_map]
      exact List.map_congr_left fun pf _ => pf.1.notices_following pf.2
    _ = _ := by rw [List.map_fst_zip h.le]

theorem ClassDefinition.notices_following {c : ClassDefinition}
    (h : c.properties.length = m.fields.length) : (c.following m).notices = c.notices := by
  unfold notices following
  rw [List.flatMap_def, List.flatMap_def, notices_zipWith_following h]

theorem Field.Marks.fieldName (h : f.Marks f') : f'.fieldName = f.fieldName := by
  cases h <;> rfl

theorem Field.Marks.obsolete (h : f.Marks f') : f'.obsolete = f.obsolete := by
  cases h <;> rfl

namespace MemberNames

theorem assign_marks (h : m.Marks m') (className : String) :
    assign m className = assign m' className := by
  have hfix (state : Sanitizer × Table) (f f' : Field) (hf : f.Marks f') :
      fixOne state f = fixOne state f' := by
    unfold fixOne
    rw [hf.obsolete, hf.fieldName]
  have hassign (state : Sanitizer × Table) (f f' : Field) (hf : f.Marks f') :
      assignOne state f = assignOne state f' := by
    unfold assignOne
    rw [hf.obsolete, hf.fieldName]
  unfold assign
  simp only [Attempt.foldlM_congr h.fields hfix, Attempt.foldlM_congr h.fields hassign]

end MemberNames

namespace Resolver
variable {r : Resolver} {ref : TypeReference} {t : TypeExpr} {p : Property}

/-! ## Types -/

/-- What is found without an extension is found before the mark is asked for. -/
theorem Resolves.extension {name key : String} (h : r.Resolves name key false t)
    (isExtension : Bool) : r.Resolves name key isExtension t := by
  cases h with
  | scalar hs => exact .scalar hs
  | foundationEnum hs he hx => exact .foundationEnum hs he hx
  | localEnum hs he hx => exact .localEnum hs he hx
  | model hs he hm => exact .model hs he hm
  | foundation hs he hm hf => exact .foundation hs he hm hf
  | unverified _ _ _ _ hx => cases hx

theorem resolvePure_extension (h : r.resolvePure ref false = .ok t) (isExtension : Bool) :
    r.resolvePure ref isExtension = .ok t := by
  obtain ⟨base, hbase, ht⟩ := resolvePure_ok_iff.mp h
  obtain ⟨key, hkey, hresolves⟩ := resolveBase_ok_iff.mp hbase
  have hbase' := resolveBase_ok_iff.mpr ⟨key, hkey, hresolves.extension isExtension⟩
  exact resolvePure_ok_iff.mpr ⟨base, hbase', ht⟩

theorem compose_extension (h : (r.compose f false).outcome = .ok t) (isExtension : Bool) :
    (r.compose f isExtension).outcome = .ok t := by
  obtain ⟨hrefs, types, htypes, ht⟩ := outcome_compose.mp h
  refine outcome_compose.mpr ⟨hrefs, types, Attempt.mapM_ok_iff.mpr ?_, ht⟩
  exact (Attempt.mapM_ok_iff.mp htypes).imp fun _ _ href => resolvePure_extension href isExtension

/-! ## Properties and classes -/

theorem compileField_marks (h : f.Marks f') {hasBase : Bool} {chosen : String}
    (hp : (r.compileField f hasBase chosen).outcome = .ok p) :
    (r.compileField f' hasBase chosen).outcome = .ok (p.following f') := by
  obtain ⟨type, name, converter, htype, hname, hconverter, rfl⟩ := compileField_ok_iff.mp hp
  cases h with
  | kept =>
    rw [Property.following, if_pos rfl]
    exact hp
  | @marked extensionPrefix hf hx =>
    have hmark : ({ f with extensionPrefix } : Field).isExtension = true := hx
    rw [hf] at htype
    refine compileField_ok_iff.mpr
      ⟨type, name, converter, compose_extension htype _, hname, hconverter, ?_⟩
    have horder : ({ f with extensionPrefix } : Field).compiledOrder =
        f.compiledOrder + extensionOffset := by
      rw [Field.compiledOrder, Field.compiledOrder, hmark, hf]
      simp
    have hshadowing : shadowingFor { f with extensionPrefix } hasBase = .none := by
      simp [shadowingFor, hmark]
    rw [Property.following, hmark, hf, if_neg Bool.noConfusion, Property.marked, horder,
      hshadowing]
    cases f.obsolete <;> rfl

theorem compileFields_marks {fields fields' : List Field} {properties : List Property}
    (h : List.Forall₂ Field.Marks fields fields') {hasBase : Bool} (chosen : Json → String)
    (hp : List.Forall₂ (fun f p =>
      (r.compileField f hasBase (chosen f.fieldName)).outcome = .ok p) fields properties) :
    List.Forall₂ (fun f p => (r.compileField f hasBase (chosen f.fieldName)).outcome = .ok p)
      fields' (List.zipWith Property.following properties fields') := by
  induction h generalizing properties with
  | nil =>
    obtain rfl := List.forall₂_nil_left_iff.mp hp
    exact .nil
  | cons hf _ ih =>
    obtain ⟨p, rest, hfirst, hrest, rfl⟩ := List.forall₂_cons_left_iff.mp hp
    refine .cons ?_ (ih hrest)
    rw [hf.fieldName]
    exact compileField_marks hf hfirst

theorem compileClass_marks (h : m.Marks m') {c : ClassDefinition}
    (hc : (r.compileClass m).outcome = .ok c) :
    (r.compileClass m').outcome = .ok (c.following m') := by
  obtain ⟨base, shortName, names, hbase, hname, hnames, hproperties, hparts⟩ :=
    compileClass_ok_iff.mp hc
  have hbase' : BaseClass.resolve r.tables.vocabulary r.settings m'.type m'.subclassOf
      m'.derivedFrom = .ok base := by
    rw [h.type, h.subclassOf, h.derivedFrom]
    exact hbase
  have hname' : m'.shortName = .ok shortName := by
    rw [Model.shortName, h.type]
    exact hname
  have hnames' : MemberNames.assign m' (typeName shortName) = .ok names :=
    MemberNames.assign_marks h _ ▸ hnames
  refine compileClass_ok_iff.mpr ⟨base, shortName, names, hbase', hname', hnames', ?_, ?_⟩
  · exact compileFields_marks h.fields (fun field => (MemberNames.name? names field).getD "")
      hproperties
  · rw [ClassDefinition.following, hparts, h.type, h.description]

theorem isExtension_of_compileClass {c : ClassDefinition}
    (hc : (r.compileClass m).outcome = .ok c) :
    c.properties.map Property.isExtension = m.fields.map Field.isExtension :=
  map_eq_map_of_forall₂ (carries_of_compileClass hc) fun _ _ hp => hp.isExtension

/-- A model that compiles does so with any of its fields marked as extensions, into the same class
but for the properties of these fields, of which only the mark, the order and the shadowing are
others. -/
theorem marked_model_compiles (h : m.Marks m') {c : ClassDefinition}
    (hc : (r.compileModel m).outcome = .ok ⟨m.type, c.notices, .ok (some (.ofClass c))⟩) :
    (r.compileModel m').outcome =
        .ok ⟨m.type, c.notices, .ok (some (.ofClass (c.following m')))⟩ ∧
      c.properties.map Property.isExtension = m.fields.map Field.isExtension ∧
      (c.following m').properties.map Property.isExtension = m'.fields.map Field.isExtension ∧
      (c.following m').notices = c.notices := by
  have hclass := compileModel_class_iff.mp hc
  have hclass' := compileClass_marks h hclass
  have hmarks := isExtension_of_compileClass hclass
  have hlength : c.properties.length = m'.fields.length := by
    rw [← h.fields.length_eq]
    simpa using congrArg List.length hmarks
  have hnotices := c.notices_following hlength
  refine ⟨?_, hmarks, isExtension_of_compileClass hclass', hnotices⟩
  rw [← hnotices, ← h.type]
  exact compileModel_class_iff.mpr hclass'

/-- A field and a disinherited one, both marked. The first loses its place and hides nothing any more,
the second stays as it is. -/
theorem marked_model_compiles_level :
    let r : Resolver := ⟨⟨[], [], Vocabulary.standard⟩, Settings.default⟩
    let level : Field :=
      { Field.ofType "level" "https://schema.org/Text" with derivedFromSchema := true }
    let name : Field := { Field.ofType "name" "https://schema.org/Text" with obsolete := true }
    let m := eventOf [level, name]
    let m' := eventOf [{ level with extensionPrefix := .str "beta" },
      { name with extensionPrefix := .str "beta" }]
    m.Marks m' ∧ ∃ c : ClassDefinition,
      (r.compileModel m).outcome = .ok ⟨m.type, c.notices, .ok (some (.ofClass c))⟩ ∧
      (r.compileModel m').outcome =
        .ok ⟨m.type, c.notices, .ok (some (.ofClass (c.following m')))⟩ ∧
      c.properties.map (fun p => (p.order, p.shadowing)) =
        [(some 0, .new), (none, .override)] ∧
      (c.following m').properties.map (fun p => (p.order, p.shadowing)) =
        [(some 1000, .none), (none, .override)] := by
  intro r level name m m'
  have hmarks : m.Marks m' :=
    ⟨rfl, .cons (.marked rfl rfl) (.cons (.marked rfl rfl) .nil), rfl, rfl, rfl⟩
  obtain ⟨c, hclass, hbefore, hafter⟩ : ∃ c, (r.compileClass m).outcome = .ok c ∧
      c.properties.map (fun p => (p.order, p.shadowing)) =
        [(some 0, .new), (none, .override)] ∧
      (c.following m').properties.map (fun p => (p.order, p.shadowing)) =
        [(some 1000, .none), (none, .override)] :=
    Attempt.exists_ok_of_decide (by decide +kernel)
  have hc := compileModel_class_iff.mpr hclass
  exact ⟨hmarks, c, hc, (marked_model_compiles hmarks hc).1, hbefore, hafter⟩

end Resolver
end TypedVocabulary
