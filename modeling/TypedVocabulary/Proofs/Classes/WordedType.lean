import TypedVocabulary.Classes.SourceText
import TypedVocabulary.Proofs.Classes.CompiledClass
import TypedVocabulary.Proofs.Classes.ResolvedReference
import TypedVocabulary.Proofs.Settings.Typed

/-! # Worded types

A type has a source text if its own name and the names of all its arguments are texts. Names come
from references, which are texts, and from settings; so over typed settings each type that
compilation comes to can be written, and every class has a view.
-/
namespace TypedVocabulary
open Attempt

namespace TypeExpr

/-- All names in a type are texts. -/
inductive Worded : TypeExpr → Prop
  | intro {t : TypeExpr} (name : t.name.IsText) (arguments : ∀ a ∈ t.arguments, a.Worded) :
      t.Worded

theorem Worded.name {t : TypeExpr} (h : t.Worded) : t.name.IsText := by
  cases h with
  | intro hname _ => exact hname

theorem Worded.arguments {t : TypeExpr} (h : t.Worded) : ∀ a ∈ t.arguments, a.Worded := by
  cases h with
  | intro _ harguments => exact harguments

theorem worded_of_leaf {t : TypeExpr} (hname : t.name.IsText) (hleaf : t.arguments = []) :
    t.Worded := by
  refine .intro hname ?_
  rw [hleaf]
  intro a ha
  cases ha

theorem worded_plain (name : String) (nullable : Bool) (kind : TypeKind) :
    (plain name nullable kind).Worded :=
  worded_of_leaf ⟨name, rfl⟩ rfl

theorem Worded.asNonNullable {t : TypeExpr} (h : t.Worded) : t.asNonNullable.Worded :=
  .intro h.name h.arguments

theorem Worded.withNotice {t : TypeExpr} (h : t.Worded) (notice : String) :
    (t.withNotice notice).Worded :=
  .intro h.name h.arguments

/-! ## Source texts -/

theorem isText_qualifiedName {t : TypeExpr} (h : t.name.IsText) : t.qualifiedName.IsText := by
  unfold qualifiedName
  split
  · exact ⟨_, rfl⟩
  · exact h

theorem exists_withSuffix {name : Json} (h : name.IsText) (suffix : String) :
    ∃ text, withSuffix name suffix = .ok (.str text) := by
  obtain ⟨text, rfl⟩ := h
  unfold withSuffix
  by_cases hs : suffix = ""
  · exact ⟨text, if_pos hs⟩
  · exact ⟨text ++ suffix, if_neg hs⟩

theorem exists_renderMore {ts : List TypeExpr}
    (h : ∀ t ∈ ts, ∃ text, t.render = .ok (.str text)) : ∃ text, renderMore ts = .ok text := by
  induction ts with
  | nil => exact ⟨"", by rw [renderMore]⟩
  | cons t ts ih =>
    obtain ⟨next, hnext⟩ := h t List.mem_cons_self
    obtain ⟨more, hmore⟩ := ih fun u hu => h u (List.mem_cons_of_mem _ hu)
    rw [renderMore, hnext, hmore]
    exact ⟨_, rfl⟩

theorem exists_renderArguments {ts : List TypeExpr}
    (h : ∀ t ∈ ts, ∃ text, t.render = .ok (.str text)) : ∃ text, renderArguments ts = .ok text := by
  cases ts with
  | nil => exact ⟨"", by rw [renderArguments]⟩
  | cons t ts =>
    obtain ⟨first, hfirst⟩ := h t List.mem_cons_self
    obtain ⟨more, hmore⟩ := exists_renderMore fun u hu => h u (List.mem_cons_of_mem _ hu)
    rw [renderArguments, hfirst, hmore]
    exact ⟨_, rfl⟩

theorem Worded.exists_render {t : TypeExpr} (h : t.Worded) :
    ∃ text, t.render = .ok (.str text) := by
  induction h with
  | @intro t hname _ ih =>
    obtain ⟨generic, hgeneric⟩ := exists_renderArguments ih
    obtain ⟨name, space, nullable, kind, arguments, notices⟩ := t
    rw [render, hgeneric, ok_bind]
    exact exists_withSuffix (isText_qualifiedName hname) _

theorem Worded.exists_text {t : TypeExpr} (h : t.Worded) : ∃ text, t.text = .ok text := by
  obtain ⟨text, hrender⟩ := h.exists_render
  unfold TypeExpr.text
  rw [hrender]
  exact ⟨text, rfl⟩

end TypeExpr

open TypeExpr

/-! ## Types of properties and bases -/

namespace Resolver
variable {r : Resolver} (hs : r.settings.Typed)

theorem worded_typeExpr (kind : ScalarKind) : kind.typeExpr.Worded := by
  cases kind <;> exact worded_plain _ _ _

theorem worded_foundationType (name : String) (nullable : Bool) (kind : TypeKind) :
    (r.foundationType name nullable kind).Worded :=
  worded_of_leaf ⟨_, rfl⟩ rfl

theorem Resolves.worded {name key : String} {isExtension : Bool} {t : TypeExpr}
    (h : r.Resolves name key isExtension t) : t.Worded := by
  cases h with
  | scalar hs => exact worded_typeExpr _
  | foundationEnum hs he hx => exact worded_foundationType _ _ _
  | localEnum hs he hx => exact worded_plain _ _ _
  | model hs he hm => exact worded_plain _ _ _
  | foundation hs he hm hf => exact worded_foundationType _ _ _
  | unverified hs he hm hf hx => exact (worded_foundationType _ _ _).withNotice _

include hs

theorem worded_resolvePure {ref : TypeReference} {isExtension : Bool} {t : TypeExpr}
    (h : r.resolvePure ref isExtension = .ok t) : t.Worded := by
  obtain ⟨base, hbase, rfl⟩ := resolvePure_ok_iff.mp h
  obtain ⟨key, -, hresolves⟩ := resolveBase_ok_iff.mp hbase
  have hworded : base.Worded := hresolves.worded
  split
  · refine .intro hs.listType ?_
    intro a ha
    obtain rfl := List.mem_singleton.mp ha
    exact hworded.asNonNullable
  · exact hworded

theorem worded_combine {types : List TypeExpr} (h : ∀ t ∈ types, t.Worded) :
    (r.combine types).Worded := by
  unfold combine
  split
  · exact h _ List.mem_cons_self
  · exact .intro hs.unionType h

theorem worded_compileField {f : Field} {hasBase : Bool} {chosen : String} {p : Property}
    (h : (r.compileField f hasBase chosen).outcome = .ok p) : p.type.Worded := by
  obtain ⟨type, name, converter, htype, -, -, rfl⟩ := compileField_ok_iff.mp h
  obtain ⟨-, types, htypes, rfl⟩ := outcome_compose.mp htype
  refine worded_combine hs ?_
  intro t ht
  obtain ⟨ref, -, href⟩ := (mem_mapM_iff htypes).mp ht
  exact worded_resolvePure hs href

end Resolver

theorem BaseClass.worded_named {v : Vocabulary} {s : Settings} {value : Json} {base : TypeExpr}
    (h : named v s value = .ok base) : base.Worded := by
  unfold named at h
  obtain ⟨text, -, h⟩ := bind_ok_iff.mp h
  obtain ⟨found, -, h⟩ := bind_ok_iff.mp h
  cases found with
  | true =>
    rw [if_pos rfl, pure_ok_iff] at h
    subst h
    exact worded_of_leaf ⟨_, rfl⟩ rfl
  | false =>
    rw [if_neg Bool.false_ne_true, pure_ok_iff] at h
    subst h
    exact worded_plain _ _ _

theorem BaseClass.worded_resolve {v : Vocabulary} {s : Settings} (hs : s.Typed)
    {type subclassOf derivedFrom : Json} {base : TypeExpr}
    (h : resolve v s type subclassOf derivedFrom = .ok base) : base.Worded := by
  unfold resolve at h
  split at h
  · exact worded_named h
  · split at h
    · obtain ⟨found, -, h⟩ := bind_ok_iff.mp h
      cases found with
      | true => exact worded_named h
      | false =>
        rw [if_neg Bool.false_ne_true, pure_ok_iff] at h
        subst h
        exact worded_of_leaf hs.foundationRoot rfl
    · exact absurd h throw_ne_ok

/-- The base of a class and the types of its properties can be written. -/
structure ClassDefinition.Worded (c : ClassDefinition) : Prop where
  base : c.base.Worded
  properties : ∀ p ∈ c.properties, p.type.Worded

theorem Resolver.worded_compileClass {r : Resolver} (hs : r.settings.Typed) {m : Model}
    {c : ClassDefinition} (h : (r.compileClass m).outcome = .ok c) : c.Worded := by
  obtain ⟨base, shortName, names, hbase, -, -, hproperties, hc⟩ := compileClass_ok_iff.mp h
  constructor
  · rw [hc]
    exact BaseClass.worded_resolve hs hbase
  · intro p hp
    obtain ⟨f, -, hf⟩ := exists_left_of_forall₂ hproperties hp
    exact worded_compileField hs hf

/-! ## Views -/

namespace SourceText
variable {s : Settings}

theorem exists_converters (hs : s.Typed) : ∃ c, Converters.ofSettings s = .ok c := by
  obtain ⟨members, hmembers⟩ := hs.custom
  have hvalue (name : String) (fallback : Json) :
      ∃ value, s.customValue name fallback = .ok value := by
    unfold Settings.customValue
    rw [hmembers]
    exact ⟨_, rfl⟩
  obtain ⟨duration, hduration⟩ := hvalue "duration_converter" (.str Settings.durationConverterDefault)
  obtain ⟨time, htime⟩ := hvalue "time_converter" (.str Settings.timeConverterDefault)
  obtain ⟨taggedUnion, hunion⟩ := hvalue "union_converter" (.str Settings.unionConverterDefault)
  unfold Converters.ofSettings
  rw [hduration, htime, hunion]
  exact ⟨_, rfl⟩

theorem exists_classView (hs : s.Typed) {c : ClassDefinition} (hc : c.Worded) :
    ∃ view, classView s c = .ok view := by
  obtain ⟨converters, hconverters⟩ := exists_converters hs
  obtain ⟨base, hbase⟩ := hc.base.exists_render
  have hviews : ∃ views, c.properties.mapM (propertyView s converters) = .ok views := by
    refine exists_mapM_ok ?_
    intro p hp
    obtain ⟨type, htype⟩ := (hc.properties p hp).exists_text
    unfold propertyView
    rw [htype]
    exact ⟨_, rfl⟩
  obtain ⟨views, hviews⟩ := hviews
  unfold classView
  rw [hconverters, ok_bind, hbase, ok_bind, hviews]
  exact ⟨_, rfl⟩

end SourceText
end TypedVocabulary
