import TypedVocabulary.Proofs.Classes.CompiledClass
import TypedVocabulary.Proofs.Classes.ResolvedReference

/-! # Shapes of types

Every way to resolve a reference ends in a single name. A list wraps one such name and takes the mark
for nullable values off it; a union takes the types of its references as they are. So a type is at
most a union of lists of names, and no container in it is nullable.
-/
namespace TypedVocabulary

namespace TypeExpr

mutual

/-- A type with all that it is made of, at any depth. -/
def tokens : TypeExpr → List TypeExpr
  | ⟨name, space, nullable, kind, arguments, notices⟩ =>
    ⟨name, space, nullable, kind, arguments, notices⟩ :: argumentTokens arguments

def argumentTokens : List TypeExpr → List TypeExpr
  | [] => []
  | t :: ts => tokens t ++ argumentTokens ts

end

theorem argumentTokens_eq_flatMap (ts : List TypeExpr) : argumentTokens ts = ts.flatMap tokens := by
  induction ts with
  | nil => rfl
  | cons t ts ih => rw [argumentTokens, ih, List.flatMap_cons]

theorem tokens_eq (t : TypeExpr) : t.tokens = t :: t.arguments.flatMap tokens := by
  obtain ⟨name, space, nullable, kind, arguments, notices⟩ := t
  rw [tokens, argumentTokens_eq_flatMap]

/-! ## Names, lists and unions -/

/-- A single name, which is no container and has nothing in it. -/
structure IsLeaf (t : TypeExpr) : Prop where
  arguments : t.arguments = []
  notList : t.kind ≠ .list
  notUnion : t.kind ≠ .union

/-- A list of a single name. Neither of the two is nullable. -/
structure IsList (t : TypeExpr) : Prop where
  kind : t.kind = .list
  nullable : t.nullable = false
  element : ∃ e : TypeExpr, t.arguments = [e] ∧ e.IsLeaf ∧ e.nullable = false

/-- The type of a reference by whether a list is meant. -/
inductive ShapedBy (ref : TypeReference) (t : TypeExpr) : Prop
  | leaf (hr : ref.isArray = false) (ht : t.IsLeaf)
  | list (hr : ref.isArray = true) (ht : t.IsList)

/-- What a type may have inside it: a list has no container and nothing nullable, a union no other
union. -/
structure HoldsFlat (t : TypeExpr) : Prop where
  container : t.kind = .list ∨ t.kind = .union → t.nullable = false
  list : t.kind = .list → ∀ e ∈ t.arguments.flatMap tokens,
    e.kind ≠ .list ∧ e.kind ≠ .union ∧ e.nullable = false
  union : t.kind = .union → ∀ e ∈ t.arguments.flatMap tokens, e.kind ≠ .union

/-- Nowhere in a type is a container nested where none may be, or a nullable one. -/
def Flat (t : TypeExpr) : Prop := ∀ u ∈ t.tokens, u.HoldsFlat

variable {t u : TypeExpr} {ref : TypeReference}

theorem IsLeaf.tokens_eq (h : t.IsLeaf) : t.tokens = [t] := by
  rw [TypeExpr.tokens_eq, h.arguments, List.flatMap_nil]

theorem IsLeaf.asNonNullable (h : t.IsLeaf) : t.asNonNullable.IsLeaf :=
  ⟨h.arguments, h.notList, h.notUnion⟩

theorem IsLeaf.holdsFlat (h : t.IsLeaf) : t.HoldsFlat where
  container hk := (hk.elim h.notList h.notUnion).elim
  list hk := absurd hk h.notList
  union hk := absurd hk h.notUnion

theorem IsList.holdsFlat (h : t.IsList) : t.HoldsFlat where
  container _ := h.nullable
  list _ e he := by
    obtain ⟨element, harguments, hleaf, hnullable⟩ := h.element
    rw [harguments, List.flatMap_singleton, hleaf.tokens_eq, List.mem_singleton] at he
    subst he
    exact ⟨hleaf.notList, hleaf.notUnion, hnullable⟩
  union hk := nomatch h.kind.symm.trans hk

theorem ShapedBy.of_mem_tokens (h : t.ShapedBy ref) (hu : u ∈ t.tokens) : u.IsLeaf ∨ u.IsList := by
  cases h with
  | leaf _ ht =>
    rw [ht.tokens_eq, List.mem_singleton] at hu
    exact .inl (hu ▸ ht)
  | list _ ht =>
    obtain ⟨element, harguments, hleaf, -⟩ := ht.element
    rw [tokens_eq, harguments, List.flatMap_singleton, hleaf.tokens_eq] at hu
    rcases List.mem_cons.mp hu with rfl | hu
    · exact .inr ht
    · exact .inl (List.mem_singleton.mp hu ▸ hleaf)

theorem ShapedBy.kind_ne_union (h : t.ShapedBy ref) : t.kind ≠ .union := by
  cases h with
  | leaf _ ht => exact ht.notUnion
  | list _ ht => exact fun hk => nomatch ht.kind.symm.trans hk

theorem ShapedBy.flat (h : t.ShapedBy ref) : t.Flat := fun _ hu =>
  (h.of_mem_tokens hu).elim IsLeaf.holdsFlat IsList.holdsFlat

end TypeExpr

namespace ScalarKind

theorem isLeaf_typeExpr (kind : ScalarKind) : kind.typeExpr.IsLeaf := by
  cases kind <;> exact ⟨rfl, TypeKind.noConfusion, TypeKind.noConfusion⟩

end ScalarKind

namespace Resolver
open TypeExpr
variable {r : Resolver} {ref : TypeReference} {isExtension : Bool} {t : TypeExpr}

theorem Resolves.isLeaf {name key : String} (h : r.Resolves name key isExtension t) : t.IsLeaf := by
  cases h with
  | scalar _ => exact ScalarKind.isLeaf_typeExpr _
  | foundationEnum _ _ _ | localEnum _ _ _ | model _ _ _ | foundation _ _ _ _
  | unverified _ _ _ _ _ => exact ⟨rfl, TypeKind.noConfusion, TypeKind.noConfusion⟩

theorem isLeaf_resolveBase (h : r.resolveBase ref isExtension = .ok t) : t.IsLeaf := by
  obtain ⟨_, -, hresolves⟩ := resolveBase_ok_iff.mp h
  exact hresolves.isLeaf

theorem isList_listOf (h : t.IsLeaf) : (r.listOf t).IsList :=
  ⟨rfl, rfl, t.asNonNullable, rfl, h.asNonNullable, rfl⟩

theorem shapedBy_resolvePure (h : r.resolvePure ref isExtension = .ok t) : t.ShapedBy ref := by
  obtain ⟨base, hbase, rfl⟩ := resolvePure_ok_iff.mp h
  have hleaf := isLeaf_resolveBase hbase
  cases hr : ref.isArray with
  | false => exact .leaf hr hleaf
  | true => exact .list hr (isList_listOf hleaf)

theorem flat_unionOf {types : List TypeExpr}
    (h : ∀ type ∈ types, ∃ ref : TypeReference, type.ShapedBy ref) : (r.unionOf types).Flat := by
  have hinner (u : TypeExpr) (hu : u ∈ types.flatMap tokens) : u.IsLeaf ∨ u.IsList := by
    obtain ⟨type, htype, hu⟩ := List.mem_flatMap.mp hu
    obtain ⟨ref, hshape⟩ := h type htype
    exact hshape.of_mem_tokens hu
  intro u hu
  rw [tokens_eq] at hu
  rcases List.mem_cons.mp hu with rfl | hu
  · refine ⟨fun _ => rfl, TypeKind.noConfusion, fun _ e he hk => ?_⟩
    rcases hinner e he with hleaf | hlist
    · exact hleaf.notUnion hk
    · exact nomatch hlist.kind.symm.trans hk
  · exact (hinner u hu).elim IsLeaf.holdsFlat IsList.holdsFlat

theorem compose_cases {f : Field} (h : (r.compose f isExtension).outcome = .ok t) :
    (∃ ref, f.references = [ref] ∧ r.resolvePure ref isExtension = .ok t) ∨
      (2 ≤ f.references.length ∧ ∃ types, t = r.unionOf types ∧
        List.Forall₂ (fun ref type => r.resolvePure ref isExtension = .ok type)
          f.references types) := by
  obtain ⟨hne, types, htypes, rfl⟩ := outcome_compose.mp h
  have hall := Attempt.mapM_ok_iff.mp htypes
  match hrefs : f.references, types, hall with
  | [], [], _ => exact absurd hrefs hne
  | [ref], [type], .cons href _ => exact .inl ⟨ref, rfl, href⟩
  | _ :: _ :: _, _ :: _ :: _, hall => exact .inr ⟨by simp, _, rfl, hall⟩

/-- A field of one reference has the type of that reference, and one of several references the union
of their types in their order. The type of a reference is a name, or a list of a name that is not
nullable, so that nothing is nested any deeper. -/
theorem composed_shape {f : Field} (h : (r.compose f isExtension).outcome = .ok t) :
    f.references ≠ [] ∧
    (∀ ref, f.references = [ref] → (r.resolve ref isExtension).outcome = .ok t) ∧
    (2 ≤ f.references.length → t.kind = .union ∧ t.nullable = false ∧
      List.Forall₂ (fun ref type => (r.resolve ref isExtension).outcome = .ok type)
        f.references t.arguments) ∧
    (∀ ref ∈ f.references, ∃ type, (r.resolve ref isExtension).outcome = .ok type ∧
      type.ShapedBy ref) ∧
    t.Flat := by
  simp only [outcome_resolve]
  rcases compose_cases h with ⟨ref, hrefs, href⟩ | ⟨htwo, types, rfl, htypes⟩
  · have hshape := shapedBy_resolvePure href
    simp only [hrefs, List.length_singleton]
    refine ⟨List.cons_ne_nil _ _, ?_, fun htwo => ?_, ?_, hshape.flat⟩
    · rintro _ ⟨⟩
      exact href
    · omega
    · intro ref' href'
      obtain rfl := List.mem_singleton.mp href'
      exact ⟨t, href, hshape⟩
  · have hshapes : ∀ type ∈ types, ∃ ref : TypeReference, type.ShapedBy ref := by
      intro type htype
      obtain ⟨ref, -, href⟩ := exists_left_of_forall₂ htypes htype
      exact ⟨ref, shapedBy_resolvePure href⟩
    refine ⟨List.ne_nil_of_length_pos (by omega), fun ref hrefs => ?_, fun _ => ⟨rfl, rfl, htypes⟩,
      fun ref href => ?_, flat_unionOf hshapes⟩
    · rw [hrefs, List.length_singleton] at htwo
      omega
    · obtain ⟨type, -, htype⟩ := exists_right_of_forall₂ htypes href
      exact ⟨type, htype, shapedBy_resolvePure htype⟩

/-- A text or a list of places. Behind the array mark that makes the list stands a second one, which
does not make a list of lists. -/
theorem composed_shape_places :
    let r : Resolver := ⟨⟨[], [], Vocabulary.standard⟩, Settings.default⟩
    let f : Field := { Field.ofType "location" "ArrayOfArrayOf#https://schema.org/Place" with
      alternativeTypes := [.ofText "https://schema.org/Text"] }
    f.references.length = 2 ∧ ∃ t, (r.compose f false).outcome = .ok t ∧
      t.arguments.map kind = [.scalar, .list] ∧ t.kind = .union ∧ t.nullable = false ∧ t.Flat := by
  intro r f
  have hrefs : f.references.length = 2 := rfl
  obtain ⟨t, ht, hkinds⟩ : ∃ t, (r.compose f false).outcome = .ok t ∧
      t.arguments.map kind = [.scalar, .list] := Attempt.exists_ok_of_decide (by decide +kernel)
  obtain ⟨-, -, hunion, -, hflat⟩ := composed_shape ht
  obtain ⟨hkind, hnullable, -⟩ := hunion hrefs.ge
  exact ⟨hrefs, t, ht, hkinds, hkind, hnullable, hflat⟩

end Resolver
end TypedVocabulary
