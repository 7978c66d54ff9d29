import TypedVocabulary.Proofs.Classes.CompiledClass
import TypedVocabulary.Proofs.Schema.DeclarationOrder

/-! # Agreeing tables

Compilation asks its tables three things: for an enumeration of a key, for a model of a name and for
the vocabulary. Tables that answer alike are one to it, for every field, model and enumeration.
-/
namespace TypedVocabulary.Resolver
variable {t t' : LookupTables} (h : t.Agree t') (settings : Settings)
include h

theorem resolveBase_agree (ref : TypeReference) (isExtension : Bool) :
    (⟨t, settings⟩ : Resolver).resolveBase ref isExtension =
      (⟨t', settings⟩ : Resolver).resolveBase ref isExtension := by
  unfold resolveBase foundationType unverifiedNotice
  simp only [h.vocabulary, h.enum?, h.hasModel]

theorem resolve_agree (ref : TypeReference) (isExtension : Bool) :
    (⟨t, settings⟩ : Resolver).resolve ref isExtension =
      (⟨t', settings⟩ : Resolver).resolve ref isExtension := by
  unfold resolve resolvePure
  rw [resolveBase_agree h]
  rfl

theorem compose_agree (f : Field) (isExtension : Bool) :
    (⟨t, settings⟩ : Resolver).compose f isExtension =
      (⟨t', settings⟩ : Resolver).compose f isExtension := by
  have hresolve : ((⟨t, settings⟩ : Resolver).resolve · isExtension) =
      ((⟨t', settings⟩ : Resolver).resolve · isExtension) := by
    funext ref
    exact resolve_agree h settings ref isExtension
  unfold compose
  rw [hresolve]
  rfl

theorem converterFor_agree (f : Field) (type : TypeExpr) :
    (⟨t, settings⟩ : Resolver).converterFor f type =
      (⟨t', settings⟩ : Resolver).converterFor f type := by
  unfold converterFor requiresTime
  simp only [h.vocabulary]

theorem compileField_agree (f : Field) (hasBase : Bool) (chosen : String) :
    (⟨t, settings⟩ : Resolver).compileField f hasBase chosen =
      (⟨t', settings⟩ : Resolver).compileField f hasBase chosen := by
  have hlocated : (⟨t, settings⟩ : Resolver).composeLocated f =
      (⟨t', settings⟩ : Resolver).composeLocated f := by
    unfold composeLocated
    rw [compose_agree h]
  unfold compileField
  simp only [hlocated, converterFor_agree h]

theorem compileModel_agree (m : Model) :
    (⟨t, settings⟩ : Resolver).compileModel m = (⟨t', settings⟩ : Resolver).compileModel m := by
  have hclass : (⟨t, settings⟩ : Resolver).compileClass m =
      (⟨t', settings⟩ : Resolver).compileClass m := by
    unfold compileClass
    simp only [h.vocabulary, compileField_agree h]
  unfold compileModel
  rw [hclass]

theorem compileEnum_agree (e : Enumeration) :
    (⟨t, settings⟩ : Resolver).compileEnum e = (⟨t', settings⟩ : Resolver).compileEnum e := by
  unfold compileEnum
  simp only [h.vocabulary]

end TypedVocabulary.Resolver
