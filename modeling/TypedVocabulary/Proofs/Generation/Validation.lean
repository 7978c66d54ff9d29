import TypedVocabulary.Proofs.Classes.CompilationFaults
import TypedVocabulary.Proofs.Classes.NumberedProperties
import TypedVocabulary.Proofs.Generation.RunBoundary

/-! # Validation of models

Validation looks at the fields of a model before anything is compiled: at the positions of those that
are not disinherited, and at the plain names of all. What it says fits the class that the model is
compiled to. Two properties are serialized at one position exactly if it says so. Where it does not
say that plain names meet, the only name to give way is that of a field called like the class.
-/
namespace TypedVocabulary

/-! ## Names where plain names differ -/

namespace Model
variable {m : Model} {className : String} {before after : List Field} {f : Field}

/-- How often the plain name of a field is used before it, if no other field has it. -/
def loneUses (className : String) (f : Field) : Nat :=
  if f.obsolete = false ∧ f.plainName = className then 1 else 0

theorem uses_of_nodup (hplain : (m.fields.map Field.plainName).Nodup)
    (hsplit : m.fields = before ++ f :: after) (hf : f.obsolete = false) :
    m.uses className before f.plainName = loneUses className f := by
  have hmem : f ∈ m.fields := by simp [hsplit]
  have hbefore : before.countP (fun g => !g.obsolete && g.plainName == f.plainName) = 0 := by
    rw [List.countP_eq_zero]
    intro g hg hsame
    rw [hsplit, List.map_append, List.nodup_append] at hplain
    have hother := hplain.2.2 g.plainName (List.mem_map_of_mem hg) f.plainName (by simp)
    simp [hother] at hsame
  have hreserves : m.Reserves className f.plainName ↔ f.plainName = className := by
    refine ⟨fun h => ?_, .inl⟩
    rcases h with hclass | ⟨g, hg, hgx, hname⟩
    · exact hclass
    · obtain rfl : g = f := List.inj_on_of_nodup_map hplain hg hmem hname
      cases hgx.symm.trans hf
  unfold uses loneUses
  rw [hbefore, Nat.zero_add]
  simp only [hreserves, hf, true_and]

theorem memberName_of_nodup (hplain : (m.fields.map Field.plainName).Nodup)
    (hsplit : m.fields = before ++ f :: after) :
    m.memberName className before f = numbered f.plainName (loneUses className f) := by
  unfold memberName
  cases hf : f.obsolete with
  | true => simp [loneUses, hf, numbered_zero]
  | false => rw [if_neg Bool.false_ne_true, uses_of_nodup hplain hsplit hf]

end Model

namespace Resolver
open MemberNames Attempt
variable {r : Resolver} {m : Model} {c : ClassDefinition}

section
variable (h : (r.compileClass m).outcome = .ok c) (htexts : ∀ f ∈ m.fields, f.fieldName.IsText)
  (hdistinct : (m.fields.map Field.fieldName).Nodup)
  (hplain : (m.fields.map Field.plainName).Nodup)
include h htexts hdistinct hplain

theorem names_of_compileClass :
    List.Forall₂ (fun f p => p.fieldName = f.fieldName ∧ p.disinherited = f.obsolete ∧
      p.name = numbered f.plainName (Model.loneUses c.name f)) m.fields c.properties := by
  obtain ⟨base, shortName, names, -, -, hnames, hproperties, hc⟩ := compileClass_ok_iff.mp h
  have hclass : c.name = typeName shortName := by rw [hc]
  refine ((List.forall₂_and_left _ _).mpr ⟨fun f hf => hf, hproperties⟩).imp ?_
  rintro f p ⟨hf, hp⟩
  obtain ⟨before, after, hsplit⟩ := List.append_of_mem hf
  have hname := name?_of_assign hnames hdistinct htexts before f after hsplit
  rw [Model.memberName_of_nodup hplain hsplit, ← hclass] at hname
  obtain ⟨type, name, converter, -, hchosen, -, rfl⟩ := compileField_ok_iff.mp hp
  have hne : (numbered f.plainName (Model.loneUses c.name f)).isEmpty = false := by
    have hplain : f.plainName ≠ "" := typeName_ne_empty _
    unfold numbered
    split <;> simp [hplain]
  rw [hname, Option.getD_some, hne, if_neg Bool.false_ne_true] at hchosen
  exact ⟨rfl, rfl, (Except.ok.inj hchosen).symm⟩

theorem name_of_ne_plainName {p : Property} (hp : p ∈ c.properties)
    (hne : p.name ≠ typeName p.fieldName.display) :
    p.disinherited = false ∧ typeName p.fieldName.display = c.name ∧ p.name = c.name ++ "_1" := by
  obtain ⟨f, -, hfield, hx, hname⟩ :=
    exists_left_of_forall₂ (names_of_compileClass h htexts hdistinct hplain) hp
  have hplainName : typeName p.fieldName.display = f.plainName := by rw [hfield, Field.plainName]
  rw [hplainName] at hne ⊢
  by_cases hlone : f.obsolete = false ∧ f.plainName = c.name
  · rw [Model.loneUses, if_pos hlone, numbered_of_pos _ Nat.one_pos, hlone.2,
      String.append_assoc] at hname
    exact ⟨hx.trans hlone.1, hlone.2, hname⟩
  · rw [Model.loneUses, if_neg hlone, numbered_zero] at hname
    exact absurd hname hne

theorem nodup_names_of_plainName : (c.properties.map Property.name).Nodup := by
  have hproperties := names_of_compileClass h htexts hdistinct hplain
  have hmap : c.properties.map Property.name =
      m.fields.map fun f => numbered f.plainName (Model.loneUses c.name f) :=
    map_eq_map_of_forall₂ hproperties fun f p hp => hp.2.2
  rw [hmap]
  refine hplain.of_map.map_on fun f hf g hg hsame => ?_
  have hstems := ((numbered_inj f.isStem_plainName g.isStem_plainName).mp hsame).1
  exact List.inj_on_of_nodup_map hplain hf hg hstems

theorem eq_of_plainName_eq {p q : Property} (hp : p ∈ c.properties) (hq : q ∈ c.properties)
    (hsame : typeName p.fieldName.display = typeName q.fieldName.display) : p = q := by
  have hproperties := names_of_compileClass h htexts hdistinct hplain
  obtain ⟨f, hf, hpfield, -⟩ := exists_left_of_forall₂ hproperties hp
  obtain ⟨g, hg, hqfield, -⟩ := exists_left_of_forall₂ hproperties hq
  have hplains : f.plainName = g.plainName := by
    rw [hpfield, hqfield] at hsame
    exact hsame
  obtain rfl : f = g := List.inj_on_of_nodup_map hplain hf hg hplains
  have hkeys : (c.properties.map Property.fieldName).Nodup := by
    rw [fieldNames_of_compileClass h]
    exact hdistinct
  exact List.inj_on_of_nodup_map hkeys hp hq (hpfield.trans hqfield.symm)

end

end Resolver

namespace DotNet
open Attempt
variable {m : Model} {report : List String}

/-! ## Reports -/

theorem allDistinct_iff {α : Type} [BEq α] [LawfulBEq α] {xs : List α} :
    allDistinct xs = true ↔ xs.Nodup := by
  induction xs with
  | nil => simp [allDistinct]
  | cons x xs ih => simp [allDistinct, ih]

def positionWarning (m : Model) : String := "Model " ++ m.type.display ++ " has duplicate field orders"

def nameWarning (m : Model) : String :=
  "Model " ++ m.type.display ++ " has fields that map to the same property name"

theorem positionWarning_ne_nameWarning (m : Model) : positionWarning m ≠ nameWarning m := by
  unfold positionWarning nameWarning
  rw [ne_eq, String.append_right_inj]
  decide

theorem mem_warnings_iff {a b : String} (h : a ≠ b) (p q : Bool) :
    (a ∈ (if p then [] else [a]) ++ (if q then [] else [b]) ↔ ¬p = true) ∧
      (b ∈ (if p then [] else [a]) ++ (if q then [] else [b]) ↔ ¬q = true) := by
  cases p <;> cases q <;> simp [h, h.symm]

theorem modelWarnings_ok (h : modelWarnings m = .ok report) :
    (∀ f ∈ m.fields, f.fieldName.IsText) ∧
      (positionWarning m ∈ report ↔
        ¬((m.fields.filter fun f => !f.obsolete).map Field.compiledOrder).Nodup) ∧
      (nameWarning m ∈ report ↔ ¬(m.fields.map Field.plainName).Nodup) := by
  unfold modelWarnings at h
  obtain ⟨names, hnames, h⟩ := bind_ok_iff.mp h
  have hname {f : Field} {name : String} (hf : f.fieldName.asOperand.map typeName = .ok name) :
      f.fieldName.IsText ∧ name = f.plainName := by
    obtain ⟨s, hs⟩ := ((Json.requires_asOperand f.fieldName).map typeName).ok_iff.mp ⟨name, hf⟩
    rw [hs] at hf
    exact ⟨⟨s, hs⟩, (Except.ok.inj hf).symm.trans (Field.plainName_of_text hs).symm⟩
  have hplain : names = m.fields.map Field.plainName := by
    have hmap := map_eq_map_of_forall₂ (g := id) (mapM_ok_iff.mp hnames) fun f n hn => (hname hn).2
    rwa [List.map_id] at hmap
  rw [hplain, pure_ok_iff] at h
  have hmem := mem_warnings_iff (positionWarning_ne_nameWarning m)
    (allDistinct ((m.fields.filter fun f => !f.obsolete).map Field.compiledOrder))
    (allDistinct (m.fields.map Field.plainName))
  refine ⟨fun f hf => ?_, ?_⟩
  · obtain ⟨n, -, hn⟩ := exists_of_mem_mapM hnames hf
    exact (hname hn).1
  · simp only [← allDistinct_iff]
    rw [← h]
    exact hmem

theorem validate_ok {templates : TemplateStore} {s : SchemaSet} {warnings : List String}
    (h : validate templates s = .ok warnings) :
    ∃ reports, warnings = s.emptinessWarnings ++ reports.flatten ∧
      List.Forall₂ (fun m report => modelWarnings m = .ok report) s.models reports := by
  unfold validate at h
  obtain ⟨reports, hreports, h⟩ := bind_ok_iff.mp h
  obtain ⟨u, -, h⟩ := bind_ok_iff.mp h
  rw [pure_ok_iff] at h
  exact ⟨reports, h.symm, mapM_ok_iff.mp hreports⟩

/-! ## Reports and classes -/

variable {r : Resolver} {c : ClassDefinition}

theorem positionWarning_mem_iff (hreport : modelWarnings m = .ok report)
    (hc : (r.compileClass m).outcome = .ok c) (hdistinct : (m.fields.map Field.fieldName).Nodup) :
    positionWarning m ∈ report ↔ ∃ p ∈ c.properties, ∃ q ∈ c.properties,
      p.fieldName ≠ q.fieldName ∧ p.disinherited = false ∧ q.disinherited = false ∧
        p.order = q.order := by
  have hcarries := Resolver.carries_of_compileClass hc
  have hkeys : ((m.fields.filter fun f => !f.obsolete).map Field.fieldName).Nodup :=
    hdistinct.sublist (List.filter_sublist.map _)
  rw [(modelWarnings_ok hreport).2.1, not_nodup_map_iff hkeys]
  constructor
  · rintro ⟨f, hf, g, hg, hne, horder⟩
    obtain ⟨hf, hfx⟩ := List.mem_filter.mp hf
    obtain ⟨hg, hgx⟩ := List.mem_filter.mp hg
    rw [Bool.not_eq_true'] at hfx hgx
    obtain ⟨p, hp, hpf⟩ := exists_right_of_forall₂ hcarries hf
    obtain ⟨q, hq, hqg⟩ := exists_right_of_forall₂ hcarries hg
    refine ⟨p, hp, q, hq, ?_, hpf.disinherited.trans hfx, hqg.disinherited.trans hgx, ?_⟩
    · rwa [hpf.fieldName, hqg.fieldName]
    · rw [hpf.order_of_serialized hfx, hqg.order_of_serialized hgx, horder]
  · rintro ⟨p, hp, q, hq, hne, hpx, hqx, horder⟩
    obtain ⟨f, hf, hpf⟩ := exists_left_of_forall₂ hcarries hp
    obtain ⟨g, hg, hqg⟩ := exists_left_of_forall₂ hcarries hq
    have hfx : f.obsolete = false := hpf.disinherited.symm.trans hpx
    have hgx : g.obsolete = false := hqg.disinherited.symm.trans hqx
    rw [hpf.order_of_serialized hfx, hqg.order_of_serialized hgx, Option.some.injEq] at horder
    rw [hpf.fieldName, hqg.fieldName] at hne
    exact ⟨f, List.mem_filter.mpr ⟨hf, by simp [hfx]⟩, g,
      List.mem_filter.mpr ⟨hg, by simp [hgx]⟩, hne, horder⟩

/-- Fields with plain names of their own are properties with names of their own. Only a property that
would be called like its class is not called by its plain name. -/
theorem names_of_not_mem (hreport : modelWarnings m = .ok report)
    (hc : (r.compileClass m).outcome = .ok c) (hdistinct : (m.fields.map Field.fieldName).Nodup)
    (hnone : nameWarning m ∉ report) :
    (c.properties.map Property.name).Nodup ∧
      (∀ p ∈ c.properties, p.name ≠ typeName p.fieldName.display →
        p.disinherited = false ∧ typeName p.fieldName.display = c.name ∧ p.name = c.name ++ "_1") ∧
      ∀ p ∈ c.properties, ∀ q ∈ c.properties, p.name ≠ typeName p.fieldName.display →
        q.name ≠ typeName q.fieldName.display → p = q := by
  obtain ⟨htexts, -, hnames⟩ := modelWarnings_ok hreport
  have hplain : (m.fields.map Field.plainName).Nodup := by
    by_contra hnot
    exact hnone (hnames.mpr hnot)
  have hgiven : ∀ p ∈ c.properties, p.name ≠ typeName p.fieldName.display →
      p.disinherited = false ∧ typeName p.fieldName.display = c.name ∧ p.name = c.name ++ "_1" :=
    fun p hp hne => Resolver.name_of_ne_plainName hc htexts hdistinct hplain hp hne
  refine ⟨Resolver.nodup_names_of_plainName hc htexts hdistinct hplain, hgiven, ?_⟩
  intro p hp q hq hpne hqne
  have hsame := (hgiven p hp hpne).2.1.trans (hgiven q hq hqne).2.1.symm
  exact Resolver.eq_of_plainName_eq hc htexts hdistinct hplain hp hq hsame

/-- Validation of a schema gives a report for each model exactly if all fields have texts for names
and the templates are texts. The report of a model whose fields are named differently fits whatever
class the model is compiled to: it warns of positions exactly if two properties that are not
disinherited are serialized at one, and if it does not warn of names, these differ, and all are plain
names but that of one property at most, which is called like the class but for its number. -/
theorem reports_fit_classes (templates : TemplateStore) (s : SchemaSet) :
    ((∃ warnings, validate templates s = .ok warnings) ↔
      FieldsNamed s ∧ ∃ u, checkTemplates templates = .ok u) ∧
    ∀ warnings, validate templates s = .ok warnings →
      ∃ reports, warnings = s.emptinessWarnings ++ reports.flatten ∧
        List.Forall₂ (fun m report => modelWarnings m = .ok report ∧
          ∀ (r : Resolver) (c : ClassDefinition), (r.compileClass m).outcome = .ok c →
            (m.fields.map Field.fieldName).Nodup →
              (positionWarning m ∈ report ↔ ∃ p ∈ c.properties, ∃ q ∈ c.properties,
                p.fieldName ≠ q.fieldName ∧ p.disinherited = false ∧ q.disinherited = false ∧
                  p.order = q.order) ∧
              (nameWarning m ∉ report →
                (c.properties.map Property.name).Nodup ∧
                (∀ p ∈ c.properties, p.name ≠ typeName p.fieldName.display →
                  p.disinherited = false ∧ typeName p.fieldName.display = c.name ∧
                    p.name = c.name ++ "_1") ∧
                ∀ p ∈ c.properties, ∀ q ∈ c.properties, p.name ≠ typeName p.fieldName.display →
                  q.name ≠ typeName q.fieldName.display → p = q)) s.models reports := by
  constructor
  · rw [(requires_validate templates s).ok_iff]
    exact ⟨fun h => ⟨h.fields, h.templates⟩, fun h => ⟨h.1, h.2⟩⟩
  · intro warnings h
    obtain ⟨reports, hwarnings, hreports⟩ := validate_ok h
    refine ⟨reports, hwarnings, hreports.imp fun m report hreport => ⟨hreport, ?_⟩⟩
    intro r c hc hdistinct
    exact ⟨positionWarning_mem_iff hreport hc hdistinct, names_of_not_mem hreport hc hdistinct⟩

/-- Two fields at one position, of which the first would be called like the class, and a disinherited
field at the same position, which does not count. -/
theorem reports_fit_classes_event :
    let r : Resolver := ⟨⟨[], [], Vocabulary.standard⟩, Settings.default⟩
    let text := "https://schema.org/Text"
    let m := Resolver.eventOf [{ Field.ofType "event" text with order := 1 },
      { Field.ofType "level" text with order := 1 },
      { Field.ofType "name" text with order := 1, obsolete := true }]
    ∃ c, (r.compileClass m).outcome = .ok c ∧ (m.fields.map Field.fieldName).Nodup ∧
      validate .empty ⟨[m], []⟩ = .ok [positionWarning m] ∧
      c.properties.map Property.name = ["Event_1", "Level", "Name"] ∧
      (∃ p ∈ c.properties, ∃ q ∈ c.properties, p.fieldName ≠ q.fieldName ∧ p.disinherited = false ∧
        q.disinherited = false ∧ p.order = q.order) ∧
      (c.properties.map Property.name).Nodup ∧
      ∀ p ∈ c.properties, ∀ q ∈ c.properties, p.name ≠ typeName p.fieldName.display →
        q.name ≠ typeName q.fieldName.display → p = q := by
  intro r text m
  obtain ⟨c, hc, hnames⟩ : ∃ c, (r.compileClass m).outcome = .ok c ∧
      c.properties.map Property.name = ["Event_1", "Level", "Name"] :=
    exists_ok_of_decide (by decide +kernel)
  have hdistinct : (m.fields.map Field.fieldName).Nodup := by
    simp [m, Resolver.eventOf, Field.ofType]
  have hvalidate : validate .empty ⟨[m], []⟩ = .ok [positionWarning m] := by decide +kernel
  have hreport : modelWarnings m = .ok [positionWarning m] := by decide +kernel
  obtain ⟨reports, -, hreports⟩ := (reports_fit_classes .empty ⟨[m], []⟩).2 _ hvalidate
  cases hreports with
  | @cons _ report _ _ hfits _ =>
    obtain rfl : report = [positionWarning m] := Except.ok.inj (hfits.1.symm.trans hreport)
    obtain ⟨hposition, hplain⟩ := hfits.2 r c hc hdistinct
    have hnone : nameWarning m ∉ [positionWarning m] := by
      simpa using (positionWarning_ne_nameWarning m).symm
    obtain ⟨hnodup, -, hone⟩ := hplain hnone
    exact ⟨c, hc, hdistinct, hvalidate, hnames, hposition.mp List.mem_cons_self, hnodup, hone⟩

end DotNet
end TypedVocabulary
