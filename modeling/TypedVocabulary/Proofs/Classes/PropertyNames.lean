import TypedVocabulary.Proofs.Classes.CompiledClass
import TypedVocabulary.Proofs.Json.Members
import TypedVocabulary.Proofs.Naming.Sanitizer
import TypedVocabulary.Proofs.Requirements
import TypedVocabulary.Proofs.Vocabulary.CompactKey

/-! # Names of properties

The names of the properties of a class are assigned in two passes: disinherited fields keep their
plain names, which are reserved, and each other field asks the sanitizer. Both passes keep the names
by field name. So two properties have one name exactly if their fields are written alike, or if both
are disinherited and have one plain name.
-/
namespace TypedVocabulary

namespace MemberNames
open Attempt Sanitizer

/-! ## Tables -/

section
variable {f g : Json} {n a s : String} {t t' : Table}

theorem name?_put_str : name? (KeyedList.put (.str s) n t) (.str s) = some n :=
  KeyedList.value?_put_self (Json.beq_str_iff.mpr rfl)

theorem name?_put_str_ne (h : g ≠ .str s) :
    name? (KeyedList.put (.str s) n t) g = name? t g := by
  have hbeq : (Json.str s == g) = false := by
    rw [Json.str_beq]
    exact Bool.eq_false_iff.mpr fun hbeq => h (Json.beq_str_iff.mp hbeq)
  refine KeyedList.value?_put_of_ne hbeq fun k hk => ?_
  rwa [Json.beq_str_iff.mp hk]

theorem name?_put_ne_str (h : f ≠ .str s) :
    name? (KeyedList.put f n t) (.str s) = name? t (.str s) := by
  have hne : (f == .str s) = false := Bool.eq_false_iff.mpr fun hbeq => h (Json.beq_str_iff.mp hbeq)
  refine KeyedList.value?_put_of_ne hne fun k hk => Bool.eq_false_iff.mpr fun hbeq => ?_
  obtain rfl := Json.beq_str_iff.mp hbeq
  rw [Json.str_beq, hne] at hk
  cases hk

theorem put_ok_iff : put f n t = .ok t' ↔ f.hashable = true ∧ KeyedList.put f n t = t' := by
  unfold put
  cases f.hashable <;> simp [wrongOperand]

end

/-! ## Disinherited fields -/

variable {reserved : List String} {start : Table} {done : List Field} {f : Field}
  {state state' : Sanitizer × Table}

theorem fixOne_ok (h : fixOne state f = .ok state') :
    (f.obsolete = false ∧ state' = state) ∨
    (f.obsolete = true ∧ ∃ s, f.fieldName = .str s ∧
      state' = (state.1.use (typeName s), KeyedList.put (.str s) (typeName s) state.2)) := by
  unfold fixOne at h
  cases hx : f.obsolete with
  | false =>
    rw [hx, if_neg Bool.false_ne_true] at h
    exact .inl ⟨rfl, (Except.ok.inj h).symm⟩
  | true =>
    rw [hx, if_pos rfl] at h
    obtain ⟨s, hs, h⟩ := bind_ok_iff.mp h
    obtain ⟨t, ht, h⟩ := bind_ok_iff.mp h
    obtain ⟨-, rfl⟩ := put_ok_iff.mp ht
    have hname : f.fieldName = .str s := Json.asOperand_ok_iff.mp hs
    rw [pure_ok_iff, hname] at h
    exact .inr ⟨rfl, s, hname, h.symm⟩

/-- The plain names of disinherited fields are taken, and no other field has a name yet. -/
structure Fixed (done : List Field) (state : Sanitizer × Table) : Prop where
  unasked : state.1.answers = []
  stubs : ∀ f ∈ done, f.obsolete = true → ∃ s, f.fieldName = .str s ∧ typeName s ∈ state.1.used ∧
    name? state.2 (.str s) = some (typeName s)
  others : ∀ v : Json, ¬v.IsText → name? state.2 v = none

theorem Fixed.step (h : Fixed done state) (hf : fixOne state f = .ok state') :
    Fixed (done ++ [f]) state' := by
  rcases fixOne_ok hf with ⟨hx, rfl⟩ | ⟨hx, s, hs, rfl⟩
  · refine ⟨h.unasked, fun g hg hgx => ?_, h.others⟩
    rcases List.mem_append.mp hg with hg | hg
    · exact h.stubs g hg hgx
    · obtain rfl := List.mem_singleton.mp hg
      cases hx.symm.trans hgx
  · constructor
    · unfold use
      split
      · exact h.unasked
      · exact h.unasked
    · intro g hg hgx
      rcases List.mem_append.mp hg with hg | hg
      · obtain ⟨s', hs', htaken, hname⟩ := h.stubs g hg hgx
        refine ⟨s', hs', mem_use.mpr (.inr htaken), ?_⟩
        by_cases hsame : s' = s
        · subst hsame
          exact name?_put_str
        · rw [name?_put_str_ne fun heq => hsame (Json.str.inj heq), hname]
      · obtain rfl := List.mem_singleton.mp hg
        exact ⟨s, hs, mem_use.mpr (.inl rfl), name?_put_str⟩
    · intro v hv
      have hne : v ≠ .str s := fun heq => hv ⟨s, heq⟩
      rw [name?_put_str_ne hne, h.others v hv]

/-! ## All other fields -/

def answered? (scope : Sanitizer) (name : String) : Option String :=
  scope.answer? (requestKey name .upperCamel "_")

theorem answered?_sanitize {scope scope' : Sanitizer} {name : Json} {a : String}
    (h : scope.sanitize name .upperCamel "_" = .ok (a, scope')) (s : String) :
    answered? scope' s = if name.display = s then some a else answered? scope s := by
  unfold answered?
  rw [answer?_sanitize h]
  simp only [(requestKey_injective .upperCamel "_").eq_iff]

theorem assignOne_ok (h : assignOne state f = .ok state') :
    (f.obsolete = true ∧ state' = state) ∨
    (f.obsolete = false ∧ ∃ a, state.1.sanitize f.fieldName .upperCamel "_" = .ok (a, state'.1) ∧
      state'.2 = KeyedList.put f.fieldName a state.2) := by
  unfold assignOne at h
  cases hx : f.obsolete with
  | true =>
    rw [hx, if_pos rfl] at h
    exact .inl ⟨rfl, (Except.ok.inj h).symm⟩
  | false =>
    rw [hx, if_neg Bool.false_ne_true] at h
    obtain ⟨⟨a, scope⟩, hscope, h⟩ := bind_ok_iff.mp h
    obtain ⟨t, ht, h⟩ := bind_ok_iff.mp h
    obtain ⟨-, rfl⟩ := put_ok_iff.mp ht
    rw [pure_ok_iff] at h
    subst h
    exact .inr ⟨rfl, a, hscope, rfl⟩

/-- The sanitizer has been asked for the fields that are done and for nothing else. A text leads to
its answer, or to what it led to before; any other value leads to an answer if to anything. -/
structure Assigned (reserved : List String) (start : Table) (done : List Field)
    (state : Sanitizer × Table) : Prop where
  sound : state.1.Sound reserved
  asked : ∀ s a, answered? state.1 s = some a → ∃ f ∈ done, f.obsolete = false ∧ f.fieldName = .str s
  answered : ∀ f ∈ done, f.obsolete = false → ∃ a, answered? state.1 f.fieldName.display = some a
  texts : ∀ s, name? state.2 (.str s) = (answered? state.1 s).or (name? start (.str s))
  others : ∀ (v : Json) a, ¬v.IsText → name? state.2 v = some a → ∃ s, answered? state.1 s = some a

/-- A new answer goes to a text. Any other value is answered only if a text was, before it, that is
written like it. -/
theorem answered?_or_eq_str {scope scope' : Sanitizer} {name : Json} {a : String}
    (h : scope.sanitize name .upperCamel "_" = .ok (a, scope')) :
    answered? scope name.display = some a ∨ name = .str name.display := by
  rcases sanitize_ok h with ⟨hold, -⟩ | ⟨-, ⟨s, rfl⟩, -⟩
  · exact .inl hold
  · exact .inr rfl

theorem Assigned.skip (h : Assigned reserved start done state) (hx : f.obsolete = true) :
    Assigned reserved start (done ++ [f]) state := by
  refine ⟨h.sound, fun s a ha => ?_, fun g hg hgx => ?_, h.texts, h.others⟩
  · obtain ⟨g, hg, hrest⟩ := h.asked s a ha
    exact ⟨g, List.mem_append_left _ hg, hrest⟩
  · rcases List.mem_append.mp hg with hg | hg
    · exact h.answered g hg hgx
    · obtain rfl := List.mem_singleton.mp hg
      cases hx.symm.trans hgx

section
variable {scope : Sanitizer} {a : String} (h : Assigned reserved start done state)
  (hscope : state.1.sanitize f.fieldName .upperCamel "_" = .ok (a, scope))
include h hscope

theorem Assigned.asked_sanitize (hx : f.obsolete = false) {s b : String}
    (hb : answered? scope s = some b) :
    ∃ g ∈ done ++ [f], g.obsolete = false ∧ g.fieldName = .str s := by
  have hearlier {b : String} (hb : answered? state.1 s = some b) :
      ∃ g ∈ done ++ [f], g.obsolete = false ∧ g.fieldName = .str s := by
    obtain ⟨g, hg, hrest⟩ := h.asked s b hb
    exact ⟨g, List.mem_append_left _ hg, hrest⟩
  rw [answered?_sanitize hscope] at hb
  split at hb
  · rename_i hs
    subst hs
    rcases answered?_or_eq_str hscope with hold | htext
    · exact hearlier hold
    · exact ⟨f, by simp, hx, htext⟩
  · exact hearlier hb

theorem Assigned.texts_sanitize (s : String) : name? (KeyedList.put f.fieldName a state.2) (.str s) =
    (answered? scope s).or (name? start (.str s)) := by
  rw [answered?_sanitize hscope]
  by_cases hs : f.fieldName = .str s
  · have hdisplay : f.fieldName.display = s := by
      rw [hs]
      rfl
    rw [if_pos hdisplay, hs, name?_put_str, Option.some_or]
  · rw [name?_put_ne_str hs, h.texts]
    by_cases hdisplay : f.fieldName.display = s
    · -- A value that is written like a text has the answer of that text.
      subst hdisplay
      have hold := (answered?_or_eq_str hscope).resolve_right hs
      rw [if_pos rfl, hold]
    · rw [if_neg hdisplay]

theorem Assigned.ask (hx : f.obsolete = false) :
    Assigned reserved start (done ++ [f]) (scope, KeyedList.put f.fieldName a state.2) := by
  have hlast : answered? scope f.fieldName.display = some a := by
    rw [answered?_sanitize hscope, if_pos rfl]
  have hkept (s b : String) (hb : answered? state.1 s = some b) :
      answered? scope s = some b := answer?_sanitize_of_some hscope hb
  constructor
  · exact h.sound.sanitize hscope
  · exact fun s b hb => h.asked_sanitize hscope hx hb
  · intro g hg hgx
    rcases List.mem_append.mp hg with hg | hg
    · obtain ⟨b, hb⟩ := h.answered g hg hgx
      exact ⟨b, hkept _ b hb⟩
    · obtain rfl := List.mem_singleton.mp hg
      exact ⟨a, hlast⟩
  · exact h.texts_sanitize hscope
  · intro v b hv hb
    rcases KeyedList.value?_put_or hb with rfl | hb
    · exact ⟨_, hlast⟩
    · obtain ⟨s, hs⟩ := h.others v b hv hb
      exact ⟨s, hkept s b hs⟩

end

theorem Assigned.step (h : Assigned reserved start done state)
    (hf : assignOne state f = .ok state') : Assigned reserved start (done ++ [f]) state' := by
  rcases assignOne_ok hf with ⟨hx, rfl⟩ | ⟨hx, a, hscope, htable⟩
  · exact h.skip hx
  · obtain ⟨scope, table⟩ := state'
    subst htable
    exact h.ask hscope hx

theorem obsolete_of_unanswered {fields : List Field} {answer : String → Option String}
    (h : ∀ f ∈ fields, f.obsolete = false → ∃ a, answer f.fieldName.display = some a)
    (hf : f ∈ fields) (hnone : answer f.fieldName.display = none) : f.obsolete = true := by
  by_contra hx
  obtain ⟨a, ha⟩ := h f hf (Bool.eq_false_iff.mpr hx)
  cases hnone.symm.trans ha

/-! ## The names of a model -/

/-- What the fields of a model are called: a field name that the sanitizer was asked for is called
by its answer, and any other by its plain name. -/
structure Assignment (m : Model) (t : Table) (answer : String → Option String) : Prop where
  stubs : ∀ f ∈ m.fields, f.obsolete = true → f.fieldName.IsText
  answered : ∀ f ∈ m.fields, f.obsolete = false → ∃ a, answer f.fieldName.display = some a
  asked : ∀ s a, answer s = some a → ∃ f ∈ m.fields, f.obsolete = false ∧ f.fieldName = .str s
  injective : ∀ s s' a, answer s = some a → answer s' = some a → s = s'
  fresh : ∀ s a, answer s = some a → ∀ f ∈ m.fields, f.obsolete = true →
    a ≠ typeName f.fieldName.display
  nonempty : ∀ s a, answer s = some a → a ≠ ""
  texts : ∀ f ∈ m.fields, f.fieldName.IsText →
    name? t f.fieldName =
      some ((answer f.fieldName.display).getD (typeName f.fieldName.display))
  others : ∀ f ∈ m.fields, ∀ a, ¬f.fieldName.IsText → name? t f.fieldName = some a →
    ∃ s, answer s = some a

/-- The two passes over a model: the second starts from the reserved names, without any answer. -/
theorem assign_passes {m : Model} {className : String} {t : Table} (h : assign m className = .ok t) :
    ∃ fixed assigned,
      m.fields.foldlM fixOne ((Sanitizer.ofRules Keyword.rules).use className, []) = .ok fixed ∧
      m.fields.foldlM assignOne fixed = .ok assigned ∧ assigned.2 = t ∧ Fixed m.fields fixed ∧
      Assigned fixed.1.used fixed.2 [] fixed := by
  unfold assign at h
  obtain ⟨fixed, hfixed, h⟩ := bind_ok_iff.mp h
  obtain ⟨assigned, hassigned, h⟩ := bind_ok_iff.mp h
  rw [pure_ok_iff] at h
  have hstart : Fixed [] ((Sanitizer.ofRules Keyword.rules).use className, []) :=
    ⟨rfl, fun f hf => (nomatch hf), fun v _ => rfl⟩
  have hstubs : Fixed m.fields fixed := foldlM_invariant (fun h hf => h.step hf) hstart hfixed
  have hsound : fixed.1.Sound fixed.1.used := sound_of_noAnswers hstubs.unasked
  have hnone (s : String) : answered? fixed.1 s = none := by
    unfold answered? answer?
    rw [hstubs.unasked]
    rfl
  refine ⟨fixed, assigned, hfixed, hassigned, h, hstubs, hsound, fun s a ha => ?_,
    fun f hf => (nomatch hf), fun s => ?_, fun v a hv ha => ?_⟩
  · cases (hnone s).symm.trans ha
  · rw [hnone, Option.none_or]
  · cases (hstubs.others v hv).symm.trans ha

theorem exists_assignment {m : Model} {className : String} {t : Table}
    (h : assign m className = .ok t) : ∃ answer, Assignment m t answer := by
  obtain ⟨fixed, assigned, -, hassigned, rfl, hstubs, hbefore⟩ := assign_passes h
  have hall : Assigned fixed.1.used fixed.2 m.fields assigned :=
    foldlM_invariant (fun h hf => h.step hf) hbefore hassigned
  refine ⟨answered? assigned.1, ?_⟩
  constructor
  · intro f hf hx
    obtain ⟨s, hs, -⟩ := hstubs.stubs f hf hx
    exact ⟨s, hs⟩
  · exact hall.answered
  · exact hall.asked
  · intro s s' a ha ha'
    exact requestKey_injective .upperCamel "_" (hall.sound.injective _ _ a ha ha')
  · intro s a ha f hf hx hsame
    obtain ⟨s', hs', htaken, -⟩ := hstubs.stubs f hf hx
    rw [hs'] at hsame
    exact hall.sound.fresh _ a ha (hsame ▸ htaken)
  · intro s a ha
    exact hall.sound.nonempty _ a ha
  · intro f hf hs
    obtain ⟨s, hs⟩ := hs
    rw [hs, hall.texts]
    cases ha : answered? assigned.1 s with
    | some a => simp [Json.display, ha]
    | none =>
      have hunanswered : answered? assigned.1 f.fieldName.display = none := by
        rw [hs]
        exact ha
      have hx : f.obsolete = true := obsolete_of_unanswered hall.answered hf hunanswered
      obtain ⟨s', hs', -, hname⟩ := hstubs.stubs f hf hx
      obtain rfl : s = s' := Json.str.inj (hs.symm.trans hs')
      simp [Json.display, ha, hname]
  · intro f _ a hv ha
    exact hall.others f.fieldName a hv ha

def nameOf (answer : String → Option String) (f : Field) : String :=
  (answer f.fieldName.display).getD (typeName f.fieldName.display)

namespace Assignment
variable {m : Model} {t : Table} {answer : String → Option String} (h : Assignment m t answer)
include h

theorem nameOf_ne_empty (f : Field) : nameOf answer f ≠ "" := by
  unfold nameOf
  cases ha : answer f.fieldName.display with
  | some a =>
    rw [Option.getD_some]
    exact h.nonempty _ a ha
  | none =>
    rw [Option.getD_none]
    exact typeName_ne_empty _

theorem isText_of_nodup (hn : (m.fields.map (·.fieldName.display)).Nodup) :
    ∀ f ∈ m.fields, f.fieldName.IsText := by
  intro f hf
  cases hx : f.obsolete with
  | true => exact h.stubs f hf hx
  | false =>
    obtain ⟨a, ha⟩ := h.answered f hf hx
    obtain ⟨g, hg, -, hname⟩ := h.asked _ a ha
    have hdisplay : f.fieldName.display = g.fieldName.display := by
      rw [hname]
      rfl
    obtain rfl : f = g := List.inj_on_of_nodup_map hn hf hg hdisplay
    exact ⟨_, hname⟩

/-- No other field is written like a disinherited one, so the sanitizer was not asked for it. -/
theorem nameOf_of_obsolete (hn : (m.fields.map (·.fieldName.display)).Nodup) {f : Field}
    (hf : f ∈ m.fields) (hx : f.obsolete = true) :
    nameOf answer f = typeName f.fieldName.display := by
  unfold nameOf
  cases ha : answer f.fieldName.display with
  | none => rw [Option.getD_none]
  | some a =>
    obtain ⟨g, hg, hgx, hname⟩ := h.asked _ a ha
    have hdisplay : g.fieldName.display = f.fieldName.display := by
      rw [hname]
      rfl
    obtain rfl : g = f := List.inj_on_of_nodup_map hn hg hf hdisplay
    cases hgx.symm.trans hx

/-- An answer is no plain name of a disinherited field, so fields of one name either both have an
answer or both have none. -/
theorem display_eq_or_obsolete {f g : Field} (hf : f ∈ m.fields) (hg : g ∈ m.fields)
    (hsame : nameOf answer f = nameOf answer g) :
    f.fieldName.display = g.fieldName.display ∨
      f.obsolete = true ∧ g.obsolete = true ∧
        typeName f.fieldName.display = typeName g.fieldName.display := by
  unfold nameOf at hsame
  cases ha : answer f.fieldName.display with
  | some a =>
    cases hb : answer g.fieldName.display with
    | some b =>
      rw [ha, hb, Option.getD_some, Option.getD_some] at hsame
      subst hsame
      exact .inl (h.injective _ _ a ha hb)
    | none =>
      rw [ha, hb, Option.getD_some, Option.getD_none] at hsame
      exact absurd hsame (h.fresh _ a ha g hg (obsolete_of_unanswered h.answered hg hb))
  | none =>
    have hfx : f.obsolete = true := obsolete_of_unanswered h.answered hf ha
    cases hb : answer g.fieldName.display with
    | some b =>
      rw [ha, hb, Option.getD_some, Option.getD_none] at hsame
      exact absurd hsame.symm (h.fresh _ b hb f hf hfx)
    | none =>
      rw [ha, hb, Option.getD_none, Option.getD_none] at hsame
      exact .inr ⟨hfx, obsolete_of_unanswered h.answered hg hb, hsame⟩

theorem nodup_nameOf_iff : (m.fields.map (nameOf answer)).Nodup ↔
    (m.fields.map (·.fieldName.display)).Nodup ∧
      ((m.fields.filter (·.obsolete)).map (typeName ·.fieldName.display)).Nodup := by
  constructor
  · intro hn
    have hdisplays : (m.fields.map (·.fieldName.display)).Nodup := by
      have hcomp : m.fields.map (nameOf answer) =
          (m.fields.map (·.fieldName.display)).map fun s => (answer s).getD (typeName s) := by
        rw [List.map_map]
        rfl
      rw [hcomp] at hn
      exact hn.of_map
    have hplain (f : Field) (hf : f ∈ m.fields.filter (·.obsolete)) :
        typeName f.fieldName.display = nameOf answer f := by
      obtain ⟨hf, hx⟩ := List.mem_filter.mp hf
      exact (h.nameOf_of_obsolete hdisplays hf hx).symm
    refine ⟨hdisplays, ?_⟩
    rw [List.map_congr_left hplain]
    exact hn.sublist (List.filter_sublist.map _)
  · rintro ⟨hdisplays, hstubs⟩
    refine hdisplays.of_map.map_on ?_
    intro f hf g hg hsame
    rcases h.display_eq_or_obsolete hf hg hsame with hdisplay | ⟨hfx, hgx, hplain⟩
    · exact List.inj_on_of_nodup_map hdisplays hf hg hdisplay
    · have hf' := List.mem_filter.mpr ⟨hf, hfx⟩
      have hg' := List.mem_filter.mpr ⟨hg, hgx⟩
      exact List.inj_on_of_nodup_map hstubs hf' hg' hplain

end Assignment
end MemberNames

namespace Resolver
open MemberNames Attempt
variable {r : Resolver} {m : Model} {t : MemberNames.Table} {answer : String → Option String} {f : Field}
  {p : Property} {hasBase : Bool}

theorem name_of_compileField (h : Assignment m t answer) (hf : f ∈ m.fields)
    (hp : (r.compileField f hasBase ((name? t f.fieldName).getD "")).outcome = .ok p) :
    p.fieldName = f.fieldName ∧
      ((f.fieldName.IsText ∧ p.name = nameOf answer f) ∨
        ¬f.fieldName.IsText ∧ ∃ g ∈ m.fields, g.fieldName.IsText ∧ p.name = nameOf answer g) := by
  obtain ⟨type, name, converter, -, hname, -, rfl⟩ := compileField_ok_iff.mp hp
  refine ⟨rfl, ?_⟩
  dsimp only
  by_cases hs : f.fieldName.IsText
  · left
    have hne : (nameOf answer f).isEmpty = false := by
      simpa using h.nameOf_ne_empty f
    have htext : name? t f.fieldName = some (nameOf answer f) := h.texts f hf hs
    rw [htext, Option.getD_some, hne, if_neg Bool.false_ne_true] at hname
    exact ⟨hs, (Except.ok.inj hname).symm⟩
  · right
    refine ⟨hs, ?_⟩
    cases ha : name? t f.fieldName with
    | none =>
      rw [ha, Option.getD_none, if_pos (by decide)] at hname
      obtain ⟨e, he⟩ := (Json.requires_asOperand f.fieldName).unmet hs
      rw [he] at hname
      cases hname
    | some a =>
      obtain ⟨s, hanswer⟩ := h.others f hf a hs ha
      have hne : a.isEmpty = false := by
        simpa using h.nonempty s a hanswer
      rw [ha, Option.getD_some, hne, if_neg Bool.false_ne_true] at hname
      obtain ⟨g, hg, -, hgname⟩ := h.asked s a hanswer
      refine ⟨g, hg, ⟨s, hgname⟩, ?_⟩
      unfold nameOf
      rw [hgname, Json.display, hanswer, ← Except.ok.inj hname]
      rfl

section
variable {properties : List Property} (h : Assignment m t answer)
  (hproperties : List.Forall₂ (fun f p =>
    (r.compileField f hasBase ((name? t f.fieldName).getD "")).outcome = .ok p) m.fields properties)
include h hproperties

theorem map_name_of_texts (htexts : ∀ f ∈ m.fields, f.fieldName.IsText) :
    properties.map Property.name = m.fields.map (nameOf answer) := by
  have hboth := (List.forall₂_and_left _ _).mpr ⟨fun f hf => hf, hproperties⟩
  refine map_eq_map_of_forall₂ hboth ?_
  rintro f p ⟨hf, hp⟩
  obtain ⟨-, ⟨-, hname⟩ | ⟨hs, -⟩⟩ := name_of_compileField h hf hp
  · exact hname
  · exact absurd (htexts f hf) hs

theorem isText_of_nodup_names (hn : (properties.map Property.name).Nodup) :
    ∀ f ∈ m.fields, f.fieldName.IsText := by
  intro f hf
  by_contra hs
  obtain ⟨p, hp, hcompiled⟩ := exists_right_of_forall₂ hproperties hf
  obtain ⟨hfield, ⟨htext, -⟩ | ⟨-, g, hg, hgs, hname⟩⟩ := name_of_compileField h hf hcompiled
  · exact hs htext
  · obtain ⟨p', hp', hcompiled'⟩ := exists_right_of_forall₂ hproperties hg
    obtain ⟨hfield', ⟨-, hname'⟩ | ⟨hgs', -⟩⟩ := name_of_compileField h hg hcompiled'
    · obtain rfl : p = p' := List.inj_on_of_nodup_map hn hp hp' (hname.trans hname'.symm)
      exact hs (hfield ▸ hfield'.symm ▸ hgs)
    · exact hgs' hgs

end

/-- The properties of a class have different names exactly if its fields are written differently,
and no two disinherited fields have one plain name. All other fields that come to one name are told
apart by a number. -/
theorem propertyNames_nodup_iff (r : Resolver) (m : Model) (c : ClassDefinition)
    (h : (r.compileClass m).outcome = .ok c) :
    (c.properties.map Property.name).Nodup ↔
      (m.fields.map (·.fieldName.display)).Nodup ∧
        ((m.fields.filter (·.obsolete)).map (typeName ·.fieldName.display)).Nodup := by
  obtain ⟨base, shortName, names, -, -, hnames, hproperties, -⟩ := compileClass_ok_iff.mp h
  obtain ⟨answer, hassigned⟩ := exists_assignment hnames
  rw [← hassigned.nodup_nameOf_iff]
  constructor
  · intro hn
    have htexts := isText_of_nodup_names hassigned hproperties hn
    rw [← map_name_of_texts hassigned hproperties htexts]
    exact hn
  · intro hn
    have hdisplays := (hassigned.nodup_nameOf_iff.mp hn).1
    rw [map_name_of_texts hassigned hproperties (hassigned.isText_of_nodup hdisplays)]
    exact hn

def eventOf (fields : List Field) : Model :=
  ⟨.str "Event", fields, .null, .str "https://schema.org/Event", []⟩

/-- Names that meet after conversion are numbered, around the plain name of a disinherited field;
a field name that is given twice leads to one property name. -/
theorem propertyNames_nodup_iff_level :
    let r : Resolver := ⟨⟨[], [], Vocabulary.standard⟩, Settings.default⟩
    let text := "https://schema.org/Text"
    let converted := eventOf [.ofType "level" text, .ofType "Level" text, .ofType "Name" text,
      { Field.ofType "name" text with obsolete := true }]
    let repeated := eventOf [.ofType "name" text, .ofType "name" "https://schema.org/URL"]
    (∃ c, (r.compileClass converted).outcome = .ok c ∧
      c.properties.map Property.name = ["Level", "Level_1", "Name_1", "Name"] ∧
      (c.properties.map Property.name).Nodup) ∧
    ∃ c, (r.compileClass repeated).outcome = .ok c ∧
      c.properties.map Property.name = ["Name", "Name"] ∧
      ¬(c.properties.map Property.name).Nodup := by
  intro r text converted repeated
  constructor
  · obtain ⟨c, hc, hnames⟩ : ∃ c, (r.compileClass converted).outcome = .ok c ∧
        c.properties.map Property.name = ["Level", "Level_1", "Name_1", "Name"] :=
      exists_ok_of_decide (by decide +kernel)
    exact ⟨c, hc, hnames, (propertyNames_nodup_iff r converted c hc).mpr (by decide +kernel)⟩
  · obtain ⟨c, hc, hnames⟩ : ∃ c, (r.compileClass repeated).outcome = .ok c ∧
        c.properties.map Property.name = ["Name", "Name"] :=
      exists_ok_of_decide (by decide +kernel)
    refine ⟨c, hc, hnames, fun hn => ?_⟩
    exact absurd ((propertyNames_nodup_iff r repeated c hc).mp hn).1 (by decide)

end Resolver
end TypedVocabulary
