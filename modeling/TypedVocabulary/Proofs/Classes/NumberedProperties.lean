import TypedVocabulary.Proofs.Classes.PropertyNames
import TypedVocabulary.Proofs.Classes.TellableFaults
import TypedVocabulary.Proofs.Naming.NumberedName

/-! # Numbers of properties

Among fields that are named differently the two passes over a model come to a rule that needs no
search: a disinherited field has its plain name, and any other has its plain name with the number of
uses that this has had before, of which the class or a disinherited field makes one.
-/
namespace TypedVocabulary

def Field.plainName (f : Field) : String := typeName f.fieldName.display

theorem Field.plainName_of_text {f : Field} {s : String} (h : f.fieldName = .str s) :
    f.plainName = typeName s := by
  unfold plainName
  rw [h, Json.display]

theorem Field.isStem_plainName (f : Field) : IsStem f.plainName := isStem_typeName _

namespace Model

def Reserves (m : Model) (className name : String) : Prop :=
  name = className ∨ ∃ f ∈ m.fields, f.obsolete = true ∧ f.plainName = name

instance (m : Model) (className name : String) : Decidable (m.Reserves className name) :=
  inferInstanceAs (Decidable (_ ∨ _))

/-- How often a name has been used before the next field gets its own. -/
def uses (m : Model) (className : String) (before : List Field) (name : String) : Nat :=
  before.countP (fun f => !f.obsolete && f.plainName == name) +
    if m.Reserves className name then 1 else 0

def memberName (m : Model) (className : String) (before : List Field) (f : Field) : String :=
  if f.obsolete then f.plainName
  else numbered f.plainName (m.uses className before f.plainName)

variable {m : Model} {className name : String} {before : List Field} {f : Field}

theorem uses_append (m : Model) (className : String) (before : List Field) (f : Field)
    (name : String) : m.uses className (before ++ [f]) name =
      m.uses className before name + if f.obsolete = false ∧ f.plainName = name then 1 else 0 := by
  unfold uses
  rw [List.countP_append, List.countP_singleton]
  simp only [Bool.and_eq_true, Bool.not_eq_true', beq_iff_eq]
  omega

theorem memberName_ne_of_reserves (h : m.Reserves className name) (hstem : IsStem name)
    (hf : f.obsolete = false) : m.memberName className before f ≠ name := by
  unfold memberName
  rw [hf, if_neg Bool.false_ne_true]
  intro hsame
  rw [← numbered_zero name, numbered_inj f.isStem_plainName hstem] at hsame
  obtain ⟨hplain, hnone⟩ := hsame
  unfold uses at hnone
  rw [hplain, if_pos h] at hnone
  omega

/-- A field takes its number from all later ones. -/
theorem memberName_ne_of_earlier {g : Field} (hf : f.obsolete = false) (hg : g.obsolete = false)
    (between : List Field) :
    m.memberName className before f ≠ m.memberName className (before ++ f :: between) g := by
  unfold memberName
  rw [hf, hg, if_neg Bool.false_ne_true, if_neg Bool.false_ne_true]
  intro hsame
  obtain ⟨hplain, huses⟩ := (numbered_inj f.isStem_plainName g.isStem_plainName).mp hsame
  unfold uses at huses
  rw [List.countP_append, List.countP_cons, hplain, hf] at huses
  simp at huses

theorem memberName_append (m : Model) (className : String) {added : Field}
    (h : added.obsolete = false) (before : List Field) (f : Field) :
    { m with fields := m.fields ++ [added] }.memberName className before f =
      m.memberName className before f := by
  have hreserves (name : String) :
      { m with fields := m.fields ++ [added] }.Reserves className name ↔
        m.Reserves className name := by
    simp [Reserves, or_and_right, exists_or, h]
  unfold memberName uses
  simp only [hreserves]

end Model

namespace MemberNames
open Attempt Sanitizer

variable {m : Model} {className : String} {done : List Field} {f : Field}
  {state state' : Sanitizer × Table}

/-! ## Reserved names -/

/-- The names in use are those of the class and of the disinherited fields so far. -/
structure Reserving (className : String) (done : List Field) (state : Sanitizer × Table) :
    Prop where
  rules : state.1.rules = Keyword.rules
  used : ∀ name, name ∈ state.1.used ↔
    name = className ∨ ∃ f ∈ done, f.obsolete = true ∧ f.plainName = name

theorem Reserving.step (h : Reserving className done state) (hf : fixOne state f = .ok state') :
    Reserving className (done ++ [f]) state' := by
  rcases fixOne_ok hf with ⟨hx, rfl⟩ | ⟨hx, s, hs, rfl⟩
  · refine ⟨h.rules, fun name => ?_⟩
    rw [h.used]
    simp [hx]
  · refine ⟨(rules_use _ _).trans h.rules, fun name => ?_⟩
    rw [mem_use, h.used]
    simp only [List.mem_append, List.mem_singleton, or_and_right, exists_or, exists_eq_left, hx,
      Field.plainName_of_text hs, true_and, @eq_comm _ (typeName s)]
    rw [or_comm, or_assoc]

/-! ## Numbers -/

/-- Of each plain name the numbers below its uses are taken, and every field has got the number that
was the next for it. -/
structure Numbering (m : Model) (className : String) (done : List Field)
    (state : Sanitizer × Table) : Prop where
  rules : state.1.rules = Keyword.rules
  used : ∀ name k, numbered (typeName name) k ∈ state.1.used ↔
    k < m.uses className done (typeName name)
  answers : ∀ before f after, done = before ++ f :: after → f.obsolete = false →
    answered? state.1 f.fieldName.display = some (m.memberName className before f)

theorem Reserving.numbering {name : String} (h : Reserving (typeName name) m.fields state) :
    Numbering m (typeName name) [] state := by
  refine ⟨h.rules, fun other k => ?_, fun before f after hsplit => ?_⟩
  · have hstem := isStem_typeName other
    rw [h.used]
    have hreserved : (numbered (typeName other) k = typeName name ∨
        ∃ f ∈ m.fields, f.obsolete = true ∧ f.plainName = numbered (typeName other) k) ↔
        k = 0 ∧ m.Reserves (typeName name) (typeName other) := by
      rcases Nat.eq_zero_or_pos k with rfl | hk
      · rw [numbered_zero]
        exact (and_iff_right rfl).symm
      · constructor
        · rintro (hsame | ⟨f, -, -, hsame⟩)
          · exact absurd hsame (numbered_ne_stem hstem (isStem_typeName name) hk)
          · exact absurd hsame.symm (numbered_ne_stem hstem f.isStem_plainName hk)
        · rintro ⟨rfl, -⟩
          exact absurd hk (Nat.lt_irrefl 0)
    rw [hreserved]
    unfold Model.uses
    rw [List.countP_nil, Nat.zero_add]
    split <;> simp [*]
  · simp at hsplit

/-- A field whose name has not been asked for gets the next number. -/
theorem sanitize_numbered (h : Numbering m className done state) {s answer : String}
    {scope : Sanitizer} (hnew : answered? state.1 s = none)
    (hscope : state.1.sanitize (.str s) .upperCamel "_" = .ok (answer, scope)) :
    answer = numbered (typeName s) (m.uses className done (typeName s)) ∧
      scope.rules = Keyword.rules := by
  refine ⟨?_, (rules_sanitize hscope).trans h.rules⟩
  rcases sanitize_cases hscope with ⟨hold, -⟩ | ⟨-, given, hgiven, hanswer, -⟩
  · cases hnew.symm.trans hold
  · obtain rfl := Json.str.inj hgiven
    exact hanswer.trans (resolveConflict_upperCamel h.rules (h.used s))

theorem answered?_eq_none {reserved : List String} {start : Table}
    (hasked : Assigned reserved start done state) {s : String}
    (hnew : ∀ g ∈ done, g.obsolete = false → g.fieldName ≠ .str s) :
    answered? state.1 s = none := by
  rw [Option.eq_none_iff_forall_ne_some]
  intro answer hanswer
  obtain ⟨g, hg, hgx, hname⟩ := hasked.asked s answer hanswer
  exact hnew g hg hgx hname

theorem Numbering.step {reserved : List String} {start : Table}
    (h : Numbering m className done state) (hasked : Assigned reserved start done state)
    (hdistinct : ((done ++ [f]).map Field.fieldName).Nodup) (htext : f.fieldName.IsText)
    (hf : assignOne state f = .ok state') : Numbering m className (done ++ [f]) state' := by
  rcases assignOne_ok hf with ⟨hx, rfl⟩ | ⟨hx, a, hscope, -⟩
  · refine ⟨h.rules, fun name k => ?_, fun before g after hsplit hg => ?_⟩
    · rw [Model.uses_append, hx, if_neg (by simp), Nat.add_zero]
      exact h.used name k
    · rcases split_of_append_singleton hsplit with ⟨-, rfl⟩ | ⟨rest, hdone⟩
      · cases hx.symm.trans hg
      · exact h.answers before g rest hdone hg
  · obtain ⟨s, hs⟩ := htext
    have hplain : f.plainName = typeName s := Field.plainName_of_text hs
    have hnew : answered? state.1 s = none := by
      refine answered?_eq_none hasked fun g hg _ hname => ?_
      rw [List.map_append, List.map_singleton] at hdistinct
      have hfresh := (List.nodup_append.mp hdistinct).2.2
      exact hfresh g.fieldName (List.mem_map_of_mem hg) f.fieldName (by simp) (hname.trans hs.symm)
    rw [hs] at hscope
    obtain ⟨hanswer, hrules⟩ := sanitize_numbered h hnew hscope
    have hused : ∀ taken, taken ∈ state'.1.used ↔ taken = a ∨ taken ∈ state.1.used := by
      rcases sanitize_ok hscope with ⟨hold, -⟩ | ⟨-, -, -, -, hused, -⟩
      · cases hnew.symm.trans hold
      · exact hused
    refine ⟨hrules, fun name k => ?_, fun before g after hsplit hg => ?_⟩
    · rw [hused, hanswer, h.used, Model.uses_append, hx, hplain,
        numbered_inj (isStem_typeName _) (isStem_typeName _)]
      by_cases hname : typeName name = typeName s
      · rw [hname, if_pos ⟨rfl, rfl⟩, and_iff_right rfl]
        omega
      · rw [if_neg fun hboth => hname hboth.2.symm, Nat.add_zero]
        simp [hname]
    · rcases split_of_append_singleton hsplit with ⟨rfl, rfl⟩ | ⟨rest, hdone⟩
      · rw [answered?_sanitize hscope, hs, if_pos rfl, hanswer, Model.memberName, hx,
          if_neg Bool.false_ne_true, hplain]
      · exact answer?_sanitize_of_some hscope (h.answers before g rest hdone hg)

theorem Reserving.foldlM_assignOne {name : String} {fixed assigned : Sanitizer × Table}
    (h : Reserving (typeName name) m.fields fixed)
    (hbefore : Assigned fixed.1.used fixed.2 [] fixed)
    (hdistinct : (m.fields.map Field.fieldName).Nodup) (htexts : ∀ f ∈ m.fields, f.fieldName.IsText)
    (hassigned : m.fields.foldlM assignOne fixed = .ok assigned) :
    Assigned fixed.1.used fixed.2 m.fields assigned ∧
      Numbering m (typeName name) m.fields assigned := by
  -- The fields so far are named differently, as all of them are.
  have hboth : Assigned fixed.1.used fixed.2 m.fields assigned ∧
      ((m.fields.map Field.fieldName).Nodup → (∀ f ∈ m.fields, f.fieldName.IsText) →
        Numbering m (typeName name) m.fields assigned) := by
    refine foldlM_invariant (P := fun done state => Assigned fixed.1.used fixed.2 done state ∧
      ((done.map Field.fieldName).Nodup → (∀ f ∈ done, f.fieldName.IsText) →
        Numbering m (typeName name) done state)) ?_ ⟨hbefore, fun _ _ => h.numbering⟩ hassigned
    rintro done f state state' ⟨hasked, hnumbering⟩ hf
    refine ⟨hasked.step hf, fun hnodup htext => ?_⟩
    rw [List.map_append] at hnodup
    have hdone := hnumbering (List.nodup_append.mp hnodup).1
      fun g hg => htext g (List.mem_append_left _ hg)
    exact hdone.step hasked (by rwa [List.map_append]) (htext f (by simp)) hf
  exact ⟨hboth.1, hboth.2 hdistinct htexts⟩

/-! ## Names by field -/

/-- What the two passes come to, for each field from those before it. -/
theorem name?_of_assign {t : Table} {name : String} (h : assign m (typeName name) = .ok t)
    (hdistinct : (m.fields.map Field.fieldName).Nodup) (htexts : ∀ f ∈ m.fields, f.fieldName.IsText)
    (before : List Field) (f : Field) (after : List Field)
    (hsplit : m.fields = before ++ f :: after) :
    name? t f.fieldName = some (m.memberName (typeName name) before f) := by
  obtain ⟨fixed, assigned, hfixed, hassigned, rfl, hstubs, hbefore⟩ := assign_passes h
  have hstart : Reserving (typeName name) []
      ((Sanitizer.ofRules Keyword.rules).use (typeName name), []) :=
    ⟨rules_use _ _, fun taken => by rw [mem_use]; simp [Sanitizer.ofRules]⟩
  have hreserving : Reserving (typeName name) m.fields fixed :=
    foldlM_invariant (fun h hf => h.step hf) hstart hfixed
  obtain ⟨hall, hnumbering⟩ := hreserving.foldlM_assignOne hbefore hdistinct htexts hassigned
  have hmem : f ∈ m.fields := by simp [hsplit]
  obtain ⟨s, hs⟩ := htexts f hmem
  rw [hs, hall.texts]
  cases hx : f.obsolete with
  | false =>
    have hanswer := hnumbering.answers before f after hsplit hx
    rw [hs, Json.display] at hanswer
    rw [hanswer, Option.some_or]
  | true =>
    have hnone : answered? assigned.1 s = none := by
      refine answered?_eq_none hall fun g hg hgx hname => ?_
      obtain rfl : g = f := List.inj_on_of_nodup_map hdistinct hg hmem (hname.trans hs.symm)
      cases hgx.symm.trans hx
    obtain ⟨s', hs', -, hstub⟩ := hstubs.stubs f hmem hx
    obtain rfl : s = s' := Json.str.inj (hs.symm.trans hs')
    rw [hnone, Option.none_or, hstub, Model.memberName, hx, if_pos rfl, Field.plainName_of_text hs]

/-- The name of a field that is not disinherited is that of no other field. -/
theorem eq_of_memberName_eq {className : String} {before before' after after' : List Field}
    {f g : Field} (hf : m.fields = before ++ f :: after) (hg : m.fields = before' ++ g :: after')
    (hx : f.obsolete = false)
    (h : m.memberName className before' g = m.memberName className before f) : g = f := by
  cases hgx : g.obsolete with
  | true =>
    have hreserves : m.Reserves className g.plainName := .inr ⟨g, by simp [hg], hgx, rfl⟩
    have hplain : m.memberName className before' g = g.plainName := by
      rw [Model.memberName, hgx, if_pos rfl]
    exact absurd (h.symm.trans hplain)
      (Model.memberName_ne_of_reserves hreserves g.isStem_plainName hx)
  | false =>
    rcases split_cases (hf.symm.trans hg) with hsame | ⟨rest, rfl⟩ | ⟨rest, rfl⟩
    · exact hsame.symm
    · exact absurd h.symm (Model.memberName_ne_of_earlier hx hgx rest)
    · exact absurd h (Model.memberName_ne_of_earlier hgx hx rest)

/-- Fields that are named differently have their names by rule: a disinherited field its plain name,
and any other its plain name with the number of uses before it. So no other field and not the class
has the name of a field that is not disinherited, and one more such field renames none. -/
theorem names_by_rule (m : Model) (name : String)
    (hdistinct : (m.fields.map Field.fieldName).Nodup)
    (htexts : ∀ f ∈ m.fields, f.fieldName.IsText) :
    ∃ t, assign m (typeName name) = .ok t ∧
      (∀ before f after, m.fields = before ++ f :: after →
        name? t f.fieldName = some (m.memberName (typeName name) before f)) ∧
      (∀ f ∈ m.fields, f.obsolete = false → name? t f.fieldName ≠ some (typeName name) ∧
        ∀ g ∈ m.fields, name? t g.fieldName = name? t f.fieldName → g = f) ∧
      ∀ added : Field, added.obsolete = false → added.fieldName.IsText →
        added.fieldName ∉ m.fields.map Field.fieldName →
        ∃ t', assign { m with fields := m.fields ++ [added] } (typeName name) = .ok t' ∧
          ∀ f ∈ m.fields, name? t' f.fieldName = name? t f.fieldName := by
  obtain ⟨t, ht⟩ := exists_assign htexts (typeName name)
  have hrule := name?_of_assign ht hdistinct htexts
  refine ⟨t, ht, hrule, fun f hf hx => ?_, fun added hx htext hnew => ?_⟩
  · obtain ⟨before, after, hsplit⟩ := List.append_of_mem hf
    rw [hrule before f after hsplit]
    refine ⟨fun hclass => ?_, fun g hg hsame => ?_⟩
    · exact Model.memberName_ne_of_reserves (.inl rfl) (isStem_typeName name) hx
        (Option.some.inj hclass)
    · obtain ⟨before', after', hsplit'⟩ := List.append_of_mem hg
      rw [hrule before' g after' hsplit'] at hsame
      exact eq_of_memberName_eq hsplit hsplit' hx (Option.some.inj hsame)
  · have hdistinct' : ((m.fields ++ [added]).map Field.fieldName).Nodup := by
      rw [List.map_append]
      exact hdistinct.append (List.nodup_singleton _) (List.disjoint_singleton.mpr hnew)
    have htexts' : ∀ f ∈ m.fields ++ [added], f.fieldName.IsText := by
      intro f hf
      rcases List.mem_append.mp hf with hf | hf
      · exact htexts f hf
      · exact List.mem_singleton.mp hf ▸ htext
    obtain ⟨t', ht'⟩ :=
      @exists_assign { m with fields := m.fields ++ [added] } htexts' (typeName name)
    refine ⟨t', ht', fun f hf => ?_⟩
    obtain ⟨before, after, hsplit⟩ := List.append_of_mem hf
    have hsplit' : m.fields ++ [added] = before ++ f :: (after ++ [added]) := by
      rw [hsplit, List.append_assoc, List.cons_append]
    rw [name?_of_assign ht' hdistinct' htexts' before f _ hsplit', Model.memberName_append m _ hx,
      hrule before f after hsplit]

/-- The class takes the plain name of a field, a disinherited field that of one before it, and two
fields that meet after conversion are counted. One more field gets the next number. -/
theorem names_by_rule_level :
    let text := "https://schema.org/Text"
    let m := Resolver.eventOf [.ofType "level" text, .ofType "event" text, .ofType "Level" text,
      .ofType "Name" text, { Field.ofType "name" text with obsolete := true }]
    ∃ t t', assign m (typeName "Event") = .ok t ∧
      name? t (.str "level") = some "Level" ∧ name? t (.str "event") = some "Event_1" ∧
      name? t (.str "Level") = some "Level_1" ∧ name? t (.str "Name") = some "Name_1" ∧
      name? t (.str "name") = some "Name" ∧
      assign { m with fields := m.fields ++ [.ofType "LEVEL" text] } (typeName "Event") = .ok t' ∧
      ∀ f ∈ m.fields, name? t' f.fieldName = name? t f.fieldName := by
  intro text m
  have hdistinct : (m.fields.map Field.fieldName).Nodup := by
    simp [m, Resolver.eventOf, Field.ofType]
  have htexts : ∀ f ∈ m.fields, f.fieldName.IsText := by
    simp [m, Resolver.eventOf, Field.ofType, Json.IsText]
  obtain ⟨t, ht, hrule, -, hadded⟩ := names_by_rule m "Event" hdistinct htexts
  obtain ⟨t', ht', hsame⟩ := hadded (.ofType "LEVEL" text) rfl ⟨"LEVEL", rfl⟩
    (by simp [m, Resolver.eventOf, Field.ofType])
  refine ⟨t, t', ht, ?_, ?_, ?_, ?_, ?_, ht', hsame⟩
  · exact (hrule [] _ _ rfl).trans (by decide +kernel)
  · exact (hrule (m.fields.take 1) _ _ rfl).trans (by decide +kernel)
  · exact (hrule (m.fields.take 2) _ _ rfl).trans (by decide +kernel)
  · exact (hrule (m.fields.take 3) _ _ rfl).trans (by decide +kernel)
  · exact (hrule (m.fields.take 4) _ _ rfl).trans (by decide +kernel)

end MemberNames
end TypedVocabulary
