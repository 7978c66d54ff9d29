import TypedVocabulary.Proofs.Generation.Results
import TypedVocabulary.Proofs.KeyedList

/-! # Generated files

The files are the texts of a plan: the path and definition of each result that has a file, in order.
A path that comes again replaces the text and keeps its place, so every path of the plan is in the
files and no other is.
-/
namespace TypedVocabulary

namespace GeneratedFiles

def paths (files : GeneratedFiles) : List String := files.map Prod.fst

end GeneratedFiles

def Compilation.definition? (c : Compilation) : Option Definition :=
  match c.outcome with
  | .ok d => d
  | .error _ => none

namespace DotNet
variable {settings : Settings} {templates : TemplateStore}

/-- The file of a definition; the foundation library has its enumerations already. -/
def path? : Definition → Option String
  | .ofClass c => some (SourceText.classPath c)
  | .ofEnum e => if e.isExternal then none else some (SourceText.enumPath e)

def source (settings : Settings) (templates : TemplateStore) : Definition → Attempt String
  | .ofClass c => SourceText.ofClass settings templates c
  | .ofEnum e => SourceText.ofEnum settings templates e

def plan (results : List Compilation) : List (String × Definition) :=
  results.filterMap fun c => c.definition?.bind fun d => (path? d).map fun path => (path, d)

theorem plan_append (results others : List Compilation) :
    plan (results ++ others) = plan results ++ plan others := List.filterMap_append

def renderPair (settings : Settings) (templates : TemplateStore) (x : String × Definition) :
    Attempt (String × String) := do
  return (x.1, ← source settings templates x.2)

theorem mem_plan {results : List Compilation} {c : Compilation} (hc : c ∈ results)
    {d : Definition} (hd : c.outcome = .ok (some d)) {path : String} (hp : path? d = some path) :
    (path, d) ∈ plan results := by
  refine List.mem_filterMap.mpr ⟨c, hc, ?_⟩
  simp only [Compilation.definition?, hd, Option.bind_some, hp, Option.map_some]

theorem mem_plan_iff {path : String} {d : Definition} :
    (path, d) ∈ plan results ↔ ∃ c ∈ results, c.outcome = .ok (some d) ∧ path? d = some path := by
  constructor
  · intro h
    obtain ⟨c, hc, hpath⟩ := List.mem_filterMap.mp h
    obtain ⟨d', hd', hpath⟩ := Option.bind_eq_some_iff.mp hpath
    obtain ⟨p, hp, heq⟩ := Option.map_eq_some_iff.mp hpath
    cases heq
    refine ⟨c, hc, ?_, hp⟩
    unfold Compilation.definition? at hd'
    cases houtcome : c.outcome with
    | ok found =>
      rw [houtcome] at hd'
      exact congrArg Except.ok hd'
    | error e =>
      rw [houtcome] at hd'
      cases hd'
  · rintro ⟨c, hc, hd, hp⟩
    exact mem_plan hc hd hp

theorem outcome_renderOne (files : GeneratedFiles) (c : Compilation) :
    (renderOne settings templates files c).outcome =
      (plan [c]).mapM (renderPair settings templates) >>= fun texts => pure (KeyedList.putAll files texts) := by
  unfold renderOne plan Compilation.definition?
  obtain ⟨name, notices, outcome⟩ := c
  match outcome with
  | .error e => rfl
  | .ok none => rfl
  | .ok (some (.ofClass c)) =>
    simp only [renderDefinition, Logged.outcome_bind, Logged.outcome_lift, Logged.outcome_pure]
    simp only [List.filterMap_cons, List.filterMap_nil, path?, Option.bind_some, Option.map_some,
      List.mapM_cons, List.mapM_nil, renderPair, source]
    cases SourceText.ofClass settings templates c <;> rfl
  | .ok (some (.ofEnum e)) =>
    cases hx : e.isExternal with
    | true =>
      simp only [renderDefinition, hx, if_true, Logged.outcome_bind, Logged.outcome_write,
        Logged.outcome_pure, Attempt.ok_bind]
      simp [path?, hx, KeyedList.putAll, pure, Except.pure]
    | false =>
      simp only [renderDefinition, hx, Bool.false_eq_true, if_false, Logged.outcome_bind,
        Logged.outcome_lift, Logged.outcome_pure]
      simp only [List.filterMap_cons, List.filterMap_nil, path?, hx, Bool.false_eq_true, if_false,
        Option.bind_some, Option.map_some, List.mapM_cons, List.mapM_nil, renderPair, source]
      cases SourceText.ofEnum settings templates e <;> rfl

theorem outcome_renderAll (files : GeneratedFiles) (results : List Compilation) :
    (results.foldlM (renderOne settings templates) files).outcome =
      (plan results).mapM (renderPair settings templates) >>=
        fun texts => pure (KeyedList.putAll files texts) := by
  induction results generalizing files with
  | nil => rfl
  | cons c rest ih =>
    rw [List.foldlM_cons, Logged.outcome_bind, outcome_renderOne]
    have hplan : plan ([c] ++ rest) = plan [c] ++ plan rest := plan_append [c] rest
    rw [List.singleton_append] at hplan
    simp only [hplan, List.mapM_append, bind_assoc, pure_bind, ih, KeyedList.putAll_append]

theorem render_ok_iff {results : List Compilation} {files : GeneratedFiles} :
    (render settings templates results).outcome = .ok files ↔
      ∃ texts, (plan results).mapM (renderPair settings templates) = .ok texts ∧
        files = KeyedList.putAll [] texts := by
  unfold render
  rw [outcome_renderAll, Attempt.bind_ok_iff]
  simp only [Attempt.pure_ok_iff, @eq_comm _ files]

theorem related_of_renderPair {xs : List (String × Definition)} {texts : List (String × String)}
    (h : xs.mapM (renderPair settings templates) = .ok texts) :
    KeyedList.Related (fun d text => source settings templates d = .ok text) xs texts := by
  refine (Attempt.mapM_ok_iff.mp h).imp fun x y hxy => ?_
  obtain ⟨text, htext, hy⟩ := Attempt.bind_ok_iff.mp hxy
  cases hy
  exact ⟨rfl, htext⟩

/-- The definitions that files are left of: the last for each path, in its place. -/
def rendered (results : List Compilation) : List (String × Definition) :=
  KeyedList.putAll [] (plan results)

theorem related_render {results : List Compilation} {files : GeneratedFiles}
    (h : (render settings templates results).outcome = .ok files) :
    KeyedList.Related (fun d text => source settings templates d = .ok text)
      (rendered results) files := by
  obtain ⟨texts, htexts, rfl⟩ := render_ok_iff.mp h
  exact KeyedList.related_putAll .nil (related_of_renderPair htexts)

theorem mem_paths_render {results : List Compilation} {files : GeneratedFiles}
    (h : (render settings templates results).outcome = .ok files) {path : String} :
    path ∈ files.paths ↔ ∃ d, (path, d) ∈ plan results := by
  obtain ⟨texts, htexts, rfl⟩ := render_ok_iff.mp h
  have hpaths : KeyedList.keys texts = KeyedList.keys (plan results) :=
    KeyedList.keys_of_related (related_of_renderPair htexts)
  have hmem : path ∈ KeyedList.keys (KeyedList.putAll [] texts) ↔ _ := KeyedList.mem_keys_putAll
  rw [hpaths] at hmem
  exact hmem.trans (by simp [KeyedList.keys])

end DotNet
end TypedVocabulary
