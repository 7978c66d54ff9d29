import TypedVocabulary.Proofs.Command.StoredFiles

/-! # All or nothing

A command that generates comes through several stages: the language, the document, the settings and
the run. Nothing is written before the last of them is over, and only into an output directory. So a
command that is stopped at a stage leaves the files as they were, and one that ends well has stored
all that it has generated.
-/
namespace TypedVocabulary.Command
open Step

/-- The options ask about languages, not for generated code. -/
def Options.Informs (o : Options) : Prop :=
  o.listLanguages = true ∨ (given o.languageInfo).isSome = true

instance (o : Options) : Decidable o.Informs := inferInstanceAs (Decidable (_ ∨ _))

/-- A generation that came through all stages, with what each of them gave. -/
structure Generation (o : Options) (files : FileTree) (reply : Reply) where
  language : String
  loaded : LoadedSchema
  settings : Settings
  generator : Generator
  report : RunReport
  written : GeneratedFiles
  metadata : RunMetadata
  generates : ¬o.Informs
  asked : o.language = some language
  supported : registry.isSupported language = true
  loads : (Source.load files reply (Json.ofOption o.file) (Json.ofOption o.url)).outcome =
    .ok loaded
  configures : settingsOf files o language = .ok settings
  creates : registry.createWith language settings = .ok generator
  runs : (generator.run loaded.schema).outcome = .ok report
  succeeds : report.outcome = .generated written metadata

variable {o : Options} {files : FileTree} {reply : Reply} {P E : FileTree → Prop}

namespace Generation

theorem exists_generator (g : Generation o files reply) :
    ∃ settings templates, g.generator = ⟨DotNet.backend, settings, templates⟩ := by
  have hcreates := g.creates
  unfold Registry.createWith Generator.create at hcreates
  obtain ⟨entry, hentry, haccept⟩ := Attempt.bind_ok_iff.mp hcreates
  have hbackend : entry.backend = DotNet.backend := by
    unfold Registry.find at hentry
    dsimp only at hentry
    split at hentry
    · rename_i hfound
      cases hentry
      have hmem : entry ∈ registry.entries := List.mem_of_find?_eq_some hfound
      obtain rfl := List.mem_singleton.mp hmem
      rfl
    · cases hentry
  obtain ⟨-, -, hpure⟩ := Attempt.bind_ok_iff.mp haccept
  rw [Attempt.pure_ok_iff, hbackend] at hpure
  exact ⟨_, _, hpure.symm⟩

theorem returns (g : Generation o files reply) :
    DotNet.Returns g.generator g.loaded.schema g.written := by
  refine .inr ⟨g.report, g.runs, ?_, ?_⟩
  · rw [RunReport.succeeded, g.succeeds]
  · rw [RunReport.files, g.succeeds]

theorem outputPath (g : Generation o files reply) :
    ∀ path ∈ g.written.paths, DotNet.OutputPath path := by
  obtain ⟨settings, templates, hg⟩ := g.exists_generator
  exact DotNet.outputPath_of_returns (hg ▸ g.returns)

theorem nodup_paths (g : Generation o files reply) : g.written.paths.Nodup := by
  obtain ⟨settings, templates, hg⟩ := g.exists_generator
  exact DotNet.nodup_paths_of_returns (hg ▸ g.returns)

end Generation

/-- What a generation leaves: all files in the output directory, or nothing without one. -/
structure Delivered (g : Generation o files reply) (t : FileTree) : Prop where
  stored : ∀ dir, given o.outputDir = some dir →
    Stored (Path.ofText dir) g.generator.backend.dirs g.written files t
  untouched : given o.outputDir = none → t = files

/-- Files have changed only for an output directory, after all stages. -/
def Earned (o : Options) (files : FileTree) (reply : Reply) (t : FileTree) : Prop :=
  t = files ∨ Nonempty (Generation o files reply) ∧ ∃ dir, given o.outputDir = some dir

/-! ## Steps that only print -/

theorem keeps_bullet (style text : String) : Keeps P (bullet style text) := keeps_print _

theorem keeps_printMetadata (m : RunMetadata) : Keeps P (printMetadata m) := by
  unfold printMetadata
  refine (keeps_lift _).bind fun _ => (keeps_print _).bind fun _ => ?_
  exact (keeps_lift _).bind fun _ => keeps_showLines _

theorem keeps_printSummary (r : RunReport) (verbose : Bool) : Keeps P (printSummary r verbose) := by
  have hwarnings : Keeps P (do
      if !r.warnings.isEmpty then
        print ("\n" ++ Markup.styled "yellow" "Warnings:")
        r.warnings.forM (bullet "yellow")
        print "") := by
    split
    · refine (keeps_print _).bind fun _ => ?_
      exact (keeps_forM fun text _ => keeps_bullet _ text).bind fun _ => keeps_print _
    · exact keeps_pure ()
  unfold printSummary
  cases r.outcome with
  | failed _ _ => exact hwarnings
  | generated _ m =>
    cases verbose with
    | true => exact (keeps_printMetadata m).bind fun _ => hwarnings
    | false => exact hwarnings

theorem keeps_printFile (file : String × String) : Keeps P (printFile file) :=
  (keeps_print _).bind fun _ => keeps_showLines _

theorem keeps_listLanguages : Keeps P listLanguages := by
  unfold listLanguages
  refine (keeps_lift _).bind fun _ => (keeps_showLines _).bind fun _ => ?_
  exact (keeps_print _).bind fun _ => keeps_pure _

theorem triple_reportFailure (message : String) (r : RunReport) (verbose : Bool)
    (hE : ∀ t, P t → E t) :
    Triple P (reportFailure message r verbose) (fun code t => P t ∧ code = 1) E := by
  have hfault (e : ResolutionError) : Keeps P (do
      bullet "red" (← (Attempt.ofMisuse e.message : Attempt String))) :=
    (keeps_lift _).bind fun _ => keeps_bullet _ _
  unfold reportFailure
  refine ((keeps_print _).triple hE).bind fun _ => ?_
  refine ((keeps_forM fun e _ => hfault e).triple hE).bind fun _ => ?_
  refine ((keeps_printSummary r verbose).triple hE).bind fun _ => ?_
  exact triple_pure fun t ht => ⟨ht, rfl⟩

theorem triple_checkLanguage (language : String) (hE : ∀ t, P t → E t) :
    Triple P (checkLanguage language)
      (fun known t => P t ∧ (known = true → registry.isSupported language = true)) E := by
  unfold checkLanguage
  split
  · rename_i h
    exact triple_pure fun t ht => ⟨ht, fun _ => h⟩
  · exact ((keeps_print _).triple hE).bind fun _ => triple_pure fun t ht => ⟨ht, fun h => nomatch h⟩

theorem triple_describeLanguage (language : String) (hE : ∀ t, P t → E t) :
    Triple P (describeLanguage language) (fun _ => P) E := by
  unfold describeLanguage
  refine (triple_checkLanguage language hE).bind_result fun known _ => ?_
  split
  · refine Keeps.triple ?_ hE
    refine (keeps_lift _).bind fun d => (keeps_showLines _).bind fun _ => ?_
    exact (keeps_lift _).bind fun rows => (keeps_showLines _).bind fun _ => keeps_pure _
  · exact triple_pure fun _ ht => ht

theorem triple_answerFailure (e : Failure) (hE : ∀ t, P t → E t) :
    Triple P (answerFailure e) (fun code t => P t ∧ code = 1) E := by
  unfold answerFailure
  split
  · refine (triple_lift _ hE).bind_result fun text _ => ?_
    exact ((keeps_print _).triple hE).bind fun _ => triple_pure fun t ht => ⟨ht, rfl⟩
  · exact triple_throw hE

/-! ## Generation -/

theorem triple_deliver (g : Generation o files reply) :
    Triple (· = files) (deliver o g.generator.backend g.written) (fun _ => Delivered g)
      (Earned o files reply) := by
  unfold deliver
  cases hdir : given o.outputDir with
  | none =>
    have hprint : Keeps (· = files) ((Text.sortByKey g.written).forM printFile) :=
      keeps_forM fun file _ => keeps_printFile file
    refine (hprint.triple fun t ht => .inl ht).post fun _ t ht => ?_
    exact ⟨fun dir h => (nomatch hdir.symm.trans h), fun _ => ht⟩
  | some dir =>
    have hearned (t : FileTree) : Earned o files reply t := .inr ⟨⟨g⟩, dir, hdir⟩
    refine (triple_writeFiles hearned g.outputPath g.nodup_paths).bind fun _ => ?_
    refine ((keeps_print _).triple fun t _ => hearned t).post fun _ t ht => ?_
    refine ⟨fun dir' hdir' => ?_, fun hnone => nomatch hdir.symm.trans hnone⟩
    obtain rfl := Option.some.inj (hdir.symm.trans hdir')
    exact ht

theorem Delivered.earned {g : Generation o files reply} {t : FileTree} (h : Delivered g t) :
    Earned o files reply t := by
  cases hdir : given o.outputDir with
  | none => exact .inl (h.untouched hdir)
  | some dir => exact .inr ⟨⟨g⟩, dir, hdir⟩

/-- How a generation ends: well, with all that it should leave, or with one and without a trace. -/
def Finished (o : Options) (files : FileTree) (reply : Reply) (code : Nat) (t : FileTree) : Prop :=
  code = 0 ∧ (∃ g : Generation o files reply, Delivered g t) ∨ code = 1 ∧ t = files

theorem triple_generate {language : String} (hgenerates : ¬o.Informs)
    (hasked : o.language = some language)
    (hsupported : registry.isSupported language = true) :
    Triple (· = files) (generate o language reply) (Finished o files reply)
      (Earned o files reply) := by
  have hE (t : FileTree) (ht : t = files) : Earned o files reply t := .inl ht
  unfold generate
  refine (triple_get files).bind_result fun session hsession => ?_
  rw [hsession]
  refine (triple_perform _ hE).bind_result fun loaded hloads => ?_
  refine ((keeps_print _).triple hE).bind fun _ => ?_
  refine (triple_lift _ hE).bind_result fun settings hconfigures => ?_
  refine (triple_lift _ hE).bind_result fun generator hcreates => ?_
  refine (triple_perform _ hE).bind_result fun report hruns => ?_
  cases houtcome : report.outcome with
  | failed message failure =>
    exact (triple_reportFailure message report o.verbose hE).post fun code t ht => .inr ⟨ht.2, ht.1⟩
  | generated written metadata =>
    let g : Generation o files reply := ⟨language, loaded, settings, generator, report, written,
      metadata, hgenerates, hasked, hsupported, hloads, hconfigures, hcreates, hruns, houtcome⟩
    refine (triple_deliver g).bind fun _ => ?_
    refine ((keeps_printSummary report o.verbose).triple fun t ht => ht.earned).bind fun _ => ?_
    exact triple_pure fun t ht => .inl ⟨rfl, g, ht⟩

theorem triple_dispatch :
    Triple (· = files) (dispatch o reply)
      (fun code t => o.Informs ∧ t = files ∨ Finished o files reply code t)
      (Earned o files reply) := by
  have hE (t : FileTree) (ht : t = files) : Earned o files reply t := .inl ht
  unfold dispatch
  cases hlist : o.listLanguages with
  | true =>
    exact (keeps_listLanguages.triple hE).post fun _ t ht => .inl ⟨.inl hlist, ht⟩
  | false =>
    rw [if_neg Bool.false_ne_true]
    cases hinfo : given o.languageInfo with
    | some language =>
      refine (triple_describeLanguage language hE).post fun _ t ht => ?_
      exact .inl ⟨.inr (by rw [hinfo]; rfl), ht⟩
    | none =>
      have hgenerates : ¬o.Informs := by
        rintro (h | h)
        · cases hlist.symm.trans h
        · rw [hinfo] at h
          cases h
      dsimp only
      split
      · refine ((keeps_print _).triple hE).bind fun _ => ?_
        exact triple_pure fun t ht => .inr (.inr ⟨rfl, ht⟩)
      · cases hlanguage : o.language with
        | none => exact triple_throw hE
        | some language =>
          refine (triple_checkLanguage language hE).bind_result fun known hknown => ?_
          cases known with
          | true =>
            exact (triple_generate hgenerates hlanguage (hknown rfl)).post fun _ t ht => .inr ht
          | false => exact triple_pure fun t ht => .inr (.inr ⟨rfl, ht⟩)

/-- How a command with options ends: a failure that it answers gives one, and any other ends it. -/
theorem runOptions_cases (o : Options) (files : FileTree) (reply : Reply) :
    Earned o files reply (runOptions o files reply).files ∧
      ((runOptions o files reply).ending = .exit 0 → ¬o.Informs →
        ∃ g : Generation o files reply, Delivered g (runOptions o files reply).files) := by
  unfold runOptions
  cases o.logLevel with
  | none => exact ⟨.inl rfl, fun h => nomatch h⟩
  | some level =>
    have hanswered : Triple (· = files) (tryCatch (dispatch o reply) answerFailure : Step Nat)
        (fun code t => Earned o files reply t ∧ (code = 0 → ¬o.Informs →
          ∃ g : Generation o files reply, Delivered g t)) (Earned o files reply) := by
      refine Triple.tryCatch (triple_dispatch.post fun code t ht => ?_) fun e => ?_
      · rcases ht with ⟨hinforms, ht⟩ | ⟨-, g, hg⟩ | ⟨hcode, ht⟩
        · exact ⟨.inl ht, fun _ hnot => absurd hinforms hnot⟩
        · exact ⟨hg.earned, fun _ _ => ⟨g, hg⟩⟩
        · exact ⟨.inl ht, fun hzero => nomatch hcode.symm.trans hzero⟩
      · refine (triple_answerFailure e fun _ ht => ht).post fun code t ht => ?_
        exact ⟨ht.1, fun hzero => nomatch ht.2.symm.trans hzero⟩
    have hrun := hanswered ⟨threshold o.verbose level, [], files⟩ rfl
    dsimp only
    cases hresult : StateT.run (ExceptT.run (tryCatch (dispatch o reply) answerFailure : Step Nat))
        ⟨threshold o.verbose level, [], files⟩ with
    | mk result session =>
      rw [hresult] at hrun
      cases result with
      | ok code => exact ⟨hrun.1, fun hzero => hrun.2 (Ending.exit.inj hzero)⟩
      | error e => exact ⟨hrun, fun h => nomatch h⟩

/-- A command leaves the files as they were unless a generation has come through all stages and has
an output directory. If a generation ends well, the directories and all its files are there, with
their texts, and no other file has changed; without an output directory none has. -/
theorem writes_all_or_nothing (args : List String) (files : FileTree) (reply : Reply) :
    ((run args files reply).files = files ∨ ∃ o, Options.read args = .ok o ∧
      Nonempty (Generation o files reply) ∧ ∃ dir, given o.outputDir = some dir) ∧
    ∀ o, Options.read args = .ok o → ¬o.Informs → (run args files reply).ending = .exit 0 →
      ∃ g : Generation o files reply,
        (∀ dir, given o.outputDir = some dir → Stored (Path.ofText dir) g.generator.backend.dirs
          g.written files (run args files reply).files) ∧
        (given o.outputDir = none → (run args files reply).files = files) := by
  cases hread : Options.read args with
  | ok o =>
    have hrun : run args files reply = runOptions o files reply := by
      unfold run
      rw [hread]
    obtain ⟨hearned, hdelivered⟩ := runOptions_cases o files reply
    rw [hrun]
    refine ⟨hearned.imp_right fun h => ⟨o, rfl, h⟩, fun o' ho' hinforms hexit => ?_⟩
    obtain rfl := Except.ok.inj ho'
    obtain ⟨g, hg⟩ := hdelivered hexit hinforms
    exact ⟨g, hg.stored, hg.untouched⟩
  | error stop =>
    refine ⟨.inl ?_, fun o ho => nomatch ho⟩
    unfold run
    rw [hread]
    cases stop <;> rfl

instance (ending : Ending) (code : Nat) : Decidable (ending = .exit code) :=
  match ending with
  | .exit code' => decidable_of_iff (code' = code) (by simp)
  | .crash _ | .help | .version | .usage _ => isFalse (by simp)

/-- A directory with a document of one model. -/
def eventFiles : FileTree :=
  ⟨[(["models.json"], .text ("\x7b\"models\":[\x7b\"type\":\"Event\"," ++
    "\"derivedFrom\":\"https://schema.org/Event\"\x7d]\x7d"))], [[]]⟩

/-- With an output directory the class of the model is stored, and without one nothing is. -/
theorem writes_all_or_nothing_event :
    (∃ o, ∃ g : Generation o eventFiles (.timedOut ""),
      Stored (Path.ofText "out") g.generator.backend.dirs g.written eventFiles
        (run ["models.json", "-o", "out"] eventFiles (.timedOut "")).files) ∧
    (run ["models.json", "-o", "out"] eventFiles (.timedOut "")).files.files.map Prod.fst =
      [["models.json"], ["out", "models", "Event.cs"]] ∧
    (run ["models.json"] eventFiles (.timedOut "")).files = eventFiles := by
  have hread : Options.read ["models.json", "-o", "out"] =
      .ok { Options.default with file := some "models.json", outputDir := some "out" } := rfl
  have hread' : Options.read ["models.json"] =
      .ok { Options.default with file := some "models.json" } := rfl
  have hrun : (run ["models.json", "-o", "out"] eventFiles (.timedOut "")).ending = .exit 0 ∧
      (run ["models.json", "-o", "out"] eventFiles (.timedOut "")).files.files.map Prod.fst =
        [["models.json"], ["out", "models", "Event.cs"]] := by decide +kernel
  obtain ⟨hexit, hplaces⟩ := hrun
  obtain ⟨-, hstored⟩ :=
    writes_all_or_nothing ["models.json", "-o", "out"] eventFiles (.timedOut "")
  obtain ⟨g, hg, -⟩ := hstored _ hread (by decide) hexit
  refine ⟨⟨_, g, hg "out" (by decide)⟩, hplaces, ?_⟩
  obtain ⟨hsame | ⟨o, ho, -, dir, hdir⟩, -⟩ :=
    writes_all_or_nothing ["models.json"] eventFiles (.timedOut "")
  · exact hsame
  · cases hread'.symm.trans ho
    cases hdir

end TypedVocabulary.Command
