import EngineBindings.CommandLine.Run
import EngineBindings.Proofs.Files.Emitted

/-! Runs that stop before anything is written.

Every phase of a run but emitting leaves the file tree alone, and emitting renders everything before
it writes anything. So a run that stops with a template, the schema or the type tables at fault has
made its output directory at most (`adds_of_emitGeneration`), and a trial has not even done that.
The one refusal of a write that passes for the fault of a template, directories that lie too deep,
does not come up where no class is called by a name with too many slashes
(`publishAll_notTooDeep`). -/
namespace EngineBindings

open Attempt Text

/-! ### Refusals that are not about depth -/

namespace Tree

variable {t : Tree} {path : Path}

/-- The faults of everything but making directories. -/
abbrev NotTooDeep : FileFault → Prop := (· ≠ .tooDeep)

theorem notTooDeep_follow (base : Path) : FailsOnly NotTooDeep (t.follow base path) := by
  fun_induction t.follow base path with
  | case1 => exact .ok _
  | case2 | case3 | case5 => exact .error (by decide)
  | case4 _ _ _ ih => exact ih
  | case6 _ _ _ _ _ _ ih => exact ih

theorem notTooDeep_locate : FailsOnly NotTooDeep (t.locate path) := by
  unfold locate
  split
  · exact .error (by decide)
  split
  · exact .error (by decide)
  split
  · exact .error (by decide)
  · exact notTooDeep_follow []

theorem notTooDeep_read : FailsOnly NotTooDeep (t.read path) := by
  refine .bind notTooDeep_locate fun place _ => ?_
  split
  · exact .error (by decide)
  · exact .error (by decide)
  · exact .ok _

theorem notTooDeep_makeDirectory : FailsOnly NotTooDeep (t.makeDirectory path) := by
  refine .bind notTooDeep_locate fun place _ => ?_
  split
  · exact .error (by decide)
  · exact .ok _

theorem notTooDeep_makeDirectories (reversed : Path) :
    FailsOnly NotTooDeep (t.makeDirectories reversed).2 := by
  have hfault {t : Tree} {path : Path} {fault : FileFault}
      (h : t.makeDirectory path = .error fault) : fault ≠ .tooDeep := by
    have hmake : FailsOnly NotTooDeep (t.makeDirectory path) := notTooDeep_makeDirectory
    rwa [h] at hmake
  induction reversed generalizing t with
  | nil => exact .ok _
  | cons name above ih =>
    rw [makeDirectories]
    split
    · exact .ok _
    · split
      · next hstopped => simpa [hstopped] using ih (t := t)
      · split
        · exact .ok _
        · exact .error (by decide)
        · next hrefused =>
          simp only
          split
          · exact .ok _
          · exact .error (hfault hrefused)
    · next hrefused =>
      simp only
      split
      · exact .ok _
      · exact .error (hfault hrefused)

/-- Only directories that lie too deep are refused for it. -/
theorem notTooDeep_ensureDirectory (h : t.missing path.reverse ≤ maxMissing) :
    FailsOnly NotTooDeep (t.ensureDirectory path).2 := by
  rw [ensureDirectory, if_neg (Nat.not_lt.mpr h)]
  exact notTooDeep_makeDirectories _

theorem notTooDeep_encode (content : String) :
    FailsOnly NotTooDeep (Encoding.utf8.encode content) := by
  unfold Encoding.encode
  cases characters? content with
  | none => exact .error (by decide)
  | some cs => exact .ok _

theorem notTooDeep_decode (bytes : ByteArray) :
    FailsOnly NotTooDeep (Encoding.utf8.decode bytes) := by
  refine .map ?_
  unfold Encoding.textOfUtf8
  cases String.fromUTF8? bytes with
  | none => exact .error (by decide)
  | some s => exact .ok s

theorem notTooDeep_holds (content : String) :
    FailsOnly NotTooDeep (t.holds path (.ok "utf-8") content) := by
  have hread : FailsOnly NotTooDeep (t.read path) := notTooDeep_read
  have hnul : ("utf-8".toList.contains (Char.ofNat 0)) = false := by decide
  rw [holds, ok_bind, hnul, if_neg Bool.false_ne_true]
  beta_reduce
  cases hbytes : t.read path with
  | error fault =>
    rw [hbytes] at hread
    cases fault with
    | notFound => exact .ok _
    | _ => exact .error hread
  | ok bytes =>
    simp only
    rw [Encoding.named_utf8, ok_bind]
    exact .bind (notTooDeep_decode _) fun old _ => .ok _

theorem notTooDeep_moveFile (source : Path) : FailsOnly NotTooDeep (t.moveFile source path) := by
  refine .bind notTooDeep_locate fun place _ => ?_
  by_cases hnamed : (path.isEmpty || decide (path.name = Path.up)) = true
  · rw [if_pos hnamed]
    exact .error (by decide)
  · rw [if_neg hnamed]
    split
    · exact .error (by decide)
    · exact .ok _
    · exact .error (by decide)

theorem notTooDeep_replaceFile (content : String) :
    FailsOnly NotTooDeep (t.replaceFile undisturbed {} path content).2 := by
  have hcreate : FailsOnly NotTooDeep (t.createTemporary path) :=
    .bind notTooDeep_locate fun likely _ => .ok _
  have hcomplete (t : Tree) (temporary : Path) :
      FailsOnly NotTooDeep (completeWrite undisturbed {} t temporary path content) := by
    refine .bind (x := attempt undisturbed .fillTemporary _) ?_ fun bytes _ => ?_
    · change FailsOnly NotTooDeep
        ((Encoding.named "utf-8").bind fun encoding => encoding.encode content)
      rw [Encoding.named_utf8]
      exact notTooDeep_encode content
    · exact .bind (.ok _) fun filled _ => notTooDeep_moveFile temporary
  rw [replaceFile, attempt_undisturbed]
  cases hcreated : t.createTemporary path with
  | error fault =>
    rw [hcreated] at hcreate
    exact .error hcreate
  | ok created =>
    obtain ⟨temporary, t₁⟩ := created
    simp only
    cases hdone : completeWrite undisturbed {} t₁ temporary path content with
    | error fault =>
      have := hcomplete t₁ temporary
      rw [hdone] at this
      exact .error this
    | ok t₂ => exact .ok _

/-- A file whose directory is not too deep is written or refused for another reason. -/
theorem notTooDeep_writeText (text : String)
    (h : t.missing path.parent.reverse ≤ maxMissing) :
    FailsOnly NotTooDeep (t.writeText undisturbed {} path text).2 := by
  have hparents : FailsOnly NotTooDeep (t.prepareParents undisturbed {} path).2 := by
    simpa [prepareParents, undisturbed] using notTooDeep_ensureDirectory h
  unfold writeText
  cases hprepared : t.prepareParents undisturbed {} path with
  | mk t₁ outcome =>
    rw [hprepared] at hparents
    cases outcome with
    | error fault => exact .error hparents
    | ok =>
      have hold : FailsOnly NotTooDeep (t₁.holds path (.ok "utf-8") (fileText text)) :=
        notTooDeep_holds (fileText text)
      simp only [if_true, attempt_undisturbed]
      cases hheld : t₁.holds path (.ok "utf-8") (fileText text) with
      | error fault =>
        rw [hheld] at hold
        exact .error hold
      | ok same =>
        cases same with
        | true => exact .ok _
        | false => exact notTooDeep_replaceFile (fileText text)

theorem notTooDeep_publish (text : String) (h : t.missing path.parent.reverse ≤ maxMissing) :
    FailsOnly NotTooDeep (t.publish undisturbed {} false path text).2 := by
  have hwrite := notTooDeep_writeText text h
  rw [publish, if_neg Bool.false_ne_true]
  split
  · exact .ok _
  · exact .ok _
  · next hrefused =>
    rw [hrefused] at hwrite
    exact .error hwrite

/-- A file that lies too deep is refused before anything is touched. -/
theorem publish_of_tooDeep (text : String) (h : maxMissing < t.missing path.parent.reverse) :
    t.publish undisturbed {} false path text = (t, .error .tooDeep) := by
  have hparents : t.prepareParents undisturbed {} path = (t, .error .tooDeep) := by
    simp [prepareParents, undisturbed, ensureDirectory, h]
  simp [publish, writeText, hparents]

/-! ### Artifacts that do not lie too deep -/

/-- Whether a path goes on from another by few enough names for all its directories to be made. -/
def Shallow (out path : Path) : Prop :=
  ∃ names, path = out ++ names ∧ names ≠ [] ∧ names.length ≤ maxMissing + 1

theorem missing_le_of_shallow {out : Path} (hout : t.leadsToDirectory out = true)
    (h : Shallow out path) : t.missing path.parent.reverse ≤ maxMissing := by
  obtain ⟨names, rfl, hnames, hlength⟩ := h
  have hparent : (out ++ names).parent.reverse = names.dropLast.reverse ++ out.reverse := by
    rw [Path.parent, List.dropLast_append_of_ne_nil hnames, List.reverse_append]
  have hmissing := missing_append_le hout names.dropLast.reverse
  rw [List.length_reverse, List.length_dropLast] at hmissing
  rw [hparent]
  omega

end Tree

namespace Package

open EngineBindings.Tree

theorem shallow_classPath {name : String} (h : name.toList.count '/' < maxMissing) (out : Path) :
    Shallow out (Path.ofText out (classPath name)) := by
  have htext : (classPath name).toList = "classes/".toList ++ (name.toList ++ ".py".toList) := by
    simp [classPath]
  have hrelative : Path.isAbsolute (classPath name) = false := by
    simp [Path.isAbsolute, startsWith, classPath, dropPrefix?]
  have hlength : (Path.parts (classPath name)).length ≤ maxMissing + 1 := by
    have hall : (splitFields '/' (classPath name)).length ≤ maxMissing + 1 := by
      rw [splitFields, List.length_map, length_fields, htext, List.count_append, List.count_append]
      have hhead : "classes/".toList.count '/' = 1 := by decide
      have hend : ".py".toList.count '/' = 0 := by decide
      omega
    exact (List.length_filter_le _ _).trans hall
  refine ⟨Path.parts (classPath name), ?_, ?_, hlength⟩
  · rw [Path.ofText, hrelative, if_neg Bool.false_ne_true]
  · have hmem : "classes" ∈ Path.parts (classPath name) := by
      rw [Path.parts, splitFields, htext]
      simp [fields]
    exact List.ne_nil_of_mem hmem

theorem ArtifactNames.shallow {names : Path} (h : ArtifactNames names) (out : Path) :
    Shallow out (Path.ofText out (join "/" names)) := by
  refine ⟨names, h.ofText_eq out, ?_, ?_⟩
  · cases h <;> simp
  · cases h <;> simp [maxMissing]

variable {g : Generation} {options : RenderOptions} {out : Path} {t : Tree}

/-- Where no class is called by a name with too many slashes, no artifact lies too deep. -/
theorem shallow_of_render {own : Templates} {artifacts : OrderedMap Name String}
    (h : render g options own = .ok artifacts) (hfile : options.singleFileName = "bindings.py")
    (hnames : ∀ p ∈ g.plans, p.name.display.toList.count '/' < maxMissing) :
    ∀ entry ∈ artifacts.entries, Shallow out (Path.ofText out entry.1.display) := by
  intro entry hentry
  obtain ⟨defs, -, h⟩ := bind_eq_ok.mp h
  split at h
  · obtain ⟨text, -, h⟩ := bind_eq_ok.mp h
    obtain ⟨name, hname, h⟩ := bind_eq_ok.mp h
    cases pure_eq_ok.mp h
    have hname := (Name.keyed_eq_ok.mp (mapError_eq_ok.mp hname)).2
    have hkey : entry.1 = name := by
      have hmem := (OrderedMap.mem_ofList hentry).1
      simpa using hmem
    rw [hkey, hname, hfile]
    exact ⟨["bindings.py"], rfl, by simp, by simp⟩
  · have hkey : entry.1 ∈ artifacts.keys := List.mem_map_of_mem hentry
    rcases keys_of_renderPackage h _ hkey with ⟨names, hartifact, hkey⟩ | ⟨p, hp, hkey⟩
    · rw [hkey]
      exact hartifact.shallow out
    · rw [hkey]
      exact shallow_classPath (hnames p hp) out

/-- The refusals of files that do not lie too deep. -/
def RefusesFile : EmissionFault → Prop
  | .file _ cause => cause ≠ .tooDeep
  | _ => False

theorem publishAll_notTooDeep {style : LogStyle} {entries : List (Name × String)}
    (hlog : t.log = none) (hout : t.leadsToDirectory out = true)
    (h : ∀ entry ∈ entries, Shallow out (Path.ofText out entry.1.display)) :
    FailsOnly RefusesFile (publishAll style false out t entries).2.2 := by
  induction entries generalizing t with
  | nil => exact .ok ()
  | cons entry rest ih =>
    obtain ⟨name, text⟩ := entry
    obtain ⟨hfirst, hrest⟩ := List.forall_mem_cons.mp h
    have hpublish := notTooDeep_publish text (missing_le_of_shallow hout hfirst)
    rw [publishAll]
    split
    · next t₁ cause hrefused =>
      rw [hrefused] at hpublish
      exact .error hpublish
    · next t₁ publication hpublish =>
      have hpublished := (published_of_publish hpublish).1
      have hlog₁ := hpublished.log hlog
      simp only [Tree.report_of_log_eq_none style hlog₁]
      exact ih hlog₁ (leadsToDirectory_of_keeps hpublished.keeps hout) hrest

/-- Artifacts are published one after the other. -/
theorem publishAll_append {style : LogStyle} {t₁ : Tree} {before : List (Name × String)}
    {journal : Journal} (h : publishAll style false out t before = (t₁, journal, .ok ()))
    (after : List (Name × String)) :
    publishAll style false out t (before ++ after) =
      ((publishAll style false out t₁ after).1,
        journal ++ (publishAll style false out t₁ after).2.1,
        (publishAll style false out t₁ after).2.2) := by
  induction before generalizing t journal with
  | nil =>
    cases h
    rfl
  | cons entry rest ih =>
    obtain ⟨name, text⟩ := entry
    rw [publishAll] at h
    rw [List.cons_append, publishAll]
    split at h
    · cases h
    · next t₂ publication hpublish =>
      cases hrest : publishAll style false out
          (t₂.report style [publication.entry (Path.ofText out name.display)]) rest with
      | mk t₃ result =>
        obtain ⟨journal₃, outcome⟩ := result
        simp only [hrest, Prod.mk.injEq] at h
        obtain ⟨rfl, rfl, rfl⟩ := h
        simp only [ih hrest, List.cons_append]

/-- Emitting that stops has made the output directory at most, or a file has been refused. -/
theorem adds_of_emit {style : LogStyle} {own : Option Path} {fault : EmissionFault}
    (hlog : t.log = none) (hfile : options.singleFileName = "bindings.py")
    (hnames : ∀ p ∈ g.plans, p.name.display.toList.count '/' < maxMissing)
    (h : (emit style false options own out g t).outcome = .error fault) :
    RefusesFile fault ∨ AddsDirectories out t (emit style false options own out g t).tree := by
  have hadds := adds_ensureDirectory t out
  unfold emit at h ⊢
  rw [prepareOutput, if_neg Bool.false_ne_true] at h ⊢
  cases hout : t.ensureDirectory out with
  | mk t₁ made =>
    rw [hout] at hadds
    cases made with
    | error cause => exact .inr hadds
    | ok =>
      simp only [hout] at h ⊢
      split
      · exact .inr hadds
      · next rendered hrender =>
        have hpublish :
            FailsOnly RefusesFile (publishAll style false out t₁ rendered.entries).2.2 :=
          publishAll_notTooDeep (hadds.log.trans hlog) (leads_of_ensureDirectory hout)
            (shallow_of_render hrender hfile hnames)
        left
        simp only [hrender] at h
        cases hpublished : publishAll style false out t₁ rendered.entries with
        | mk t₂ result =>
          obtain ⟨journal, outcome⟩ := result
          rw [hpublished] at hpublish
          cases outcome with
          | error cause =>
            simp only [hpublished, Except.error.injEq] at h
            exact h ▸ hpublish
          | ok => simp [hpublished] at h

end Package

/-! ### Runs -/

namespace Path

theorem up_not_mem_collapse (path : Path) : up ∉ collapse path := by
  have hstep (done : Path) (name : String) (h : up ∉ done) : up ∉ collapseStep done name := by
    unfold collapseStep
    split
    · exact fun hmem => h (List.dropLast_subset done hmem)
    · next hname => simp [h, Ne.symm hname]
  have hall (done : Path) (h : up ∉ done) : up ∉ path.foldl collapseStep done := by
    induction path generalizing done with
    | nil => exact h
    | cons name rest ih => exact ih _ (hstep done name h)
  exact hall [] (by simp)

end Path

/-- Directories that are added along a path that goes nowhere up lie on the path. -/
theorem Tree.AddsDirectories.node_of_up_not_mem {path : Path} {t t' : Tree}
    (h : Tree.AddsDirectories path t t') (hup : Path.up ∉ path) (place : Path) :
    t'.node? place = t.node? place ∨
      t.node? place = none ∧ t'.node? place = some .directory ∧ place <+: path := by
  refine (h.node place).imp_right fun ⟨hmissing, hmade, above, habove, hplace⟩ => ?_
  refine ⟨hmissing, hmade, ?_⟩
  have hnone : Path.up ∉ above := fun hmem => hup (habove.subset hmem)
  rw [← List.nil_append above] at hplace
  obtain ⟨base, hbase, rfl⟩ := Tree.locate_append hnone hplace
  cases (Tree.locate_eq_ok.1 hbase).2
  exact habove

section Runs

variable {cwd : Path} {o : Options} {t : Tree}

/-- The endings of runs that have not come to writing. -/
def ExitCode.beforeWriting : List ExitCode := [.templating, .schema, .mapping]

theorem up_not_mem_output {places : Places} (h : Places.ofOptions cwd o = .ok places) :
    Path.up ∉ places.output := by
  obtain ⟨text, -, h⟩ := bind_eq_ok.mp h
  obtain ⟨output, houtput, h⟩ := bind_eq_ok.mp h
  obtain ⟨templates, -, h⟩ := bind_eq_ok.mp h
  obtain ⟨jobs, -, h⟩ := bind_eq_ok.mp h
  cases pure_eq_ok.mp h
  unfold absolutePath at houtput
  split at houtput
  · cases houtput
  · cases houtput
    exact Path.up_not_mem_collapse _

theorem ending_of_refusesFile {fault : Package.EmissionFault} (h : Package.RefusesFile fault)
    {code : ExitCode} (hcode : (emissionEnding fault).2 = .exit code) :
    code ∉ ExitCode.beforeWriting := by
  cases fault with
  | file path cause =>
    simp only [emissionEnding, outputEnding] at hcode
    split at hcode
    · cases hcode
      decide
    · rw [if_neg h] at hcode
      cases hcode
  | directory | render => cases h

theorem ending_finish {places : Places} {g : Generation} {artifacts : List Name} {code : ExitCode}
    (h : (finish o places g artifacts t).ending = .exit code) : code ∉ ExitCode.beforeWriting := by
  have hending : (publishManifest o places g artifacts t).ending = .exit code := h
  unfold publishManifest at hending
  split at hending
  · cases hending
    decide
  · simp only at hending
    split at hending <;> cases hending <;> decide

/-- A generation whose emitting stops before writing has made the output directory at most. -/
theorem adds_of_emitGeneration {places : Places} {own : Option Path} {g : Generation}
    (hlog : t.log = none) (hwrites : o.dryRun = false)
    (hnames : ∀ p ∈ g.plans, p.name.display.toList.count '/' < Tree.maxMissing) {code : ExitCode}
    (h : (emitGeneration o places own g t).ending = .exit code)
    (hcode : code ∈ ExitCode.beforeWriting) :
    Tree.AddsDirectories places.output t (emitGeneration o places own g t).tree := by
  unfold emitGeneration at h ⊢
  rw [hwrites] at h ⊢
  simp only at h ⊢
  split
  · next fault hfault =>
    simp only [hfault] at h
    rcases Package.adds_of_emit hlog rfl hnames hfault with hrefused | hadds
    · exact absurd hcode (ending_of_refusesFile hrefused h)
    · have hlog' := hadds.log.trans hlog
      simpa [RunResult.ofEnd, RunResult.behind, Tree.report_of_log_eq_none _ hlog'] using hadds
  · next artifacts hartifacts =>
    simp only [hartifacts] at h
    exact absurd hcode (ending_finish h)

/-- A file that lies too deep ends the run as the fault of a template does, though those before it
have been written by then. -/
theorem emitGeneration_of_tooDeep {places : Places} {own : Option Path} {g : Generation}
    {t₁ t₂ : Tree} {rendered : OrderedMap Name String} {before after : List (Name × String)}
    {name : Name} {text : String} {journal : Journal} (hlog : t.log = none)
    (hwrites : o.dryRun = false) (hout : t.ensureDirectory places.output = (t₁, .ok ()))
    (hrender : Package.render g o.renderOptions ((own.map (Package.ownTemplates t₁)).getD []) =
      .ok rendered)
    (hentries : rendered.entries = before ++ (name, text) :: after)
    (hbefore : Package.publishAll o.logStyle false places.output t₁ before = (t₂, journal, .ok ()))
    (hdeep : Tree.maxMissing <
      t₂.missing (Path.ofText places.output name.display).parent.reverse) :
    (emitGeneration o places own g t).ending = .exit .templating ∧
      (emitGeneration o places own g t).tree = t₂ := by
  have hlog₁ : t₁.log = none := by
    have hadds := Tree.adds_ensureDirectory t places.output
    rw [hout] at hadds
    exact hadds.log.trans hlog
  have hlog₂ := (Package.published_of_publishAll hlog₁ hbefore).log hlog₁
  have hrefused := Package.publishAll_append hbefore ((name, text) :: after)
  rw [Package.publishAll, Tree.publish_of_tooDeep text hdeep, ← hentries] at hrefused
  unfold emitGeneration Package.emit
  rw [hwrites, Package.prepareOutput, if_neg Bool.false_ne_true, hout]
  simp only [hrender, hrefused]
  exact ⟨rfl, Tree.report_of_log_eq_none _ hlog₂ _⟩

/-! ### Trials -/

theorem tree_finish_trial {places : Places} {g : Generation} {artifacts : List Name}
    (hlog : t.log = none) (htrial : o.dryRun = true) :
    (finish o places g artifacts t).tree = t := by
  have htree : (publishManifest o places g artifacts t).tree = t := by
    unfold publishManifest
    rw [htrial]
    split <;> rfl
  change Tree.report _ (publishManifest o places g artifacts t).tree _ = t
  rw [htree, Tree.report_of_log_eq_none _ hlog]

theorem tree_emitGeneration_trial {places : Places} {own : Option Path} {g : Generation}
    (hlog : t.log = none) (htrial : o.dryRun = true) :
    (emitGeneration o places own g t).tree = t := by
  have hemit := Package.tree_emit_trial o.logStyle o.renderOptions own places.output g hlog
  unfold emitGeneration
  rw [htrial]
  simp only
  split
  · simp [RunResult.ofEnd, RunResult.behind, hemit, Tree.report_of_log_eq_none _ hlog]
  · rw [hemit, Tree.report_of_log_eq_none _ hlog]
    exact tree_finish_trial hlog htrial

/-! ### From the beginning -/

/-- A run emits a generation, or leaves the tree alone. -/
theorem tree_runLogged (cwd : Path) (o : Options) (t : Tree) (hlog : t.log = none) :
    (runLogged cwd o t).tree = t ∨ ∃ places own g entries, Places.ofOptions cwd o = .ok places ∧
      (prepare cwd o t).2 = .ok g ∧
      runLogged cwd o t = (emitGeneration o places own g t).behind entries := by
  have hreport (entries : Journal) : t.report o.logStyle entries = t :=
    Tree.report_of_log_eq_none _ hlog entries
  unfold runLogged
  cases hplaces : Places.ofOptions cwd o with
  | error cause => exact .inl rfl
  | ok places =>
    simp only [runPhases]
    split
    · exact .inl (hreport _)
    · next journal own _ =>
      rw [hreport, runPrepared]
      split
      · exact .inl (hreport _)
      · next prepared g hprepared =>
        right
        refine ⟨places, own, g, journal ++ prepared, rfl, by rw [hprepared], ?_⟩
        simp [RunResult.behind, hreport]

/-- A run on a tree that no log is written in. -/
theorem run_eq (cwd : Path) (t : Tree) (hlog : givenText o.logFile = none) (hnone : t.log = none) :
    run cwd o t = ⟨t, [], .broken .logFormat⟩ ∨ run cwd o t = closeLog (runLogged cwd o t) := by
  have hopened : openLog cwd o t = .ok t := by
    obtain ⟨nodes, log⟩ := t
    cases hnone
    simp [openLog, hlog]
  unfold run
  split
  · exact .inl rfl
  · rw [hopened]
    exact .inr rfl

end Runs

/-- A trial changes nothing, however it ends. A run that stops with a template, the schema or the
type tables at fault has made its output directory and those above it at most, unless the name of a
class makes a directory that lies too deep. -/
theorem stopped_before_writing (cwd : Path) (o : Options) (nodes : OrderedMap Path Node)
    (hlog : givenText o.logFile = none) :
    (o.dryRun = true → (run cwd o { nodes }).tree.nodes = nodes) ∧
    (o.dryRun = false → ∀ code ∈ [ExitCode.templating, .schema, .mapping],
      (run cwd o { nodes }).ending = .exit code →
      (∀ g, (prepare cwd o { nodes }).2 = .ok g →
        ∀ p ∈ g.plans, p.name.display.toList.count '/' < Tree.maxMissing) →
      ∀ place, (run cwd o { nodes }).tree.node? place = ({ nodes } : Tree).node? place ∨
        ({ nodes } : Tree).node? place = none ∧
        (run cwd o { nodes }).tree.node? place = some .directory ∧
        ∃ places, Places.ofOptions cwd o = .ok places ∧ place <+: places.output) := by
  have hrun := run_eq cwd { nodes } hlog rfl
  have htree := tree_runLogged cwd o { nodes } rfl
  constructor
  · intro htrial
    rcases hrun with hrun | hrun
    · rw [hrun]
    · rw [hrun]
      change (runLogged cwd o { nodes }).tree.nodes = nodes
      rcases htree with hsame | ⟨places, own, g, entries, -, -, hemitted⟩
      · rw [hsame]
      · rw [hemitted]
        exact congrArg Tree.nodes (tree_emitGeneration_trial rfl htrial)
  · intro hwrites code hcode hending hnames place
    rcases hrun with hrun | hrun
    · exact .inl (by rw [hrun])
    · rw [hrun] at hending ⊢
      change (runLogged cwd o { nodes }).tree.node? place = _ ∨ _ ∧
        (runLogged cwd o { nodes }).tree.node? place = _ ∧ _
      rcases htree with hsame | ⟨places, own, g, entries, hplaces, hprepared, hemitted⟩
      · exact .inl (by rw [hsame])
      · rw [hemitted] at hending ⊢
        have hadds := adds_of_emitGeneration rfl hwrites (hnames g hprepared) hending hcode
        rcases hadds.node_of_up_not_mem (up_not_mem_output hplaces) place with
          hsame | ⟨hmissing, hmade, hprefix⟩
        · exact .inl hsame
        · exact .inr ⟨hmissing, hmade, places, hplaces, hprefix⟩

/-- Whether a run has ended by itself with an exit code. -/
instance (code : ExitCode) : ∀ ending : Ending, Decidable (ending = .exit code)
  | .exit code' => decidable_of_iff (code' = code) (Ending.exit.injEq code' code ▸ Iff.rfl)
  | .broken _ => .isFalse nofun

/-- A schema with one class, and a template of the user's own that asks for a value that there is
not. -/
def askingNodes : OrderedMap Path Node :=
  ⟨[(["api.json"], .file
      ("\x7b\"builtin_class_sizes\":[\x7b\"build_configuration\":\"float_64\"," ++
      "\"sizes\":[]\x7d],\"classes\":[\x7b\"name\":\"Node\"\x7d]\x7d").toUTF8 0o644),
    (["own"], .directory),
    (["own", Package.coreTemplate], .file "\x7b\x7bx\x7d\x7d".toUTF8 0o644)]⟩

/-- The run that comes to that template has only made the output directory. -/
theorem asking_template_leaves_no_file :
    ∃ o : Options, (run [] o { nodes := askingNodes }).ending = .exit .templating ∧
      ∀ place, (run [] o { nodes := askingNodes }).tree.node? place =
          ({ nodes := askingNodes } : Tree).node? place ∨
        ({ nodes := askingNodes } : Tree).node? place = none ∧
        (run [] o { nodes := askingNodes }).tree.node? place = some .directory ∧
        ∃ places, Places.ofOptions [] o = .ok places ∧ place <+: places.output := by
  let o : Options :=
    { api := .value "api.json", outputDir := .value "out", templatesDir := some (.value "own") }
  have returns : (run [] o { nodes := askingNodes }).ending = .exit .templating ∧
      (prepare [] o { nodes := askingNodes }).2.toOption.all fun g => g.plans.all fun p =>
        p.name.display.toList.count '/' < Tree.maxMissing := by
    decide +kernel
  have hnames : ∀ g, (prepare [] o { nodes := askingNodes }).2 = .ok g →
      ∀ p ∈ g.plans, p.name.display.toList.count '/' < Tree.maxMissing := by
    intro g hg p hp
    have hall := returns.2
    rw [hg] at hall
    exact of_decide_eq_true (List.all_eq_true.mp hall p hp)
  exact ⟨o, returns.1, (stopped_before_writing [] o askingNodes rfl).2 rfl .templating (by simp)
    returns.1 hnames⟩

end EngineBindings
