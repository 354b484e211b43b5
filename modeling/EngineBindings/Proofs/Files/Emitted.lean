import EngineBindings.Package.Emission
import EngineBindings.Proofs.Files.Written
import EngineBindings.Proofs.Package.RelativeImports
import EngineBindings.Proofs.Package.Reordered
import Mathlib.Data.List.Induction

/-! Emitting twice.

The artifacts of a package lie at places of their own (`apart_artifactPaths`), so that publishing
one leaves those before it alone. When all have been published, every file holds its text, the
user's own templates are what they were, and emitting the package again writes nothing
(`emit_of_emitted`). -/
namespace EngineBindings

open Text Attempt

namespace Tree

variable {t t' t'' : Tree} {path place : Path} {paths : List Path}

/-! ### Published files -/

/-- Whether a tree is another but for files that some paths lead to, and directories added. -/
structure Published (paths : List Path) (t t' : Tree) : Prop where
  log : t.log = none → t'.log = none
  keeps : t.KeepsDirectories t'
  node (p : Path) : t'.node? p = t.node? p ∨ t.node? p = none ∧ t'.node? p = some .directory ∨
    ∃ path ∈ paths, t'.locate path = .ok p ∧ ∃ above, p = above ++ [path.name]

namespace Published

theorem refl (t : Tree) : Published [] t t :=
  ⟨id, .refl t, fun _ => .inl rfl⟩

theorem trans {paths' : List Path} (h : Published paths t t') (h' : Published paths' t' t'') :
    Published (paths ++ paths') t t'' := by
  refine ⟨h'.log ∘ h.log, h.keeps.trans h'.keeps, fun p => ?_⟩
  rcases h'.node p with hsame | ⟨hmissing, hmade⟩ | ⟨path, hpath, hlocate⟩
  · rcases h.node p with hsame' | ⟨hmissing, hmade⟩ | ⟨path, hpath, hlocate, hname⟩
    · exact .inl (hsame.trans hsame')
    · exact .inr (.inl ⟨hmissing, hsame.trans hmade⟩)
    · exact .inr (.inr
        ⟨path, List.mem_append_left _ hpath, locate_of_keeps h'.keeps hlocate, hname⟩)
  · rcases h.node p with hsame' | ⟨-, hmade'⟩ | ⟨path, hpath, hlocate, hname⟩
    · exact .inr (.inl ⟨hsame'.symm.trans hmissing, hmade⟩)
    · simp [hmissing] at hmade'
    · exact .inr (.inr
        ⟨path, List.mem_append_left _ hpath, locate_of_keeps h'.keeps hlocate, hname⟩)
  · exact .inr (.inr ⟨path, List.mem_append_right _ hpath, hlocate⟩)

end Published

theorem AddsDirectories.published (h : AddsDirectories path t t') : Published [] t t' :=
  ⟨fun hlog => h.log.trans hlog, h.keeps, fun p => (h.node p).imp_right fun ⟨hmissing, hmade, _⟩ =>
    .inl ⟨hmissing, hmade⟩⟩

theorem Replaces.published {node : Node} (h : Replaces path place node t t') :
    Published [path] t t' := by
  refine ⟨fun hlog => by simp [h.log, hlog], h.keeps, fun p => ?_⟩
  by_cases hp : place = p
  · subst hp
    exact .inr (.inr ⟨path, List.mem_singleton_self path, h.leads_after, h.named⟩)
  · exact .inl (by rw [h.node, if_neg hp])

theorem published_of_publish {text : String} {publication : Publication}
    (h : t.publish undisturbed {} false path text = (t', .ok publication)) :
    Published [path] t t' ∧ t'.HoldsText path text := by
  unfold publish at h
  rw [if_neg Bool.false_ne_true] at h
  split at h
  · next hwritten =>
    cases h
    have hspec := writeText_spec undisturbed t path text
    rw [hwritten] at hspec
    obtain ⟨t₁, place, bytes, hadds, -, hreplaces⟩ := hspec
    exact ⟨hadds.published.trans hreplaces.published, holdsText_of_writeText hwritten⟩
  · next hkept =>
    cases h
    have hspec := writeText_spec undisturbed t path text
    rw [hkept] at hspec
    have hsame : Published [path] t' t' := ⟨id, .refl t', fun _ => .inl rfl⟩
    exact ⟨hspec.1.published.trans hsame, hspec.2⟩
  · cases h

/-- A file that holds its text already is left as it is. -/
theorem publish_of_holdsText {text : String} (h : t.HoldsText path text) :
    t.publish undisturbed {} false path text = (t, .ok .unchanged) := by
  simp [publish, writeText_of_holdsText h]

/-- Whether two paths never lead to one place. -/
def Apart (path path' : Path) : Prop :=
  ∀ (t : Tree) (place place' : Path), t.locate path = .ok place → t.locate path' = .ok place' →
    place ≠ place'

theorem HoldsText.of_published {text : String} (h : t.HoldsText path text)
    (hpublished : Published paths t t') (hapart : ∀ path' ∈ paths, Apart path path') :
    t'.HoldsText path text := by
  refine h.of_keeps hpublished.keeps fun place bytes mode hplace hfile => ?_
  rcases hpublished.node place with hsame | ⟨hmissing, -⟩ | ⟨path', hpath', hlocate, -⟩
  · rw [hsame, hfile]
  · simp [hmissing] at hfile
  · exact absurd rfl
      (hapart path' hpath' t' place place (locate_of_keeps hpublished.keeps hplace) hlocate)

/-! ### Paths of artifacts -/

/-- Names behind a path are the last ones of the place that it leads to. -/
theorem locate_append {suffix : Path} (hup : Path.up ∉ suffix)
    (h : t.locate (path ++ suffix) = .ok place) :
    ∃ base, t.locate path = .ok base ∧ place = base ++ suffix := by
  induction suffix using List.reverseRecOn generalizing place with
  | nil => exact ⟨place, by simpa using h, by simp⟩
  | append_singleton names name ih =>
    rw [List.mem_append, List.mem_singleton, not_or] at hup
    rw [← List.append_assoc] at h
    obtain ⟨directory, hdirectory, -, hlast⟩ := follow_concat h
    obtain ⟨base, hbase, rfl⟩ := ih hup.1 hdirectory
    exact ⟨base, hbase, by rw [hlast (Ne.symm hup.2), List.append_assoc]⟩

/-- Below a directory that was there before, a name leads where it led. -/
theorem locate_concat_of_leads {name : String} (hpath : t.leadsToDirectory path = true)
    (h : t.KeepsDirectories t') (hp : t'.locate (path ++ [name]) = .ok place) :
    t.locate (path ++ [name]) = .ok place := by
  obtain ⟨base, hbase, hnode⟩ := leadsToDirectory_iff.1 hpath
  have hbase' := (locate_eq_ok.1 (locate_of_keeps h hbase)).2
  obtain ⟨hnameable, hp⟩ := locate_eq_ok.1 hp
  refine locate_eq_ok.2 ⟨hnameable, ?_⟩
  rw [follow_append, hbase', ok_bind] at hp
  rw [follow_append, (locate_eq_ok.1 hbase).2, ok_bind]
  simpa [follow, hnode, h base hnode] using hp

theorem apart_append {suffix suffix' : Path} (hup : Path.up ∉ suffix) (hup' : Path.up ∉ suffix')
    (h : suffix ≠ suffix') : Apart (path ++ suffix) (path ++ suffix') := by
  rintro t place place' hplace hplace' rfl
  obtain ⟨base, hbase, rfl⟩ := locate_append hup hplace
  obtain ⟨base', hbase', hsame⟩ := locate_append hup' hplace'
  cases hbase.symm.trans hbase'
  exact h (List.append_cancel_left hsame)

end Tree

namespace Package

open EngineBindings.Tree

/-- The names of an artifact of a package, below the output directory. -/
inductive ArtifactNames : Path → Prop where
  | core : ArtifactNames ["core_defs.py"]
  | functions : ArtifactNames ["utility_functions.py"]
  | entry : ArtifactNames ["__init__.py"]
  | ofClass (name : String) (h : '/' ∉ name.toList) : ArtifactNames ["classes", name ++ ".py"]

theorem fileName_ne {name s : String} (h : s.toList.length < 3) : name ++ ".py" ≠ s := by
  rintro rfl
  simp only [String.toList_append, List.length_append] at h
  exact absurd (Nat.le_add_left 3 _) (Nat.not_le.mpr h)

namespace ArtifactNames

variable {names : Path}

theorem parts_join (h : ArtifactNames names) : Path.parts (join "/" names) = names := by
  cases h with
  | core => decide
  | functions => decide
  | entry => decide
  | ofClass name h =>
    have hlast : '/' ∉ (name ++ ".py").toList := by simp [h]
    have hparts : splitFields '/' (join "/" ["classes", name ++ ".py"]) =
        ["classes", name ++ ".py"] :=
      splitFields_join rfl (by simp) (List.forall_mem_cons.mpr ⟨by decide, by simpa using hlast⟩)
    have hdot : name ++ ".py" ≠ "." := fileName_ne (by decide)
    rw [Path.parts, hparts]
    simp [hdot]

theorem ofText_eq (h : ArtifactNames names) (out : Path) :
    Path.ofText out (join "/" names) = out ++ names := by
  have hrelative : Path.isAbsolute (join "/" names) = false := by
    cases h with
    | core => decide
    | functions => decide
    | entry => decide
    | ofClass name h => simp [Path.isAbsolute, startsWith, join, dropPrefix?]
  rw [Path.ofText, hrelative, if_neg Bool.false_ne_true, h.parts_join]

theorem exists_name (h : ArtifactNames names) :
    ∃ above module, names = above ++ [module ++ ".py"] := by
  cases h with
  | core => exact ⟨[], "core_defs", by decide⟩
  | functions => exact ⟨[], "utility_functions", by decide⟩
  | entry => exact ⟨[], "__init__", by decide⟩
  | ofClass name h => exact ⟨["classes"], name, rfl⟩

theorem up_not_mem (h : ArtifactNames names) : Path.up ∉ names := by
  cases h with
  | core => decide
  | functions => decide
  | entry => decide
  | ofClass name h =>
    have hmodule : name ++ ".py" ≠ Path.up := fileName_ne (by decide)
    have hdirectory : "classes" ≠ Path.up := by decide
    simp [Ne.symm hmodule, Ne.symm hdirectory]

end ArtifactNames

/-! ### Artifacts -/

variable {g : Generation} {options : RenderOptions} {own : Templates}
  {artifacts : OrderedMap Name String}

/-- The paths that artifacts are published at. -/
def artifactPaths (out : Path) (artifacts : OrderedMap Name String) : List Path :=
  artifacts.keys.map fun name => Path.ofText out name.display

/-- Every artifact is one of the package's own or the module of a class. -/
theorem keys_of_renderPackage {defs : CoreDefs}
    (h : renderPackage g options own defs = .ok artifacts) :
    ∀ key ∈ artifacts.keys, (∃ names, ArtifactNames names ∧ key = (join "/" names : Name)) ∨
      ∃ p ∈ g.plans, key = (classPath p.name.display : Name) := by
  obtain ⟨core, functions, entry, classes, hrendered, rfl⟩ := renderPackage_eq_ok.mp h
  intro key hkey
  obtain ⟨artifact, hartifact, rfl⟩ := List.mem_map.mp hkey
  have hlisted := (OrderedMap.mem_ofList hartifact).1
  simp only [List.map_append, map_fst_of_classArtifact hrendered.classes, List.map_cons,
    List.map_nil, List.mem_append, List.mem_cons, List.not_mem_nil, or_false, List.mem_map]
    at hlisted
  rcases hlisted with ((hkey | hkey) | ⟨p, hp, hkey⟩) | hkey | hkey
  · exact .inl ⟨_, .core, hkey⟩
  · exact .inl ⟨_, .functions, hkey⟩
  · obtain ⟨c, -, hfind⟩ := List.mem_filterMap.mp hp
    exact .inr ⟨p, List.mem_of_find?_eq_some hfind, hkey.symm⟩
  · exact .inl ⟨_, .ofClass "__init__" (by decide), hkey⟩
  · exact .inl ⟨_, .entry, hkey⟩

theorem artifactNames_of_renderPackage {defs : CoreDefs}
    (h : renderPackage g options own defs = .ok artifacts)
    (hnames : ∀ p ∈ g.plans, '/' ∉ p.name.display.toList) :
    ∀ key ∈ artifacts.keys, ∃ names, ArtifactNames names ∧ key = (join "/" names : Name) := by
  intro key hkey
  rcases keys_of_renderPackage h key hkey with hshared | ⟨p, hp, rfl⟩
  · exact hshared
  · exact ⟨_, .ofClass p.name.display (hnames p hp), rfl⟩

/-- The artifacts of a rendering have places of their own, none of which is that of a template. -/
theorem apart_artifactPaths (h : render g options own = .ok artifacts)
    (hnames : ∀ p ∈ g.plans, '/' ∉ p.name.display.toList) (out : Path) :
    (artifactPaths out artifacts).Pairwise Apart := by
  obtain ⟨defs, -, h⟩ := bind_eq_ok.mp h
  split at h
  · obtain ⟨text, -, h⟩ := bind_eq_ok.mp h
    obtain ⟨key, -, h⟩ := bind_eq_ok.mp h
    cases pure_eq_ok.mp h
    exact List.pairwise_singleton _ _
  · have hpaths := artifactNames_of_renderPackage h hnames
    obtain ⟨core, functions, entry, classes, hrendered, rfl⟩ := renderPackage_eq_ok.mp h
    refine List.pairwise_map.mpr ((OrderedMap.pairwise_keys_ofList _).imp_of_mem ?_)
    intro key key' hkey hkey' hother
    obtain ⟨names, hartifact, rfl⟩ := hpaths key hkey
    obtain ⟨names', hartifact', rfl⟩ := hpaths key' hkey'
    have hdifferent : names ≠ names' := by
      rintro rfl
      simp at hother
    change Apart (Path.ofText out (join "/" names)) (Path.ofText out (join "/" names'))
    rw [hartifact.ofText_eq, hartifact'.ofText_eq]
    exact apart_append hartifact.up_not_mem hartifact'.up_not_mem hdifferent

/-! ### Templates of the user's own -/

/-- The names that templates of the user's own may have. -/
def templateNames : List String := [coreTemplate, utilityTemplate, initTemplate]

/-- No artifact of a package has the name of a template; a single file has the name it is given. -/
theorem name_not_mem_templateNames (h : render g options own = .ok artifacts)
    (hnames : ∀ p ∈ g.plans, '/' ∉ p.name.display.toList) (out : Path)
    (hfile : options.singleFile = true →
      (Path.ofText out options.singleFileName.display).name ∉ templateNames) :
    ∀ path ∈ artifactPaths out artifacts, path.name ∉ templateNames := by
  intro path hpath
  obtain ⟨key, hkey, rfl⟩ := List.mem_map.mp hpath
  obtain ⟨defs, -, h⟩ := bind_eq_ok.mp h
  split at h
  · next hsingle =>
    obtain ⟨text, -, h⟩ := bind_eq_ok.mp h
    obtain ⟨name, hname, h⟩ := bind_eq_ok.mp h
    cases pure_eq_ok.mp h
    obtain rfl : key = name := by simpa [OrderedMap.ofList, OrderedMap.insertAll, OrderedMap.keys,
      OrderedMap.insert, OrderedMap.empty, OrderedMap.insertEntry] using hkey
    rw [(Name.keyed_eq_ok.mp (mapError_eq_ok.mp hname)).2]
    exact hfile hsingle
  · obtain ⟨names, hartifact, rfl⟩ := artifactNames_of_renderPackage h hnames key hkey
    obtain ⟨above, module, hlast⟩ := hartifact.exists_name
    have hname : (Path.ofText out (join "/" names)).name = module ++ ".py" := by
      rw [hartifact.ofText_eq, hlast, ← List.append_assoc]
      simp [Path.name]
    change (Path.ofText out (join "/" names)).name ∉ templateNames
    rw [hname]
    intro hmem
    have hend : (module ++ ".py").toList.getLast? = some 'y' := by simp
    have htemplates : ∀ name ∈ templateNames, name.toList.getLast? ≠ some 'y' := by decide
    exact htemplates _ hmem hend

/-- Files of other names leave those alone that lie in a directory under the name of a template. -/
theorem read_iff_of_published {t t' : Tree} {paths : List Path} {directory : Path} {name : String}
    (hdirectory : t.leadsToDirectory directory = true) (h : Published paths t t')
    (hname : name ∈ templateNames) (hpaths : ∀ path ∈ paths, path.name ∉ templateNames)
    (bytes : ByteArray) :
    t'.read (directory ++ [name]) = .ok bytes ↔ t.read (directory ++ [name]) = .ok bytes := by
  have hup : Path.up ∉ [name] := by
    have hnone : Path.up ∉ templateNames := by decide
    rw [List.mem_singleton]
    rintro rfl
    exact hnone hname
  -- No artifact takes the place of a template, whose name it has not.
  have hfree (place : Path) (hplace : t'.locate (directory ++ [name]) = .ok place) :
      ¬∃ path ∈ paths, t'.locate path = .ok place ∧ ∃ above, place = above ++ [path.name] := by
    rintro ⟨path, hpath, -, above, hlast⟩
    obtain ⟨base, -, hplace⟩ := locate_append hup hplace
    have hsame := List.singleton_inj.mp (List.append_inj' (hplace.symm.trans hlast) rfl).2
    exact hpaths path hpath (hsame ▸ hname)
  rw [read_eq_ok, read_eq_ok]
  constructor
  · rintro ⟨place, mode, hplace, hfile⟩
    refine ⟨place, mode, locate_concat_of_leads hdirectory h.keeps hplace, ?_⟩
    rcases h.node place with hsame | ⟨-, hmade⟩ | hpublished
    · rw [← hsame, hfile]
    · simp [hfile] at hmade
    · exact absurd hpublished (hfree place hplace)
  · rintro ⟨place, mode, hplace, hfile⟩
    have hplace' := locate_of_keeps h.keeps hplace
    refine ⟨place, mode, hplace', ?_⟩
    rcases h.node place with hsame | ⟨hmissing, -⟩ | hpublished
    · rw [hsame, hfile]
    · simp [hfile] at hmissing
    · exact absurd hpublished (hfree place hplace')

/-- Publishing files of other names leaves the user's own templates what they were. -/
theorem ownTemplates_of_published {t t' : Tree} {paths : List Path} {directory : Path}
    (hdirectory : t.leadsToDirectory directory = true) (h : Published paths t t')
    (hpaths : ∀ path ∈ paths, path.name ∉ templateNames) :
    ownTemplates t' directory = ownTemplates t directory := by
  unfold ownTemplates
  refine List.filterMap_congr fun name hname => ?_
  have hread := read_iff_of_published hdirectory h hname hpaths
  cases hold : t.read (directory ++ [name]) with
  | ok bytes => rw [(hread bytes).mpr hold]
  | error fault =>
    cases hnew : t'.read (directory ++ [name]) with
    | ok bytes => simp [(hread bytes).mp hnew] at hold
    | error fault => rfl

/-! ### Emitting -/

/-- The first of several artifacts is published, and then the others. -/
theorem publishAll_cons_eq_ok {style : LogStyle} {out : Path} {t t' : Tree} {journal : Journal}
    {name : Name} {text : String} {rest : List (Name × String)} (hlog : t.log = none)
    (h : publishAll style false out t ((name, text) :: rest) = (t', journal, .ok ())) :
    ∃ t₁ journal', Published [Path.ofText out name.display] t t₁ ∧
      t₁.HoldsText (Path.ofText out name.display) text ∧ t₁.log = none ∧
      publishAll style false out t₁ rest = (t', journal', .ok ()) := by
  rw [publishAll] at h
  split at h
  · cases h
  · next t₁ publication hpublish =>
    obtain ⟨hpublished, hholds⟩ := published_of_publish hpublish
    have hlog₁ := hpublished.log hlog
    rw [Tree.report_of_log_eq_none style hlog₁] at h
    cases hrest : publishAll style false out t₁ rest with
    | mk t₂ result =>
      obtain ⟨journal', outcome⟩ := result
      simp only [hrest, Prod.mk.injEq] at h
      obtain ⟨rfl, -, rfl⟩ := h
      exact ⟨t₁, journal', hpublished, hholds, hlog₁, hrest⟩

theorem published_of_publishAll {style : LogStyle} {out : Path} {t t' : Tree} {journal : Journal}
    {entries : List (Name × String)} (hlog : t.log = none)
    (h : publishAll style false out t entries = (t', journal, .ok ())) :
    Published (entries.map fun entry => Path.ofText out entry.1.display) t t' := by
  induction entries generalizing t journal with
  | nil =>
    cases h
    exact .refl _
  | cons entry rest ih =>
    obtain ⟨t₁, journal', hpublished, -, hlog₁, hrest⟩ := publishAll_cons_eq_ok hlog h
    exact hpublished.trans (ih hlog₁ hrest)

/-- Files at places of their own all hold their texts in the end. -/
theorem holdsText_of_publishAll {style : LogStyle} {out : Path} {t t' : Tree} {journal : Journal}
    {entries : List (Name × String)} (hlog : t.log = none)
    (h : publishAll style false out t entries = (t', journal, .ok ()))
    (hapart : (entries.map fun entry => Path.ofText out entry.1.display).Pairwise Apart) :
    ∀ entry ∈ entries, t'.HoldsText (Path.ofText out entry.1.display) entry.2 := by
  induction entries generalizing t journal with
  | nil => simp
  | cons entry rest ih =>
    obtain ⟨t₁, journal', -, hholds, hlog₁, hrest⟩ := publishAll_cons_eq_ok hlog h
    rw [List.map_cons, List.pairwise_cons] at hapart
    exact List.forall_mem_cons.mpr
      ⟨hholds.of_published (published_of_publishAll hlog₁ hrest) hapart.1, ih hlog₁ hrest hapart.2⟩

/-- Files that hold their texts already are left as they are, one after the other. -/
theorem publishAll_of_holdsText {style : LogStyle} {out : Path} {t : Tree}
    {entries : List (Name × String)} (hlog : t.log = none)
    (h : ∀ entry ∈ entries, t.HoldsText (Path.ofText out entry.1.display) entry.2) :
    publishAll style false out t entries =
      (t, entries.map fun entry => Publication.unchanged.entry (Path.ofText out entry.1.display),
        .ok ()) := by
  induction entries with
  | nil => rfl
  | cons entry rest ih =>
    obtain ⟨name, text⟩ := entry
    obtain ⟨hfirst, hrest⟩ := List.forall_mem_cons.mp h
    rw [publishAll, publish_of_holdsText hfirst]
    simp only [Tree.report_of_log_eq_none style hlog, ih hrest, List.map_cons]

section Emit

variable {style : LogStyle} {options : RenderOptions} {own : Option Path} {out : Path}
  {g : Generation} {t t₁ t₂ : Tree} {journal : Journal}

theorem emit_of_steps {rendered : OrderedMap Name String}
    (hout : t.ensureDirectory out = (t₁, .ok ()))
    (hrender : render g options ((own.map (ownTemplates t₁)).getD []) = .ok rendered)
    (hpublish : publishAll style false out t₁ rendered.entries = (t₂, journal, .ok ())) :
    emit style false options own out g t =
      ⟨t₂.report style [completion out], journal ++ [completion out], .ok rendered.keys⟩ := by
  simp [emit, prepareOutput, hout, hrender, hpublish]

theorem steps_of_emit {artifacts : List Name}
    (h : (emit style false options own out g t).outcome = .ok artifacts) :
    ∃ t₁ t₂ rendered journal, t.ensureDirectory out = (t₁, .ok ()) ∧
      render g options ((own.map (ownTemplates t₁)).getD []) = .ok rendered ∧
      publishAll style false out t₁ rendered.entries = (t₂, journal, .ok ()) ∧
      artifacts = rendered.keys := by
  unfold emit at h
  split at h
  · cases h
  · next t₁ hout =>
    split at h
    · cases h
    · next rendered hrender =>
      split at h
      · cases h
      · next t₂ journal hpublish =>
        exact ⟨t₁, t₂, rendered, journal, hout, hrender, hpublish, by simpa using h.symm⟩

/-- Emitting a package again writes nothing: every artifact is found unchanged. -/
theorem emit_of_emitted {artifacts : List Name} (hlog : t.log = none)
    (hown : ∀ directory ∈ own, t.leadsToDirectory directory = true)
    (hnames : ∀ p ∈ g.plans, '/' ∉ p.name.display.toList)
    (hfile : options.singleFile = true →
      (Path.ofText out options.singleFileName.display).name ∉ templateNames)
    (h : (emit style false options own out g t).outcome = .ok artifacts) :
    emit style false options own out g (emit style false options own out g t).tree =
      ⟨(emit style false options own out g t).tree,
        artifacts.map (fun name => Publication.unchanged.entry (Path.ofText out name.display)) ++
          [completion out], .ok artifacts⟩ := by
  obtain ⟨t₁, t₂, rendered, journal, hout, hrender, hpublish, rfl⟩ := steps_of_emit h
  have hadds : AddsDirectories out t t₁ := by simpa [hout] using adds_ensureDirectory t out
  have hlog₁ : t₁.log = none := hadds.log.trans hlog
  have hpaths : (rendered.entries.map fun entry => Path.ofText out entry.1.display) =
      artifactPaths out rendered := by
    rw [artifactPaths, OrderedMap.keys, List.map_map, Function.comp_def]
  have hpublished := published_of_publishAll hlog₁ hpublish
  have hholds := holdsText_of_publishAll hlog₁ hpublish
    (hpaths ▸ apart_artifactPaths hrender hnames out)
  rw [hpaths] at hpublished
  have hlog₂ := hpublished.log hlog₁
  have htree : (emit style false options own out g t).tree = t₂ := by
    rw [emit_of_steps hout hrender hpublish]
    exact Tree.report_of_log_eq_none style hlog₂ _
  have hout₂ : t₂.ensureDirectory out = (t₂, .ok ()) :=
    ensureDirectory_of_leads
      (leadsToDirectory_of_keeps hpublished.keeps (leads_of_ensureDirectory hout))
  have hown₂ : own.map (ownTemplates t₂) = own.map (ownTemplates t₁) := by
    cases own with
    | none => rfl
    | some directory =>
      refine congrArg some (ownTemplates_of_published ?_ hpublished
        (name_not_mem_templateNames hrender hnames out hfile))
      exact leadsToDirectory_of_keeps hadds.keeps (hown directory rfl)
  rw [htree, emit_of_steps hout₂ (hown₂ ▸ hrender) (publishAll_of_holdsText hlog₂ hholds),
    Tree.report_of_log_eq_none style hlog₂, OrderedMap.keys, List.map_map, Function.comp_def]

end Emit

end Package

/-! ### Whole or not at all, and once -/

/-- A directory of templates of the user's own, each of a few characters. -/
def templatesTree : Tree :=
  { nodes := ⟨(["templates"], .directory) :: Package.templateNames.map fun name =>
      (["templates", name], .file "# own\r\n".toUTF8 0o644)⟩ }

end EngineBindings
