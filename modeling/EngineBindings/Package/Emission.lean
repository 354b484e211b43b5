import EngineBindings.Files.Publish
import EngineBindings.Package.Render

/-! Emitting a package.

Everything is rendered before anything is written, so that a generation that cannot be rendered
leaves no file behind; only the output directory is there by then. Artifacts are published one
after the other, up to the first that the file system refuses. Each publication is reported at
once. -/
namespace EngineBindings.Package

/-- Why emitting stops. -/
inductive EmissionFault where
  /-- The output directory cannot be made. -/
  | directory (cause : FileFault)
  | render (cause : RenderFailure)
  /-- A file cannot be written. -/
  | file (path : Path) (cause : FileFault)

/-- What has come of emitting a package. -/
structure Emission where
  tree : Tree
  journal : Journal
  /-- The names of the artifacts, in the order they are made. -/
  outcome : Except EmissionFault (List Name)

/-- The user's own templates in a directory: files under the names of built-in ones. -/
def ownTemplates (t : Tree) (directory : Path) : Templates :=
  [coreTemplate, utilityTemplate, initTemplate].filterMap fun name =>
    match t.read (directory ++ [name]) with
    | .ok bytes => some (name, (Encoding.utf8.decode bytes).toOption)
    | .error _ => none

/-- Makes the output directory, unless the run only tries things out. -/
def prepareOutput (isTrial : Bool) (t : Tree) (out : Path) : Tree × Except FileFault Unit :=
  if isTrial then (t, .ok ()) else t.ensureDirectory out

/-- Publishes artifacts below a directory, up to the first that is refused. -/
def publishAll (style : LogStyle) (isTrial : Bool) (out : Path) (t : Tree) :
    List (Name × String) → Tree × Journal × Except EmissionFault Unit
  | [] => (t, [], .ok ())
  | (name, text) :: rest =>
    let path := Path.ofText out name.display
    match t.publish undisturbed {} isTrial path text with
    | (t, .error cause) => (t, [], .error (.file path cause))
    | (t, .ok publication) =>
      let (t, journal, outcome) :=
        publishAll style isTrial out (t.report style [publication.entry path]) rest
      (t, publication.entry path :: journal, outcome)

/-- What is reported when all artifacts are published. -/
def completion (out : Path) : Entry :=
  .info .emission "Generation complete under: %s" [.path out.text]

/-- Emits the artifacts of a generation below a directory. The user's own templates, if there are
any, lie in `own`. -/
def emit (style : LogStyle) (isTrial : Bool) (options : RenderOptions) (own : Option Path)
    (out : Path) (g : Generation) (t : Tree) : Emission :=
  match prepareOutput isTrial t out with
  | (t, .error cause) => ⟨t, [], .error (.directory cause)⟩
  | (t, .ok ()) =>
    match render g options ((own.map (ownTemplates t)).getD []) with
    | .error cause => ⟨t, [], .error (.render cause)⟩
    | .ok artifacts =>
      match publishAll style isTrial out t artifacts.entries with
      | (t, journal, .error fault) => ⟨t, journal, .error fault⟩
      | (t, journal, .ok ()) =>
        ⟨t.report style [completion out], journal ++ [completion out], .ok artifacts.keys⟩

/-! ### Trials -/

theorem tree_publishAll_trial (style : LogStyle) (out : Path) {t : Tree} (h : t.log = none)
    (artifacts : List (Name × String)) : (publishAll style true out t artifacts).1 = t := by
  induction artifacts with
  | nil => rfl
  | cons artifact rest ih =>
    simpa only [publishAll, Tree.publish_trial, Tree.report_of_log_eq_none style h] using ih

/-- A trial without a log touches nothing. -/
theorem tree_emit_trial (style : LogStyle) (options : RenderOptions) (own : Option Path)
    (out : Path) (g : Generation) {t : Tree} (h : t.log = none) :
    (emit style true options own out g t).tree = t := by
  simp only [emit, prepareOutput, if_true]
  split
  · rfl
  · rename_i artifacts _
    have unchanged := tree_publishAll_trial style out h artifacts.entries
    split <;> simp_all [Tree.report_of_log_eq_none]

end EngineBindings.Package
