import EngineBindings.Proofs.Schema.Decoded
import Mathlib.Logic.Relation

/-! Build configurations do not leak into each other.

Two tables of a document hold entries for every build configuration: the sizes of builtins and the
offsets of their members. They are read by different loops. The sizes stop at the first entry of the
configuration asked for; the offsets visit all entries and take those of the configuration together.
Of an entry that is made for another configuration both read the configuration alone, whatever else
it holds and wherever it stands (`sizes_of_foreign`, `offsets_of_foreign`), so that no change to such
entries shows in the registry or in the fault that takes its place. -/
namespace EngineBindings

open Attempt

namespace Schema

variable {configuration : String} {entry : Json}

/-- An entry that is made for another build configuration. -/
def IsForeign (configuration : String) (entry : Json) : Prop :=
  ∃ fields value, entry = .obj fields ∧
    Json.find? fields "build_configuration" = some value ∧
    isConfiguration configuration value = false

/-- One change to the entries that are made for other build configurations. -/
inductive EntryEdit (configuration : String) : List Json → List Json → Prop
  | insert {entry : Json} (before after : List Json) (h : IsForeign configuration entry) :
      EntryEdit configuration (before ++ after) (before ++ entry :: after)
  | remove {entry : Json} (before after : List Json) (h : IsForeign configuration entry) :
      EntryEdit configuration (before ++ entry :: after) (before ++ after)
  | change {entry entry' : Json} (before after : List Json) (h : IsForeign configuration entry)
      (h' : IsForeign configuration entry') :
      EntryEdit configuration (before ++ entry :: after) (before ++ entry' :: after)

/-- The sections that hold an entry for each build configuration. -/
def configuredSections : List String :=
  ["builtin_class_sizes", "builtin_class_member_offsets"]

/-- A document after one change to the entries that one of its sections holds for other build
configurations. The other sections are as they were. -/
inductive Edit (configuration : String) : Json → Json → Prop
  | within {fields fields' : Fields} {key : String} {entries entries' : List Json}
      (hkey : key ∈ configuredSections)
      (others : ∀ k, k ≠ key → Json.find? fields' k = Json.find? fields k)
      (before : list fields key "schema" = .ok entries)
      (after : list fields' key "schema" = .ok entries')
      (edit : EntryEdit configuration entries entries') :
      Edit configuration (.obj fields) (.obj fields')

/-! ### One entry -/

theorem sizes_of_foreign (h : IsForeign configuration entry) (before after : List Json) :
    sizes configuration (before ++ entry :: after) = sizes configuration (before ++ after) := by
  induction before with
  | nil =>
    obtain ⟨fields, value, rfl, hvalue, hother⟩ := h
    simp [sizes, asObject, require, hvalue, hother, ok_bind]
  | cons first rest ih => simp only [List.cons_append, sizes, ih]

theorem offsetEntry_of_foreign (h : IsForeign configuration entry) :
    offsetEntry configuration entry = .ok [] := by
  obtain ⟨fields, value, rfl, hvalue, hother⟩ := h
  simp [offsetEntry, asObject, require, hvalue, hother, ok_bind, pure, Except.pure]

theorem offsets_of_foreign (h : IsForeign configuration entry) (before after : List Json) :
    offsets configuration (before ++ entry :: after) = offsets configuration (before ++ after) := by
  unfold offsets
  rw [List.mapM_append, List.mapM_append, List.mapM_cons, offsetEntry_of_foreign h]
  cases before.mapM (offsetEntry configuration) with
  | error e => rfl
  | ok first =>
    cases after.mapM (offsetEntry configuration) with
    | error e => rfl
    | ok rest => simp [ok_bind, pure, Except.pure]

/-- A reading of entries that passes over one foreign entry anywhere follows no change to them. -/
theorem eq_of_entryEdit {α : Type} {read : List Json → α} {entries entries' : List Json}
    (pass : ∀ {entry}, IsForeign configuration entry → ∀ before after,
      read (before ++ entry :: after) = read (before ++ after))
    (edit : EntryEdit configuration entries entries') : read entries' = read entries := by
  cases edit with
  | insert before after h => exact pass h before after
  | remove before after h => exact (pass h before after).symm
  | change before after h h' => rw [pass h before after, pass h' before after]

/-! ### One document -/

section Document

variable {fields fields' : Fields}

/-- What reading the declarations of a document asks its sections for. -/
structure SameSections (configuration : String) (fields fields' : Fields) : Prop where
  others : ∀ key, key ∉ configuredSections → Json.find? fields' key = Json.find? fields key
  sizes : (list fields' "builtin_class_sizes" "schema" >>= sizes configuration) =
    (list fields "builtin_class_sizes" "schema" >>= sizes configuration)
  offsets : (list fields' "builtin_class_member_offsets" "schema" >>= offsets configuration) =
    (list fields "builtin_class_member_offsets" "schema" >>= offsets configuration)

theorem sameSections_of_edit (h : Edit configuration (.obj fields) (.obj fields')) :
    SameSections configuration fields fields' := by
  cases h with
  | @within _ _ key entries entries' hkey others before after edit =>
    have untouched (k : String) (hk : k ≠ key) (place : String) :
        list fields' k place = list fields k place :=
      list_congr (others k hk)
    constructor
    case others => exact fun k hk => others k fun heq => hk (heq ▸ hkey)
    case sizes =>
      by_cases hk : "builtin_class_sizes" = key
      · subst hk
        rw [before, after]
        exact eq_of_entryEdit sizes_of_foreign edit
      · rw [untouched _ hk]
    case offsets =>
      by_cases hk : "builtin_class_member_offsets" = key
      · subst hk
        rw [before, after]
        exact eq_of_entryEdit offsets_of_foreign edit
      · rw [untouched _ hk]

/-- Sections that are the same make the same outline, of the document that they stand in. -/
theorem outline_eq (h : SameSections configuration fields fields') :
    outline configuration (.obj fields') =
      (outline configuration (.obj fields)).map fun o => { o with fields := fields' } := by
  have sections (key : String) (hkey : key ∉ configuredSections) (place : String) :
      list fields' key place = list fields key place :=
    list_congr (h.others key hkey)
  dsimp only [outline]
  simp only [sections "classes" (by decide), sections "builtin_classes" (by decide),
    sections "native_structures" (by decide), ← bind_assoc (list _ "builtin_class_sizes" _),
    h.sizes, map_bind, map_pure]

theorem fields_of_outline {o : Outline} (h : outline configuration (.obj fields) = .ok o) :
    o.fields = fields := by
  unfold outline at h
  simp only [bind_eq_ok, pure_eq_ok] at h
  obtain ⟨_, _, _, _, _, _, _, _, _, _, _, _, _, _, _, _, rfl⟩ := h
  rfl

/-- Sections that are the same make the same declarations, or the same fault. -/
theorem declarations_eq {profile : Profile} (h : SameSections profile.name fields fields') :
    declarations profile (.obj fields') = declarations profile (.obj fields) := by
  have sections (key : String) (hkey : key ∉ configuredSections) (place : String) :
      list fields' key place = list fields key place :=
    list_congr (h.others key hkey)
  unfold declarations
  rw [outline_eq h]
  cases ho : outline profile.name (.obj fields) with
  | error e => rfl
  | ok o =>
    simp only [Except.map, ok_bind, fields_of_outline ho,
      ← bind_assoc (list _ "builtin_class_member_offsets" _), h.offsets,
      sections "global_enums" (by decide), sections "utility_functions" (by decide), optional,
      h.others "header" (by decide)]

end Document

theorem declarations_of_edit {profile : Profile} {document document' : Json}
    (h : Edit profile.name document document') :
    declarations profile document' = declarations profile document := by
  cases h with
  | within hkey others before after edit =>
    exact declarations_eq (sameSections_of_edit (.within hkey others before after edit))

end Schema

namespace Registry

open Schema

variable {configuration : String} {document document' : Json}

/-- A profile goes by the name that it was asked for. -/
theorem name_of_named {profile : Profile} (h : Profile.named configuration = .ok profile) :
    profile.name = configuration := by
  unfold Profile.named at h
  split at h
  · next hfound =>
    cases h
    simpa using List.find?_some hfound
  · cases h

theorem ofDocument_of_edit (h : Edit configuration document document') :
    ofDocument configuration document' = ofDocument configuration document := by
  unfold ofDocument
  cases hp : Profile.named configuration with
  | error e => rfl
  | ok profile =>
    rw [← name_of_named hp] at h
    simp only [Except.mapError, ok_bind, declarations_of_edit h]

/-- No changes to what a document holds for other build configurations show in the registry of the
one asked for, nor in the fault that takes its place. -/
theorem configuration_isolated
    (h : Relation.ReflTransGen (Edit configuration) document document') :
    ofDocument configuration document' = ofDocument configuration document := by
  induction h with
  | refl => rfl
  | tail _ step ih => exact (ofDocument_of_edit step).trans ih

/-- A document of sizes alone. -/
def sizedDocument (entries : List Json) : Json :=
  .obj [("builtin_class_sizes", .arr entries)]

/-- An entry of a size table. -/
def sizesFor (configuration : String) (sizes : Json) : Json :=
  .obj [("build_configuration", .str configuration), ("sizes", sizes)]

theorem configuration_isolated_malformed :
    Relation.ReflTransGen (Edit "float_64")
        (sizedDocument [sizesFor "double_64" (.arr []), sizesFor "float_64" (.arr [])])
        (sizedDocument [sizesFor "double_64" (.int 3), sizesFor "float_64" (.arr [])]) ∧
      (ofDocument "float_64"
        (sizedDocument [sizesFor "double_64" (.arr []), sizesFor "float_64" (.arr [])])).isOk ∧
      ofDocument "float_64"
          (sizedDocument [sizesFor "double_64" (.int 3), sizesFor "float_64" (.arr [])]) =
        ofDocument "float_64"
          (sizedDocument [sizesFor "double_64" (.arr []), sizesFor "float_64" (.arr [])]) := by
  have foreign (sizes : Json) : IsForeign "float_64" (sizesFor "double_64" sizes) :=
    ⟨_, .str "double_64", rfl, rfl, rfl⟩
  have others (entries entries' : List Json) (k : String) (hk : k ≠ "builtin_class_sizes") :
      Json.find? [("builtin_class_sizes", .arr entries')] k =
        Json.find? [("builtin_class_sizes", .arr entries)] k := by
    simp [Json.find?, Ne.symm hk]
  have step : Edit "float_64"
      (sizedDocument [sizesFor "double_64" (.arr []), sizesFor "float_64" (.arr [])])
      (sizedDocument [sizesFor "double_64" (.int 3), sizesFor "float_64" (.arr [])]) :=
    .within (by decide) (others _ _) rfl rfl (.change [] [_] (foreign _) (foreign _))
  exact ⟨.single step, by decide +kernel, configuration_isolated (.single step)⟩

end Registry

end EngineBindings
