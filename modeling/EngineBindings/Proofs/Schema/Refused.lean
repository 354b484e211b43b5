import EngineBindings.CommandLine.Run
import EngineBindings.Proofs.Registry.Built
import EngineBindings.Proofs.Schema.Configuration
import EngineBindings.Proofs.Schema.Decoded

/-! What reading refuses, and what it breaks on.

Reading asks of every value whether it is the object, the list, the field or the type that belongs
there, and refuses the document where it is not. It does not ask before a value is read as a whole
number, before a name is looked up, before the header is taken apart and before a typed array is
followed inwards. Those are the places where a document can be spoiled (`Schema.Spoiled`): any other
document of sections is read or refused (`read_refused_or_spoiled`). -/
namespace EngineBindings

open Attempt

namespace Schema

/-- What stands in a document where it is taken for something that it is not. -/
inductive Spoiled (document : Json) : ValueFault → Prop
  | number {fields : Fields} {key : String} {value : Json} {cause : ValueFault}
    (part : document.Part (.obj fields)) (hkey : key ∈ ["size", "offset", "value"])
    (hvalue : Json.find? fields key = some value) (h : value.integer = .error cause) :
    Spoiled document cause
  /-- Of these numbers none has to be there. -/
  | tag {fields : Fields} {key : String} {value : Json} {cause : ValueFault}
    (part : document.Part (.obj fields)) (hkey : key ∈ ["hash", "index"])
    (hvalue : Json.find? fields key = some value) (given : value ≠ .null)
    (h : value.integer = .error cause) : Spoiled document cause
  | name {fields : Fields} {key : String} {value : Json} (part : document.Part (.obj fields))
    (hkey : key ∈ ["name", "inherits"]) (hvalue : Json.find? fields key = some value)
    (h : value.isComposite = true) : Spoiled document .compositeName
  | type {fields : Fields} {key spelling : String} (part : document.Part (.obj fields))
    (hkey : key ∈ ["type", "return_type"]) (hvalue : Json.find? fields key = some (.str spelling))
    (h : maxNesting < KnownNames.nesting spelling.toList) : Spoiled document .tooNested
  | header {fields : Fields} {value : Json} {cause : ValueFault} (hfields : document = .obj fields)
    (hvalue : Json.find? fields "header" = some value)
    (h : Declarations.headerEntries value = .error cause) : Spoiled document cause

/-- How a document of sections can fail to be read: it is refused, or it is spoiled. -/
inductive Refusal (document : Json) : Fault → Prop
  | schema (cause : SchemaFault) : Refusal document (.schema cause)
  | value {cause : ValueFault} (h : Spoiled document cause) : Refusal document (.value cause)

variable {α : Type} {document value : Json} {fields : Fields} {key place : String}
  {names : KnownNames}

/-! ### Fields -/

theorem refuses_asObject : FailsOnly (Refusal document) (asObject place value) := by
  cases value with
  | obj fields => exact .ok fields
  | null | bool | int | float | str | arr => exact .error (.schema _)

/-- What is done with the fields of a part of the document. -/
theorem refuses_object (part : document.Part value) {f : Fields → Except Fault α}
    (h : ∀ fields, document.Part (.obj fields) → FailsOnly (Refusal document) (f fields)) :
    FailsOnly (Refusal document) (asObject place value >>= f) :=
  refuses_asObject.bind fun fields hfields => h fields (asObject_eq_ok.mp hfields ▸ part)

theorem refuses_require : FailsOnly (Refusal document) (require fields key place) := by
  unfold require
  split
  · exact .ok _
  · exact .error (.schema _)

theorem refuses_list : FailsOnly (Refusal document) (list fields key place) := by
  unfold list
  split
  · exact .ok _
  · split
    · exact .error (.schema _)
    · exact .ok _

/-- What is done with each item of a list that the document holds. -/
theorem refuses_each (part : document.Part (.obj fields)) {items : List Json}
    (hitems : list fields key place = .ok items) {f : Json → Except Fault α}
    (h : ∀ item, document.Part item → FailsOnly (Refusal document) (f item)) :
    FailsOnly (Refusal document) (items.mapM f) :=
  .mapM fun item hitem => h item (part_of_list part hitems item hitem)

theorem refuses_name : FailsOnly (Refusal document) (name fields place) :=
  refuses_require.map

theorem refuses_requireInteger (part : document.Part (.obj fields))
    (hkey : key ∈ ["size", "offset", "value"]) :
    FailsOnly (Refusal document) (requireInteger fields key place) := by
  unfold requireInteger
  refine refuses_require.bind fun value hvalue => .mapError ?_
  cases h : value.integer with
  | ok number => exact .ok number
  | error cause => exact .error (.value (.number part hkey (require_eq_ok.mp hvalue) h))

/-- A number that does not have to be there, as it is read where it is. -/
theorem refuses_integer (part : document.Part (.obj fields)) (hkey : key ∈ ["hash", "index"])
    (given : optional fields key ≠ .null) :
    FailsOnly (Refusal document) ((optional fields key).integer.mapError .value) := by
  refine .mapError ?_
  cases h : (optional fields key).integer with
  | ok number => exact .ok number
  | error cause => exact .error (.value (.tag part hkey (find?_of_optional given) given h))

/-- A name that something is looked up by. -/
theorem refuses_keyed (part : document.Part (.obj fields)) {n : Name}
    (h : name fields place = .ok n) : FailsOnly (Refusal document) (n.keyed.mapError .value) := by
  obtain ⟨value, hvalue, rfl⟩ := map_eq_ok.mp h
  unfold Name.keyed
  split
  · next composite =>
    exact .mapError (.error (.value (.name part (by decide) (require_eq_ok.mp hvalue) composite)))
  · exact .ok _

theorem refuses_type (part : document.Part (.obj fields)) (hkey : key ∈ ["type", "return_type"])
    (hvalue : Json.find? fields key = some value) :
    FailsOnly (Refusal document) (type names place value) := by
  unfold type
  split
  · split
    · next deep => exact .error (.value (.type part hkey hvalue deep))
    · cases h : names.resolve place _ with
      | ok type => exact .ok type
      | error cause => exact .error (.schema cause)
  · exact .error (.schema _)

theorem refuses_optionalType (part : document.Part (.obj fields))
    (hkey : key ∈ ["type", "return_type"]) :
    FailsOnly (Refusal document) (optionalType names place (optional fields key)) := by
  unfold optionalType
  split
  · next given =>
    have there : optional fields key ≠ .null := fun h => by rw [h] at given; cases given
    exact (refuses_type part hkey (find?_of_optional there)).map
  · exact .ok _

/-! ### Sizes and offsets -/

theorem refuses_sizeEntry (part : document.Part value) :
    FailsOnly (Refusal document) (sizeEntry value) :=
  refuses_object part fun _ part => refuses_name.bind fun _ hname =>
    (refuses_requireInteger part (by decide)).bind fun _ _ =>
      (refuses_keyed part hname).bind fun _ _ => .ok _

theorem refuses_sizes (configuration : String) {entries : List Json}
    (part : ∀ entry ∈ entries, document.Part entry) :
    FailsOnly (Refusal document) (sizes configuration entries) := by
  induction entries with
  | nil => exact .error (.schema _)
  | cons entry rest ih =>
    obtain ⟨first, others⟩ := List.forall_mem_cons.mp part
    unfold sizes
    refine refuses_object first fun fields part => refuses_require.bind fun _ _ => ?_
    split
    · exact refuses_list.bind fun items hitems =>
        (refuses_each part hitems fun _ => refuses_sizeEntry).bind fun _ _ => .ok _
    · exact ih others

theorem refuses_memberOffset (part : document.Part value) :
    FailsOnly (Refusal document) (memberOffset place value) :=
  refuses_object part fun _ part => refuses_require.map.bind fun _ _ =>
    (refuses_requireInteger part (by decide)).bind fun _ _ =>
      refuses_require.map.bind fun _ _ => .ok _

theorem refuses_classOffsets (part : document.Part value) :
    FailsOnly (Refusal document) (classOffsets value) :=
  refuses_object part fun _ part => refuses_name.bind fun _ hname =>
    refuses_list.bind fun _ hitems =>
      (refuses_each part hitems fun _ => refuses_memberOffset).bind fun _ _ =>
        (refuses_keyed part hname).bind fun _ _ => .ok _

theorem refuses_offsetEntry (configuration : String) (part : document.Part value) :
    FailsOnly (Refusal document) (offsetEntry configuration value) := by
  refine refuses_object part fun _ part => refuses_require.bind fun _ _ => ?_
  split
  · exact refuses_list.bind fun _ hitems => refuses_each part hitems fun _ => refuses_classOffsets
  · exact .ok _

theorem refuses_offsets (configuration : String) {entries : List Json}
    (part : ∀ entry ∈ entries, document.Part entry) :
    FailsOnly (Refusal document) (offsets configuration entries) :=
  (FailsOnly.mapM fun entry hentry =>
    refuses_offsetEntry configuration (part entry hentry)).bind fun _ _ => .ok _

/-! ### Members -/

theorem refuses_namedInteger (part : document.Part value) :
    FailsOnly (Refusal document) (namedInteger place value) :=
  refuses_object part fun _ part => refuses_name.bind fun _ _ =>
    (refuses_requireInteger part (by decide)).bind fun _ _ => .ok _

theorem refuses_enumeration (part : document.Part value) :
    FailsOnly (Refusal document) (enumeration place value) :=
  refuses_object part fun _ part => refuses_name.bind fun _ _ => refuses_list.bind fun _ hitems =>
    (refuses_each part hitems fun _ => refuses_namedInteger).bind fun _ _ => .ok _

theorem refuses_argument (part : document.Part value) :
    FailsOnly (Refusal document) (argument names place value) :=
  refuses_object part fun _ part => refuses_name.bind fun _ _ =>
    refuses_require.bind fun _ hspelling =>
      (refuses_type part (by decide) (require_eq_ok.mp hspelling)).bind fun _ _ => .ok _

theorem refuses_arguments (part : document.Part (.obj fields)) :
    FailsOnly (Refusal document) (arguments names fields place) :=
  refuses_list.bind fun _ hitems => refuses_each part hitems fun _ => refuses_argument

theorem refuses_bindingHash : FailsOnly (Refusal document) (bindingHash fields place) := by
  unfold bindingHash
  dsimp only
  split
  · exact .ok _
  · exact .error (.schema _)
  · exact .ok _

/-- The hash that reading a method goes on with is none, or the one that stands in the document. -/
theorem refuses_hashValue (part : document.Part (.obj fields)) {bound : Bool × Json}
    (h : bindingHash fields place = .ok bound) :
    FailsOnly (Refusal document) (hashValue bound.2) := by
  unfold bindingHash at h
  dsimp only at h
  split at h
  · cases h
    exact .ok _
  · cases h
  · next given =>
    cases h
    unfold hashValue
    split
    · exact .ok _
    · exact (refuses_integer part (by decide) given).map

theorem refuses_method {owner : String} (part : document.Part value) :
    FailsOnly (Refusal document) (method names owner value) := by
  refine refuses_object part fun fields part => refuses_name.bind fun _ _ =>
    refuses_bindingHash.bind fun bound hbound => ?_
  dsimp only
  split
  · next given =>
    have there : optional fields "return_value" ≠ .null := fun h => by rw [h] at given; cases given
    exact refuses_object (part_optional part there) fun _ inner =>
      refuses_require.bind fun _ hspelling =>
        (refuses_type inner (by decide) (require_eq_ok.mp hspelling)).bind fun _ _ =>
          .bind (.ok _) fun _ _ => (refuses_arguments part).bind fun _ _ =>
            (refuses_hashValue part hbound).bind fun _ _ => .ok _
  · exact .bind (.ok _) fun _ _ => (refuses_arguments part).bind fun _ _ =>
      (refuses_hashValue part hbound).bind fun _ _ => .ok _

theorem refuses_property {owner : String} (part : document.Part value) :
    FailsOnly (Refusal document) (property owner value) := by
  refine refuses_object part fun fields part => refuses_name.bind fun _ _ =>
    .bind ?_ fun _ _ => .ok _
  unfold hashValue
  split
  · exact .ok _
  · next given => exact (refuses_integer part (by decide) given).map

theorem refuses_requiredHash {callable : Callable} :
    FailsOnly (Refusal document) (requiredHash callable fields place) := by
  unfold requiredHash
  split
  · exact .error (.schema _)
  · exact .ok _

/-- A hash that has to be there is the one that stands in the document. -/
theorem refuses_requiredInteger (part : document.Part (.obj fields)) {callable : Callable}
    (h : requiredHash callable fields place = .ok value) :
    FailsOnly (Refusal document) (value.integer.mapError .value) := by
  unfold requiredHash at h
  split at h
  · cases h
  · next given =>
    cases h
    exact refuses_integer part (by decide) given

theorem refuses_builtinMethod {owner : String} (part : document.Part value) :
    FailsOnly (Refusal document) (builtinMethod names owner value) :=
  refuses_object part fun _ part => refuses_name.bind fun _ _ =>
    refuses_requiredHash.bind fun _ hhash => (refuses_arguments part).bind fun _ _ =>
      (refuses_optionalType part (by decide)).bind fun _ _ =>
        (refuses_requiredInteger part hhash).bind fun _ _ => .ok _

theorem refuses_utility (part : document.Part value) :
    FailsOnly (Refusal document) (utility names value) :=
  refuses_object part fun _ part => refuses_name.bind fun _ _ =>
    refuses_requiredHash.bind fun _ hhash => (refuses_arguments part).bind fun _ _ =>
      (refuses_optionalType part (by decide)).bind fun _ _ =>
        (refuses_requiredInteger part hhash).bind fun _ _ => .ok _

/-! ### Classes and builtins -/

theorem refuses_classDef (part : document.Part value) :
    FailsOnly (Refusal document) (classDef names value) :=
  refuses_object part fun _ part => refuses_name.bind fun _ _ =>
    refuses_list.bind fun _ hmethods =>
    (refuses_each part hmethods fun _ => refuses_method).bind fun _ _ =>
    refuses_list.bind fun _ hproperties =>
    (refuses_each part hproperties fun _ => refuses_property).bind fun _ _ =>
    refuses_list.bind fun _ henums =>
    (refuses_each part henums fun _ => refuses_enumeration).bind fun _ _ =>
    refuses_list.bind fun _ hconstants =>
    (refuses_each part hconstants fun _ => refuses_namedInteger).bind fun _ _ => .ok _

theorem refuses_builtinMember (part : document.Part value) :
    FailsOnly (Refusal document) (builtinMember place value) :=
  refuses_object part fun _ _ => refuses_name.bind fun _ _ =>
    refuses_require.map.bind fun _ _ => .ok _

theorem refuses_builtinOperator (part : document.Part value) :
    FailsOnly (Refusal document) (builtinOperator place value) :=
  refuses_object part fun _ _ => refuses_name.bind fun _ _ => refuses_require.bind fun _ _ => .ok _

theorem refuses_builtinDef (part : document.Part value) :
    FailsOnly (Refusal document) (builtinDef names value) :=
  refuses_object part fun _ part => refuses_name.bind fun _ _ =>
    refuses_list.bind fun _ hmembers =>
    (refuses_each part hmembers fun _ => refuses_builtinMember).bind fun _ _ =>
    refuses_list.bind fun _ hoperators =>
    (refuses_each part hoperators fun _ => refuses_builtinOperator).bind fun _ _ =>
    refuses_list.bind fun _ _ => refuses_list.bind fun _ henums =>
    (refuses_each part henums fun _ => refuses_enumeration).bind fun _ _ =>
    refuses_list.bind fun _ hmethods =>
    (refuses_each part hmethods fun _ => refuses_builtinMethod).bind fun _ _ => .ok _

theorem refuses_native (part : document.Part value) :
    FailsOnly (Refusal document) (native value) :=
  refuses_object part fun _ _ => refuses_name.bind fun _ _ => refuses_require.bind fun _ _ => .ok _

/-! ### Whole documents -/

theorem refuses_declaredNames {entries : List Json}
    (part : ∀ entry ∈ entries, document.Part entry) :
    FailsOnly (Refusal document) (declaredNames place entries) :=
  .mapM fun entry hentry => refuses_object (part entry hentry) fun _ part =>
    refuses_name.bind fun _ hname => refuses_keyed part hname

theorem refuses_natives {entries : List Json} (part : ∀ entry ∈ entries, document.Part entry) :
    FailsOnly (Refusal document) (natives entries) := by
  unfold natives
  refine .bind (.mapM fun entry hentry => refuses_native (part entry hentry)) fun found hfound =>
    .bind (.forM fun n hn => ?_) fun _ _ => .ok _
  obtain ⟨entry, hentry, h⟩ := exists_left (mapM_eq_ok.mp hfound) hn
  unfold native at h
  simp only [bind_eq_ok, pure_eq_ok] at h
  obtain ⟨fields, hfields, name, hname, _, _, rfl⟩ := h
  exact (refuses_keyed (asObject_eq_ok.mp hfields ▸ part entry hentry) hname).map

theorem refuses_outline (configuration : String) (fields : Fields) :
    FailsOnly (Refusal (.obj fields)) (outline configuration (.obj fields)) := by
  unfold outline
  exact refuses_list.bind fun _ hclasses => refuses_list.bind fun _ hbuiltins =>
    refuses_list.bind fun _ hnatives => refuses_list.bind fun _ hsizes =>
    (refuses_sizes configuration (part_of_list .whole hsizes)).bind fun _ _ =>
    (refuses_declaredNames (part_of_list .whole hclasses)).bind fun _ _ =>
    (refuses_declaredNames (part_of_list .whole hbuiltins)).bind fun _ _ =>
    (refuses_natives (part_of_list .whole hnatives)).bind fun _ _ => .ok _

theorem refuses_declarations (profile : Profile) (fields : Fields) :
    FailsOnly (Refusal (.obj fields)) (declarations profile (.obj fields)) := by
  unfold declarations
  refine (refuses_outline profile.name fields).bind fun o ho => ?_
  have sections := isOf_of_outline ho
  have top : (Json.obj fields).Part (.obj o.fields) := sections.fields ▸ .whole
  exact (FailsOnly.mapM fun item hitem => refuses_classDef (sections.classes item hitem)).bind
    fun _ _ => (FailsOnly.mapM fun item hitem =>
      refuses_builtinDef (sections.builtins item hitem)).bind fun _ _ =>
    refuses_list.bind fun _ hoffsets =>
    (refuses_offsets profile.name (part_of_list top hoffsets)).bind fun _ _ =>
    refuses_list.bind fun _ henums =>
    (refuses_each top henums fun _ => refuses_enumeration).bind fun _ _ =>
    refuses_list.bind fun _ hutilities =>
    (refuses_each top hutilities fun _ => refuses_utility).bind fun _ _ => .ok _

/-! ### What building a registry looks up -/

theorem find?_name_of_enumeration {e : EnumDef} (h : enumeration place value = .ok e) :
    ∃ fields, value = .obj fields ∧ Json.find? fields "name" = some e.name.value := by
  unfold enumeration at h
  simp only [bind_eq_ok, pure_eq_ok] at h
  obtain ⟨fields, hfields, name, hname, _, _, _, _, rfl⟩ := h
  obtain ⟨value, hvalue, rfl⟩ := map_eq_ok.mp hname
  exact ⟨fields, asObject_eq_ok.mp hfields, require_eq_ok.mp hvalue⟩

theorem find?_inherits_of_classDef {c : ClassDef} (h : classDef names value = .ok c) {parent : Name}
    (hparent : c.parent = some parent) :
    ∃ fields, value = .obj fields ∧ Json.find? fields "inherits" = some parent.value := by
  unfold classDef at h
  simp only [bind_eq_ok, pure_eq_ok] at h
  obtain ⟨fields, hfields, _, _, _, _, _, _, _, _, _, _, _, _, _, _, _, _, _, _, rfl⟩ := h
  refine ⟨fields, asObject_eq_ok.mp hfields, ?_⟩
  dsimp only [givenName] at hparent
  split at hparent
  · next given =>
    cases hparent
    exact find?_of_optional fun h => by rw [h] at given; cases given
  · cases hparent

/-- Declarations whose names stand in a document, and whose header does. -/
structure StandsIn (d : Declarations) (document : Json) : Prop where
  parents : ∀ c ∈ d.classes, ∀ parent, c.parent = some parent → parent.isComposite = true →
    Spoiled document .compositeName
  globals : ∀ e ∈ d.globalEnums, e.name.isComposite = true → Spoiled document .compositeName
  header : ∀ cause, Declarations.headerEntries d.header = .error cause → Spoiled document cause

theorem standsIn_of_declarations {profile : Profile} {d : Declarations}
    (h : declarations profile document = .ok d) : StandsIn d document := by
  unfold declarations at h
  simp only [bind_eq_ok, pure_eq_ok] at h
  obtain ⟨o, ho, classes, hclasses, _, _, _, _, _, _, enumItems, henumItems, enums, henums, _, _, _,
    _, rfl⟩ := h
  have sections := isOf_of_outline ho
  have top : document.Part (.obj o.fields) := sections.fields ▸ .whole
  constructor
  case parents =>
    intro c hc parent hparent composite
    obtain ⟨item, hitem, h⟩ := exists_left (mapM_eq_ok.mp hclasses) hc
    obtain ⟨fields, rfl, hvalue⟩ := find?_inherits_of_classDef h hparent
    exact .name (sections.classes _ hitem) (by decide) hvalue composite
  case globals =>
    intro e he composite
    obtain ⟨item, hitem, h⟩ := exists_left (mapM_eq_ok.mp henums) he
    obtain ⟨fields, rfl, hvalue⟩ := find?_name_of_enumeration h
    exact .name (part_of_list top henumItems _ hitem) (by decide) hvalue composite
  case header =>
    intro cause hcause
    refine .header sections.fields (find?_of_optional fun h => ?_) hcause
    rw [h] at hcause
    cases hcause

theorem refuses_checkParent {d : Declarations} (h : StandsIn d document) {c : ClassDef}
    (hc : c ∈ d.classes) :
    FailsOnly (Refusal document) (Declarations.checkParent d.classes c) := by
  unfold Declarations.checkParent
  split
  · exact .ok ()
  · next parent hparent =>
    refine .bind (.mapError ?_) fun _ _ => ?_
    · unfold Name.keyed
      split
      · next composite => exact .error (.value (h.parents c hc parent hparent composite))
      · exact .ok _
    · split
      · exact .ok ()
      · exact .error (.schema _)

theorem refuses_build {d : Declarations} (h : StandsIn d document) :
    FailsOnly (Refusal document) (Registry.build d) := by
  have schema {α : Type} (x : Except SchemaFault α) :
      FailsOnly (Refusal document) (x.mapError .schema) := by
    cases x with
    | ok a => exact .ok a
    | error cause => exact .error (.schema cause)
  unfold Registry.build
  refine (schema _).bind fun _ _ => .bind (.forM fun c hc => refuses_checkParent h hc) fun _ _ => ?_
  split
  · next composite =>
    obtain ⟨e, he, hname⟩ := List.any_eq_true.mp composite
    exact .error (.value (h.globals e he hname))
  · refine .bind (.mapError ?_) fun _ _ => .bind (.forM fun c _ => (schema _).map) fun _ _ => .ok _
    cases hheader : Declarations.headerEntries d.header with
    | ok header => exact .ok header
    | error cause => exact .error (.value (h.header cause hheader))

/-! ### How reading ends -/

/-- The faults of spoiled documents. -/
def unguarded : List ValueFault :=
  [.notNumeric, .badNumeral, .infiniteNumber, .compositeName, .tooNested, .headerNotPairs,
    .wrongItemCount]

theorem failsOnly_integer (value : Json) : FailsOnly (· ∈ unguarded) value.integer := by
  unfold Json.integer
  split
  · exact .ok _
  · exact .ok _
  · split
    · exact .error (by decide)
    · split
      · exact .error (by decide)
      · exact .ok _
  · next s =>
    cases Number.integer? s with
    | none => exact .error (by decide)
    | some number => exact .ok number
  all_goals exact .error (by decide)

theorem failsOnly_headerEntry (entry : Json) :
    FailsOnly (· ∈ unguarded) (Declarations.headerEntry entry) := by
  unfold Declarations.headerEntry
  split
  · unfold Name.keyed
    split
    · exact .error (by decide)
    · exact .ok _
  · exact .error (by decide)
  · exact .ok _
  · exact .error (by decide)
  · split
    · exact .ok _
    · exact .error (by decide)
  · exact .error (by decide)

theorem failsOnly_headerEntries (header : Json) :
    FailsOnly (· ∈ unguarded) (Declarations.headerEntries header) := by
  unfold Declarations.headerEntries
  split
  · split
    · exact .ok _
    · exact (FailsOnly.mapM fun entry _ => failsOnly_headerEntry entry).map
    · exact .error (by decide)
    · exact .error (by decide)
  · exact .ok _

theorem Spoiled.mem_unguarded {cause : ValueFault} (h : Spoiled document cause) :
    cause ∈ unguarded := by
  cases h with
  | @number _ _ value _ _ _ _ h | @tag _ _ value _ _ _ _ _ h =>
    have found := failsOnly_integer value
    rw [h] at found
    exact found
  | name | type => decide
  | @header _ value _ _ _ h =>
    have found := failsOnly_headerEntries value
    rw [h] at found
    exact found

end Schema

namespace Registry

theorem refuses_ofDocument (configuration : String) (fields : Schema.Fields) :
    FailsOnly (Schema.Refusal (.obj fields)) (ofDocument configuration (.obj fields)) := by
  unfold ofDocument
  refine .bind ?_ fun profile _ => (Schema.refuses_declarations profile fields).bind fun d hd =>
    Schema.refuses_build (Schema.standsIn_of_declarations hd)
  cases Profile.named configuration with
  | ok profile => exact .ok profile
  | error cause => exact .error (.schema cause)

/-- Whatever an object holds, it is read, or it is refused and the run ends with the exit code for
schemas, or the run breaks off on a value that is not what it is taken for. Nothing is looked up in
what has no fields, and no field that is not there. -/
theorem read_refused_or_spoiled (configuration api : String) (fields : Schema.Fields) :
    (∃ r, ofDocument configuration (.obj fields) = .ok r) ∨
      (∃ cause, ofDocument configuration (.obj fields) = .error (.schema cause) ∧
        (makeRegistry api (.value configuration) (.obj fields)).2 = .error (.exit .schema)) ∨
      ∃ cause ∈ Schema.unguarded, Schema.Spoiled (.obj fields) cause ∧
        ofDocument configuration (.obj fields) = .error (.value cause) ∧
        (makeRegistry api (.value configuration) (.obj fields)).2 =
          .error (.broken (.fault (.value cause))) := by
  rcases (refuses_ofDocument configuration fields).returns_or with read | ⟨_, failed, refusal⟩
  · exact .inl read
  · cases refusal with
    | schema cause => exact .inr (.inl ⟨cause, failed, by rw [makeRegistry, failed]; rfl⟩)
    | @value cause spoiled =>
      exact .inr (.inr ⟨cause, spoiled.mem_unguarded, spoiled, failed,
        by rw [makeRegistry, failed]; rfl⟩)

/-- A document of one size. -/
def oneSizeDocument (size : Json) : Json :=
  sizedDocument [sizesFor "float_64" (.arr [.obj [("name", .str "Vector2"), ("size", size)]])]

/-- A size that is null, and one that is a text but no numeral, break the run off. -/
theorem size_breaks_run :
    ofDocument "float_64" (oneSizeDocument .null) = .error (.value .notNumeric) ∧
      (makeRegistry "api.json" (.value "float_64") (oneSizeDocument .null)).2 =
        .error (.broken (.fault (.value .notNumeric))) ∧
      ofDocument "float_64" (oneSizeDocument (.str "eight")) = .error (.value .badNumeral) := by
  refine ⟨rfl, rfl, rfl⟩

end Registry

end EngineBindings
