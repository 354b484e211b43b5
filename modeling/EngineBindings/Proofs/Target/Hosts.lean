import EngineBindings.Proofs.Code.Execution
import EngineBindings.Proofs.Target.Needs
import EngineBindings.Proofs.Text.Identifier
import EngineBindings.Proofs.Text.Segment

/-! The names that types are written with.

Code names a type by its host, which may have parts; what it reads is the name in front of the
first dot. That name is one of the language, or the symbol that the type requires
(`supplied_of_target`), except for enumerations of a class whose own name is kept for receivers:
the class is imported under its name, and the host starts from that name with an underscore behind
it. -/
namespace EngineBindings

open Attempt EngineBindings.Code EngineBindings.Text

/-! ### Plain names -/

/-- A reference to an enumeration: its own name, or that of its owner, a dot and its own. -/
def isEnumReference (name : String) : Bool :=
  isIdentifier name ||
    isIdentifier (splitOwner name).1 && isIdentifier (splitOwner name).2 &&
      name == (splitOwner name).1 ++ "." ++ (splitOwner name).2

/-- Whatever a type refers to inside all typed arrays goes by a plain name. -/
def TypeRef.IsPlain (type : TypeRef) : Prop :=
  match type.leaf with
  | .object name => isIdentifier name = true
  | .value name => isIdentifier name = true
  | .enum name => isEnumReference name = true
  | .bitfield name => isEnumReference name = true
  | _ => True

instance (type : TypeRef) : Decidable type.IsPlain := by
  unfold TypeRef.IsPlain
  split <;> infer_instance

/-! ### Names of the language -/

/-- What emitted code reads of the language itself. -/
def languageNames : List String :=
  ["None", "bool", "bytes", "classmethod", "float", "int", "property", "staticmethod", "str",
   "super"]

/-- The names that code reads to name a type, and the one inside a typed array. -/
def Target.names (t : Target) : List String :=
  root t.host :: (t.element?.map fun element => root element.host).toList

/-- A required symbol is read under a name: the symbol's own, or for a class whose name is kept for
receivers that name with an underscore behind it. -/
inductive Requirement.Supplies (q : Requirement) (name : String) : Prop
  | symbol (h : name = q.symbol)
  | receiver (hclass : q.origin = .class) (h : q.symbol ∈ receiverNames)
      (hname : name = q.symbol ++ "_")

/-! ### Hosts of enumerations -/

theorem splitOwner_of_notMem {name : String} (h : '.' ∉ name.toList) :
    splitOwner name = ("", name) := by
  have whole : name.toList.reverse.takeWhile (· ≠ '.') = name.toList.reverse := by
    refine List.takeWhile_eq_self_iff.mpr fun c hc => ?_
    have hne : c ≠ '.' := fun heq => h (heq ▸ List.mem_reverse.mp hc)
    simpa using hne
  have none : name.toList.reverse.dropWhile (· ≠ '.') = [] := by
    rw [List.dropWhile_eq_nil_iff]
    intro c hc
    have hne : c ≠ '.' := fun heq => h (heq ▸ List.mem_reverse.mp hc)
    simpa using hne
  unfold splitOwner splitLast
  dsimp only
  rw [whole, none, List.reverse_reverse, String.ofList_toList]
  rfl

theorem hostName_of_notMem {name : String} (h : '.' ∉ name.toList) :
    hostName name = sanitize name := by
  rw [hostName, splitFields, fields_of_notMem h, List.map_singleton, String.ofList_toList]
  rfl

theorem root_sanitize (name : String) : root (sanitize name) = sanitize name :=
  root_eq_self (notMem_sanitize name)

theorem root_append {first : String} (h : '.' ∉ first.toList) (rest : String) :
    root (first ++ "." ++ rest) = first := by
  have before : ∀ c ∈ first.toList, decide (c ≠ '.') = true := by
    intro c hc
    have hne : c ≠ '.' := fun heq => h (heq ▸ hc)
    simpa using hne
  have chars : (first ++ "." ++ rest).toList = first.toList ++ '.' :: rest.toList := by simp
  rw [root, chars, List.takeWhile_append_of_pos before, List.takeWhile_cons_of_neg (by decide),
    List.append_nil, String.ofList_toList]

/-- A host of two parts starts from the first. -/
theorem root_hostName {owner name : String} (howner : '.' ∉ owner.toList)
    (hname : '.' ∉ name.toList) : root (hostName (owner ++ "." ++ name)) = sanitize owner := by
  have parts : (owner ++ "." ++ name).toList = owner.toList ++ '.' :: name.toList := by simp
  have host : hostName (owner ++ "." ++ name) = sanitize owner ++ "." ++ sanitize name := by
    rw [hostName, splitFields, parts, fields_append howner, fields_of_notMem hname]
    simp [join]
  rw [host, root_append (notMem_sanitize owner)]

/-! ### Hosts of types -/

namespace Registry

variable {r : Registry}

theorem enumOwner?_eq (name : String) : r.enumOwner? name =
    if (splitOwner name).1 ≠ "" ∧ (r.class? (splitOwner name).1).isSome then
      some (splitOwner name).1 else none := by
  unfold enumOwner?
  dsimp only
  simp only [Bool.and_eq_true, Bool.not_eq_true', ne_eq, ← String.isEmpty_iff,
    Bool.not_eq_true]

theorem enumHostName_of_not_renamed {name : String} (h : enumRenames.lookup name = none) :
    r.enumHostName name =
      if (splitOwner name).1 ≠ "" ∧ (r.class? (splitOwner name).1).isNone then
        hostName (withoutDots (splitOwner name).1 ++ (splitOwner name).2) else hostName name := by
  unfold enumHostName
  rw [h]
  dsimp only
  simp only [Bool.and_eq_true, Bool.not_eq_true', ne_eq, ← String.isEmpty_iff,
    Bool.not_eq_true]

theorem withoutDots_of_notMem {name : String} (h : '.' ∉ name.toList) : withoutDots name = name := by
  have all : name.toList.filter (· ≠ '.') = name.toList := by
    refine List.filter_eq_self.mpr fun c hc => ?_
    have hne : c ≠ '.' := fun heq => h (heq ▸ hc)
    simpa using hne
  rw [withoutDots, all, String.ofList_toList]

/-- The enumerations of the whole engine with names of their own belong to no class. -/
theorem host_of_renamed (variant : r.class? ("Variant" : String) = none) {name host : String}
    (h : enumRenames.lookup name = some host) :
    r.enumOwner? name = none ∧ root host = host ∧ host ≠ "" := by
  obtain ⟨before, behind, hmem, _⟩ := List.lookup_eq_some_iff.mp h
  have hmem : (name, host) ∈ enumRenames := by
    rw [hmem]
    exact List.mem_append_right _ List.mem_cons_self
  rw [enumOwner?_eq]
  simp only [enumRenames, List.mem_cons, Prod.mk.injEq, List.not_mem_nil, or_false] at hmem
  rcases hmem with ⟨rfl, rfl⟩ | ⟨rfl, rfl⟩
  · exact ⟨if_neg fun h => h.1 (by decide), by decide, by decide⟩
  · have owner : (splitOwner "Variant.Type").1 = "Variant" := by decide
    rw [owner, variant]
    exact ⟨if_neg fun h => (nomatch h.2), by decide, by decide⟩

/-- An enumeration's host starts from its own name, or from that of the class it belongs to. -/
theorem root_enumHostName (variant : r.class? ("Variant" : String) = none) {name : String}
    (h : isEnumReference name = true) :
    (∃ owner, r.enumOwner? name = some owner ∧ isIdentifier owner = true ∧
      root (r.enumHostName name) = sanitize owner) ∨
    (r.enumOwner? name = none ∧ root (r.enumHostName name) = r.enumHostName name ∧
      r.enumHostName name ≠ "") := by
  have plain (host : String) (hhost : '.' ∉ host.toList) :
      root (hostName host) = hostName host ∧ hostName host ≠ "" := by
    rw [hostName_of_notMem hhost]
    exact ⟨root_sanitize host, sanitize_ne_empty host⟩
  cases hrename : enumRenames.lookup name with
  | some host =>
    have given : r.enumHostName name = host := by
      unfold enumHostName
      rw [hrename]
    rw [given]
    exact .inr (host_of_renamed variant hrename)
  | none =>
    rw [enumOwner?_eq, enumHostName_of_not_renamed hrename]
    rcases Bool.or_eq_true_iff.mp h with hbare | howned
    · have hdot := (notMem_of_isIdentifier hbare).1
      rw [splitOwner_of_notMem hdot]
      exact .inr ⟨if_neg fun h => h.1 rfl, by
        rw [if_neg fun h => h.1 rfl]
        exact plain name hdot⟩
    · simp only [Bool.and_eq_true, beq_iff_eq] at howned
      obtain ⟨⟨howner, hlast⟩, hname⟩ := howned
      have hdot := (notMem_of_isIdentifier howner).1
      have hdot' := (notMem_of_isIdentifier hlast).1
      have given := ne_empty_of_isIdentifier howner
      cases hclass : r.class? (splitOwner name).1 with
      | some c =>
        left
        refine ⟨_, if_pos ⟨given, rfl⟩, howner, ?_⟩
        rw [if_neg fun h => (nomatch h.2)]
        conv_lhs => rw [hname]
        exact root_hostName hdot hdot'
      | none =>
        right
        refine ⟨if_neg fun h => (nomatch h.2), ?_⟩
        rw [if_pos ⟨given, rfl⟩, withoutDots_of_notMem hdot]
        apply plain
        simp [hdot, hdot']

theorem mem_ownRequirements {t : Target} {symbol : String} (h : t.symbol? = some symbol)
    (given : symbol ≠ "") (origin : t.origin ≠ .language) :
    ⟨t.origin, symbol⟩ ∈ t.ownRequirements := by
  unfold Target.ownRequirements
  rw [h]
  dsimp only
  have empty : symbol.isEmpty = false := by
    rw [Bool.eq_false_iff]
    exact fun hempty => given (String.isEmpty_iff.mp hempty)
  rw [if_neg (by simp [empty, origin])]
  exact List.mem_singleton_self _

/-- A name that the symbols of a target give, or the language has. -/
def Supplied (t : Target) (name : String) : Prop :=
  name ∈ languageNames ∨ ∃ q ∈ t.ownRequirements, q.Supplies name

theorem supplied_of_symbol {t : Target} (h : t.symbol? = some t.host) (given : t.host ≠ "")
    (origin : t.origin ≠ .language) (parts : '.' ∉ t.host.toList) : Supplied t (root t.host) := by
  rw [root_eq_self parts]
  exact .inr ⟨_, mem_ownRequirements h given origin, .symbol rfl⟩

theorem builtinHostName_of_isIdentifier {name : String} (h : isIdentifier name = true) :
    builtinHostName name ≠ "" ∧ '.' ∉ (builtinHostName name).toList := by
  unfold builtinHostName
  cases hrename : builtinRenames.lookup name with
  | none => exact ⟨ne_empty_of_isIdentifier h, (notMem_of_isIdentifier h).1⟩
  | some host =>
    obtain ⟨before, behind, hmem, _⟩ := List.lookup_eq_some_iff.mp hrename
    have hmem : (name, host) ∈ builtinRenames := by
      rw [hmem]
      exact List.mem_append_right _ List.mem_cons_self
    have renamed : ∀ entry ∈ builtinRenames, entry.2 ≠ "" ∧ '.' ∉ entry.2.toList := by decide
    exact renamed _ hmem

theorem supplied_of_valueTarget {name : String} (h : isIdentifier name = true) :
    Supplied (r.valueTarget name) (root (r.valueTarget name).host) := by
  unfold valueTarget
  split
  · exact supplied_of_symbol rfl (show "Variant" ≠ "" by decide) nofun
      (show '.' ∉ "Variant".toList by decide)
  · split
    · exact supplied_of_symbol rfl (show builtinHostName "String" ≠ "" by decide) nofun
        (show '.' ∉ (builtinHostName "String").toList by decide)
    · obtain ⟨given, parts⟩ := builtinHostName_of_isIdentifier h
      refine supplied_of_symbol rfl given ?_ parts
      rw [Target.origin]
      split <;> nofun

/-- The host of an enumeration starts from the name that it requires, or from that of its class. -/
theorem supplied_of_enumeration (variant : r.class? ("Variant" : String) = none) {name : String}
    (h : isEnumReference name = true) {t : Target} (host : t.host = r.enumHostName name)
    (symbol : t.symbol? = some ((r.enumOwner? name).getD (r.enumHostName name)))
    (origin : t.origin = if (r.enumOwner? name).isSome then .class else .core) :
    Supplied t (root t.host) := by
  rw [host]
  rcases root_enumHostName variant h with ⟨owner, howner, plain, hroot⟩ | ⟨howner, hroot, given⟩
  · rw [howner] at symbol origin
    have required := mem_ownRequirements symbol (ne_empty_of_isIdentifier plain) (by
      rw [origin]
      nofun)
    refine .inr ⟨_, required, ?_⟩
    rw [hroot, sanitize_of_isIdentifier plain]
    split
    · next receiver => exact .receiver origin (List.contains_iff_mem.mp receiver) rfl
    · exact .symbol rfl
  · rw [howner] at symbol origin
    have required := mem_ownRequirements symbol given (by
      rw [origin]
      nofun)
    exact .inr ⟨_, required, .symbol hroot⟩

/-- What code reads to name a type is supplied by the type's own symbol. -/
theorem supplied_of_target (variant : r.class? ("Variant" : String) = none) {type : TypeRef}
    (plain : type.IsPlain) {tag : Json} {use : TypeUse} {t : Target}
    (h : r.target type tag use = .ok t) : Supplied t (root t.host) := by
  cases type with
  | primitive type =>
    have scalar : ∀ host ∈ ["None", "bool", "int", "float"], root host ∈ languageNames := by decide
    left
    cases type with
    | void =>
      cases h
      exact scalar "None" (by decide)
    | bool =>
      cases h
      exact scalar "bool" (by decide)
    | int =>
      obtain ⟨width, _, rfl⟩ := map_eq_ok.mp h
      exact scalar "int" (by decide)
    | float | real =>
      obtain ⟨width, _, rfl⟩ := map_eq_ok.mp h
      exact scalar "float" (by decide)
  | value name =>
    cases h
    exact supplied_of_valueTarget plain
  | object name =>
    cases h
    exact supplied_of_symbol rfl (ne_empty_of_isIdentifier plain) nofun
      (notMem_of_isIdentifier plain).1
  | enum name =>
    cases h
    exact supplied_of_enumeration variant plain rfl rfl rfl
  | bitfield name =>
    cases h
    exact supplied_of_enumeration variant plain rfl rfl rfl
  | typedArray element =>
    obtain ⟨inner, _, rfl⟩ := map_eq_ok.mp h
    exact supplied_of_symbol rfl (show "GodotCollection" ≠ "" by decide) nofun
      (show '.' ∉ "GodotCollection".toList by decide)
  | pointer spelling =>
    cases h
    exact .inl (show root "int" ∈ languageNames by decide)
  | bare name => cases h

theorem ownRequirements_subset (t : Target) : t.ownRequirements ⊆ t.requirements := by
  cases t with
  | typedArray element spelling => exact List.subset_append_left _ _
  | _ => exact fun q hq => hq

/-- Only typed arrays are mapped to collections. -/
theorem element_of_target {type : TypeRef} {tag : Json} {use : TypeUse} {inner : Target}
    {spelling : String} (h : r.target type tag use = .ok (.typedArray inner spelling)) :
    ∃ element, type = .typedArray element ∧ r.target element .null use = .ok inner := by
  cases type with
  | typedArray element =>
    obtain ⟨found, hfound, same⟩ := map_eq_ok.mp h
    cases same
    exact ⟨element, rfl, hfound⟩
  | primitive type =>
    cases type with
    | void | bool => cases h
    | int | float | real =>
      obtain ⟨_, _, same⟩ := map_eq_ok.mp h
      cases same
  | value name =>
    have same : r.valueTarget name = .typedArray inner spelling := Except.ok.inj h
    unfold valueTarget at same
    split at same
    · cases same
    · split at same <;> cases same
  | object | enum | bitfield | pointer | bare => cases h

/-- So is what it reads to name the type inside a typed array. -/
theorem supplied_of_names (variant : r.class? ("Variant" : String) = none) {type : TypeRef}
    (plain : type.IsPlain) {tag : Json} {use : TypeUse} {t : Target}
    (h : r.target type tag use = .ok t) :
    ∀ name ∈ t.names, name ∈ languageNames ∨ ∃ q ∈ t.requirements, q.Supplies name := by
  intro name hname
  rcases List.mem_cons.mp hname with rfl | hname
  · rcases supplied_of_target variant plain h with language | ⟨q, hq, supplies⟩
    · exact .inl language
    · exact .inr ⟨q, ownRequirements_subset t hq, supplies⟩
  · obtain ⟨element, helement, rfl⟩ := Option.map_eq_some_iff.mp (Option.mem_toList.mp hname)
    cases t with
    | typedArray inner spelling =>
      cases helement
      obtain ⟨inside, rfl, hinside⟩ := element_of_target h
      have plain : inside.IsPlain := plain
      rcases supplied_of_target variant plain hinside with language | ⟨q, hq, supplies⟩
      · exact .inl language
      · have hq := ownRequirements_subset element hq
        exact .inr ⟨q, List.mem_append_right _ hq, supplies⟩
    | _ => cases helement

end Registry

end EngineBindings
