import EngineBindings.Proofs.Attempt
import EngineBindings.Proofs.Text.Segment
import EngineBindings.Schema.Decode

/-! What a type spelling means.

A spelling is layers of typed arrays around a core: the blanks at the ends and one prefix are taken
off in turn, until no prefix is left (`Peels`). What the core means is said by rules in a fixed
order (`Denotes`), and a type is found exactly if one of them applies (`IsKnown`). `resolve_iff`
puts both together: the type of a spelling is what its core means, inside as many typed arrays as
there are layers. A document is read with a bound on the layers, since each of them is a call inside
another (`type_reads_core`). -/
namespace EngineBindings

open Attempt Text

/-! ### Layers -/

/-- What is left of a spelling without its typed arrays, and how many of them there are. -/
inductive Peels : String → Nat → String → Prop
  | core {s : String} (bare : ∀ inner, strip s ≠ "typedarray::" ++ inner) : Peels s 0 (strip s)
  | layer {s inner core : String} {k : Nat} (outer : strip s = "typedarray::" ++ inner)
    (rest : Peels inner k core) : Peels s (k + 1) core

namespace Peels

variable {s core core' : String} {k k' : Nat}

theorem length_lt {inner : String} (h : strip s = "typedarray::" ++ inner) :
    inner.length < s.length := by
  have shorter := length_stripChars_le s.toList
  have whole := congrArg (·.toList.length) h
  simp only [strip, String.toList_ofList, String.toList_append, List.length_append] at whole
  have lead : "typedarray::".toList.length = 12 := rfl
  simp only [String.length]
  omega

theorem exists_peels (s : String) : ∃ k core, Peels s k core := by
  by_cases h : ∃ inner, strip s = "typedarray::" ++ inner
  · obtain ⟨inner, hinner⟩ := h
    obtain ⟨k, core, rest⟩ := exists_peels inner
    exact ⟨k + 1, core, .layer hinner rest⟩
  · exact ⟨0, strip s, .core (not_exists.mp h)⟩
termination_by s.length
decreasing_by exact length_lt hinner

theorem ne_append_of_dropPrefix? {lead text : String}
    (h : dropPrefix? lead.toList text.toList = none) (rest : String) : text ≠ lead ++ rest := by
  rintro rfl
  rw [String.toList_append, dropPrefix?_append] at h
  cases h

/-- A spelling has one core. -/
theorem unique (h : Peels s k core) (h' : Peels s k' core') : k' = k ∧ core' = core := by
  induction h generalizing k' core' with
  | core bare =>
    cases h' with
    | core => exact ⟨rfl, rfl⟩
    | layer outer => exact absurd outer (bare _)
  | layer outer _ ih =>
    cases h' with
    | core bare => exact absurd outer (bare _)
    | layer outer' rest' =>
      obtain rfl := (String.append_right_inj _).mp (outer.symm.trans outer')
      obtain ⟨rfl, rfl⟩ := ih rest'
      exact ⟨rfl, rfl⟩

/-- The core has no blanks at its ends and no prefix of a typed array. -/
theorem bare (h : Peels s k core) :
    strip core = core ∧ ∀ inner, core ≠ "typedarray::" ++ inner := by
  induction h with
  | core bare => exact ⟨strip_strip _, bare⟩
  | layer _ _ ih => exact ih

end Peels

/-- A spelling with a number of layers around a core. -/
def layered (core : String) : Nat → String
  | 0 => core
  | k + 1 => "typedarray::" ++ layered core k

/-- A core without blanks at its ends leaves none at the ends of what is put around it. -/
theorem strip_layered {core : String} (given : core ≠ "") (stripped : strip core = core) (k : Nat) :
    strip (layered core k) = layered core k := by
  have last : ∀ k, (layered core k).toList.getLast? = core.toList.getLast? := by
    intro k
    induction k with
    | zero => rfl
    | succ k ih =>
      rw [layered, String.toList_append, List.getLast?_append, ih]
      have filled : core.toList ≠ [] := by simpa using given
      rw [List.getLast?_eq_some_getLast filled, Option.some_or]
  cases k with
  | zero => exact stripped
  | succ k =>
    rw [strip, stripChars_eq_self, String.ofList_toList]
    · intro c hc
      rw [layered, String.toList_append] at hc
      cases hc
      decide
    · intro c hc
      rw [last, ← stripped, strip, String.toList_ofList] at hc
      exact isBlank_of_getLast?_stripChars hc

theorem peels_layered {core : String} (given : core ≠ "") (stripped : strip core = core)
    (bare : ∀ inner, core ≠ "typedarray::" ++ inner) (k : Nat) : Peels (layered core k) k core := by
  induction k with
  | zero =>
    have whole := Peels.core (s := core) (by rwa [stripped])
    rwa [stripped] at whole
  | succ k ih => exact .layer (strip_layered given stripped (k + 1)) ih

/-! ### Cores -/

/-- A type inside a number of typed arrays. -/
def TypeRef.inArrays (type : TypeRef) : Nat → TypeRef
  | 0 => type
  | k + 1 => .typedArray (type.inArrays k)

theorem TypeRef.containsPointer_inArrays (type : TypeRef) (k : Nat) :
    (type.inArrays k).containsPointer = type.containsPointer := by
  induction k with
  | zero => rfl
  | succ k ih => exact ih

/-- A core that a prefix decides. -/
def IsPrefixed (core : String) : Prop :=
  (∃ name, core = "enum::" ++ name) ∨ ∃ name, core = "bitfield::" ++ name

/-- A core that is looked up as a name: without a prefix, a star or the name of a primitive. -/
structure IsLookedUp (core : String) : Prop where
  unprefixed : ¬IsPrefixed core
  starless : '*' ∉ core.toList
  notPrimitive : ∀ p : Primitive, core ≠ p.name

/-- What a core means; of several rules the first one counts. -/
inductive Denotes (names : KnownNames) : String → TypeRef → Prop
  | enum (name : String) : Denotes names ("enum::" ++ name) (.enum name)
  | bitfield (name : String) : Denotes names ("bitfield::" ++ name) (.bitfield name)
  | raw {core : String} (unprefixed : ¬IsPrefixed core) (star : '*' ∈ core.toList) :
    Denotes names core (.pointer core)
  | primitive (p : Primitive) : Denotes names p.name (.primitive p)
  | object {core : String} (name : IsLookedUp core) (known : core ∈ names.classes) :
    Denotes names core (.object core)
  | value {core : String} (name : IsLookedUp core) (noClass : core ∉ names.classes)
    (known : core ∈ names.builtins) : Denotes names core (.value core)
  | native {core : String} (name : IsLookedUp core) (noClass : core ∉ names.classes)
    (noBuiltin : core ∉ names.builtins) (known : core ∈ names.natives) :
    Denotes names core (.pointer core)

/-- A core that some rule applies to. -/
def IsKnown (names : KnownNames) (core : String) : Prop :=
  IsPrefixed core ∨ '*' ∈ core.toList ∨ (∃ p : Primitive, core = p.name) ∨
    core ∈ names.classes ∨ core ∈ names.builtins ∨ core ∈ names.natives

/-- A core that means a pointer: one with a star, or a native structure that is nothing else. -/
def IsPointer (names : KnownNames) (core : String) : Prop :=
  ¬IsPrefixed core ∧ ('*' ∈ core.toList ∨ core ∈ names.natives ∧ (∀ p : Primitive, core ≠ p.name) ∧
    core ∉ names.classes ∧ core ∉ names.builtins)

namespace Primitive

theorem name_unprefixed (p : Primitive) : ¬IsPrefixed p.name := by
  rintro (⟨name, h⟩ | ⟨name, h⟩)
  · exact Peels.ne_append_of_dropPrefix? (by cases p <;> rfl) name h
  · exact Peels.ne_append_of_dropPrefix? (by cases p <;> rfl) name h

theorem name_starless (p : Primitive) : '*' ∉ p.name.toList := by
  cases p <;> decide

theorem name_inj {p q : Primitive} (h : p.name = q.name) : p = q := by
  have found := p.ofName?_name
  rw [h, q.ofName?_name] at found
  exact (Option.some.inj found).symm

theorem eq_name_of_ofName? {s : String} {p : Primitive} (h : ofName? s = some p) : s = p.name := by
  unfold ofName? at h
  exact (of_decide_eq_true (List.find?_some h :)).symm

theorem ofName?_eq_none {s : String} (h : ∀ p : Primitive, s ≠ p.name) : ofName? s = none :=
  Option.eq_none_iff_forall_ne_some.mpr fun p found => h p (eq_name_of_ofName? found)

end Primitive

namespace Denotes

variable {names : KnownNames} {core : String} {type : TypeRef}

theorem exists_iff : (∃ type, Denotes names core type) ↔ IsKnown names core := by
  constructor
  · rintro ⟨type, h⟩
    cases h with
    | enum name => exact .inl (.inl ⟨name, rfl⟩)
    | bitfield name => exact .inl (.inr ⟨name, rfl⟩)
    | raw _ star => exact .inr (.inl star)
    | primitive p => exact .inr (.inr (.inl ⟨p, rfl⟩))
    | object _ known => exact .inr (.inr (.inr (.inl known)))
    | value _ _ known => exact .inr (.inr (.inr (.inr (.inl known))))
    | native _ _ _ known => exact .inr (.inr (.inr (.inr (.inr known))))
  · intro h
    by_cases prefixed : IsPrefixed core
    · rcases prefixed with ⟨name, rfl⟩ | ⟨name, rfl⟩
      · exact ⟨_, .enum name⟩
      · exact ⟨_, .bitfield name⟩
    by_cases star : '*' ∈ core.toList
    · exact ⟨_, .raw prefixed star⟩
    by_cases primitive : ∃ p : Primitive, core = p.name
    · obtain ⟨p, rfl⟩ := primitive
      exact ⟨_, .primitive p⟩
    have name : IsLookedUp core := ⟨prefixed, star, not_exists.mp primitive⟩
    by_cases inClasses : core ∈ names.classes
    · exact ⟨_, .object name inClasses⟩
    by_cases inBuiltins : core ∈ names.builtins
    · exact ⟨_, .value name inClasses inBuiltins⟩
    have inNatives : core ∈ names.natives :=
      ((((h.resolve_left prefixed).resolve_left star).resolve_left primitive).resolve_left
        inClasses).resolve_left inBuiltins
    exact ⟨_, .native name inClasses inBuiltins inNatives⟩

theorem enum_ne_bitfield (a b : String) : "enum::" ++ a ≠ "bitfield::" ++ b := by
  refine Peels.ne_append_of_dropPrefix? ?_ b
  rw [String.toList_append]
  rfl

/-- The prefix of an enumeration decides. -/
theorem eq_enum (h : Denotes names core type) {name : String} (lead : core = "enum::" ++ name) :
    type = .enum name := by
  have prefixed : IsPrefixed core := .inl ⟨name, lead⟩
  cases h with
  | enum => rw [(String.append_right_inj _).mp lead]
  | bitfield name' => exact absurd lead.symm (enum_ne_bitfield name name')
  | primitive p => exact absurd prefixed p.name_unprefixed
  | raw unprefixed => exact absurd prefixed unprefixed
  | object lookedUp | value lookedUp | native lookedUp => exact absurd prefixed lookedUp.unprefixed

/-- The prefix of a bitfield decides. -/
theorem eq_bitfield (h : Denotes names core type) {name : String}
    (lead : core = "bitfield::" ++ name) : type = .bitfield name := by
  have prefixed : IsPrefixed core := .inr ⟨name, lead⟩
  cases h with
  | enum name' => exact absurd lead (enum_ne_bitfield name' name)
  | bitfield => rw [(String.append_right_inj _).mp lead]
  | primitive p => exact absurd prefixed p.name_unprefixed
  | raw unprefixed => exact absurd prefixed unprefixed
  | object lookedUp | value lookedUp | native lookedUp => exact absurd prefixed lookedUp.unprefixed

theorem containsPointer_iff (h : Denotes names core type) :
    type.containsPointer = true ↔ IsPointer names core := by
  cases h with
  | enum name => exact ⟨nofun, fun pointer => absurd (.inl ⟨name, rfl⟩) pointer.1⟩
  | bitfield name => exact ⟨nofun, fun pointer => absurd (.inr ⟨name, rfl⟩) pointer.1⟩
  | raw unprefixed star => exact ⟨fun _ => ⟨unprefixed, .inl star⟩, fun _ => rfl⟩
  | primitive p =>
    refine ⟨nofun, fun pointer => ?_⟩
    rcases pointer.2 with star | ⟨_, notPrimitive, _⟩
    · exact absurd star p.name_starless
    · exact absurd rfl (notPrimitive p)
  | object name known =>
    refine ⟨nofun, fun pointer => ?_⟩
    rcases pointer.2 with star | ⟨_, _, noClass, _⟩
    · exact absurd star name.starless
    · exact absurd known noClass
  | value name _ known =>
    refine ⟨nofun, fun pointer => ?_⟩
    rcases pointer.2 with star | ⟨_, _, _, noBuiltin⟩
    · exact absurd star name.starless
    · exact absurd known noBuiltin
  | native name noClass noBuiltin known =>
    exact ⟨fun _ => ⟨name.unprefixed, .inr ⟨known, name.notPrimitive, noClass, noBuiltin⟩⟩,
      fun _ => rfl⟩

end Denotes

/-! ### The resolver -/

namespace KnownNames

variable {names : KnownNames} {place s : String}

theorem stripChars_of_strip {text : String} (h : strip s = text) :
    stripChars s.toList = text.toList := by
  rw [← h, strip, String.toList_ofList]

theorem dropPrefix?_of_ne {lead : List Char} {text : String}
    (h : ∀ rest, text ≠ String.ofList lead ++ rest) : dropPrefix? lead text.toList = none := by
  refine Option.eq_none_iff_forall_ne_some.mpr fun rest hrest => h (String.ofList rest) ?_
  rw [← String.ofList_append, ← eq_append_of_dropPrefix? hrest, String.ofList_toList]

/-- The resolver looks at a spelling without the blanks at its ends. -/
theorem resolve_strip : names.resolve place (strip s) = names.resolve place s := by
  unfold resolve strip
  rw [resolveChars, resolveChars, String.toList_ofList, stripChars_stripChars]

theorem resolve_of_empty (h : strip s = "") :
    names.resolve place s = .error (.noTypeText place) := by
  unfold resolve
  rw [resolveChars, stripChars_of_strip h]
  rfl

theorem resolve_of_enum {name : String} (h : strip s = "enum::" ++ name) :
    names.resolve place s = .ok (.enum name) := by
  have chars : stripChars s.toList = enumPrefix ++ name.toList :=
    (stripChars_of_strip h).trans String.toList_append
  unfold resolve
  rw [resolveChars, chars, dropPrefix?_append, if_neg (by simp [enumPrefix])]
  exact congrArg (Except.ok <| TypeRef.enum ·) String.ofList_toList

theorem resolve_of_bitfield {name : String} (h : strip s = "bitfield::" ++ name) :
    names.resolve place s = .ok (.bitfield name) := by
  have chars : stripChars s.toList = bitfieldPrefix ++ name.toList :=
    (stripChars_of_strip h).trans String.toList_append
  have noEnum : dropPrefix? enumPrefix (bitfieldPrefix ++ name.toList) = none := rfl
  unfold resolve
  rw [resolveChars, chars, noEnum, dropPrefix?_append, if_neg (by simp [bitfieldPrefix])]
  exact congrArg (Except.ok <| TypeRef.bitfield ·) String.ofList_toList

theorem resolve_of_typedArray {inner : String} (h : strip s = "typedarray::" ++ inner) :
    names.resolve place s = (names.resolve place inner).map .typedArray := by
  have chars : stripChars s.toList = typedArrayPrefix ++ inner.toList :=
    (stripChars_of_strip h).trans String.toList_append
  have noEnum : dropPrefix? enumPrefix (typedArrayPrefix ++ inner.toList) = none := rfl
  have noBitfield : dropPrefix? bitfieldPrefix (typedArrayPrefix ++ inner.toList) = none := rfl
  unfold resolve
  rw [resolveChars, chars, noEnum, noBitfield, if_neg (by simp [typedArrayPrefix])]
  dsimp only
  split
  · next found =>
    rw [dropPrefix?_append] at found
    cases found
    rfl
  · next found =>
    rw [dropPrefix?_append] at found
    cases found

theorem resolve_of_bare (unprefixed : ¬IsPrefixed (strip s))
    (bare : ∀ inner, strip s ≠ "typedarray::" ++ inner) (given : strip s ≠ "") :
    names.resolve place s = names.resolveName place (strip s) := by
  have chars : stripChars s.toList = (strip s).toList := stripChars_of_strip rfl
  have noEnum : dropPrefix? enumPrefix (strip s).toList = none :=
    dropPrefix?_of_ne fun name h => unprefixed (.inl ⟨name, h⟩)
  have noBitfield : dropPrefix? bitfieldPrefix (strip s).toList = none :=
    dropPrefix?_of_ne fun name h => unprefixed (.inr ⟨name, h⟩)
  have noArray : dropPrefix? typedArrayPrefix (strip s).toList = none := dropPrefix?_of_ne bare
  have filled : ¬(strip s).toList.isEmpty = true := by simpa using given
  unfold resolve
  rw [resolveChars, chars, noEnum, noBitfield, if_neg filled]
  dsimp only
  split
  · next found =>
    rw [noArray] at found
    cases found
  · rw [String.ofList_toList]

/-- A core without a prefix is read by the first rule that applies. -/
theorem resolveName_eq_ok_iff {core : String} {type : TypeRef} (unprefixed : ¬IsPrefixed core) :
    names.resolveName place core = .ok type ↔ Denotes names core type := by
  unfold resolveName
  simp only [List.contains_iff_mem]
  constructor
  · intro h
    split at h
    · next star =>
      cases h
      exact .raw unprefixed star
    · next starless =>
      cases hp : Primitive.ofName? core with
      | some p =>
        rw [hp] at h
        cases h
        rw [Primitive.eq_name_of_ofName? hp]
        exact .primitive p
      | none =>
        have name : IsLookedUp core := ⟨unprefixed, starless, fun p hname => by
          rw [hname, p.ofName?_name] at hp
          cases hp⟩
        rw [hp] at h
        dsimp only at h
        split at h
        · next known =>
          cases h
          exact .object name known
        · next noClass =>
          split at h
          · next known =>
            cases h
            exact .value name noClass known
          · next noBuiltin =>
            split at h
            · next known =>
              cases h
              exact .native name noClass noBuiltin known
            · cases h
  · intro h
    cases h with
    | enum name => exact absurd (.inl ⟨name, rfl⟩) unprefixed
    | bitfield name => exact absurd (.inr ⟨name, rfl⟩) unprefixed
    | raw _ star => rw [if_pos star]
    | primitive p => rw [if_neg p.name_starless, p.ofName?_name]
    | object name known =>
      rw [if_neg name.starless, Primitive.ofName?_eq_none name.notPrimitive]
      exact if_pos known
    | value name noClass known =>
      rw [if_neg name.starless, Primitive.ofName?_eq_none name.notPrimitive]
      dsimp only
      rw [if_neg noClass, if_pos known]
    | native name noClass noBuiltin known =>
      rw [if_neg name.starless, Primitive.ofName?_eq_none name.notPrimitive]
      dsimp only
      rw [if_neg noClass, if_neg noBuiltin, if_pos known]

/-- A core is read by the first rule that applies, unless it is empty. -/
theorem resolve_core_iff {core : String} {type : TypeRef} (stripped : strip core = core)
    (bare : ∀ inner, core ≠ "typedarray::" ++ inner) :
    names.resolve place core = .ok type ↔ core ≠ "" ∧ Denotes names core type := by
  by_cases empty : core = ""
  · subst empty
    rw [resolve_of_empty stripped]
    exact ⟨nofun, fun h => absurd rfl h.1⟩
  rw [and_iff_right empty]
  by_cases prefixed : IsPrefixed core
  · rcases prefixed with ⟨name, rfl⟩ | ⟨name, rfl⟩
    · rw [resolve_of_enum stripped]
      refine ⟨fun h => ?_, fun h => by rw [h.eq_enum rfl]⟩
      cases h
      exact .enum name
    · rw [resolve_of_bitfield stripped]
      refine ⟨fun h => ?_, fun h => by rw [h.eq_bitfield rfl]⟩
      cases h
      exact .bitfield name
  · rw [resolve_of_bare (by rwa [stripped]) (by rwa [stripped]) (by rwa [stripped]), stripped,
      resolveName_eq_ok_iff prefixed]

/-- Every layer puts a typed array around what the core means. -/
theorem resolve_of_peels {core : String} {k : Nat} (h : Peels s k core) :
    names.resolve place s = (names.resolve place core).map (·.inArrays k) := by
  induction h with
  | core =>
    rw [resolve_strip]
    cases names.resolve place _ <;> rfl
  | layer outer _ ih =>
    rw [resolve_of_typedArray outer, ih, map_map]
    rfl

/-- A spelling is read as what its core means, inside as many typed arrays as it has layers. -/
theorem resolve_iff {core : String} {k : Nat} (h : Peels s k core) {type : TypeRef} :
    names.resolve place s = .ok type ↔
      core ≠ "" ∧ ∃ inner, Denotes names core inner ∧ type = inner.inArrays k := by
  rw [resolve_of_peels h, map_eq_ok]
  obtain ⟨stripped, bare⟩ := h.bare
  simp only [resolve_core_iff stripped bare, and_assoc, exists_and_left, eq_comm]

/-- The layers of a spelling are counted before it is read. -/
theorem nesting_of_peels {core : String} {k : Nat} (h : Peels s k core) : nesting s.toList = k := by
  induction h with
  | @core s bare =>
    have noArray : dropPrefix? typedArrayPrefix (strip s).toList = none := dropPrefix?_of_ne bare
    rw [nesting, stripChars_of_strip rfl]
    split
    · next found =>
      rw [noArray] at found
      cases found
    · rfl
  | @layer s inner core k outer _ ih =>
    have chars : stripChars s.toList = typedArrayPrefix ++ inner.toList :=
      (stripChars_of_strip outer).trans String.toList_append
    rw [nesting, chars]
    split
    · next found =>
      rw [dropPrefix?_append] at found
      cases found
      rw [ih]
    · next found =>
      rw [dropPrefix?_append] at found
      cases found

end KnownNames

/-! ### What documents spell -/

namespace Schema

/-- A document's spelling is resolved unless it has too many layers. -/
theorem type_of_peels {names : KnownNames} {s core : String} {k : Nat} (h : Peels s k core)
    (place : String) : Schema.type names place (.str s) =
      if k ≤ maxNesting then (names.resolve place s).mapError .schema
      else .error (.value .tooNested) := by
  rw [Schema.type, KnownNames.nesting_of_peels h]
  by_cases deep : maxNesting < k
  · rw [if_pos deep, if_neg (Nat.not_le.mpr deep)]
  · rw [if_neg deep, if_pos (Nat.not_lt.mp deep)]

/-- A document's spelling has one core and so many layers. It is resolved exactly if some rule
applies to the core, to what the core means by the first such rule, inside as many typed arrays as
there are layers; and it contains a pointer exactly if the core means one. What is read is what is
resolved, as long as there are not too many layers. -/
theorem type_reads_core (names : KnownNames) (place s : String) :
    ∃ k core, Peels s k core ∧ (∀ k' core', Peels s k' core' → k' = k ∧ core' = core) ∧
      ((∃ type, names.resolve place s = .ok type) ↔ core ≠ "" ∧ IsKnown names core) ∧
      (∀ type, names.resolve place s = .ok type →
        (∃ inner, Denotes names core inner ∧ type = inner.inArrays k) ∧
          (type.containsPointer = true ↔ IsPointer names core)) ∧
      Schema.type names place (.str s) =
        if k ≤ maxNesting then (names.resolve place s).mapError .schema
        else .error (.value .tooNested) := by
  obtain ⟨k, core, h⟩ := Peels.exists_peels s
  refine ⟨k, core, h, fun _ _ => h.unique, ?_, ?_, type_of_peels h place⟩
  · simp only [KnownNames.resolve_iff h, ← Denotes.exists_iff]
    constructor
    · rintro ⟨_, given, inner, denotes, _⟩
      exact ⟨given, inner, denotes⟩
    · rintro ⟨given, inner, denotes⟩
      exact ⟨_, given, inner, denotes, rfl⟩
  · intro type htype
    obtain ⟨_, inner, denotes, rfl⟩ := (KnownNames.resolve_iff h).mp htype
    refine ⟨⟨inner, denotes, rfl⟩, ?_⟩
    rw [TypeRef.containsPointer_inArrays, denotes.containsPointer_iff]

/-- A type that every document knows is not read inside more typed arrays than there may be. -/
theorem deep_int_unread :
    Peels (layered "int" 1500) 1500 "int" ∧
      Schema.type ⟨[], [], []⟩ "step" (.str (layered "int" 1500)) = .error (.value .tooNested) ∧
      ¬((∃ type, Schema.type ⟨[], [], []⟩ "step" (.str (layered "int" 1500)) = .ok type) ↔
        "int" ≠ "" ∧ IsKnown ⟨[], [], []⟩ "int") := by
  have peels : Peels (layered "int" 1500) 1500 "int" :=
    peels_layered (by decide) (by decide) (Peels.ne_append_of_dropPrefix? rfl) 1500
  have refused : Schema.type ⟨[], [], []⟩ "step" (.str (layered "int" 1500)) =
      .error (.value .tooNested) := (type_of_peels peels "step").trans (if_neg (by decide))
  refine ⟨peels, refused, fun claim => ?_⟩
  obtain ⟨type, htype⟩ := claim.mpr ⟨by decide, .inr (.inr (.inl ⟨.int, rfl⟩))⟩
  cases refused.symm.trans htype

end Schema

end EngineBindings
