import EngineBindings.Proofs.Plan.Arity
import EngineBindings.Proofs.Target.Mapped

/-! Which properties convert the value that they set.

A name is read from a property as a text of the emitted language, so a setter that takes a text of
the engine has to be given one made from it. The property passes the value in the first place, or in
the second one behind an index; but whether to convert it is decided by the setter's last argument
(`isConverted_iff`). The two are the same argument unless a setter takes one too many or one too
few, and then the decision is the wrong one where just one of the two is a text
(`converted_as_taken_iff`). -/
namespace EngineBindings

open Attempt Code

/-- An argument that takes a text of the engine. -/
def ArgumentDef.IsText (a : ArgumentDef) : Prop := a.type = .value "String"

instance : DecidablePred ArgumentDef.IsText := fun a =>
  inferInstanceAs (Decidable (a.type = .value "String"))

namespace PropertyAccessor

/-- The value made into a text of the engine. -/
def text : Expr := .apply "GString" [.apply "str" [.name "value"]]

/-- How many arguments the setter is given in front of the value. -/
def place (a : PropertyAccessor) : Nat := a.index.toList.length

theorem text_ne : .name "value" ≠ text := nofun

/-- The argument of the setter that takes the value. -/
def taker? (a : PropertyAccessor) : Option ArgumentDef := a.setter.arguments[a.place]?

/-- The setter's last argument is not the one that takes the value, and just one of them takes a
text: the value is passed first and there are two, or it is passed second and there is one. -/
inductive Misjudged (a : PropertyAccessor) : Prop
  | extra {x y : ArgumentDef} (unindexed : a.index = none) (takes : a.setter.arguments = [x, y])
    (differ : x.IsText ↔ ¬y.IsText)
  | missing {x : ArgumentDef} (indexed : a.index.isSome = true) (takes : a.setter.arguments = [x])
    (text : x.IsText)

end PropertyAccessor

theorem TypeRef.written_of_spelling {type : TypeRef} (h : type.spelling = "StringName") :
    type.written = "StringName" := by
  cases type with
  | «enum» name | bitfield name =>
    have head := congrArg (fun s : String => s.toList.head?) h
    simp [spelling] at head
  | typedArray | primitive | value | object | pointer | bare => exact h

namespace Registry

variable {r : Registry} {flags : Flags} {c : ClassDef} {type : TypeRef} {tag : Json} {use : TypeUse}
  {setter : MethodDef} {target : Target} {value : Expr} {requires : List Requirement}

/-- Only the engine's text type is mapped to texts. -/
theorem target_eq_string_iff : r.target type tag use = .ok .string ↔ type = .value "String" := by
  constructor
  · intro h
    cases type with
    | primitive type =>
      cases type with
      | void | bool => cases h
      | int | float | real =>
        obtain ⟨_, _, h⟩ := map_eq_ok.mp h
        cases h
    | typedArray =>
      obtain ⟨_, _, h⟩ := map_eq_ok.mp h
      cases h
    | value name =>
      rw [Registry.target, valueTarget] at h
      split at h
      · cases h
      · split at h
        · next isString => rw [isString]
        · cases h
    | «enum» | bitfield | object | pointer | bare => cases h
  · rintro rfl
    rfl

/-- A name is made into a text just where the setter's last argument takes one. -/
theorem isConverted_iff (name : target.source = "StringName")
    (h : r.propertyValue target setter = .ok (value, requires)) :
    (value = PropertyAccessor.text ∨ value = .name "value") ∧
      (value = PropertyAccessor.text ↔ ∃ x ∈ setter.arguments.getLast?, x.IsText) := by
  unfold propertyValue at h
  dsimp only at h
  split at h
  · next none =>
    cases h
    simp [none, PropertyAccessor.text_ne]
  · next x hlast =>
    obtain ⟨taken, htaken, h⟩ := bind_eq_ok.mp h
    have decided : (∃ x ∈ setter.arguments.getLast?, x.IsText) ↔ taken = .string := by
      have string : x.IsText ↔ r.argumentTarget x .member = .ok .string :=
        target_eq_string_iff.symm
      simp [hlast, string, htaken]
    rw [decided]
    split at h
    · rw [if_pos name] at h
      cases h
      exact ⟨.inl rfl, iff_of_true rfl rfl⟩
    · next other =>
      cases h
      exact ⟨.inr rfl, iff_of_false PropertyAccessor.text_ne other⟩

section Accessor

variable {p : ClassPlan} {a : PropertyAccessor}

theorem taker?_of_none (h : a.index = none) : a.taker? = a.setter.arguments[0]? := by
  rw [PropertyAccessor.taker?, PropertyAccessor.place, h]
  rfl

theorem taker?_of_isSome (h : a.index.isSome = true) : a.taker? = a.setter.arguments[1]? := by
  obtain ⟨index, hindex⟩ := Option.isSome_iff_exists.mp h
  rw [PropertyAccessor.taker?, PropertyAccessor.place, hindex]
  rfl

theorem exists_mem_some {x : ArgumentDef} : (∃ z ∈ some x, z.IsText) ↔ x.IsText := by
  simp only [Option.mem_def, Option.some.injEq, exists_eq_left']

theorem exists_mem_none : (∃ z ∈ (none : Option ArgumentDef), z.IsText) ↔ False := by
  simp only [Option.not_mem_none, false_and, exists_false]

/-- The setter's last argument takes a text just where the one that takes the value does, unless the
property is misjudged. -/
theorem last_agrees_iff (few : a.setter.arguments.length ≤ 2) :
    ((∃ x ∈ a.setter.arguments.getLast?, x.IsText) ↔ ∃ x ∈ a.taker?, x.IsText) ↔
      ¬a.Misjudged := by
  constructor
  · rintro agrees (@⟨x, y, unindexed, takes, differ⟩ | ⟨indexed, takes, text⟩)
    · rw [taker?_of_none unindexed, takes] at agrees
      have same : y.IsText ↔ x.IsText :=
        exists_mem_some.symm.trans (agrees.trans exists_mem_some)
      exact iff_not_self (same.trans differ)
    · rw [taker?_of_isSome indexed, takes] at agrees
      exact exists_mem_none.mp (agrees.mp (exists_mem_some.mpr text))
  · intro fine
    cases passed : a.index with
    | none =>
      rw [taker?_of_none passed]
      match takes : a.setter.arguments, few with
      | [], _ | [_], _ => exact Iff.rfl
      | [x, y], _ =>
        have same : x.IsText ↔ y.IsText := by
          by_contra differ
          exact fine (.extra passed takes (by tauto))
        exact exists_mem_some.trans (same.symm.trans exists_mem_some.symm)
    | some index =>
      have given : a.index.isSome = true := by rw [passed]; rfl
      rw [taker?_of_isSome given]
      match takes : a.setter.arguments, few with
      | [], _ | [_, _], _ => exact Iff.rfl
      | [x], _ =>
        have notText : ¬x.IsText := fun text => fine (.missing given takes text)
        exact (exists_mem_some.trans (iff_false_intro notText)).trans exists_mem_none.symm

/-- A planned property whose getter returns a name passes its value at the place behind the index,
as a text made from it or as it is; and it makes a text just where the setter takes one there,
unless the property is misjudged. -/
theorem converted_as_taken_iff (h : r.planClass flags c = .ok p) (ha : a ∈ p.properties)
    (result : a.getter.result? = some type) (name : type.spelling = "StringName") :
    (∃ arguments,
        a.setterBody = [.exec (.invoke (.attr (.name "self") a.setterName) arguments)] ∧
          arguments[a.place]? = some a.value) ∧
      (a.value = PropertyAccessor.text ∨ a.value = .name "value") ∧
      ((a.value = PropertyAccessor.text ↔ ∃ x ∈ a.taker?, x.IsText) ↔ ¬a.Misjudged) := by
  obtain ⟨referenced, accessors⟩ := plansAccessors_of_planClass h
  obtain ⟨served, _, _, planned⟩ := accessors.properties a ha
  have few := (bounds_of_arityObstacle served.arity).2
  obtain ⟨target, htarget, planned⟩ := bind_eq_ok.mp planned
  obtain ⟨index, _, planned⟩ := bind_eq_ok.mp planned
  obtain ⟨⟨value, requires⟩, hvalue, planned⟩ := bind_eq_ok.mp planned
  obtain ⟨exposed, _, planned⟩ := bind_eq_ok.mp planned
  obtain ⟨getterName, _, planned⟩ := bind_eq_ok.mp planned
  obtain ⟨setterName, _, planned⟩ := bind_eq_ok.mp planned
  have same : a.value = value := by rw [← pure_eq_ok.mp planned]
  have source : target.source = "StringName" := by
    rw [resultTarget, result] at htarget
    rw [source_of_target htarget, TypeRef.written_of_spelling name]
  obtain ⟨shape, converted⟩ := isConverted_iff source hvalue
  rw [same]
  refine ⟨⟨a.index.toList ++ [a.value], rfl, ?_⟩, shape, ?_⟩
  · rw [PropertyAccessor.place, List.getElem?_concat_length, same]
  · rw [converted]
    exact last_agrees_iff few

end Accessor

/-- A banner whose title is read as a name, and set by a method with these arguments. -/
def banner (arguments : List ArgumentDef) : ClassDef :=
  .declaring "Banner" none
    [{ name := "get_title", returnType := some (.value "StringName"), hash := some 1 },
     { name := "set_title", arguments, hash := some 2 }]
    [⟨"title", .str "StringName", .str "get_title", some (.str "set_title"), none⟩]

/-- A registry of one banner, and of the two kinds of text. -/
def ofBanner (arguments : List ArgumentDef) : Registry :=
  { ofClasses [banner arguments] with sizes := ⟨[("String", 8), ("StringName", 8)]⟩ }

/-- The argument that a title is set by. -/
def title : ArgumentDef := { name := "title", type := .value "String" }

/-- A title that is set by a text alone is made into one. -/
theorem converted_as_taken_iff_title :
    ∃ p, (ofBanner [title]).planClass {} (banner [title]) = .ok p ∧
      ∃ a ∈ p.properties, (∃ x ∈ a.taker?, x.IsText) ∧ a.value = PropertyAccessor.text := by
  have returns : ((ofBanner [title]).planClass {} (banner [title])).toOption.any
      (fun p : ClassPlan => p.properties.any fun a =>
        a.getter.result? = some (.value "StringName") && a.index.isNone &&
          a.setter.arguments.length == 1 && a.taker?.any fun x => x.IsText) := by rfl
  obtain ⟨p, hp, hsome⟩ := exists_eq_ok_of_any returns
  obtain ⟨a, ha, hfacts⟩ := List.any_eq_true.mp hsome
  simp only [Bool.and_eq_true, decide_eq_true_eq, beq_iff_eq, Option.isNone_iff_eq_none,
    Option.any_eq_true] at hfacts
  obtain ⟨⟨⟨result, unindexed⟩, single⟩, taken⟩ := hfacts
  have fine : ¬a.Misjudged := by
    rintro (@⟨_, _, _, takes, _⟩ | ⟨given, _, _⟩)
    · simp [takes] at single
    · simp [unindexed] at given
  obtain ⟨-, -, agrees⟩ := converted_as_taken_iff hp ha result rfl
  exact ⟨p, hp, a, ha, taken, (agrees.mpr fine).mpr taken⟩

/-- An argument with a default. -/
def style : ArgumentDef :=
  { name := "style", type := .primitive .int, defaultValue := .str "0" }

/-- A title that is set by a text and a style is passed as it is, although the setter takes a text
in its place and need not be given the style. -/
theorem title_not_converted :
    ∃ p, (ofBanner [title, style]).planClass {} (banner [title, style]) = .ok p ∧
      ∃ a ∈ p.properties, a.getter.result? = some (.value "StringName") ∧
        (∃ x ∈ a.taker?, x.IsText) ∧ p.Fits a.setter a.setterBody ∧
        a.value ≠ PropertyAccessor.text := by
  have returns : ((ofBanner [title, style]).planClass {} (banner [title, style])).toOption.any
      (fun p : ClassPlan => p.properties.any fun a =>
        a.getter.result? = some (.value "StringName") && a.taker?.any (fun x => x.IsText) &&
          decide ((ofBanner [title, style]).SuitsSetter a) && a.value matches .name _) := by rfl
  obtain ⟨p, hp, hsome⟩ := exists_eq_ok_of_any returns
  obtain ⟨a, ha, hfacts⟩ := List.any_eq_true.mp hsome
  simp only [Bool.and_eq_true, decide_eq_true_eq, Option.any_eq_true] at hfacts
  obtain ⟨⟨⟨result, taken⟩, suits⟩, unchanged⟩ := hfacts
  refine ⟨p, hp, a, ha, result, taken, (setter_fits_iff hp ha).mpr suits, fun converted => ?_⟩
  rw [converted] at unchanged
  cases unchanged

end Registry

end EngineBindings
