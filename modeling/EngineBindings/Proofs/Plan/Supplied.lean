import EngineBindings.Proofs.Code.Reads
import EngineBindings.Proofs.Target.Hosts
import EngineBindings.Target.Default

/-! Names that planned code is supplied with.

What names a type in planned code is a name of the language, or comes with a symbol that the code
requires; the class that code is emitted in is not required and there all the same. The zero value
of a type is written with the names of the type. -/
namespace EngineBindings

open Attempt EngineBindings.Code EngineBindings.Text

/-- A name of the language, or one that is supplied by a requirement or by the class that code is
emitted in, which code does not require. -/
def SuppliedBy (requires : List Requirement) (owner : Name) (name : String) : Prop :=
  name ∈ languageNames ∨ ∃ q, (q ∈ requires ∨ q.isClass owner = true) ∧ q.Supplies name

theorem suppliedBy_filter {requires : List Requirement} {owner : Name} {q : Requirement}
    {name : String} (hq : q ∈ requires) (supplies : q.Supplies name) :
    SuppliedBy (requires.filter (!·.isClass owner)) owner name := by
  refine .inr ⟨q, ?_, supplies⟩
  cases hclass : q.isClass owner with
  | true => exact .inr rfl
  | false => exact .inl (List.mem_filter.mpr ⟨hq, by simp [hclass]⟩)

namespace Registry

variable {r : Registry}

/-- What names a type that code requires is supplied. -/
theorem suppliedBy_of_names (variant : r.class? ("Variant" : String) = none) {type : TypeRef}
    (plain : type.IsPlain) {tag : Json} {use : TypeUse} {t : Target}
    (h : r.target type tag use = .ok t) {requires : List Requirement} {owner : Name}
    (required : t.requirements ⊆ requires) :
    ∀ name ∈ t.names, SuppliedBy (requires.filter (!·.isClass owner)) owner name := by
  intro name hname
  rcases supplied_of_names variant plain h name hname with language | ⟨q, hq, supplies⟩
  · exact .inl language
  · exact suppliedBy_filter (required hq) supplies

/-! ### Zero values -/

theorem reads_enumDefault {name : String} {e : Expr} (h : r.enumDefault name = .ok e) :
    e.reads = [root (r.enumHostName name)] := by
  unfold enumDefault at h
  dsimp only at h
  split at h
  · next host member hhost _ =>
    cases h
    rw [enumHostName, hhost]
    rfl
  · split at h
    · split at h
      · cases h
        rfl
      · obtain ⟨field, _, rfl⟩ := map_eq_ok.mp h
        rfl
    · cases h
      rfl

/-- A zero value is written with the names of its type. -/
theorem reads_defaultValue {type : TypeRef} {e : Expr} (h : r.defaultValue type = .ok e)
    {tag : Json} {t : Target} (ht : r.target type tag .member = .ok t) : e.reads ⊆ t.names := by
  cases type with
  | primitive type =>
    cases type <;>
      (cases h
       exact List.nil_subset _)
  | enum name =>
    cases ht
    rw [reads_enumDefault (mapError_eq_ok.mp h)]
    exact List.subset_append_left _ _
  | bitfield name =>
    cases h
    cases ht
    exact List.subset_append_left _ _
  | typedArray element =>
    obtain ⟨inner, hinner, h⟩ := bind_eq_ok.mp h
    obtain ⟨found, hfound, rfl⟩ := map_eq_ok.mp ht
    rw [hinner] at hfound
    cases hfound
    cases h
    exact List.Subset.refl _
  | object name =>
    cases h
    cases ht
    exact List.subset_append_left _ _
  | value name =>
    cases ht
    have host : e.reads = [root (r.valueTarget name).host] := by
      unfold defaultValue at h
      unfold valueTarget
      dsimp only at h
      split at h
      · next untyped =>
        cases h
        rw [if_pos untyped]
        rfl
      · next typed =>
        cases h
        rw [if_neg typed]
        split
        · next text =>
          rw [text]
          rfl
        · rfl
    rw [host]
    exact List.subset_append_left _ _
  | pointer spelling =>
    cases h
    exact List.nil_subset _
  | bare name => cases ht

end Registry

end EngineBindings
