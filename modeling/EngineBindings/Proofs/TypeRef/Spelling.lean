import EngineBindings.Proofs.TypeRef.Resolving

/-! Spelling a type and reading it again.

What a core means is spelt as the core (`Denotes.spelling_eq`), and every typed array around it puts
its prefix in front. So the spelling of a type that was read has the layers and the core that it was
read from, and reading it gives the type again (`type_spelling`): the spelling tells types apart. -/
namespace EngineBindings

namespace TypeRef

theorem spelling_inArrays (type : TypeRef) (k : Nat) :
    (type.inArrays k).spelling = layered type.spelling k := by
  induction k with
  | zero => rfl
  | succ k ih => rw [inArrays, spelling, ih, layered]

/-- A typed array inside others around something that is none is one of the outer layers. -/
theorem eq_inArrays_of_typedArray {inner element : TypeRef} (leaf : ∀ e, inner ≠ .typedArray e)
    {k j : Nat} (h : inner.inArrays k = (typedArray element).inArrays j) :
    ∃ i, element = inner.inArrays i ∧ i < k := by
  induction k generalizing j with
  | zero => cases j with
    | zero => exact absurd h (leaf element)
    | succ j => exact absurd h (leaf _)
  | succ k ih => cases j with
    | zero => exact ⟨k, (TypeRef.typedArray.inj h).symm, Nat.lt_succ_self k⟩
    | succ j =>
      obtain ⟨i, hi, lower⟩ := ih (TypeRef.typedArray.inj h)
      exact ⟨i, hi, Nat.lt_succ_of_lt lower⟩

end TypeRef

namespace Denotes

variable {names : KnownNames} {core : String} {type : TypeRef}

theorem spelling_eq (h : Denotes names core type) : type.spelling = core := by
  cases h <;> rfl

theorem ne_typedArray (h : Denotes names core type) (element : TypeRef) :
    type ≠ .typedArray element := by
  rintro rfl
  cases h

end Denotes

namespace KnownNames

variable {names : KnownNames} {place s : String} {type : TypeRef}

/-- A type that was read, and every type inside it, is spelt with the core that it was read from, as
many layers around it as there are typed arrays. -/
theorem peels_spelling {k i : Nat} {core : String} {inner : TypeRef} (h : Peels s k core)
    (given : core ≠ "") (denotes : Denotes names core inner) :
    Peels (inner.inArrays i).spelling i core := by
  obtain ⟨stripped, bare⟩ := h.bare
  rw [TypeRef.spelling_inArrays, denotes.spelling_eq]
  exact peels_layered given stripped bare i

theorem resolve_spelling {k i : Nat} {core : String} {inner : TypeRef} (h : Peels s k core)
    (given : core ≠ "") (denotes : Denotes names core inner) :
    names.resolve place (inner.inArrays i).spelling = .ok (inner.inArrays i) :=
  (resolve_iff (peels_spelling h given denotes)).mpr ⟨given, inner, denotes, rfl⟩

end KnownNames

namespace Schema

open Attempt

theorem type_eq_ok {names : KnownNames} {place s : String} {type : TypeRef} {k : Nat}
    {core : String} (h : Peels s k core) :
    Schema.type names place (.str s) = .ok type ↔
      k ≤ maxNesting ∧ names.resolve place s = .ok type := by
  rw [type_of_peels h]
  split
  · next shallow => rw [mapError_eq_ok, and_iff_right shallow]
  · next deep => exact ⟨nofun, fun h => absurd h.1 deep⟩

/-- A type that was read is what some core means, inside typed arrays. -/
theorem exists_core {names : KnownNames} {place s : String} {type : TypeRef}
    (h : Schema.type names place (.str s) = .ok type) :
    ∃ k core inner, Peels s k core ∧ core ≠ "" ∧ Denotes names core inner ∧
      type = inner.inArrays k ∧ k ≤ maxNesting := by
  obtain ⟨k, core, peels⟩ := Peels.exists_peels s
  obtain ⟨shallow, hread⟩ := (type_eq_ok peels).mp h
  obtain ⟨given, inner, denotes, htype⟩ := (KnownNames.resolve_iff peels).mp hread
  exact ⟨k, core, inner, peels, given, denotes, htype, shallow⟩

theorem type_of_spelling {names : KnownNames} {s core : String} {k i : Nat} {inner : TypeRef}
    (peels : Peels s k core) (given : core ≠ "") (denotes : Denotes names core inner)
    (shallow : i ≤ maxNesting) (place : String) :
    Schema.type names place (.str (inner.inArrays i).spelling) = .ok (inner.inArrays i) :=
  (type_eq_ok (KnownNames.peels_spelling peels given denotes)).mpr
    ⟨shallow, KnownNames.resolve_spelling peels given denotes⟩

/-- A type that was read is read again from its spelling. -/
theorem type_of_own_spelling {names : KnownNames} {place s : String} {type : TypeRef}
    (h : Schema.type names place (.str s) = .ok type) (place' : String) :
    Schema.type names place' (.str type.spelling) = .ok type := by
  obtain ⟨k, core, inner, peels, given, denotes, rfl, shallow⟩ := exists_core h
  exact type_of_spelling peels given denotes shallow place'

/-- A type that was read is read again from its spelling, which no other type has. The spelling has
the layers that the type was read from, one for every typed array; and the name of each typed array
is the spelling of its element, from which the element is read. -/
theorem type_spelling {names : KnownNames} {place s : String} {type : TypeRef}
    (h : Schema.type names place (.str s) = .ok type) :
    (∀ place', Schema.type names place' (.str type.spelling) = .ok type) ∧
      (∀ place' s' type', Schema.type names place' (.str s') = .ok type' →
        type'.spelling = type.spelling → type' = type) ∧
      (∃ k core, ∃ inner : TypeRef, Peels s k core ∧ Peels type.spelling k core ∧
        type = inner.inArrays k ∧ ∀ element, inner ≠ .typedArray element) ∧
      ∀ j element, type = (TypeRef.typedArray element).inArrays j →
        (TypeRef.typedArray element).name = element.spelling ∧
          ∀ place', Schema.type names place' (.str element.spelling) = .ok element := by
  have again := type_of_own_spelling h
  obtain ⟨k, core, inner, peels, given, denotes, rfl, shallow⟩ := exists_core h
  refine ⟨again, ?_, ?_, ?_⟩
  · intro place' s' type' h' same
    have read := type_of_own_spelling h' place'
    rw [same, again place'] at read
    exact (Except.ok.inj read).symm
  · exact ⟨k, core, inner, peels, KnownNames.peels_spelling peels given denotes, rfl,
      denotes.ne_typedArray⟩
  · intro j element harray
    obtain ⟨i, rfl, lower⟩ := TypeRef.eq_inArrays_of_typedArray denotes.ne_typedArray harray
    exact ⟨rfl, type_of_spelling peels given denotes ((Nat.le_of_lt lower).trans shallow)⟩

theorem type_spelling_kinds :
    Schema.type ⟨[], [], []⟩ "step" (.str " typedarray::  typedarray::enum:: Kind ") =
        .ok (.typedArray (.typedArray (.enum " Kind"))) ∧
      Schema.type ⟨[], [], []⟩ "step" (.str "typedarray::typedarray::enum:: Kind") =
        .ok (.typedArray (.typedArray (.enum " Kind"))) := by
  have peels : Peels " typedarray::  typedarray::enum:: Kind " 2 "enum:: Kind" :=
    .layer (by decide : _ = "typedarray::" ++ "  typedarray::enum:: Kind") <|
      .layer (by decide : _ = "typedarray::" ++ "enum:: Kind") <|
        .core (Peels.ne_append_of_dropPrefix? rfl)
  have read : Schema.type ⟨[], [], []⟩ "step" (.str " typedarray::  typedarray::enum:: Kind ") =
      .ok (.typedArray (.typedArray (.enum " Kind"))) :=
    (type_eq_ok peels).mpr ⟨by decide, (KnownNames.resolve_iff peels).mpr
      ⟨by decide, .enum " Kind", .enum " Kind", rfl⟩⟩
  exact ⟨read, (type_spelling read).1 "step"⟩

end Schema

end EngineBindings
