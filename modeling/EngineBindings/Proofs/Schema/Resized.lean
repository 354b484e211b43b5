import EngineBindings.Proofs.OrderedMap
import EngineBindings.Proofs.Registry.Built
import EngineBindings.Proofs.Schema.Reordered
import EngineBindings.Proofs.Target.Resized

/-! One document in two build configurations.

A build configuration picks the sizes and the offsets of builtins and the widths of numbers. A type
spelling depends on which names have a size and on no size itself; where the tables list the same
names, every spelling means the same and everything else that a document declares is read to the
same (`Registry.resized_of_ofDocument`). -/
namespace EngineBindings

open Attempt

/-! ### Tables of sizes -/

/-- Two tables of sizes that list the same names. -/
def SameSized (sizes sizes' : OrderedMap Name Int) : Prop :=
  (∀ name ∈ sizes.keys, sizes'.contains name = true) ∧
    ∀ name ∈ sizes'.keys, sizes.contains name = true

instance (sizes sizes' : OrderedMap Name Int) : Decidable (SameSized sizes sizes') :=
  inferInstanceAs (Decidable (_ ∧ _))

theorem SameSized.contains {sizes sizes' : OrderedMap Name Int} (h : SameSized sizes sizes')
    (name : Name) : sizes'.contains name = sizes.contains name := by
  rw [Bool.eq_iff_iff]
  exact ⟨OrderedMap.contains_of_keys h.2, OrderedMap.contains_of_keys h.1⟩

/-- A text is a key of a table when the table has an entry for it. -/
theorem OrderedMap.mem_texts_keys {β : Type} {m : OrderedMap Name β} {s : String} :
    s ∈ m.keys.filterMap Name.text? ↔ m.contains (s : Name) = true := by
  rw [List.mem_filterMap, OrderedMap.contains_iff]
  constructor
  · rintro ⟨key, hkey, htext⟩
    refine ⟨key, hkey, ?_⟩
    rw [Name.eq_text_of_text? htext]
    exact BEq.rfl
  · rintro ⟨key, hkey, hname⟩
    refine ⟨key, hkey, ?_⟩
    rw [Name.eq_text_of_beq hname]
    rfl

/-! ### Names and declarations -/

theorem KnownNames.same_of_sameSized {sizes sizes' : OrderedMap Name Int}
    (sized : SameSized sizes sizes') (classes builtins natives : List Name) :
    Same (fun _ => True) (.ofNames classes (builtins ++ sizes'.keys) natives)
      (.ofNames classes (builtins ++ sizes.keys) natives) := by
  refine ⟨fun _ _ => rfl, fun s => ?_, rfl⟩
  unfold ofNames
  rw [List.filterMap_append, List.filterMap_append, Bool.eq_iff_iff, List.contains_iff_mem,
    List.contains_iff_mem, List.mem_append, List.mem_append, OrderedMap.mem_texts_keys,
    OrderedMap.mem_texts_keys, sized.contains]

namespace Schema

variable {configuration configuration' : String} {profile profile' : Profile} {document : Json}

/-- Two outlines of one document that differ in sizes alone. -/
structure Outline.Resized (o o' : Outline) : Prop where
  others : o' = { o with sizes := o'.sizes, names := o'.names }
  names : KnownNames.Same (fun _ => True) o'.names o.names

theorem outline_resized {o o' : Outline} (ho : outline configuration document = .ok o)
    (ho' : outline configuration' document = .ok o') (sized : SameSized o.sizes o'.sizes) :
    o.Resized o' := by
  cases document with
  | obj fields =>
    dsimp only [outline] at ho ho'
    simp only [bind_eq_ok, pure_eq_ok] at ho ho'
    obtain ⟨classes, hclasses, builtins, hbuiltins, rawNatives, hrawNatives, tables, htables,
      sizes, _, classNames, hclassNames, builtinNames, hbuiltinNames, natives, hnatives, rfl⟩ := ho
    simp only [hclasses, hbuiltins, hrawNatives, htables, hclassNames, hbuiltinNames, hnatives,
      Except.ok.injEq, exists_eq_left'] at ho'
    obtain ⟨sizes', _, rfl⟩ := ho'
    exact ⟨rfl, KnownNames.same_of_sameSized sized ..⟩
  | null | bool | int | float | str | arr => cases ho

/-- Two sets of declarations of one document differ in what a build configuration picks alone. -/
theorem declarations_resized {d d' : Declarations} (hd : declarations profile document = .ok d)
    (hd' : declarations profile' document = .ok d') (sized : SameSized d.sizes d'.sizes) :
    d' = { d with profile := d'.profile, sizes := d'.sizes, offsets := d'.offsets } := by
  unfold declarations at hd hd'
  simp only [bind_eq_ok, pure_eq_ok] at hd hd'
  obtain ⟨o, ho, classes, hclasses, builtins, hbuiltins, tables, htables, offsets, _, rawEnums,
    hrawEnums, enums, henums, rawUtilities, hrawUtilities, utilities, hutilities, rfl⟩ := hd
  obtain ⟨o', ho', hd'⟩ := hd'
  have same : o.Resized o' := by
    refine outline_resized ho ho' ?_
    obtain ⟨_, _, _, _, _, _, _, _, _, _, _, _, _, _, _, _, rfl⟩ := hd'
    exact sized
  have sections := isOf_of_outline ho
  have reads := KnownNames.rereads_of_same document same.names fun _ _ _ _ => trivial
  have hclasses' := reads.classes sections.classes hclasses
  have hbuiltins' := reads.builtins sections.builtins hbuiltins
  have hutilities' := reads.utilities
    (part_of_list (sections.fields ▸ .whole) hrawUtilities) hutilities
  obtain ⟨sizes', names', rfl⟩ :
      ∃ sizes' names', o' = { o with sizes := sizes', names := names' } := ⟨_, _, same.others⟩
  simp only [hclasses', hbuiltins', htables, hrawEnums, henums, hrawUtilities, hutilities',
    Except.ok.injEq, exists_eq_left'] at hd'
  obtain ⟨offsets', _, rfl⟩ := hd'
  rfl

end Schema

/-- Two registries of one document whose tables of sizes list the same names differ in what a build
configuration picks alone. -/
theorem Registry.resized_of_ofDocument {configuration configuration' : String} {document : Json}
    {r r' : Registry} (hr : ofDocument configuration document = .ok r)
    (hr' : ofDocument configuration' document = .ok r') (sized : SameSized r.sizes r'.sizes) :
    r.Resized r' := by
  obtain ⟨profile, _, hr⟩ := bind_eq_ok.mp hr
  obtain ⟨profile', _, hr'⟩ := bind_eq_ok.mp hr'
  obtain ⟨d, hd, hr⟩ := bind_eq_ok.mp hr
  obtain ⟨d', hd', hr'⟩ := bind_eq_ok.mp hr'
  obtain ⟨header, _, rfl⟩ := build_eq_ok.mp hr
  obtain ⟨header', _, rfl⟩ := build_eq_ok.mp hr'
  have same := Schema.declarations_resized hd hd' sized
  constructor
  case sized =>
    intro name
    rw [size?, size?, OrderedMap.isSome_find?, OrderedMap.isSome_find?]
    exact sized.contains name
  all_goals
    rw [same]
    rfl

end EngineBindings
