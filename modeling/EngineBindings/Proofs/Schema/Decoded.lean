import EngineBindings.Proofs.Attempt
import EngineBindings.Proofs.Registry.Built
import EngineBindings.Schema.Decode

/-! Registries that were read from a document.

A class method of a document is virtual or carries a hash: the hash of a virtual method is
ignored, and another one without a hash is refused. So in a registry that was read, the methods
that are not bound are the virtual ones. -/
namespace EngineBindings

open Attempt

/-! ### Parts of a document

Reading a document goes down from objects to the values of their fields and from lists to their
items, and so everything that is read is a part of the document (`Json.Part`). What is said of
every part of a document therefore holds wherever reading has come to, and what reading finds wrong
stands somewhere in the document. -/

/-- What a document holds: itself, and with a list its items, with an object the values of its
fields. -/
inductive Json.Part (document : Json) : Json → Prop
  | whole : Part document document
  | item {items : List Json} {value : Json} (h : Part document (.arr items))
    (hvalue : value ∈ items) : Part document value
  | field {fields : List (String × Json)} {key : String} {value : Json}
    (h : Part document (.obj fields)) (hvalue : Json.find? fields key = some value) :
    Part document value

namespace Schema

variable {document value : Json} {fields : Fields} {key place : String}

theorem asObject_eq_ok : asObject place value = .ok fields ↔ value = .obj fields := by
  cases value <;> simp [asObject]

theorem require_eq_ok :
    require fields key place = .ok value ↔ Json.find? fields key = some value := by
  unfold require
  cases Json.find? fields key <;> simp

/-- A value that is not null stands in the document. -/
theorem find?_of_optional (h : optional fields key ≠ .null) :
    Json.find? fields key = some (optional fields key) := by
  unfold optional at h ⊢
  cases hfound : Json.find? fields key with
  | none => exact absurd (by rw [hfound]; rfl) h
  | some value => rfl

theorem part_optional (part : document.Part (.obj fields)) (h : optional fields key ≠ .null) :
    document.Part (optional fields key) :=
  part.field (find?_of_optional h)

/-- A list that is not there is empty, and so its items are parts of the document as well. -/
theorem part_of_list (part : document.Part (.obj fields)) {items : List Json}
    (h : list fields key place = .ok items) : ∀ item ∈ items, document.Part item := by
  unfold list at h
  split at h
  · next found =>
    cases h
    exact fun item hitem => (found ▸ part_optional part (by simp [found])).item hitem
  · split at h
    · cases h
    · cases h
      exact nofun

/-- The sections that an outline holds are parts of the document. -/
structure Outline.IsOf (o : Outline) (document : Json) : Prop where
  fields : document = .obj o.fields
  classes : ∀ item ∈ o.classes, document.Part item
  builtins : ∀ item ∈ o.builtins, document.Part item

theorem isOf_of_outline {configuration : String} {o : Outline}
    (h : outline configuration document = .ok o) : o.IsOf document := by
  cases document with
  | obj fields =>
    unfold outline at h
    simp only [bind_eq_ok, pure_eq_ok] at h
    obtain ⟨classes, hclasses, builtins, hbuiltins, _, _, _, _, _, _, _, _, _, _, _, _, rfl⟩ := h
    exact ⟨rfl, part_of_list .whole hclasses, part_of_list .whole hbuiltins⟩
  | null | bool | int | float | str | arr => cases h

/-- The names that spellings can mean are those under which the sections declare their entries. -/
theorem names_of_outline {configuration : String} {o : Outline}
    (h : outline configuration document = .ok o) :
    ∃ classNames builtinNames, list o.fields "classes" "schema" = .ok o.classes ∧
      declaredNames "classes[]" o.classes = .ok classNames ∧
      declaredNames "builtin_classes[]" o.builtins = .ok builtinNames ∧
      o.names.classes = classNames.filterMap Name.text? ∧
      o.names.builtins = (builtinNames ++ o.sizes.keys).filterMap Name.text? ∧
      o.names.natives = (o.natives.map (·.name)).filterMap Name.text? := by
  cases document with
  | obj fields =>
    unfold outline at h
    simp only [bind_eq_ok, pure_eq_ok] at h
    obtain ⟨classes, hclasses, builtins, _, _, _, _, _, sizes, _, classNames, hclassNames,
      builtinNames, hbuiltinNames, natives, _, rfl⟩ := h
    exact ⟨classNames, builtinNames, hclasses, hclassNames, hbuiltinNames, rfl, rfl, rfl⟩
  | null | bool | int | float | str | arr => cases h

/-! ### Virtual methods -/

/-- A list is read from the value of its field alone. -/
theorem list_congr {fields fields' : Fields} {key place : String}
    (h : Json.find? fields' key = Json.find? fields key) :
    list fields' key place = list fields key place := by
  simp only [list, optional, h]

/-- The hash that reading a method goes on with is missing exactly for a virtual method. -/
theorem isVirtual_eq_of_bindingHash {fields : Fields} {place : String} {isVirtual : Bool}
    {value : Json} {hash : Option Int} (h : bindingHash fields place = .ok (isVirtual, value))
    (hv : hashValue value = .ok hash) : isVirtual = hash.isNone := by
  unfold bindingHash at h
  dsimp only at h
  split at h
  · cases h
    cases hv
    rfl
  · cases h
  · next hnull =>
    cases h
    cases hash with
    | some n => rfl
    | none =>
      unfold hashValue at hv
      split at hv
      · exact absurd ‹_› hnull
      · obtain ⟨n, _, hn⟩ := map_eq_ok.mp hv
        cases hn

theorem isVirtual_eq_of_method {names : KnownNames} {owner : String} {value : Json} {m : MethodDef}
    (h : method names owner value = .ok m) : m.isVirtual = m.hash.isNone := by
  unfold method at h
  obtain ⟨fields, _, h⟩ := bind_eq_ok.mp h
  obtain ⟨name, _, h⟩ := bind_eq_ok.mp h
  obtain ⟨⟨isVirtual, hash⟩, hbinding, h⟩ := bind_eq_ok.mp h
  dsimp only at h
  split at h
  · obtain ⟨_, _, h⟩ := bind_eq_ok.mp h
    obtain ⟨_, _, h⟩ := bind_eq_ok.mp h
    obtain ⟨_, _, h⟩ := bind_eq_ok.mp h
    obtain ⟨_, _, h⟩ := bind_eq_ok.mp h
    obtain ⟨args, _, h⟩ := bind_eq_ok.mp h
    obtain ⟨number, hnumber, h⟩ := bind_eq_ok.mp h
    rw [← pure_eq_ok.mp h]
    exact isVirtual_eq_of_bindingHash hbinding hnumber
  · obtain ⟨_, _, h⟩ := bind_eq_ok.mp h
    obtain ⟨args, _, h⟩ := bind_eq_ok.mp h
    obtain ⟨number, hnumber, h⟩ := bind_eq_ok.mp h
    rw [← pure_eq_ok.mp h]
    exact isVirtual_eq_of_bindingHash hbinding hnumber

theorem isVirtual_eq_of_classDef {names : KnownNames} {value : Json} {c : ClassDef}
    (h : classDef names value = .ok c) : ∀ m ∈ c.methods, m.isVirtual = m.hash.isNone := by
  unfold classDef at h
  simp only [bind_eq_ok, pure_eq_ok] at h
  obtain ⟨fields, _, name, _, items, _, methods, hmethods, _, _, _, _, _, _, _, _, _, _, _, _,
    rfl⟩ := h
  intro m hm
  obtain ⟨item, _, hitem⟩ := exists_left (mapM_eq_ok.mp hmethods) hm
  exact isVirtual_eq_of_method hitem

end Schema

namespace Registry

variable {r : Registry}

theorem isVirtual_eq_of_ofDocument {configuration : String} {document : Json}
    (h : ofDocument configuration document = .ok r) :
    ∀ c ∈ r.classes, ∀ m ∈ c.methods, m.isVirtual = m.hash.isNone := by
  obtain ⟨profile, _, h⟩ := bind_eq_ok.mp h
  obtain ⟨d, hd, h⟩ := bind_eq_ok.mp h
  unfold Schema.declarations at hd
  simp only [bind_eq_ok, pure_eq_ok] at hd
  obtain ⟨o, _, classes, hclasses, _, _, _, _, _, _, _, _, _, _, _, _, _, _, rfl⟩ := hd
  intro c hc
  rw [(keeps_of_build h).classes] at hc
  obtain ⟨item, _, hitem⟩ := exists_left (mapM_eq_ok.mp hclasses) hc
  exact Schema.isVirtual_eq_of_classDef hitem

end Registry

end EngineBindings
