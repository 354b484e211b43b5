import EngineBindings.Layout.Value
import EngineBindings.Proofs.Attempt
import EngineBindings.Proofs.Name
import Mathlib.Logic.Relation
import Mathlib.Order.MinMax

/-! Alignment of value types.

A scalar is aligned to its size, and a value type to the greatest alignment of its fields
(`FieldsAlign`). A layout is aligned when every field's offset is a multiple of that field's
alignment, and its size one of its own (`Layout.IsAligned`). A value type is aligned when it and
every value type nested in it, however deeply, has an aligned layout (`Registry.IsAligned`). -/
namespace EngineBindings

open Attempt

/-! ### What fields hold

A field holds a scalar or a value type of a declared size, and takes as many bytes as that
(`Holds`). Making a layout either succeeds, and then all its fields are of this kind, or stops at
a layout fault (`layout_makes`), provided that what a member is declared to hold is a
text and not `void` (`DeclaresTypes`). -/

/-- What a field holds, and that the field takes as many bytes. -/
inductive Holds (r : Registry) (f : LayoutField Int) : Prop
  | scalar (s : Scalar) (type : f.scalar = some (s.name : Name)) (noValue : f.nested = none)
    (size : f.size = s.size)
  | nested (t : Name) (noScalar : f.scalar = none) (type : f.nested = some t)
    (size : r.size? t = some f.size)

/-- Every member is declared to hold a type, by a text that does not spell `void`. -/
structure Registry.DeclaresTypes (r : Registry) : Prop where
  members : ∀ b ∈ r.builtins, ∀ m ∈ b.members, m.type.IsText ∧ m.type ≠ ("void" : Name)
  contents : ∀ entry ∈ r.offsets.entries, ∀ m ∈ entry.2, m.content.IsText

namespace Registry

variable {r : Registry} {name : Name} {l : Layout Int}

/-- Making something of a value type's declaration succeeds with a result that has a property, or
stops at a layout fault. -/
def Makes {α : Type} (x : Except Fault α) (P : α → Prop) : Prop :=
  (∃ a, x = .ok a ∧ P a) ∨ ∃ cause, x = .error (.ofLayout cause)

theorem Makes.bind {α β : Type} {x : Except Fault α} {f : α → Except Fault β} {P : α → Prop}
    {Q : β → Prop} (h : Makes x P) (hf : ∀ a, P a → Makes (f a) Q) : Makes (x >>= f) Q := by
  rcases h with ⟨a, rfl, ha⟩ | ⟨cause, rfl⟩
  · exact hf a ha
  · exact .inr ⟨cause, rfl⟩

theorem Makes.pure {α : Type} {a : α} {P : α → Prop} (h : P a) :
    Makes (Pure.pure a : Except Fault α) P :=
  .inl ⟨a, rfl, h⟩

theorem Makes.mapM {α β : Type} {f : α → Except Fault β} {P : β → Prop} {xs : List α}
    (h : ∀ x ∈ xs, Makes (f x) P) : Makes (xs.mapM f) fun ys => ∀ y ∈ ys, P y := by
  induction xs with
  | nil => exact .pure fun y hy => by cases hy
  | cons x xs ih =>
    obtain ⟨hx, hxs⟩ := List.forall_mem_cons.mp h
    rw [List.mapM_cons]
    exact hx.bind fun y hy => (ih hxs).bind fun ys hys =>
      .pure (List.forall_mem_cons.mpr ⟨hy, hys⟩)

theorem makes_mapError {α : Type} (x : Except LayoutFault α) :
    Makes (x.mapError .ofLayout) fun a => x = .ok a := by
  cases x with
  | error cause => exact .inr ⟨cause, rfl⟩
  | ok a => exact .inl ⟨a, rfl, rfl⟩

theorem makes_keyed {name : Name} (h : name.IsText) :
    Makes (name.keyed.mapError .value) fun key => key = name := by
  rw [Name.keyed_of_isText h]
  exact .inl ⟨name, rfl, rfl⟩

/-! ### Single fields -/

theorem holds_scalarField (name : Name) (offset : Int) (s : Scalar) :
    Holds r (scalarField name offset s) :=
  .scalar s rfl rfl rfl

theorem offsetField_makes {m : MemberOffset} (type : m.content.IsText) :
    Makes (r.offsetField name m) (Holds r) := by
  refine (makes_keyed type).bind ?_
  rintro content rfl
  split
  · exact .pure (holds_scalarField ..)
  · split
    · next size hsize => exact .pure (.nested m.content rfl rfl hsize)
    · exact .inr ⟨.unknownWidth name.display m.member.display m.content.display, rfl⟩

theorem memberField_makes {m : BuiltinMember} {offset : Int} (type : m.type.IsText)
    (notVoid : m.type ≠ ("void" : Name)) : Makes (r.memberField name offset m) (Holds r) := by
  refine (makes_keyed type).bind ?_
  rintro spelt rfl
  split
  · next primitive hprimitive =>
    cases primitive with
    | void =>
      obtain ⟨text, htext, hspelt⟩ := Option.bind_eq_some_iff.mp hprimitive
      unfold Primitive.ofName? at hspelt
      have spelt : Primitive.void.name = text := of_decide_eq_true (List.find?_some hspelt :)
      subst spelt
      exact absurd (Name.eq_text_of_text? htext) notVoid
    | bool | int | float | real => exact .pure (holds_scalarField ..)
  · split
    · next size hsize => exact .pure (.nested m.type rfl rfl hsize)
    · exact .inr ⟨.unknownMemberType name.display m.name.display m.type.display, rfl⟩

theorem sequentialFields_makes {members : List BuiltinMember} {offset : Int}
    (types : ∀ m ∈ members, m.type.IsText ∧ m.type ≠ ("void" : Name)) :
    Makes (r.sequentialFields name offset members) fun fields => ∀ f ∈ fields, Holds r f := by
  induction members generalizing offset with
  | nil => exact .pure fun f hf => by cases hf
  | cons m rest ih =>
    obtain ⟨⟨type, notVoid⟩, types⟩ := List.forall_mem_cons.mp types
    exact (memberField_makes type notVoid).bind fun f hf => (ih types).bind fun fields hfields =>
      .pure (List.forall_mem_cons.mpr ⟨hf, hfields⟩)

/-! ### Layouts -/

theorem layoutFields_makes (types : r.DeclaresTypes) :
    Makes (r.layoutFields name) fun fields => ∀ f ∈ fields, Holds r f := by
  unfold layoutFields
  split
  · split
    · next builtin hbuiltin =>
      exact sequentialFields_makes
        (types.members builtin (List.mem_reverse.mp (List.mem_of_find?_eq_some hbuiltin)))
    · exact .pure fun f hf => by cases hf
  · refine .mapM fun m hm => offsetField_makes ?_
    unfold memberOffsets at hm
    cases hfind : r.offsets.find? name with
    | none =>
      rw [hfind] at hm
      cases hm
    | some found =>
      rw [hfind] at hm
      obtain ⟨entry, hentry, rfl⟩ := Option.map_eq_some_iff.mp hfind
      exact types.contents entry (List.mem_of_find?_eq_some hentry) m hm

/-- A layout that is there has its parts from the declarations, and its bytes can be covered. -/
theorem layout_eq_ok : r.layout name = .ok l ↔ ∃ size fields, r.size? name = some size ∧
    r.layoutFields name = .ok fields ∧ l = ⟨name, builtinHost name, size, fields⟩ ∧
      ∃ specs, l.specs = .ok specs := by
  unfold Registry.layout
  constructor
  · intro h
    split at h
    · cases h
    · next size hsize =>
      obtain ⟨fields, hfields, h⟩ := bind_eq_ok.mp h
      obtain ⟨specs, hspecs, h⟩ := bind_eq_ok.mp h
      cases h
      exact ⟨size, fields, hsize, hfields, rfl, specs, mapError_eq_ok.mp hspecs⟩
  · rintro ⟨size, fields, hsize, hfields, rfl, specs, hspecs⟩
    rw [hsize]
    exact bind_eq_ok.mpr ⟨fields, hfields, bind_eq_ok.mpr ⟨specs, mapError_eq_ok.mpr hspecs, rfl⟩⟩

/-- Making a layout returns it with fields that hold what they have room for, or stops at a layout
fault. -/
theorem layout_makes (types : r.DeclaresTypes) (name : Name) :
    Makes (r.layout name) fun l => ∀ f ∈ l.fields, Holds r f := by
  unfold Registry.layout
  split
  · exact .inr ⟨.noSize name.display r.profile.name, rfl⟩
  · next size hsize =>
    exact (layoutFields_makes types).bind fun fields hfields =>
      (makes_mapError _).bind fun specs _ => .pure hfields

end Registry

/-! ### Aligned layouts -/

/-- The greatest alignment of fields, 1 where there are none. The alignment of a single field is
that of the fields it stands alone among. -/
inductive FieldsAlign (r : Registry) : List (LayoutField Int) → Nat → Prop
  | nil : FieldsAlign r [] 1
  | scalar {f : LayoutField Int} {rest : List (LayoutField Int)} {s : Scalar} {a : Nat}
    (type : f.scalar = some (s.name : Name)) (tail : FieldsAlign r rest a) :
    FieldsAlign r (f :: rest) (max s.size a)
  | nested {f : LayoutField Int} {rest : List (LayoutField Int)} {t : Name} {l : Layout Int}
    {b a : Nat} (noScalar : f.scalar = none) (type : f.nested = some t)
    (layout : r.layout t = .ok l) (inner : FieldsAlign r l.fields b)
    (tail : FieldsAlign r rest a) : FieldsAlign r (f :: rest) (max b a)

/-- The declared places of a layout's fields and its declared size agree with their alignments. -/
structure Layout.IsAligned (r : Registry) (l : Layout Int) : Prop where
  members : ∀ f ∈ l.fields, ∃ a, FieldsAlign r [f] a ∧ (a : Int) ∣ f.offset
  size : ∃ a, FieldsAlign r l.fields a ∧ (a : Int) ∣ l.size

namespace Registry

/-- A value type has a layout with a field that holds another value type. -/
def Nests (r : Registry) (outer inner : Name) : Prop :=
  ∃ l, r.layout outer = .ok l ∧ ∃ f ∈ l.fields, f.nested = some inner

/-- A value type and all value types that are nested in it, however deeply, have layouts that are
aligned. -/
def IsAligned (r : Registry) (name : Name) : Prop :=
  ∀ t, Relation.ReflTransGen r.Nests name t → ∃ l, r.layout t = .ok l ∧ l.IsAligned r

theorem isAligned_iff {r : Registry} {name : Name} : r.IsAligned name ↔
    (∃ l, r.layout name = .ok l ∧ l.IsAligned r) ∧ ∀ t, r.Nests name t → r.IsAligned t := by
  constructor
  · intro h
    exact ⟨h name .refl, fun t ht u hu => h u (.head ht hu)⟩
  · rintro ⟨top, inner⟩ t ht
    rcases ht.cases_head with rfl | ⟨u, hu, ht⟩
    · exact top
    · exact inner u hu t ht

end Registry

/-! ### Scalars by their names -/

theorem Scalar.ofName?_name (s : Scalar) : ofName? s.name = some s := by
  cases s with
  | int width signed => cases width <;> cases signed <;> decide
  | bool | float | double | pointer => decide

theorem Scalar.name_inj {s s' : Scalar} (h : (s.name : Name) = (s'.name : Name)) : s = s' := by
  have same : s.name = s'.name := by simpa using h
  have found := s.ofName?_name
  rw [same, s'.ofName?_name] at found
  exact (Option.some.inj found).symm

/-! ### The alignment of fields -/

namespace FieldsAlign

variable {r : Registry} {f : LayoutField Int} {fields fields' : List (LayoutField Int)} {a b : Nat}

theorem pos (h : FieldsAlign r fields a) : 0 < a := by
  induction h with
  | nil => exact Nat.one_pos
  | scalar _ _ ih => exact lt_max_of_lt_right ih
  | nested _ _ _ _ _ _ ih => exact lt_max_of_lt_right ih

/-- Fields have no two alignments. -/
theorem unique (h : FieldsAlign r fields a) (h' : FieldsAlign r fields b) : a = b := by
  induction h generalizing b with
  | nil => cases h' with
    | nil => rfl
  | @scalar f rest s a type _ ih => cases h' with
    | @scalar _ _ s' _ type' tail' =>
      obtain rfl := Scalar.name_inj (Option.some.inj (type.symm.trans type'))
      rw [ih tail']
    | nested noScalar' =>
      rw [type] at noScalar'
      cases noScalar'
  | nested noScalar type layout _ _ ihinner ih => cases h' with
    | scalar type' =>
      rw [noScalar] at type'
      cases type'
    | nested _ type' layout' inner' tail' =>
      obtain rfl := Option.some.inj (type.symm.trans type')
      obtain rfl := Except.ok.inj (layout.symm.trans layout')
      rw [ihinner inner', ih tail']

theorem cons_iff : FieldsAlign r (f :: fields) b ↔
    ∃ a c, FieldsAlign r [f] a ∧ FieldsAlign r fields c ∧ b = max a c := by
  constructor
  · intro h
    cases h with
    | scalar type tail =>
      exact ⟨_, _, .scalar type .nil, tail, by rw [max_assoc, max_eq_right (a := 1) tail.pos]⟩
    | nested noScalar type layout inner tail =>
      exact ⟨_, _, .nested noScalar type layout inner .nil, tail,
        by rw [max_assoc, max_eq_right (a := 1) tail.pos]⟩
  · rintro ⟨a, c, hf, hfields, rfl⟩
    cases hf with
    | scalar type tail =>
      cases tail
      rw [max_assoc, max_eq_right (a := 1) hfields.pos]
      exact .scalar type hfields
    | nested noScalar type layout inner tail =>
      cases tail
      rw [max_assoc, max_eq_right (a := 1) hfields.pos]
      exact .nested noScalar type layout inner hfields

theorem of_single (h : ∀ f ∈ fields, ∃ a, FieldsAlign r [f] a) : ∃ a, FieldsAlign r fields a := by
  induction fields with
  | nil => exact ⟨1, .nil⟩
  | cons f rest ih =>
    obtain ⟨⟨a, hf⟩, hrest⟩ := List.forall_mem_cons.mp h
    obtain ⟨c, hc⟩ := ih hrest
    exact ⟨_, cons_iff.mpr ⟨a, c, hf, hc, rfl⟩⟩

/-- The order of fields does not matter to their alignment. -/
theorem perm (hp : fields.Perm fields') (h : FieldsAlign r fields a) :
    FieldsAlign r fields' a := by
  induction hp generalizing a with
  | nil => exact h
  | cons f _ ih =>
    obtain ⟨b, c, hf, hrest, rfl⟩ := cons_iff.mp h
    exact cons_iff.mpr ⟨b, c, hf, ih hrest, rfl⟩
  | swap f g rest =>
    obtain ⟨b, c, hg, htail, rfl⟩ := cons_iff.mp h
    obtain ⟨b', c', hf, hrest, rfl⟩ := cons_iff.mp htail
    exact cons_iff.mpr ⟨b', _, hf, cons_iff.mpr ⟨b, c', hg, hrest, rfl⟩, max_left_comm ..⟩
  | trans _ _ ih ih' => exact ih' (ih h)

end FieldsAlign

end EngineBindings
