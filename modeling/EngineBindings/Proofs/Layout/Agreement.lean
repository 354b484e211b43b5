import EngineBindings.Layout.Native
import EngineBindings.Proofs.Attempt
import EngineBindings.Proofs.Layout.Alignment
import EngineBindings.Proofs.Layout.Covered

/-! Where the platform agrees with a layout.

A covered layout leaves no gaps between its entries, so the platform places each entry at the end
of the one before it unless an alignment forbids that. If the layout is aligned, none does, and
every field ends up where it is declared (`agrees_of_isAligned`). Conversely the platform only ever
places a field at a multiple of its alignment and rounds the size up to one, so that a layout it
agrees with is aligned (`checkNative_iff`). -/
namespace EngineBindings

open Attempt

/-! ### Where the platform puts the fields of a structure

Fields are placed one after another (`place`). Each lies at a multiple of its alignment
(`exists_placed`) and is found by its name where names are distinct (`field?_of_mem`). Placed at the
end of what is there already, a field stays where it is declared exactly if its alignment divides
the offset (`alignUp_eq_self_iff`). -/

theorem dvd_alignUp (n a : Nat) : a ∣ alignUp n a :=
  Nat.dvd_mul_left a _

theorem alignUp_eq_self_iff {n a : Nat} (ha : 0 < a) : alignUp n a = n ↔ a ∣ n := by
  constructor
  · intro h
    rw [← h]
    exact dvd_alignUp n a
  · rintro ⟨k, rfl⟩
    rw [alignUp, Nat.mul_add_div ha, Nat.div_eq_of_lt (by omega), Nat.add_zero, Nat.mul_comm]

namespace NativeStruct

/-! ### Placing fields one after another -/

/-- A structure without fields, before its size is rounded up. -/
def empty : NativeStruct := ⟨[], ⟨0, 1⟩⟩

/-- Puts fields one after another behind those placed so far. -/
def place (s : NativeStruct) (fields : List (String × Extent)) : NativeStruct :=
  fields.foldl (fun s field => s.push field.1 field.2) s

variable {s : NativeStruct} {fields : List (String × Extent)}

theorem place_cons (field : String × Extent) :
    s.place (field :: fields) = (s.push field.1 field.2).place fields :=
  rfl

theorem place_append (others : List (String × Extent)) :
    s.place (fields ++ others) = (s.place fields).place others :=
  List.foldl_append

theorem names_place : (s.place fields).fields.map (·.name) =
    s.fields.map (·.name) ++ fields.map (·.1) := by
  induction fields generalizing s with
  | nil => simp [place]
  | cons field rest ih =>
    rw [place_cons, ih]
    simp [push]

theorem subset_place : s.fields ⊆ (s.place fields).fields := by
  induction fields generalizing s with
  | nil => exact List.Subset.refl _
  | cons field rest ih =>
    have pushed : s.fields ⊆ (s.push field.1 field.2).fields := List.subset_append_left ..
    exact List.Subset.trans pushed ih

/-- Every field has a place of its size, at a multiple of its alignment. -/
theorem exists_placed {name : String} {e : Extent} (h : (name, e) ∈ fields) :
    ∃ f ∈ (s.place fields).fields, f.name = name ∧ f.size = e.size ∧ e.align ∣ f.offset := by
  induction fields generalizing s with
  | nil => cases h
  | cons field rest ih =>
    rw [place_cons]
    rcases List.mem_cons.mp h with rfl | h
    · let last : NativeField := ⟨name, alignUp s.extent.size e.align, e.size⟩
      have pushed : last ∈ (s.push name e).fields :=
        List.mem_append_right _ (List.mem_singleton_self _)
      exact ⟨last, subset_place pushed, rfl, rfl, dvd_alignUp ..⟩
    · exact ih h

/-- A field behind the end of what is there takes the end as its offset if its alignment allows. -/
theorem push_of_dvd (name : String) {e : Extent} (ha : 0 < e.align) (h : e.align ∣ s.extent.size) :
    s.push name e = ⟨s.fields ++ [⟨name, s.extent.size, e.size⟩],
      ⟨s.extent.size + e.size, max s.extent.align e.align⟩⟩ := by
  rw [push, (alignUp_eq_self_iff ha).mpr h]

/-- A field is found by its name where no other has it. -/
theorem field?_of_mem {f : NativeField} (distinct : (s.fields.map (·.name)).Nodup)
    (h : f ∈ s.fields) : s.field? f.name = some f := by
  have apart : s.fields.reverse.Pairwise fun a b => a.name ≠ b.name :=
    List.pairwise_reverse.mpr ((List.pairwise_map.mp distinct).imp fun hab => Ne.symm hab)
  have hf : f ∈ s.fields.reverse := List.mem_reverse.mpr h
  unfold field?
  generalize s.fields.reverse = placed at apart hf ⊢
  induction apart with
  | nil => cases hf
  | @cons first rest away _ ih =>
    rcases List.mem_cons.mp hf with rfl | hf
    · exact List.find?_cons_of_pos (by simp)
    · rw [List.find?_cons_of_neg (by simpa using away f hf), ih hf]

end NativeStruct

/-- A structure has the size that a layout declares, and each of its members in the declared
place. -/
structure NativeStruct.Agrees (s : NativeStruct) (l : Layout Int) : Prop where
  size : (s.extent.size : Int) = l.size
  members : ∀ f ∈ l.fields, ∃ text : String, f.name = text ∧ ∃ place, s.field? text = some place ∧
    (place.offset : Int) = f.offset ∧ (place.size : Int) = f.size

/-- What an entry of a covered layout holds, and the room that the platform gives it. -/
inductive HasExtent (r : Registry) : SpecContent Int → Extent → Prop
  | scalar (s : Scalar) : HasExtent r (.scalar s.name) s.extent
  | nested {t : Name} {l : Layout Int} {e : Extent} (layout : r.layout t = .ok l)
    (size : (e.size : Int) = l.size) (align : FieldsAlign r l.fields e.align) :
    HasExtent r (.nested (some t)) e
  | bytes (count : Nat) : HasExtent r (.bytes count) ⟨count, 1⟩

/-- An entry of a covered layout as a field that the platform is to place. -/
structure Fits (r : Registry) (spec : FieldSpec Int) (field : String × Extent) : Prop where
  name : spec.name = field.1
  extent : HasExtent r spec.content field.2

variable {r : Registry} {l : Layout Int} {f : LayoutField Int} {fs : List (LayoutField Int)}
  {size cursor start stop : Int} {specs gap : List (FieldSpec Int)}
  {fields : List (String × Extent)} {s : NativeStruct}

/-- A field's extent has the field's size and alignment. -/
theorem Holds.extent {e : Extent} (h : Holds r f) (he : HasExtent r f.spec.content e) :
    (e.size : Int) = f.size ∧ FieldsAlign r [f] e.align := by
  cases h with
  | scalar s type _ size =>
    simp only [LayoutField.spec, type] at he
    generalize hname : (s.name : Name) = name at he
    cases he with
    | scalar s' =>
      obtain rfl := Scalar.name_inj hname
      have single := FieldsAlign.scalar (r := r) type .nil
      rw [max_eq_left (b := 1) s.size_pos] at single
      exact ⟨size.symm, single⟩
  | nested t noScalar type size =>
    simp only [LayoutField.spec, noScalar, type] at he
    cases he with
    | nested layout hsize align =>
      have single := FieldsAlign.nested noScalar type layout align .nil
      rw [max_eq_left (b := 1) align.pos] at single
      obtain ⟨declared, _, hdeclared, _, rfl, _⟩ := Registry.layout_eq_ok.mp layout
      rw [size] at hdeclared
      exact ⟨hsize.trans (Option.some.inj hdeclared).symm, single⟩

theorem HasExtent.of_bytes {count : Int} {e : Extent} (h : HasExtent r (.bytes count) e) :
    (e.size : Int) = count ∧ e.align = 1 := by
  generalize hcontent : SpecContent.bytes count = content at h
  cases h with
  | bytes n =>
    cases hcontent
    exact ⟨rfl, rfl⟩
  | scalar | nested => cases hcontent

namespace NativeStruct

/-! ### Placing a covered layout's entries -/

theorem alignUp_one (n : Nat) : alignUp n 1 = n :=
  (alignUp_eq_self_iff Nat.one_pos).mpr (Nat.one_dvd n)

/-- What fills a gap leaves the alignment as it is and ends where the gap does. -/
theorem place_gap (h : Fills start gap stop) (fits : List.Forall₂ (Fits r) gap fields)
    (positive : 0 < s.extent.align) : (s.place fields).extent.align = s.extent.align ∧
      ((s.extent.size : Int) = start → ((s.place fields).extent.size : Int) = stop) := by
  cases h with
  | none =>
    cases fits
    exact ⟨rfl, id⟩
  | bytes name h =>
    cases fits with
    | @cons _ field _ _ fit none =>
      cases none
      obtain ⟨hsize, halign⟩ := fit.extent.of_bytes
      rw [place_cons, push, halign, alignUp_one]
      refine ⟨max_eq_left (b := 1) positive, fun hstart => ?_⟩
      show ((s.extent.size + field.2.size : Nat) : Int) = stop
      omega

/-- The alignment after placing all entries is the greatest one among the fields. -/
theorem align_place {a : Nat} (h : Covers size cursor fs specs)
    (fits : List.Forall₂ (Fits r) specs fields) (holds : ∀ f ∈ fs, Holds r f)
    (align : FieldsAlign r fs a) (positive : 0 < s.extent.align) :
    (s.place fields).extent.align = max s.extent.align a := by
  induction h generalizing fields s a with
  | rest h =>
    cases align
    rw [(place_gap h fits positive).1, max_eq_left (b := 1) positive]
  | @field cursor gap specs f fs h _ ih =>
    obtain ⟨filler, rest, rfl, hfiller, hrest⟩ := exists_append fits
    cases hrest with
    | @cons _ field _ rest fit hrest =>
      obtain ⟨hf, hfs⟩ := List.forall_mem_cons.mp holds
      obtain ⟨b, c, hb, hc, rfl⟩ := FieldsAlign.cons_iff.mp align
      have filled := (place_gap h hfiller positive).1
      have own : field.2.align = b := (hf.extent fit.extent).2.unique hb
      have pushed : ((s.place filler).push field.1 field.2).extent.align =
          max s.extent.align b := by
        rw [push, filled, own]
      have still : 0 < ((s.place filler).push field.1 field.2).extent.align := by
        rw [pushed]
        exact lt_max_of_lt_left positive
      rw [place_append, place_cons, ih hrest hfs hc still, pushed, max_assoc]

/-- The entries of an aligned layout end up where they are declared, one behind the other. -/
theorem place_of_aligned (h : Covers size cursor fs specs)
    (fits : List.Forall₂ (Fits r) specs fields) (holds : ∀ f ∈ fs, Holds r f)
    (aligned : ∀ f ∈ fs, ∃ a, FieldsAlign r [f] a ∧ (a : Int) ∣ f.offset)
    (positive : 0 < s.extent.align) (begin : (s.extent.size : Int) = cursor) :
    ((s.place fields).extent.size : Int) = size ∧
      ∀ f ∈ fs, ∃ place ∈ (s.place fields).fields, f.name = place.name ∧
        (place.offset : Int) = f.offset ∧ (place.size : Int) = f.size := by
  induction h generalizing fields s with
  | rest h => exact ⟨(place_gap h fits positive).2 begin, fun f hf => by cases hf⟩
  | @field cursor gap specs f fs h _ ih =>
    obtain ⟨filler, rest, rfl, hfiller, hrest⟩ := exists_append fits
    cases hrest with
    | @cons _ field _ rest fit hrest =>
      obtain ⟨hf, hfs⟩ := List.forall_mem_cons.mp holds
      obtain ⟨⟨a, ha, offset⟩, aligned⟩ := List.forall_mem_cons.mp aligned
      obtain ⟨halign, hsize⟩ := place_gap h hfiller positive
      have filled := hsize begin
      obtain ⟨own, hown⟩ := hf.extent fit.extent
      obtain rfl := hown.unique ha
      have divides : field.2.align ∣ (s.place filler).extent.size := by
        rw [← Int.natCast_dvd_natCast, filled]
        exact offset
      have pushed := push_of_dvd field.1 ha.pos divides
      obtain ⟨ends, places⟩ := ih (s := (s.place filler).push field.1 field.2) hrest hfs aligned
        (by rw [pushed]; exact lt_max_of_lt_right ha.pos)
        (by rw [pushed]; show ((_ + _ : Nat) : Int) = _; omega)
      rw [place_append, place_cons]
      refine ⟨ends, List.forall_mem_cons.mpr ⟨?_, places⟩⟩
      refine ⟨⟨field.1, (s.place filler).extent.size, field.2.size⟩, subset_place ?_, fit.name,
        filled, own⟩
      rw [pushed]
      exact List.mem_append_right _ (List.mem_singleton_self _)

end NativeStruct

/-! ### The structure of a layout -/

/-- What the platform is to place for a layout: fields that hold what they have room for, and an
extent for each entry that covers them, under a name of its own. -/
structure Prepared (r : Registry) (l : Layout Int) (fields : List (String × Extent)) : Prop where
  holds : ∀ f ∈ l.fields, Holds r f
  covered : ∃ specs, Covers l.size 0 l.sortedFields specs ∧ List.Forall₂ (Fits r) specs fields
  distinct : (fields.map (·.1)).Nodup

namespace Prepared

open NativeStruct (empty ofFields)

theorem holds_sortedFields (h : Prepared r l fields) : ∀ f ∈ l.sortedFields, Holds r f :=
  fun f hf => h.holds f (l.sortedFields_perm.mem_iff.mp hf)

theorem field?_eq (h : Prepared r l fields) {place : NativeField}
    (hplace : place ∈ (empty.place fields).fields) :
    (ofFields fields).field? place.name = some place := by
  refine NativeStruct.field?_of_mem (s := empty.place fields) ?_ hplace
  rw [NativeStruct.names_place]
  exact h.distinct

/-- Every field has a place at a multiple of its alignment. -/
theorem exists_place (h : Prepared r l fields) (hf : f ∈ l.fields) :
    ∃ text : String, f.name = text ∧ ∃ place, (ofFields fields).field? text = some place ∧
      ∃ a, FieldsAlign r [f] a ∧ a ∣ place.offset := by
  obtain ⟨specs, covers, fits⟩ := h.covered
  have hspec := covers.spec_mem (l.sortedFields_perm.mem_iff.mpr hf)
  obtain ⟨field, hfield, fit⟩ := exists_right fits hspec
  obtain ⟨place, hplace, hname, _, offset⟩ := NativeStruct.exists_placed (s := empty) hfield
  refine ⟨place.name, ?_, place, h.field?_eq hplace, field.2.align,
    ((h.holds f hf).extent fit.extent).2, offset⟩
  rw [hname]
  exact fit.name

/-- The structure is aligned as the layout's fields are. -/
theorem align (h : Prepared r l fields) :
    FieldsAlign r l.fields (ofFields fields).extent.align := by
  obtain ⟨specs, covers, fits⟩ := h.covered
  obtain ⟨a, ha⟩ := FieldsAlign.of_single fun f hf => by
    obtain ⟨_, _, _, _, a, ha, _⟩ := h.exists_place hf
    exact ⟨a, ha⟩
  have placed := NativeStruct.align_place (s := empty) covers fits h.holds_sortedFields
    (ha.perm l.sortedFields_perm.symm) Nat.one_pos
  have same : (ofFields fields).extent.align = a := placed.trans (max_eq_right (a := 1) ha.pos)
  rw [same]
  exact ha

/-- The platform agrees with a layout that is aligned. -/
theorem agrees_of_isAligned (h : Prepared r l fields) (aligned : l.IsAligned r) :
    (ofFields fields).Agrees l := by
  obtain ⟨specs, covers, fits⟩ := h.covered
  obtain ⟨ends, places⟩ := NativeStruct.place_of_aligned (s := empty) covers fits
    h.holds_sortedFields (fun f hf => aligned.members f (l.sortedFields_perm.mem_iff.mp hf))
    Nat.one_pos rfl
  refine ⟨?_, fun f hf => ?_⟩
  · obtain ⟨a, ha, hsize⟩ := aligned.size
    obtain rfl := ha.unique h.align
    have full : alignUp (empty.place fields).extent.size (ofFields fields).extent.align =
        (empty.place fields).extent.size := by
      rw [alignUp_eq_self_iff ha.pos, ← Int.natCast_dvd_natCast, ends]
      exact hsize
    exact (congrArg Int.ofNat full).trans ends
  · obtain ⟨place, hplace, hname, hoffset, hsize⟩ :=
      places f (l.sortedFields_perm.mem_iff.mpr hf)
    exact ⟨place.name, hname, place, h.field?_eq hplace, hoffset, hsize⟩

/-- A layout is aligned where the platform agrees with its size and its offsets. -/
theorem isAligned_of_offsets (h : Prepared r l fields)
    (size : ((ofFields fields).extent.size : Int) = l.size)
    (offsets : ∀ f ∈ l.fields, (f.name.text?.bind (ofFields fields).field?).map
      (Int.ofNat ·.offset) = some f.offset) : l.IsAligned r where
  members f hf := by
    obtain ⟨text, hname, place, hplace, a, ha, divides⟩ := h.exists_place hf
    have offset := offsets f hf
    rw [hname] at offset
    obtain ⟨place', hplace', hoffset⟩ := Option.map_eq_some_iff.mp offset
    obtain rfl := Option.some.inj (hplace.symm.trans hplace')
    exact ⟨a, ha, hoffset ▸ Int.natCast_dvd_natCast.mpr divides⟩
  size := ⟨_, h.align, size ▸ Int.natCast_dvd_natCast.mpr (dvd_alignUp ..)⟩

end Prepared

namespace Registry

/-! ### The check -/

theorem checkNative_makes : Makes (checkNative l s) fun _ => (s.extent.size : Int) = l.size ∧
    ∀ f ∈ l.fields, (f.name.text?.bind s.field?).map (Int.ofNat ·.offset) = some f.offset := by
  unfold checkNative
  split
  · exact .inr ⟨_, rfl⟩
  · next size =>
    dsimp only
    split
    · exact .inr ⟨_, rfl⟩
    · next none =>
      refine .inl ⟨(), rfl, not_not.mp size, fun f hf => ?_⟩
      simpa using List.find?_eq_none.mp none f hf

theorem checkNative_of_agrees (h : s.Agrees l) : checkNative l s = .ok () := by
  unfold checkNative
  rw [if_neg (not_not.mpr h.size)]
  dsimp only
  rw [List.find?_eq_none.mpr]
  intro f hf
  obtain ⟨text, hname, place, hplace, hoffset, _⟩ := h.members f hf
  rw [decide_eq_true_eq, not_not]
  show (f.name.text?.bind s.field?).map (Int.ofNat ·.offset) = some f.offset
  rw [hname]
  show (s.field? text).map (Int.ofNat ·.offset) = some f.offset
  rw [hplace, ← hoffset]
  rfl

/-- The check of a layout passes exactly if the layout is aligned. -/
theorem checkNative_iff (h : Prepared r l fields) :
    checkNative l (.ofFields fields) = .ok () ↔ l.IsAligned r := by
  constructor
  · intro hok
    rcases checkNative_makes (l := l) (s := .ofFields fields) with ⟨_, _, size, offsets⟩ | ⟨_, he⟩
    · exact h.isAligned_of_offsets size offsets
    · rw [hok] at he
      cases he
  · exact fun aligned => checkNative_of_agrees (h.agrees_of_isAligned aligned)

end Registry

end EngineBindings
