import EngineBindings.Layout.Basic
import EngineBindings.Proofs.Attempt

/-! What the entries of a covered layout are.

The entries are the fields in order of their offsets, each behind what fills the gap in front of
it, and behind the last one what fills the rest (`Covers`). A gap is filled by one run of bytes if
there is anything to fill (`Fills`). Where no field has a negative size, the entries stay inside
the layout, so that no run of bytes is longer than it (`Covers.mem_cases`). -/
namespace EngineBindings

open Attempt

/-- Entries that fill the bytes from one place to another: none, or one run of bytes. -/
inductive Fills (start : Int) : List (FieldSpec Int) → Int → Prop
  | none : Fills start [] start
  | bytes (name : Name) {stop : Int} (h : start < stop) :
    Fills start [⟨name, .bytes (stop - start)⟩] stop

theorem fills_padding {start stop : Int} (h : start ≤ stop) :
    Fills start (padding start stop) stop := by
  unfold padding
  split
  · next hlt => exact .bytes _ hlt
  · next hge =>
    obtain rfl : start = stop := by omega
    exact .none

theorem Fills.le {start stop : Int} {gap : List (FieldSpec Int)} (h : Fills start gap stop) :
    start ≤ stop := by
  cases h with
  | none => exact Int.le_refl _
  | bytes name h => exact Int.le_of_lt h

theorem Fills.bytes_of_mem {start stop : Int} {gap : List (FieldSpec Int)} {spec : FieldSpec Int}
    (h : Fills start gap stop) (hspec : spec ∈ gap) :
    ∃ count, spec.content = .bytes count ∧ 0 < count ∧ count ≤ stop - start := by
  cases h with
  | none => cases hspec
  | bytes name h =>
    rw [List.mem_singleton.mp hspec]
    exact ⟨stop - start, rfl, by omega, Int.le_refl _⟩

/-- Entries that cover the bytes from a place to the end with fields. -/
inductive Covers (size : Int) : Int → List (LayoutField Int) → List (FieldSpec Int) → Prop
  | rest {cursor : Int} {gap : List (FieldSpec Int)} (h : Fills cursor gap size) :
    Covers size cursor [] gap
  | field {cursor : Int} {gap specs : List (FieldSpec Int)} {f : LayoutField Int}
    {fields : List (LayoutField Int)} (h : Fills cursor gap f.offset)
    (tail : Covers size (f.offset + f.size) fields specs) :
    Covers size cursor (f :: fields) (gap ++ f.spec :: specs)

theorem Layout.covers_of_cover {l : Layout Int} {cursor : Int} {fields : List (LayoutField Int)}
    {specs : List (FieldSpec Int)} (h : l.cover cursor fields = .ok specs) :
    Covers l.size cursor fields specs := by
  induction fields generalizing cursor specs with
  | nil =>
    unfold cover at h
    split at h
    · cases h
    · next hcursor =>
      cases h
      exact .rest (fills_padding (by omega))
  | cons f fields ih =>
    unfold cover at h
    split at h
    · cases h
    · next hcursor =>
      obtain ⟨rest, hrest, rfl⟩ := map_eq_ok.mp h
      exact .field (fills_padding (by omega)) (ih hrest)

theorem Layout.sortedFields_perm (l : Layout Int) : l.sortedFields.Perm l.fields :=
  List.mergeSort_perm ..

/-- The entries of a layout cover it from its first byte on. -/
theorem Layout.covers_of_specs {l : Layout Int} {specs : List (FieldSpec Int)}
    (size : 0 ≤ l.size) (h : l.specs = .ok specs) : Covers l.size 0 l.sortedFields specs := by
  unfold Layout.specs at h
  split at h
  · next hopaque =>
    have none : l.sortedFields = [] := by
      rw [← List.perm_nil, ← List.isEmpty_iff.mp hopaque]
      exact l.sortedFields_perm
    cases h
    rw [none]
    unfold unknownStorage
    split
    · next hzero => exact .rest (hzero ▸ .none)
    · next hsize =>
      have positive : 0 < l.size := Int.lt_iff_le_and_ne.mpr ⟨size, Ne.symm hsize⟩
      simpa using Covers.rest (Fills.bytes ("_opaque" : String) positive)
  · exact covers_of_cover h

namespace Covers

variable {size cursor : Int} {fields : List (LayoutField Int)} {specs : List (FieldSpec Int)}

/-- Covering goes forward, as long as no field goes back. -/
theorem le (h : Covers size cursor fields specs) (sizes : ∀ f ∈ fields, 0 ≤ f.size) :
    cursor ≤ size := by
  induction h with
  | rest h => exact h.le
  | @field cursor gap specs f fields h _ ih =>
    obtain ⟨hf, hfields⟩ := List.forall_mem_cons.mp sizes
    have forward := ih hfields
    have gap := h.le
    omega

theorem spec_mem (h : Covers size cursor fields specs) {f : LayoutField Int} (hf : f ∈ fields) :
    f.spec ∈ specs := by
  induction h with
  | rest h => cases hf
  | @field cursor gap specs first fields h _ ih =>
    rcases List.mem_cons.mp hf with rfl | hf
    · exact List.mem_append_right _ (List.mem_cons_self ..)
    · exact List.mem_append_right _ (List.mem_cons_of_mem _ (ih hf))

/-- An entry is a field, or a run of bytes that is not longer than the layout. -/
theorem mem_cases (h : Covers size cursor fields specs) (sizes : ∀ f ∈ fields, 0 ≤ f.size)
    (start : 0 ≤ cursor) {spec : FieldSpec Int} (hspec : spec ∈ specs) :
    (∃ f ∈ fields, spec = f.spec) ∨
      ∃ count, spec.content = .bytes count ∧ 0 ≤ count ∧ count ≤ size := by
  induction h with
  | rest h =>
    obtain ⟨count, hcount, positive, bound⟩ := h.bytes_of_mem hspec
    exact .inr ⟨count, hcount, by omega, by omega⟩
  | @field cursor gap specs f fields h tail ih =>
    obtain ⟨hf, hfields⟩ := List.forall_mem_cons.mp sizes
    have forward := tail.le hfields
    have begin := h.le
    rcases List.mem_append.mp hspec with hspec | hspec
    · obtain ⟨count, hcount, positive, bound⟩ := h.bytes_of_mem hspec
      exact .inr ⟨count, hcount, by omega, by omega⟩
    · rcases List.mem_cons.mp hspec with rfl | hspec
      · exact .inl ⟨f, List.mem_cons_self .., rfl⟩
      · rcases ih hfields (by omega) hspec with ⟨f', hf', heq⟩ | bytes
        · exact .inl ⟨f', List.mem_cons_of_mem _ hf', heq⟩
        · exact .inr bytes

end Covers

end EngineBindings
