import EngineBindings.Layout.Given
import EngineBindings.Proofs.Insertion
import EngineBindings.Proofs.Layout.Tiling

/-! Layouts that a document spells out in whole numbers.

Such a layout is covered with quantities, in two walks along its fields, and the fields are put in
order by insertion. None of this shows: the entries are those of the layout with its whole numbers
(`givenSpecs_eq_ok_iff`). `specs_tile` says of both which layouts are covered, and with what. -/
namespace EngineBindings

open EngineBindings.Number (Quantity)

/-! ### Whole numbers as quantities -/

namespace Number.Quantity

theorem isBelow_whole (m n : Int) : (whole m).isBelow (whole n) = decide (m < n) := by
  have positive : (0 : Int) < twoPow (-Format.double.minScale).toNat := by
    exact_mod_cast twoPow_pos _
  simp only [isBelow, units?, Binary64.unitsOfInt]
  exact decide_eq_decide.mpr (Int.mul_lt_mul_right positive)

theorem whole_lt_whole (m n : Int) : whole m < whole n ↔ m < n := by
  show (whole m).isBelow (whole n) = true ↔ m < n
  rw [isBelow_whole, decide_eq_true_iff]

theorem whole_add_whole (m n : Int) : whole m + whole n = whole (m + n) :=
  rfl

end Number.Quantity

open Number.Quantity

/-- A field as a document writes it. -/
def LayoutField.written (f : LayoutField Int) : LayoutField Json :=
  ⟨f.name, .int f.offset, .int f.size, f.scalar, f.nested⟩

/-- A field with quantities for its place and its size. -/
def LayoutField.measured (f : LayoutField Int) : LayoutField Quantity :=
  ⟨f.name, .whole f.offset, .whole f.size, f.scalar, f.nested⟩

/-- An entry with a quantity for the length of padding. -/
def FieldSpec.measured (spec : FieldSpec Int) : FieldSpec Quantity :=
  ⟨spec.name, match spec.content with
    | .scalar type => .scalar type
    | .nested type => .nested type
    | .bytes count => .bytes (.whole count)⟩

/-- An entry as a document writes it. -/
def FieldSpec.written (spec : FieldSpec Int) : FieldSpec Json :=
  Layout.spelledSpec spec.measured

namespace Layout

/-- A layout as a document spells it out. -/
def written (l : Layout Int) : Layout Json :=
  ⟨l.name, l.host, .int l.size, l.fields.map LayoutField.written⟩

theorem measured_spec (f : LayoutField Int) : f.measured.spec = f.spec.measured := by
  unfold LayoutField.spec LayoutField.measured FieldSpec.measured
  cases f.scalar <;> rfl

theorem map_measured_padding (start stop : Int) :
    (padding start stop).map FieldSpec.measured = padding (whole start) (whole stop) := by
  unfold padding
  simp only [whole_lt_whole]
  split <;> rfl

/-- Covering with quantities is covering with the whole numbers that they are. -/
theorem cover_measured (l : Layout Int) (fields : List (LayoutField Quantity)) (cursor : Int)
    (fs : List (LayoutField Int)) :
    (⟨l.name, l.host, .whole l.size, fields⟩ : Layout Quantity).cover (.whole cursor)
        (fs.map LayoutField.measured) =
      (l.cover cursor fs).map (List.map FieldSpec.measured) := by
  induction fs generalizing cursor with
  | nil =>
    simp only [List.map_nil, cover, whole_lt_whole]
    split
    · rfl
    · rw [Except.map, map_measured_padding]
  | cons f rest ih =>
    have next : (⟨l.name, l.host, .whole l.size, fields⟩ : Layout Quantity).cover
        (f.measured.offset + f.measured.size) (rest.map LayoutField.measured) =
          (l.cover (f.offset + f.size) rest).map (List.map FieldSpec.measured) :=
      ih (f.offset + f.size)
    have overlap : f.measured.offset < .whole cursor ↔ f.offset < cursor := whole_lt_whole ..
    simp only [List.map_cons, cover, overlap, next]
    split
    · rfl
    · rw [Attempt.map_map, Attempt.map_map]
      congr
      funext specs
      rw [List.map_append, map_measured_padding, List.map_cons, measured_spec]
      rfl

theorem checkCombined_whole (m n : Int) : checkCombined (.whole m) (.whole n) = .ok () :=
  rfl

/-- Fields are refused for no other reason than that covering them would be. -/
theorem measuredFields_written (l : Layout Int) (cursor : Int) (fs : List (LayoutField Int)) :
    measuredFields l.name (.int l.size) (.whole cursor)
        (fs.map fun f => (f.written, Quantity.whole f.offset)) =
        .ok (fs.map LayoutField.measured, .whole l.size) ∨
      ∃ fault, l.cover cursor fs = .error fault ∧
        measuredFields l.name (.int l.size) (.whole cursor)
          (fs.map fun f => (f.written, Quantity.whole f.offset)) = .error (.ofLayout fault) := by
  induction fs generalizing cursor with
  | nil =>
    left
    simp only [List.map_nil, measuredFields, Json.quantity, Attempt.ok_bind, checkCombined_whole,
      ite_self]
    rfl
  | cons f rest ih =>
    have length : f.written.size.quantity = .ok (.whole f.size) := rfl
    simp only [List.map_cons, measuredFields, cover, whole_lt_whole, length, Attempt.ok_bind,
      checkCombined_whole, ite_self, whole_add_whole]
    split
    · exact .inr ⟨_, rfl, rfl⟩
    · rcases ih (f.offset + f.size) with measured | ⟨fault, refused, stopped⟩
      · rw [measured]
        exact .inl rfl
      · rw [refused, stopped]
        exact .inr ⟨fault, rfl, rfl⟩

theorem mapM_offset_written (fields : List (LayoutField Int)) :
    (fields.map LayoutField.written).mapM (·.offset.quantity) =
      .ok (fields.map fun f => Quantity.whole f.offset) := by
  induction fields with
  | nil => rfl
  | cons f rest ih =>
    rw [List.map_cons, List.mapM_cons, ih]
    rfl

/-- A layout that a document spells out in whole numbers is covered as it is with those numbers,
its fields put in order by insertion. -/
theorem givenSpecs_written (l : Layout Int) (given : l.fields ≠ []) :
    l.written.givenSpecs =
      ((l.cover 0 (sortByInsertion (fun f g => decide (f.offset < g.offset)) l.fields)).mapError
        .ofLayout).map (List.map FieldSpec.written) := by
  have fields : l.written.isOpaque = false := by
    simp [written, isOpaque, given]
  have offsets : l.written.fields.mapM (·.offset.quantity) =
      .ok (l.fields.map fun f => Quantity.whole f.offset) :=
    mapM_offset_written l.fields
  have order : sortByInsertion (fun a b => a.2.isBelow b.2)
      (l.written.fields.zip (l.fields.map fun f => Quantity.whole f.offset)) =
        (sortByInsertion (fun f g => decide (f.offset < g.offset)) l.fields).map fun f =>
          (f.written, Quantity.whole f.offset) := by
    rw [written, List.zip_map', sortByInsertion_map]
    simp only [isBelow_whole]
  unfold givenSpecs
  rw [fields, offsets, Attempt.ok_bind, order]
  generalize sortByInsertion (fun f g => decide (f.offset < g.offset)) l.fields = sorted
  show (measuredFields l.name (.int l.size) (.whole 0)
      (sorted.map fun f => (f.written, Quantity.whole f.offset)) >>= fun measured =>
        ((⟨l.name, l.host, measured.2, measured.1⟩ : Layout Quantity).cover (.whole 0)
          measured.1).mapError .ofLayout >>= fun specs => pure (specs.map spelledSpec)) = _
  -- The first walk stops where covering would, or the second one covers what it has measured.
  rcases measuredFields_written l 0 sorted with measured | ⟨fault, refused, stopped⟩
  · rw [measured, Attempt.ok_bind, cover_measured]
    cases l.cover 0 sorted with
    | error fault => rfl
    | ok specs =>
      show Except.ok ((specs.map FieldSpec.measured).map spelledSpec) = _
      rw [List.map_map]
      rfl
  · rw [refused, stopped]
    rfl

theorem ascending_sortByInsertion (fields : List (LayoutField Int)) :
    Ascending (sortByInsertion (fun f g => decide (f.offset < g.offset)) fields) := by
  show Ranked LayoutField.offset _
  exact ranked_sortByInsertion (fun _ _ => decide_eq_true_iff) fields

/-- A layout is covered with the same entries when a document spells it out. -/
theorem givenSpecs_eq_ok_iff {l : Layout Int} (given : l.fields ≠ [])
    (sizes : ∀ f ∈ l.fields, 0 < f.size) {entries : List (FieldSpec Json)} :
    l.written.givenSpecs = .ok entries ↔
      ∃ specs, l.specs = .ok specs ∧ specs.map FieldSpec.written = entries := by
  rw [givenSpecs_written l given, Attempt.map_eq_ok]
  refine exists_congr fun specs => and_congr_left fun _ => ?_
  rw [Attempt.mapError_eq_ok]
  exact cover_perm given sizes rfl (sortByInsertion_perm _ _) (ascending_sortByInsertion _)

/-! ### What covering gives -/

/-- A half space in sixteen bytes, its distance declared in front of its normal. -/
def halfSpace : Layout Int :=
  ⟨("HalfSpace" : String), ("HalfSpace" : String), 16,
    [⟨("d" : String), 12, 4, some ("c_float" : String), none⟩,
      ⟨("normal" : String), 0, 8, none, some ("Vector2" : String)⟩]⟩

end Layout

end EngineBindings
