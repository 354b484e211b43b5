import EngineBindings.Proofs.Layout.Placed
import EngineBindings.Proofs.Layout.StructType

/-! What is declared without being checked.

The structures of emitted code are declared from the same entries that native structures are built
from, but nothing there looks at alignment: every layout is declared (`exists_declarationFields`),
while the platform agrees only with those that are aligned (`declared_iff_isAligned`). -/
namespace EngineBindings.Registry

open Attempt Relation

variable {r : Registry} {l : Layout Int}

/-! ### Declarations -/

/-- Whatever has a layout can be declared. -/
theorem exists_declarationFields {name : Name} (h : Regular r name) (hl : r.layout name = .ok l) :
    ∃ fields, r.declarationFields name = .ok fields := by
  obtain ⟨l', hl', holds⟩ := (layout_makes h.types name).resolve_right fun ⟨_, he⟩ => by
    rw [hl] at he
    cases he
  obtain rfl := Except.ok.inj (hl.symm.trans hl')
  obtain ⟨_, _, _, _, _, specs, hspecs⟩ := layout_eq_ok.mp hl
  have covers := Layout.covers_of_specs (h.size hl).1 hspecs
  have sizes : ∀ f ∈ l.sortedFields, 0 ≤ f.size := fun f hf =>
    size_nonneg h (holds f (l.sortedFields_perm.mem_iff.mp hf))
  have typed : ∀ spec ∈ specs, ∃ type, declaredType spec.content = .ok type := fun spec hspec => by
    rcases covers.mem_cases sizes (Int.le_refl 0) hspec with
      ⟨f, hf, rfl⟩ | ⟨count, hcount, low, high⟩
    · cases htype : f.scalar with
      | some type => exact ⟨_, by rw [LayoutField.spec, htype]; rfl⟩
      | none => exact ⟨_, by rw [LayoutField.spec, htype]; rfl⟩
    · have writable := Number.isWritable_of_small low (high.trans (h.size hl).2)
      exact ⟨("ctypes.c_uint8 * " ++ Number.decimal count : String), by
        rw [hcount, declaredType, if_pos writable]⟩
  unfold declarationFields
  rw [hl]
  show ∃ fields, (l.specs.mapError Fault.ofLayout >>= fun specs => _) = .ok fields
  rw [hspecs]
  refine exists_mapM_eq_ok.mpr fun spec hspec => ?_
  obtain ⟨type, htype⟩ := typed spec hspec
  exact ⟨_, bind_eq_ok.mpr ⟨type, mapError_eq_ok.mpr htype, rfl⟩⟩

/-- Every layout is declared, and the platform agrees with what is declared exactly if the layout
is aligned. -/
theorem declared_iff_isAligned {layouts : List (Layout Int)} (h : r.structLayouts = .ok layouts)
    (hl : l ∈ layouts) (regular : Regular r l.name) :
    (∃ fields, r.declarationFields l.name = .ok fields) ∧
      ((∃ s, r.structType l.name = .ok s) ↔ r.IsAligned l.name) :=
  ⟨exists_declarationFields regular (layout_of_structLayouts h hl),
    (structType_ends regular).returns_iff⟩

theorem boxes_declared : ∃ layouts, boxes.structLayouts = .ok layouts ∧
    (∃ l ∈ layouts, l.name = ("Box" : String)) ∧ ∃ l ∈ layouts, l.name = ("Tight" : String) := by
  have built : boxes.structLayouts.toOption.isSome := by cbv
  obtain ⟨layouts, h⟩ := exists_eq_ok built
  have found : ∀ name : String, (name : Name) ∈ boxes.sizedStructs →
      ∃ l ∈ layouts, l.name = (name : Name) := by
    intro name hname
    obtain ⟨n, hn, l, hl, hlayout⟩ := exists_structLayout h hname
    obtain ⟨_, _, _, _, rfl, _⟩ := layout_eq_ok.mp hlayout
    exact ⟨_, hl, Name.eq_text_of_beq (BEq.symm hn)⟩
  have structs : boxes.sizedStructs =
      [(("Item" : String) : Name), ("Box" : String), ("Tight" : String)] := rfl
  exact ⟨layouts, h, found "Box" (by simp [structs]), found "Tight" (by simp [structs])⟩

/-- The structures of a box are declared, and the platform agrees with them. One that is too tight
is declared all the same. -/
theorem declared_iff_isAligned_box : ∃ layouts, boxes.structLayouts = .ok layouts ∧
    (∃ l ∈ layouts, Regular boxes l.name ∧ (∃ fields, boxes.declarationFields l.name = .ok fields) ∧
      ∃ s, boxes.structType l.name = .ok s) ∧
    ∃ l ∈ layouts, Regular boxes l.name ∧ (∃ fields, boxes.declarationFields l.name = .ok fields) ∧
      ¬∃ s, boxes.structType l.name = .ok s := by
  obtain ⟨layouts, h, ⟨box, hbox, boxName⟩, tight, htight, tightName⟩ := boxes_declared
  have boxRegular : Regular boxes box.name := boxName ▸ boxes_regular "Box" (by decide)
  have tightRegular : Regular boxes tight.name := tightName ▸ boxes_regular "Tight" (by decide)
  obtain ⟨boxFields, boxBuilt⟩ := declared_iff_isAligned h hbox boxRegular
  obtain ⟨tightFields, tightBuilt⟩ := declared_iff_isAligned h htight tightRegular
  refine ⟨layouts, h, ⟨box, hbox, boxRegular, boxFields, boxBuilt.mpr ?_⟩,
    tight, htight, tightRegular, tightFields, fun built => ?_⟩
  · exact boxName ▸ boxes_isAligned
  · exact boxes_not_isAligned (tightName ▸ tightBuilt.mp built)

/-- A structure that is declared although the platform does not agree with it. -/
theorem declared_unchecked : ∃ layouts, boxes.structLayouts = .ok layouts ∧
    ∃ l ∈ layouts, l.name = ("Tight" : String) ∧
      (∃ fields, boxes.declarationFields ("Tight" : String) = .ok fields) ∧
      ∃ cause, boxes.structType ("Tight" : String) = .error (.ofLayout cause) := by
  obtain ⟨layouts, h, _, l, hl, name⟩ := boxes_declared
  have regular := boxes_regular "Tight" (by decide)
  refine ⟨layouts, h, l, hl, name, exists_declarationFields regular boxes_tight, ?_⟩
  rcases structType_ends regular with ⟨_, _, _, _, _, aligned⟩ | ⟨_, refused⟩
  · exact absurd aligned boxes_not_isAligned
  · exact refused

end EngineBindings.Registry
