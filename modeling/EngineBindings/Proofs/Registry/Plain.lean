import EngineBindings.Proofs.Schema.Resolved
import EngineBindings.Proofs.Target.Hosts

/-! Registries of plain names.

Where classes, methods and builtins go by identifiers, and enumerations are referred to by their
own name or by that of their owner and their own, every type in a signature refers to plain names
(`isPlain_of_callable`): what is spelled there is declared. -/
namespace EngineBindings

open EngineBindings.Text

/-- A name that is an identifier. -/
def Name.IsPlain (n : Name) : Prop :=
  n.text?.any isIdentifier = true

instance (n : Name) : Decidable n.IsPlain :=
  inferInstanceAs (Decidable (_ = _))

theorem Name.exists_of_isPlain {n : Name} (h : n.IsPlain) :
    ∃ s : String, n = s ∧ isIdentifier s = true := by
  unfold IsPlain at h
  cases hs : n.text? with
  | none =>
    rw [hs] at h
    cases h
  | some s =>
    rw [hs] at h
    exact ⟨s, eq_text_of_text? hs, h⟩

namespace Registry

variable {r : Registry}

/-- The names that a registry declares are plain, and so are references to enumerations. -/
structure PlainNames (r : Registry) : Prop where
  classes : ∀ c ∈ r.classes, c.name.IsPlain
  methods : ∀ c ∈ r.classes, ∀ m ∈ c.methods, m.name.IsPlain
  builtins : ∀ n ∈ r.builtins.map (·.name) ++ r.sizes.keys, n.IsPlain
  enumerations : ∀ m ∈ r.callables, ∀ type ∈ m.types, ∀ name ∈ type.leaf.enumeration?,
    isEnumReference name = true

instance (r : Registry) : Decidable r.PlainNames :=
  decidable_of_iff
    ((∀ c ∈ r.classes, c.name.IsPlain) ∧ (∀ c ∈ r.classes, ∀ m ∈ c.methods, m.name.IsPlain) ∧
      (∀ n ∈ r.builtins.map (·.name) ++ r.sizes.keys, n.IsPlain) ∧
      ∀ m ∈ r.callables, ∀ type ∈ m.types, ∀ name ∈ type.leaf.enumeration?,
        isEnumReference name = true)
    ⟨fun ⟨classes, methods, builtins, enumerations⟩ => ⟨classes, methods, builtins, enumerations⟩,
      fun h => ⟨h.classes, h.methods, h.builtins, h.enumerations⟩⟩

theorem isPlain_of_known (plain : r.PlainNames) {type : TypeRef} (known : r.Known type)
    (enumerations : ∀ name ∈ type.leaf.enumeration?, isEnumReference name = true) :
    type.IsPlain := by
  unfold TypeRef.IsPlain
  split
  · next name hleaf =>
    obtain ⟨c, hc, hname⟩ := known.object name hleaf
    obtain ⟨s, hs, identifier⟩ := Name.exists_of_isPlain (plain.classes c hc)
    rw [hname] at hs
    cases hs
    exact identifier
  · next name hleaf =>
    obtain ⟨s, hs, identifier⟩ := Name.exists_of_isPlain (plain.builtins _ (known.value name hleaf))
    cases hs
    exact identifier
  · next name hleaf => exact enumerations name (by rw [hleaf]; rfl)
  · next name hleaf => exact enumerations name (by rw [hleaf]; rfl)
  · trivial

/-- Every type in a signature refers to plain names. -/
theorem isPlain_of_callable {configuration : String} {document : Json}
    (h : ofDocument configuration document = .ok r) (plain : r.PlainNames) {m : MethodDef}
    (hm : m ∈ r.callables) : ∀ type ∈ m.types, type.IsPlain := by
  intro type htype
  exact isPlain_of_known plain (known_of_callable h hm htype) (plain.enumerations m hm type htype)

end Registry

end EngineBindings
