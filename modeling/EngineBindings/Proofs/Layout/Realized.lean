import EngineBindings.Proofs.Layout.Agreement
import Mathlib.Data.List.Nodup
import Mathlib.Data.List.Perm.Subperm

/-! Which value types have a native structure.

Building the structure of a value type builds those of the value types nested in it first. The
types that a build is inside of all lead to the one that it is at (`Descent`), so that where no
type contains itself none is met twice (`Descent.length_le`). One step of the recursion then ends as
alignment says, provided that the steps inside it do (`ends_of_layout`). -/
namespace EngineBindings

open Attempt Relation

/-! ### Names -/

/-- Names that a structure type keeps for itself. -/
def reservedFieldNames : List String :=
  takenFieldNames ++ fixedFieldNames ++ memberListName :: bytesName :: makingNames

/-- Distinct texts, none of which a structure type keeps for itself. -/
structure PlainNames (names : List Name) : Prop where
  plain : ∀ name ∈ names, ∃ text : String, name = text ∧ text ∉ reservedFieldNames
  distinct : names.Nodup

theorem fieldName_eq_ok {name : Name} {text : String} : fieldName name = .ok text ↔
    name = text ∧ text ∉ takenFieldNames ∧ text ∉ fixedFieldNames := by
  unfold fieldName
  constructor
  · intro h
    split at h
    · cases h
    · next found hfound =>
      split at h
      · cases h
      · next htaken =>
        split at h
        · cases h
        · next hfixed =>
          cases h
          exact ⟨Name.eq_text_of_text? hfound, by simpa using htaken, by simpa using hfixed⟩
  · rintro ⟨rfl, htaken, hfixed⟩
    show (if takenFieldNames.contains text then _ else
      if fixedFieldNames.contains text then _ else _) = _
    rw [if_neg (by simpa using htaken), if_neg (by simpa using hfixed)]

theorem fieldNames_of_plain {names : List Name} (h : PlainNames names) :
    ∃ texts : List String, fieldNames names = .ok texts ∧
      names = texts.map (fun text : String => (text : Name)) ∧
      ∀ text ∈ texts, text ∉ reservedFieldNames := by
  have each : ∀ name ∈ names, ∃ text, fieldName name = .ok text := fun name hname => by
    obtain ⟨text, rfl, plain⟩ := h.plain name hname
    exact ⟨text, fieldName_eq_ok.mpr ⟨rfl,
      fun taken => plain (List.mem_append_left _ (List.mem_append_left _ taken)),
      fun fixed => plain (List.mem_append_left _ (List.mem_append_right _ fixed))⟩⟩
  obtain ⟨texts, htexts⟩ := exists_mapM_eq_ok.mpr each
  have named := mapM_eq_ok.mp htexts
  have same : texts.map (fun text : String => (text : Name)) = names.map id :=
    map_eq_map named fun name _ text htext => (fieldName_eq_ok.mp htext).1.symm
  rw [List.map_id] at same
  have plain : ∀ text ∈ texts, text ∉ reservedFieldNames := fun text htext => by
    obtain ⟨_, hname, plain⟩ := h.plain text (same ▸ List.mem_map_of_mem htext)
    cases hname
    exact plain
  refine ⟨texts, ?_, same.symm, plain⟩
  unfold fieldNames
  refine bind_eq_ok.mpr ⟨texts, htexts, if_neg fun hlist => ?_⟩
  exact plain memberListName (by simpa using hlist) (by decide)

theorem structName_builtinHost {text : String} (h : Char.ofNat 0 ∉ text.toList) :
    ∃ host, structName (builtinHost (text : Name)) = .ok host := by
  refine ⟨builtinHostName text, ?_⟩
  have plain : Char.ofNat 0 ∉ (builtinHostName text).toList := by
    unfold builtinHostName
    cases hrename : builtinRenames.lookup text with
    | none => exact h
    | some host =>
      have plain : ∀ entry ∈ builtinRenames, Char.ofNat 0 ∉ entry.2.toList := by decide
      obtain ⟨before, behind, hmem, _⟩ := List.lookup_eq_some_iff.mp hrename
      exact plain (text, host) (hmem ▸ List.mem_append_right _ (List.mem_cons_self ..))
  exact if_neg (by simpa using plain)

/-! ### Types that can be built -/

/-- A value type among declarations of values that exist: sizes are in bounds, members hold types,
the type does not contain itself, and it and all types nested in it have distinct plain entries. -/
structure Simple (r : Registry) (name : Name) : Prop where
  sizes : ∀ entry ∈ r.sizes.entries, 0 ≤ entry.2 ∧ entry.2 ≤ Number.twoPow 31
  types : r.DeclaresTypes
  unlooped : ¬TransGen r.Nests name name
  plain : ∀ t, ReflTransGen r.Nests name t → ∀ l specs, r.layout t = .ok l → l.specs = .ok specs →
    PlainNames (specs.map (·.name))

/-- A value type whose structure can only fail to agree with its layout: no type nested in it
contains itself or is called by what cannot name a structure. -/
structure Regular (r : Registry) (name : Name) : Prop extends Simple r name where
  named : ∀ t, ReflTransGen r.Nests name t →
    ∃ text : String, t = text ∧ Char.ofNat 0 ∉ text.toList
  acyclic : ∀ t, ReflTransGen r.Nests name t → ¬TransGen r.Nests t t

/-- A structure that is what a layout declares. -/
structure NativeStruct.Realizes (r : Registry) (s : NativeStruct) (l : Layout Int) : Prop
    extends s.Agrees l where
  align : FieldsAlign r l.fields s.extent.align
  /-- The default value is as many zero bytes as are declared. -/
  zero : s.zero = .ok (List.replicate l.size.toNat 0)

variable {r : Registry} {root t u : Name} {inside : List Name} {l : Layout Int}

theorem Regular.size (h : Regular r root) (hl : r.layout t = .ok l) :
    0 ≤ l.size ∧ l.size ≤ Number.twoPow 31 := by
  obtain ⟨size, _, hsize, _, rfl, _⟩ := Registry.layout_eq_ok.mp hl
  obtain ⟨entry, hentry, rfl⟩ := Option.map_eq_some_iff.mp hsize
  exact h.sizes entry (List.mem_of_find?_eq_some hentry)

/-- Types that a build is inside of, on its way from the first to the one it is at. -/
structure Descent (r : Registry) (root : Name) (inside : List Name) (t : Name) : Prop where
  within : ReflTransGen r.Nests root t
  distinct : inside.Nodup
  above : ∀ p ∈ inside, ReflTransGen r.Nests root p ∧ TransGen r.Nests p t

namespace Descent

theorem nil : Descent r root [] root where
  within := .refl
  distinct := .nil
  above p hp := by cases hp

theorem fresh (h : Regular r root) (descent : Descent r root inside t) : t ∉ inside :=
  fun hmem => h.acyclic t descent.within (descent.above t hmem).2

theorem contains_eq_false (h : Regular r root) (descent : Descent r root inside t) :
    inside.contains t = false := by
  obtain ⟨text, rfl, _⟩ := h.named t descent.within
  rw [Bool.eq_false_iff, ne_eq, Name.contains_iff_mem_of_isText (Name.isText_text text)]
  exact descent.fresh h

theorem cons (h : Regular r root) (descent : Descent r root inside t) (nests : r.Nests t u) :
    Descent r root (t :: inside) u where
  within := descent.within.tail nests
  distinct := List.nodup_cons.mpr ⟨descent.fresh h, descent.distinct⟩
  above := List.forall_mem_cons.mpr ⟨⟨descent.within, .single nests⟩,
    fun p hp => ⟨(descent.above p hp).1, (descent.above p hp).2.tail nests⟩⟩

/-- A descent is not longer than there are types of a declared size. -/
theorem length_le (h : Regular r root) (descent : Descent r root inside t) :
    inside.length ≤ r.sizes.entries.length := by
  have sized : inside ⊆ r.sizes.entries.map (·.1) := fun p hp => by
    obtain ⟨within, leads⟩ := descent.above p hp
    obtain ⟨u, ⟨l, hl, _⟩, _⟩ := TransGen.head'_iff.mp leads
    obtain ⟨size, _, hsize, _⟩ := Registry.layout_eq_ok.mp hl
    obtain ⟨entry, hentry, _⟩ := Option.map_eq_some_iff.mp hsize
    obtain ⟨text, rfl, _⟩ := h.named p within
    have same := List.find?_some hentry
    rw [← Name.eq_text_of_beq same]
    exact List.mem_map_of_mem (List.mem_of_find?_eq_some hentry)
  simpa using (descent.distinct.subperm sized).length_le

end Descent

theorem scalarExtent_name (s : Scalar) : scalarExtent (s.name : Name) = s.extent := by
  show ((Scalar.ofName? s.name).map Scalar.extent).getD ⟨0, 1⟩ = _
  rw [s.ofName?_name]
  rfl

namespace Registry

/-! ### One step -/

/-- The room that the platform gives to what an entry holds, inside the types of `inside`. -/
def contentExtent (r : Registry) (fuel : Nat) (inside : List Name) :
    SpecContent Int → Except Fault Extent
  | .scalar type => pure (scalarExtent type)
  | .nested type => (r.structTypeInside fuel inside (type.getD default)).map (·.extent)
  | .bytes count => (bytesExtent count).mapError .value

theorem structTypeInside_succ {fuel : Nat} {host : String} {specs : List (FieldSpec Int)}
    {texts : List String} (fresh : inside.contains t = false) (hl : r.layout t = .ok l)
    (hspecs : l.specs = .ok specs) (hhost : structName l.host = .ok host)
    (htexts : fieldNames (specs.map (·.name)) = .ok texts) :
    r.structTypeInside (fuel + 1) inside t =
      specs.mapM (fun spec => r.contentExtent fuel (t :: inside) spec.content) >>= fun extents =>
        (checkNative l (.ofFields (texts.zip extents))).map fun _ =>
          .ofFields (texts.zip extents) := by
  unfold structTypeInside
  rw [fresh, hl]
  show (l.specs.mapError Fault.ofLayout >>= fun specs => _) = _
  rw [hspecs]
  show (specs.mapM (fun spec => r.contentExtent fuel (t :: inside) spec.content) >>=
    fun extents => _) = _
  refine congrArg _ (funext fun extents => ?_)
  rw [hhost]
  show ((fieldNames (specs.map (·.name))).mapError Fault.value >>= fun names => _) = _
  rw [htexts]
  show (checkNative l (.ofFields (texts.zip extents)) >>= fun _ => _) = _
  cases checkNative l (.ofFields (texts.zip extents)) <;> rfl

/-- How building the structure of a value type ends: with one that is what the layout declares if
the type is aligned, and with a layout fault otherwise. -/
def Ends (r : Registry) (t : Name) (x : Except Fault NativeStruct) : Prop :=
  (∃ s l, x = .ok s ∧ r.layout t = .ok l ∧ s.Realizes r l ∧ r.IsAligned t) ∨
    ¬r.IsAligned t ∧ ∃ cause, x = .error (.ofLayout cause)

theorem fits_zip {specs : List (FieldSpec Int)} {texts : List String} {extents : List Extent}
    (sized : List.Forall₂ (fun spec e => HasExtent r spec.content e) specs extents)
    (named : specs.map (·.name) = texts.map fun text : String => (text : Name)) :
    List.Forall₂ (Fits r) specs (texts.zip extents) := by
  induction sized generalizing texts with
  | nil =>
    rw [List.map_nil, eq_comm, List.map_eq_nil_iff] at named
    subst named
    exact .nil
  | cons extent _ ih =>
    obtain ⟨text, texts, rfl, name, named⟩ := List.map_eq_cons_iff.mp named.symm
    exact .cons ⟨name.symm, extent⟩ (ih named.symm)

/-- A structure whose fields are called by plain names has a default value, all of it zero. -/
theorem zero_of_plain {fields : List (String × Extent)} {size : Int}
    (plain : ∀ text ∈ fields.map (·.1), text ∉ reservedFieldNames)
    (sized : ((NativeStruct.ofFields fields).extent.size : Int) = size)
    (small : size ≤ Number.twoPow 31) :
    (NativeStruct.ofFields fields).zero = .ok (List.replicate size.toNat 0) := by
  have bound : maxValueSize = 1099511627776 := rfl
  have most : Number.twoPow 31 = 2147483648 := rfl
  have names : (NativeStruct.ofFields fields).fields.map (·.name) = fields.map (·.1) :=
    NativeStruct.names_place (s := .empty)
  unfold NativeStruct.zero
  rw [if_neg, if_neg (by omega), ← sized]
  · rfl
  · intro taken
    obtain ⟨f, hf, hname⟩ := List.any_eq_true.mp taken
    have hplain := plain f.name (names ▸ List.mem_map_of_mem hf)
    exact hplain (List.mem_append_right _ (List.mem_cons_of_mem _ (by simpa using hname)))

theorem bytesExtent_eq_ok {count : Int} (low : 0 ≤ count) (high : count ≤ Number.twoPow 31) :
    bytesExtent count = .ok ⟨count.toNat, 1⟩ := by
  have bound : Number.twoPow 63 = 9223372036854775808 := rfl
  have most : Number.twoPow 31 = 2147483648 := rfl
  unfold bytesExtent
  rw [if_neg (by omega), if_neg (by omega)]

/-- The check settles the build of a type that nests nothing but aligned types. -/
theorem ends_of_prepared {fields : List (String × Extent)} (h : Regular r root)
    (hl : r.layout t = .ok l) (prepared : Prepared r l fields)
    (plain : ∀ text ∈ fields.map (·.1), text ∉ reservedFieldNames)
    (nested : ∀ u, r.Nests t u → r.IsAligned u) :
    Ends r t ((checkNative l (.ofFields fields)).map fun _ => .ofFields fields) := by
  rcases checkNative_makes (l := l) (s := .ofFields fields) with ⟨_, hok, size, _⟩ | ⟨cause, he⟩
  · have aligned := (checkNative_iff prepared).mp hok
    have realizes : NativeStruct.Realizes r (.ofFields fields) l :=
      ⟨prepared.agrees_of_isAligned aligned, prepared.align,
        zero_of_plain plain size (h.size hl).2⟩
    exact .inl ⟨_, l, by rw [hok]; rfl, hl, realizes, isAligned_iff.mpr ⟨⟨l, hl, aligned⟩, nested⟩⟩
  · refine .inr ⟨fun aligned => ?_, cause, by rw [he]; rfl⟩
    obtain ⟨⟨l', hl', aligned⟩, _⟩ := isAligned_iff.mp aligned
    obtain rfl := Except.ok.inj (hl.symm.trans hl')
    rw [(checkNative_iff prepared).mpr aligned] at he
    cases he

section Step

variable {fuel : Nat} {specs : List (FieldSpec Int)} (h : Regular r root)
  (descent : Descent r root inside t) (hl : r.layout t = .ok l)
  (holds : ∀ f ∈ l.fields, Holds r f)
  (covers : Covers l.size 0 l.sortedFields specs)
  (inner : ∀ u, r.Nests t u → Ends r u (r.structTypeInside fuel (t :: inside) u))

include h in
theorem size_nonneg {f : LayoutField Int} (hf : Holds r f) : 0 ≤ f.size := by
  cases hf with
  | scalar s _ _ size => exact size ▸ Int.natCast_nonneg _
  | nested u _ _ size =>
    obtain ⟨entry, hentry, hsize⟩ := Option.map_eq_some_iff.mp size
    exact hsize ▸ (h.sizes entry (List.mem_of_find?_eq_some hentry)).1

include h hl holds covers inner in
/-- An entry gets the room that it has in an aligned layout, or stops the build of a type that is
not aligned. -/
theorem contentExtent_cases {spec : FieldSpec Int} (hspec : spec ∈ specs) :
    (∃ e, r.contentExtent fuel (t :: inside) spec.content = .ok e ∧ HasExtent r spec.content e ∧
      ∀ u, spec.content = .nested (some u) → r.IsAligned u) ∨
    ¬r.IsAligned t ∧
      ∃ cause, r.contentExtent fuel (t :: inside) spec.content = .error (.ofLayout cause) := by
  have sizes : ∀ f ∈ l.sortedFields, 0 ≤ f.size := fun f hf =>
    size_nonneg h (holds f (l.sortedFields_perm.mem_iff.mp hf))
  rcases covers.mem_cases sizes (Int.le_refl 0) hspec with ⟨f, hf, rfl⟩ | ⟨count, hcount, low, high⟩
  · have hf := l.sortedFields_perm.mem_iff.mp hf
    cases holds f hf with
    | scalar s type _ _ =>
      have content : f.spec.content = .scalar (s.name : Name) := by simp [LayoutField.spec, type]
      rw [content]
      exact .inl ⟨s.extent, congrArg Except.ok (scalarExtent_name s), .scalar s,
        fun u hu => by cases hu⟩
    | nested u noScalar type _ =>
      have content : f.spec.content = .nested (some u) := by
        simp [LayoutField.spec, noScalar, type]
      have nests : r.Nests t u := ⟨l, hl, f, hf, type⟩
      rw [content]
      rcases inner u nests with ⟨s, l', hs, hl', realizes, aligned⟩ | ⟨unaligned, cause, hcause⟩
      · refine .inl ⟨s.extent, ?_, .nested hl' realizes.size realizes.align, ?_⟩
        · exact map_eq_ok.mpr ⟨s, hs, rfl⟩
        · intro u' hu'
          cases hu'
          exact aligned
      · refine .inr ⟨fun aligned => unaligned ((isAligned_iff.mp aligned).2 u nests), cause, ?_⟩
        show (r.structTypeInside fuel (t :: inside) u).map (·.extent) = _
        rw [hcause]
        rfl
  · rw [hcount]
    refine .inl ⟨⟨count.toNat, 1⟩, ?_, ?_, fun u hu => by cases hu⟩
    · show (bytesExtent count).mapError Fault.value = _
      rw [bytesExtent_eq_ok low (high.trans (h.size hl).2)]
      rfl
    · obtain ⟨n, rfl⟩ := Int.eq_ofNat_of_zero_le low
      exact .bytes n

include h hl holds covers inner in
/-- Once every entry has got its room, all types nested in this one are aligned. -/
theorem roomy_of_mapM {extents : List Extent}
    (hextents : specs.mapM (fun spec => r.contentExtent fuel (t :: inside) spec.content) =
      .ok extents) :
    List.Forall₂ (fun spec e => HasExtent r spec.content e) specs extents ∧
      ∀ u, r.Nests t u → r.IsAligned u := by
  have got := mapM_eq_ok.mp hextents
  have settled : ∀ spec ∈ specs, ∀ e, r.contentExtent fuel (t :: inside) spec.content = .ok e →
      HasExtent r spec.content e ∧ ∀ u, spec.content = .nested (some u) → r.IsAligned u := by
    intro spec hspec e he
    rcases contentExtent_cases h hl holds covers inner hspec with
      ⟨e', he', settled⟩ | ⟨_, cause, hcause⟩
    · obtain rfl := Except.ok.inj (he.symm.trans he')
      exact settled
    · rw [he] at hcause
      cases hcause
  constructor
  · have members := (List.forall₂_and_left specs extents).mpr ⟨fun _ hspec => hspec, got⟩
    exact members.imp fun spec e hspec => (settled spec hspec.1 e hspec.2).1
  · rintro u ⟨l', hl', f, hf, type⟩
    obtain rfl := Except.ok.inj (hl.symm.trans hl')
    obtain ⟨e, _, he⟩ := exists_right got (covers.spec_mem (l.sortedFields_perm.mem_iff.mpr hf))
    refine (settled f.spec (covers.spec_mem (l.sortedFields_perm.mem_iff.mpr hf)) e he).2 u ?_
    cases holds f hf with
    | scalar s _ noValue _ =>
      rw [noValue] at type
      cases type
    | nested u' noScalar _ _ => simp [LayoutField.spec, noScalar, type]

include h descent hl holds inner in
/-- One step of the build settles if the steps inside it do. -/
theorem ends_of_layout : Ends r t (r.structTypeInside (fuel + 1) inside t) := by
  obtain ⟨size, fields, _, _, hparts, specs, hspecs⟩ := layout_eq_ok.mp hl
  have host : l.host = builtinHost t := by rw [hparts]
  have covers := Layout.covers_of_specs (h.size hl).1 hspecs
  have distinct := (h.plain t descent.within l specs hl hspecs).distinct
  obtain ⟨texts, htexts, named, plain⟩ :=
    fieldNames_of_plain (h.plain t descent.within l specs hl hspecs)
  obtain ⟨text, htext, noNul⟩ := h.named t descent.within
  obtain ⟨hostText, hhost⟩ := structName_builtinHost noNul
  rw [structTypeInside_succ (descent.contains_eq_false h) hl hspecs (by rw [host, htext, hhost])
    htexts]
  rcases mapM_eq_ok_or_error
    (fun spec => r.contentExtent fuel (t :: inside) spec.content) specs with
    ⟨extents, hextents⟩ | ⟨spec, hspec, fault, hfault, hmap⟩
  · obtain ⟨sized, nested⟩ := roomy_of_mapM h hl holds covers inner hextents
    have zipped : (texts.zip extents).map (·.1) = texts := by
      refine List.map_fst_zip ?_
      rw [← sized.length_eq, ← List.length_map (f := fun text : String => (text : Name)), ← named,
        List.length_map]
    have prepared : Prepared r l (texts.zip extents) :=
      ⟨holds, ⟨specs, covers, fits_zip sized named⟩,
        zipped.symm ▸ List.Nodup.of_map _ (named ▸ distinct)⟩
    rw [hextents]
    exact ends_of_prepared h hl prepared (zipped.symm ▸ plain) nested
  · rcases contentExtent_cases h hl holds covers inner hspec with
      ⟨e, he, _⟩ | ⟨unaligned, cause, hcause⟩
    · rw [hfault] at he
      cases he
    · refine .inr ⟨unaligned, cause, ?_⟩
      rw [hmap, ← Except.error.inj (hfault.symm.trans hcause)]
      rfl

end Step

end Registry

end EngineBindings
