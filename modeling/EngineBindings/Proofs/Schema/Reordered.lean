import EngineBindings.Proofs.Schema.Resolved
import EngineBindings.Proofs.Text.Segment

/-! Documents that differ in their classes.

The classes of a document show in the list of declared classes and in the names that type spellings
are looked up among, and nowhere else (`outline_of_classes`, `declarations_of_classes`). Where the
classes come in another order a spelling means the same (`rereads_of_same`); so every class is read
to the same declaration, and what is declared is the same up to that order
(`exists_declarations`). -/
namespace EngineBindings

open Attempt Text

/-! ### Names that mean the same -/

namespace KnownNames

/-- Names of which every spelling that is `asked` for means the same. -/
structure Same (asked : String → Prop) (a b : KnownNames) : Prop where
  classes : ∀ s, asked s → a.classes.contains s = b.classes.contains s
  builtins : ∀ s, a.builtins.contains s = b.builtins.contains s
  natives : a.natives = b.natives

variable {asked : String → Prop} {a b : KnownNames}

/-- What stands behind the prefix of a spelling, which ends in a colon, mentions nothing that the
spelling does not. -/
theorem mentions_of_rest {lead cs rest word : List Char}
    (h : dropPrefix? lead (stripChars cs) = some rest)
    (colon : lead.getLast? = some ':') (mentions : Mentions rest word) : Mentions cs word := by
  refine Mentions.of_stripChars ?_
  rw [eq_append_of_dropPrefix? h]
  refine mentions.append_left fun c hc => ?_
  rw [colon] at hc
  cases hc
  decide

theorem resolveChars_congr (h : Same asked a b) (place : String) (cs : List Char)
    (hasked : ∀ s : String, Mentions cs s.toList → asked s) :
    a.resolveChars place cs = b.resolveChars place cs := by
  fun_induction resolveChars a place cs with
  | case1 cs hblank => rw [resolveChars, if_pos hblank]
  | case2 cs hblank name hname => rw [resolveChars, if_neg hblank, hname]
  | case3 cs hblank hname name hbit => rw [resolveChars, if_neg hblank, hname, hbit]
  | case4 cs hblank hname hbit element helement ih =>
    rw [ih fun s hs => hasked s (mentions_of_rest helement rfl hs)]
    conv_rhs => rw [resolveChars, if_neg hblank, hname, hbit]
    dsimp only
    split
    · next found =>
      rw [helement] at found
      cases found
      rfl
    · next found =>
      rw [helement] at found
      cases found
  | case5 cs hblank hname hbit helement =>
    -- a plain name is mentioned by its own spelling
    have known : asked (String.ofList (stripChars cs)) := by
      refine hasked _ (Mentions.of_stripChars ?_)
      rw [String.toList_ofList]
      exact .self _
    have plain : a.resolveName place (String.ofList (stripChars cs)) =
        b.resolveName place (String.ofList (stripChars cs)) := by
      simp only [resolveName, h.classes _ known, h.builtins, h.natives]
    rw [plain, resolveChars, if_neg hblank, hname, hbit]
    dsimp only
    split
    · next found =>
      rw [helement] at found
      cases found
    · rfl

/-- A document is read the same under names of which every word in it means the same. -/
theorem rereads_of_same (document : Json) (h : Same asked b a)
    (hasked : ∀ text, document.Part (.str text) → ∀ s : String, Mentions text.toList s.toList →
      asked s) : Schema.Rereads document a b fun _ => True := by
  intro place text type part hread
  rw [resolve, resolveChars_congr h place text.toList (hasked text part)]
  exact ⟨hread, trivial⟩

end KnownNames

/-- Two sets of declarations that differ in the order of classes alone. -/
structure Declarations.Rearranged (d d' : Declarations) : Prop where
  classes : d.classes.Perm d'.classes
  others : d' = { d with classes := d'.classes }

namespace Schema

/-! ### Documents with other classes -/

section Classes

variable {fields fields' : Fields}
  (others : ∀ key, key ≠ "classes" → Json.find? fields' key = Json.find? fields key)
include others

theorem list_of_others {key : String} {items : List Json} (hkey : key ≠ "classes")
    (h : list fields key "schema" = .ok items) : list fields' key "schema" = .ok items :=
  (list_congr (others key hkey)).trans h

/-- The outline of a document with other classes. -/
theorem outline_of_classes {configuration : String} {raw : List Json} {classNames : List Name}
    {o : Outline} (h : outline configuration (.obj fields) = .ok o)
    (hraw : list fields' "classes" "schema" = .ok raw)
    (hnames : declaredNames "classes[]" raw = .ok classNames) :
    outline configuration (.obj fields') = .ok { o with
      fields := fields'
      classes := raw
      names := { o.names with classes := classNames.filterMap Name.text? } } := by
  dsimp only [outline] at h ⊢
  simp only [bind_eq_ok, pure_eq_ok] at h
  obtain ⟨classes, _, builtins, hbuiltins, rawNatives, hrawNatives, tables, htables, sizes, hsizes,
    _, _, builtinNames, hbuiltinNames, natives, hnatives, rfl⟩ := h
  rw [hraw, list_of_others others (by decide) hbuiltins,
    list_of_others others (by decide) hrawNatives, list_of_others others (by decide) htables]
  simp only [ok_bind, hsizes, hnames, hbuiltinNames, hnatives]
  rfl

omit others in
theorem classes_of_declarations {profile : Profile} {document : Json} {d : Declarations}
    (h : declarations profile document = .ok d) :
    ∃ o classes, outline profile.name document = .ok o ∧
      o.classes.mapM (classDef o.names) = .ok classes ∧ d.classes = classes := by
  obtain ⟨o, ho, h⟩ := bind_eq_ok.mp h
  obtain ⟨classes, hclasses, h⟩ := bind_eq_ok.mp h
  simp only [bind_eq_ok, pure_eq_ok] at h
  obtain ⟨_, _, _, _, _, _, _, _, _, _, _, _, _, _, rfl⟩ := h
  exact ⟨o, classes, ho, hclasses, rfl⟩

/-- The declarations of a document with other classes, where everything else is read the same. -/
theorem declarations_of_classes {profile : Profile} {d : Declarations} {o o' : Outline}
    {classes : List ClassDef} (h : declarations profile (.obj fields) = .ok d)
    (ho : outline profile.name (.obj fields) = .ok o)
    (ho' : outline profile.name (.obj fields') = .ok o')
    (hclasses : o'.classes.mapM (classDef o'.names) = .ok classes)
    {P : TypeRef → Prop} (reads : Rereads (.obj fields) o.names o'.names P)
    (builtins : o'.builtins = o.builtins)
    (sizes : o'.sizes = o.sizes) (natives : o'.natives = o.natives) :
    declarations profile (.obj fields') = .ok { d with classes := classes } := by
  have sections := isOf_of_outline ho
  unfold declarations at h ⊢
  simp only [bind_eq_ok, pure_eq_ok, ho, Except.ok.injEq, exists_eq_left'] at h
  have fields_eq : Json.obj o.fields = .obj fields := sections.fields.symm
  have fields_eq' : Json.obj o'.fields = .obj fields' := (isOf_of_outline ho').fields.symm
  rw [Json.obj.injEq] at fields_eq fields_eq'
  rw [fields_eq] at h
  obtain ⟨_, _, _, hbuiltins, tables, htables, offsets, hoffsets, rawEnums, hrawEnums, enums,
    henums, rawUtilities, hrawUtilities, utilities, hutilities, rfl⟩ := h
  rw [ho', ok_bind, hclasses, ok_bind, builtins, reads.builtins sections.builtins hbuiltins,
    ok_bind, fields_eq',
    list_of_others others (by decide) htables, ok_bind, hoffsets, ok_bind,
    list_of_others others (by decide) hrawEnums, ok_bind, henums, ok_bind,
    list_of_others others (by decide) hrawUtilities, ok_bind,
    reads.utilities (part_of_list .whole hrawUtilities) hutilities, ok_bind, sizes, natives,
    optional, optional,
    others "header" (by decide)]
  rfl

end Classes

/-! ### Documents in another order -/

/-- Two documents that differ in the order of their classes alone. -/
inductive Reordered : Json → Json → Prop
  | classes {fields fields' : Fields} {classes classes' : List Json}
      (others : ∀ key, key ≠ "classes" → Json.find? fields' key = Json.find? fields key)
      (before : list fields "classes" "schema" = .ok classes)
      (after : list fields' "classes" "schema" = .ok classes') (perm : classes.Perm classes') :
      Reordered (.obj fields) (.obj fields')

theorem Reordered.symm {document document' : Json} (h : Reordered document document') :
    Reordered document' document := by
  cases h with
  | classes others before after perm =>
    exact .classes (fun key hkey => (others key hkey).symm) after before perm.symm

/-- Two outlines that differ in the order of classes alone. -/
structure Outline.Rearranged (o o' : Outline) : Prop where
  others : ∀ key, key ≠ "classes" → Json.find? o'.fields key = Json.find? o.fields key
  classes : o.classes.Perm o'.classes
  builtins : o'.builtins = o.builtins
  sizes : o'.sizes = o.sizes
  natives : o'.natives = o.natives
  names : KnownNames.Same (fun _ => True) o'.names o.names

theorem exists_outline {configuration : String} {document document' : Json} {o : Outline}
    (h : Reordered document document') (ho : outline configuration document = .ok o) :
    ∃ o', outline configuration document' = .ok o' ∧ o.Rearranged o' := by
  obtain ⟨classNames, _, hraw, hclassNames, _, named, _⟩ := names_of_outline ho
  have whole := (isOf_of_outline ho).fields
  cases h with
  | @classes fields fields' raw raw' others before after perm =>
    cases whole
    rw [before, Except.ok.injEq] at hraw
    subst hraw
    obtain ⟨classNames', hclassNames', hnames⟩ := exists_mapM_perm perm hclassNames
    refine ⟨_, outline_of_classes others ho after hclassNames', others, perm, rfl, rfl, rfl,
      fun s _ => ?_, fun _ => rfl, rfl⟩
    rw [named]
    exact ((hnames.filterMap Name.text?).contains_eq (a := s)).symm

theorem exists_declarations {profile : Profile} {document document' : Json} {d : Declarations}
    (h : Reordered document document') (hd : declarations profile document = .ok d) :
    ∃ d', declarations profile document' = .ok d' ∧ d.Rearranged d' := by
  obtain ⟨o, classes, ho, hclasses, read⟩ := classes_of_declarations hd
  obtain ⟨o', ho', same⟩ := exists_outline h ho
  have reads := KnownNames.rereads_of_same document same.names fun _ _ _ _ => trivial
  obtain ⟨classes', hclasses', hperm⟩ := exists_mapM_perm same.classes
    (reads.classes (isOf_of_outline ho).classes hclasses)
  cases h with
  | classes others =>
    exact ⟨{ d with classes := classes' }, declarations_of_classes others hd ho ho' hclasses' reads
      same.builtins same.sizes same.natives, read ▸ hperm, rfl⟩

end Schema

end EngineBindings
