import EngineBindings.Proofs.Registry.Built
import EngineBindings.Proofs.Schema.Reordered
import EngineBindings.Proofs.Schema.Resolved

/-! Documents with a further class.

A class without members can be added to a document wherever its name is new: where no text of the
document mentions it (`Json.Unmentioned`). No spelling means the class then, and no enumeration
belongs to it, so everything else is read as before; and the checks of a registry pass, since the
class follows what it inherits from and nothing follows it. The registry is the same but for the
class among the others (`ofDocument_inserted`). -/
namespace EngineBindings

open Attempt Text

/-! ### The texts of a document -/

namespace Json

mutual

/-- The texts in a value. -/
def texts : Json → List String
  | .str text => [text]
  | .arr items => textsOfItems items
  | .obj fields => textsOfFields fields
  | _ => []

/-- The texts in several values. -/
def textsOfItems : List Json → List String
  | [] => []
  | item :: rest => item.texts ++ textsOfItems rest

/-- The texts in the values of fields. -/
def textsOfFields : List (String × Json) → List String
  | [] => []
  | (_, value) :: rest => value.texts ++ textsOfFields rest

end

theorem texts_subset_of_item {items : List Json} {value : Json} (h : value ∈ items) :
    value.texts ⊆ textsOfItems items := by
  induction items with
  | nil => cases h
  | cons item rest ih =>
    rw [textsOfItems]
    rcases List.mem_cons.mp h with rfl | h
    · exact List.subset_append_left ..
    · exact List.subset_append_of_subset_right _ (ih h)

theorem textsOfFields_eq (fields : List (String × Json)) :
    textsOfFields fields = textsOfItems (fields.map (·.2)) := by
  induction fields with
  | nil => rfl
  | cons field rest ih => rw [List.map_cons, textsOfItems, ← ih, textsOfFields]

/-- The texts of a part of a document are among those of the document. -/
theorem Part.texts_subset {document value : Json} (h : document.Part value) :
    value.texts ⊆ document.texts := by
  induction h with
  | whole => exact List.Subset.refl _
  | item _ hvalue ih => exact List.Subset.trans (texts_subset_of_item hvalue) ih
  | field _ hvalue ih =>
    obtain ⟨entry, hentry, rfl⟩ := Option.map_eq_some_iff.mp hvalue
    rw [texts, textsOfFields_eq] at ih
    have item := List.mem_map_of_mem (f := Prod.snd) (List.mem_of_find?_eq_some hentry)
    exact List.Subset.trans (texts_subset_of_item item) ih

/-- A name that stands in no text of a document as a word. -/
structure Unmentioned (document : Json) (name : String) : Prop where
  given : name ≠ ""
  texts : ∀ text ∈ document.texts, ¬Mentions text.toList name.toList

/-- A name that no text of a document contains is unmentioned. -/
theorem unmentioned_of_contains {document : Json} {name : String} (given : name ≠ "")
    (h : ∀ text ∈ document.texts, contains text name = false) : document.Unmentioned name := by
  refine ⟨given, fun text htext mentions => ?_⟩
  have occurs : contains text name = true := mentions.occursIn
  rw [h text htext] at occurs
  cases occurs

theorem Unmentioned.not_mentions {document : Json} {name text : String}
    (h : document.Unmentioned name) (part : document.Part (.str text)) :
    ¬Mentions text.toList name.toList :=
  h.texts text (part.texts_subset (List.mem_singleton_self text))

end Json

/-! ### Spellings -/

namespace KnownNames

variable {names : KnownNames} {place : String}

/-- A plain name is no enumeration. -/
theorem enumeration?_of_resolveName {s : String} {type : TypeRef}
    (h : names.resolveName place s = .ok type) : type.leaf.enumeration? = none := by
  unfold resolveName at h
  split at h
  · cases h
    rfl
  · split at h
    · cases h
      rfl
    · split at h
      · cases h
        rfl
      · split at h
        · cases h
          rfl
        · split at h
          · cases h
            rfl
          · cases h

theorem mentions_splitOwner {name : List Char} (h : (splitOwner (String.ofList name)).1 ≠ "") :
    Mentions name (splitOwner (String.ofList name)).1.toList := by
  have parts := eq_append_of_splitOwner h
  rw [String.toList_ofList] at parts
  have dot : ∀ c ∈ ('.' :: (splitOwner (String.ofList name)).2.toList).head?,
      isWordCharacter c = false := by
    intro c hc
    cases hc
    decide
  have mentions := (Mentions.self (splitOwner (String.ofList name)).1.toList).append_right dot
  rwa [← parts] at mentions

/-- A spelling mentions the owner of the enumeration that it refers to. -/
theorem mentions_owner (cs : List Char) :
    ∀ type, names.resolveChars place cs = .ok type → ∀ name ∈ type.leaf.enumeration?,
      (splitOwner name).1 ≠ "" → Mentions cs (splitOwner name).1.toList := by
  fun_induction KnownNames.resolveChars names place cs with
  | case1 => exact fun _ h => by cases h
  | case2 cs _ rest hrest | case3 cs _ _ rest hrest =>
    intro type h name hname owned
    cases h
    cases hname
    exact mentions_of_rest hrest rfl (mentions_splitOwner owned)
  | case4 cs _ _ _ element helement ih =>
    intro type h name hname owned
    obtain ⟨inner, hinner, rfl⟩ := map_eq_ok.mp h
    exact mentions_of_rest helement rfl (ih inner hinner name hname owned)
  | case5 =>
    intro type h name hname
    rw [enumeration?_of_resolveName h] at hname
    cases hname

end KnownNames

/-- A class with nothing in it. -/
structure ClassDef.IsBare (c : ClassDef) : Prop where
  methods : c.methods = []
  properties : c.properties = []
  enums : c.enums = []

namespace Schema

variable {document document' entry : Json} {c : ClassDef} {name : String}

/-! ### Documents with a further class -/

/-- Two documents of which one has one more class. -/
inductive Inserts (entry : Json) : Json → Json → Prop
  | classes {fields fields' : Fields} {before after : List Json}
      (others : ∀ key, key ≠ "classes" → Json.find? fields' key = Json.find? fields key)
      (without : list fields "classes" "schema" = .ok (before ++ after))
      (within : list fields' "classes" "schema" = .ok (before ++ entry :: after)) :
      Inserts entry (.obj fields) (.obj fields')

/-- A class without methods is read the same whatever is known. -/
theorem classDef_of_isBare {names : KnownNames} (bare : c.IsBare)
    (h : classDef names entry = .ok c) (names' : KnownNames) : classDef names' entry = .ok c := by
  unfold classDef at h ⊢
  simp only [bind_eq_ok, pure_eq_ok] at h ⊢
  obtain ⟨fields, hfields, name, hname, items, hitems, methods, hmethods, others⟩ := h
  obtain rfl : methods = [] := by
    obtain ⟨_, _, _, _, _, _, _, _, _, _, _, _, rfl⟩ := others
    exact bare.methods
  obtain rfl : items = [] := List.forall₂_nil_right_iff.mp (mapM_eq_ok.mp hmethods)
  exact ⟨fields, hfields, name, hname, [], hitems, [], rfl, others⟩

/-- The names of declarations, which nothing can be looked up by, are not among those declared. -/
theorem isComposite_of_declaredNames {place : String} {entries : List Json} {names : List Name}
    (h : declaredNames place entries = .ok names) : ∀ n ∈ names, n.isComposite = false := by
  intro n hn
  obtain ⟨entry, _, hentry⟩ := exists_left (mapM_eq_ok.mp h) hn
  obtain ⟨fields, _, hentry⟩ := bind_eq_ok.mp hentry
  obtain ⟨given, _, hkeyed⟩ := bind_eq_ok.mp hentry
  obtain ⟨plain, rfl⟩ := Name.keyed_eq_ok.mp (mapError_eq_ok.mp hkeyed)
  exact plain

theorem declaredName_of_declares {place : String} (h : Declares place entry name) :
    (do (← Schema.name (← asObject place entry) place).keyed.mapError .value) =
      (.ok (name : Name) : Except Fault Name) := by
  obtain ⟨fields, hfields, hname⟩ := h
  rw [hfields, ok_bind, hname]
  rfl

/-- A class that is added to a document under a name that the document does not mention is declared
among the others, which are declared as before. -/
theorem declarations_inserted {profile : Profile} {names : KnownNames} {d : Declarations}
    (inserts : Inserts entry document document') (hd : declarations profile document = .ok d)
    (hentry : classDef names entry = .ok c) (bare : c.IsBare) (named : c.name = (name : Name))
    (unmentioned : document.Unmentioned name) :
    ∃ before after, d.classes = before ++ after ∧
      declarations profile document' = .ok { d with classes := before ++ c :: after } := by
  obtain ⟨o, classes, ho, hclasses, rfl⟩ := classes_of_declarations hd
  obtain ⟨classNames, _, hraw, hclassNames, _, known, _⟩ := names_of_outline ho
  have sections := isOf_of_outline ho
  cases inserts with
  | @classes fields fields' before after others without within =>
    cases sections.fields
    rw [without, Except.ok.injEq] at hraw
    have hentryName := declaredName_of_declares (named ▸ declares_of_classDef hentry)
    rw [← hraw] at hclassNames hclasses
    obtain ⟨namesBefore, namesAfter, rfl, hnames⟩ := exists_mapM_insert hclassNames hentryName
    have ho' := outline_of_classes others ho within hnames
    have same : KnownNames.Same (· ≠ name) { o.names with
        classes := (namesBefore ++ (name : Name) :: namesAfter).filterMap Name.text? } o.names := by
      refine ⟨fun s hs => ?_, fun _ => rfl, rfl⟩
      have text : Name.text? (name : Name) = some name := rfl
      rw [known, List.filterMap_append, List.filterMap_append, List.filterMap_cons_some text]
      simp [hs]
    have reads := KnownNames.rereads_of_same (.obj o.fields) same
      fun text part s mentioned hs => unmentioned.not_mentions part (hs ▸ mentioned)
    obtain ⟨classesBefore, classesAfter, hsplit, hread⟩ := exists_mapM_insert
      (reads.classes (fun item hitem => sections.classes item (hraw ▸ hitem)) hclasses)
      (classDef_of_isBare bare hentry _)
    exact ⟨classesBefore, classesAfter, hsplit,
      declarations_of_classes others hd ho ho' hread reads rfl rfl rfl⟩

/-- Something is looked up by the name of every class that is declared, and none has a name that the
document does not mention. -/
theorem names_of_declarations {profile : Profile} {d : Declarations}
    (hd : declarations profile document = .ok d) (unmentioned : document.Unmentioned name) :
    ∀ x ∈ d.classes, x.name.isComposite = false ∧ (x.name == (name : Name)) = false := by
  intro x hx
  obtain ⟨o, classes, ho, hclasses, rfl⟩ := classes_of_declarations hd
  obtain ⟨classNames, _, _, hclassNames, _, _, _⟩ := names_of_outline ho
  constructor
  · have hname := List.mem_map_of_mem (f := ClassDef.name) hx
    rw [names_of_declared declares_of_classDef hclassNames hclasses] at hname
    exact isComposite_of_declaredNames hclassNames x.name hname
  · rw [Bool.eq_false_iff]
    intro same
    obtain ⟨item, hitem, hread⟩ := exists_left (mapM_eq_ok.mp hclasses) hx
    obtain ⟨fields, hfields, hname⟩ := declares_of_classDef hread
    have part := (isOf_of_outline ho).classes item hitem
    rw [asObject_eq_ok.mp hfields] at part
    obtain ⟨value, hvalue, rename⟩ := map_eq_ok.mp hname
    have text : value = .str name := by
      rw [Name.eq_text_of_beq same] at rename
      exact congrArg Name.value rename
    subst text
    exact unmentioned.not_mentions (part.field (require_eq_ok.mp hvalue)) (.self _)

end Schema

/-! ### Registries with a further class -/

namespace Registry

/-- Two registries of which one has one more class. -/
def Inserts (c : ClassDef) (r r' : Registry) : Prop :=
  ∃ before after, r.classes = before ++ after ∧ r' = { r with classes := before ++ c :: after }

variable {c : ClassDef} {before after : List ClassDef}

theorem find?_inserted {n : Name} (apart : (n == c.name) = false) :
    (before ++ c :: after).find? (·.name == n) = (before ++ after).find? (·.name == n) := by
  have other : (c.name == n) = false := BEq.comm.trans apart
  rw [List.find?_append, List.find?_append, List.find?_cons_of_neg (by simp [other])]

/-- A chain that does not start with the new class never gets to it. What has been met besides on
the way, and how long the chain may get, does not matter. -/
theorem ancestorsAmong_inserted {fuel : Nat} {seen line : List Name} {n : Name}
    (parents : ∀ x ∈ before ++ after, ∀ p ∈ x.parent, (p == c.name) = false)
    (h : ancestorsAmong (before ++ after) fuel seen n = .ok line) (apart : (n == c.name) = false)
    {fuel' : Nat} (hfuel : fuel ≤ fuel') {seen' : List Name}
    (hseen : ∀ m, (m == c.name) = false → seen'.contains m = seen.contains m) :
    ancestorsAmong (before ++ c :: after) fuel' seen' n = .ok line := by
  induction fuel generalizing seen seen' fuel' n line with
  | zero => cases h
  | succ fuel ih =>
    obtain ⟨fuel', rfl⟩ : ∃ k, fuel' = k + 1 := ⟨fuel' - 1, by omega⟩
    rw [ancestorsAmong] at h ⊢
    rw [find?_inserted apart]
    cases hfound : ((before ++ after).find? (·.name == n)).bind (·.parent) with
    | none =>
      rw [hfound] at h
      exact h
    | some p =>
      rw [hfound] at h
      dsimp only at h ⊢
      obtain ⟨x, hx, hparent⟩ := Option.bind_eq_some_iff.mp hfound
      have hp := parents x (List.mem_of_find?_eq_some hx) p hparent
      rw [hseen p hp]
      split at h
      · cases h
      · next unseen =>
        obtain ⟨rest, hrest, rfl⟩ := map_eq_ok.mp h
        rw [if_neg unseen, ih hrest hp (by omega) fun m hm => by
          rw [List.contains_cons, List.contains_cons, hseen m hm]]
        rfl

theorem mem_inserted {x : ClassDef} : x ∈ before ++ c :: after ↔ x = c ∨ x ∈ before ++ after := by
  rw [List.mem_append, List.mem_cons, List.mem_append]
  tauto

section Checks

variable (others : ∀ x ∈ before ++ after, (x.name == c.name) = false)
  (parent : ∀ p ∈ c.parent, ∃ x ∈ before ++ after, x.name = p)
include others

theorem distinct_inserted
    (distinct : (before ++ after).Pairwise fun a b => (a.name == b.name) = false) :
    (before ++ c :: after).Pairwise fun a b => (a.name == b.name) = false := by
  have first : (c :: (before ++ after)).Pairwise fun a b => (a.name == b.name) = false :=
    .cons (fun x hx => BEq.comm.trans (others x hx)) distinct
  exact first.perm List.perm_middle.symm fun hab => BEq.comm.trans hab

include parent in
/-- The chain of the new class goes on with that of the class which it follows. -/
theorem exists_ancestors_inserted
    (distinct : (before ++ after).Pairwise fun a b => (a.name == b.name) = false)
    (parents : ∀ x ∈ before ++ after, ∀ p ∈ x.parent, (p == c.name) = false)
    (chains : ∀ x ∈ before ++ after, ∃ line, ancestorsOf (before ++ after) x.name = .ok line) :
    ∀ x ∈ before ++ c :: after, ∃ line, ancestorsOf (before ++ c :: after) x.name = .ok line := by
  have length : (before ++ c :: after).length = (before ++ after).length + 1 := by simp; omega
  intro x hx
  unfold ancestorsOf
  rcases mem_inserted.mp hx with rfl | hx
  · rw [ancestorsAmong, Name.find?_of_distinct (distinct_inserted others distinct)
      (mem_inserted.mpr (.inl rfl)), Option.bind_some]
    cases hp : x.parent with
    | none => exact ⟨[], rfl⟩
    | some p =>
      obtain ⟨y, hy, rfl⟩ := parent p hp
      obtain ⟨line, hline⟩ := chains y hy
      have unseen : ¬[x.name].contains y.name = true := by
        simpa [List.contains_cons] using others y hy
      dsimp only
      have met (m : Name) (hm : (m == x.name) = false) :
          [y.name, x.name].contains m = [y.name].contains m := by
        rw [List.contains_cons, List.contains_cons, List.contains_cons, hm, Bool.false_or]
      rw [if_neg unseen, ancestorsAmong_inserted parents hline (others y hy) (by omega) met]
      exact ⟨_, rfl⟩
  · obtain ⟨line, hline⟩ := chains x hx
    exact ⟨line, ancestorsAmong_inserted parents hline (others x hx) (by omega) fun _ _ => rfl⟩

end Checks

/-- A class without enumerations adds nothing to their table. -/
theorem enumTable_inserted {d : Declarations} (split : d.classes = before ++ after)
    (bare : c.IsBare) :
    ({ d with classes := before ++ c :: after } : Declarations).enumTable = d.enumTable := by
  simp [Declarations.enumTable, split, bare.enums]

/-- Declarations with a further class, which follows one of the others if it follows any, can be
built where the others can. -/
theorem build_inserted {d : Declarations} {r : Registry} (hb : build d = .ok r)
    (split : d.classes = before ++ after) (bare : c.IsBare)
    (names : ∀ x ∈ d.classes, x.name.isComposite = false ∧ (x.name == c.name) = false)
    (parent : ∀ p ∈ c.parent, ∃ x ∈ d.classes, x.name = p) :
    build { d with classes := before ++ c :: after } =
      .ok { r with classes := before ++ c :: after } := by
  obtain ⟨header, ⟨distinct, hparents, globals, hheader, hchains⟩, rfl⟩ := build_eq_ok.mp hb
  rw [split] at distinct hparents hchains names parent
  have others : ∀ x ∈ before ++ after, (x.name == c.name) = false := fun x hx => (names x hx).2
  have parents : ∀ x ∈ before ++ after, ∀ p ∈ x.parent, (p == c.name) = false := by
    intro x hx p hp
    obtain ⟨_, y, hy, hname⟩ := checkParent_eq_ok.mp (hparents x hx) p hp
    rw [← BEq.congr_left hname]
    exact others y hy
  refine build_eq_ok.mpr ⟨header, ⟨distinct_inserted others distinct, ?_, globals, hheader,
    exists_ancestors_inserted others parent distinct parents hchains⟩, ?_⟩
  · intro x hx
    refine checkParent_eq_ok.mpr fun p hp => ?_
    rcases mem_inserted.mp hx with rfl | hx
    · obtain ⟨y, hy, rfl⟩ := parent p hp
      exact ⟨(names y hy).1, y, mem_inserted.mpr (.inr hy), BEq.rfl⟩
    · obtain ⟨plain, y, hy, hname⟩ := checkParent_eq_ok.mp (hparents x hx) p hp
      exact ⟨plain, y, mem_inserted.mpr (.inr hy), hname⟩
  · simp only [Declarations.registry, enumTable_inserted split bare]

section Documents

variable {configuration : String} {document document' entry : Json} {r : Registry} {name : String}

/-- No enumeration that a document refers to belongs to a class that it does not mention. -/
theorem owner_ne_of_unmentioned (hr : ofDocument configuration document = .ok r)
    (unmentioned : document.Unmentioned name) : ∀ m ∈ r.callables, ∀ type ∈ m.types,
      ∀ reference ∈ type.leaf.enumeration?, (splitOwner reference).1 ≠ name := by
  refine types_of_ofDocument hr fun names place text type part hread reference href owner => ?_
  have owned : (splitOwner reference).1 ≠ "" := owner ▸ unmentioned.given
  have mentions := KnownNames.mentions_owner text.toList type hread reference href owned
  rw [owner] at mentions
  exact unmentioned.not_mentions part mentions

/-- A document with a further class is read to a registry with the class among the others. -/
theorem ofDocument_inserted {names : KnownNames} (inserts : Schema.Inserts entry document document')
    (hr : ofDocument configuration document = .ok r)
    (hentry : Schema.classDef names entry = .ok c) (bare : c.IsBare)
    (named : c.name = (name : Name)) (unmentioned : document.Unmentioned name)
    (parent : ∀ p ∈ c.parent, ∃ x ∈ r.classes, x.name = p) :
    ∃ r', ofDocument configuration document' = .ok r' ∧ Inserts c r r' := by
  obtain ⟨profile, hprofile, hr⟩ := bind_eq_ok.mp hr
  obtain ⟨d, hd, hbuild⟩ := bind_eq_ok.mp hr
  obtain ⟨before, after, split, hd'⟩ :=
    Schema.declarations_inserted inserts hd hentry bare named unmentioned
  have keeps := (keeps_of_build hbuild).classes
  have hbuild' := build_inserted hbuild split bare
    (named ▸ Schema.names_of_declarations hd unmentioned) (keeps ▸ parent)
  exact ⟨_, bind_eq_ok.mpr ⟨profile, hprofile, bind_eq_ok.mpr ⟨_, hd', hbuild'⟩⟩, before, after,
    keeps.trans split, rfl⟩

end Documents

end Registry

end EngineBindings
