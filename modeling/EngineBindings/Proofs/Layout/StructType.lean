import Mathlib
import EngineBindings.Proofs.Layout.Realized

/-! Which value types have a native structure.

The fuel of a build outlasts every descent along nested types (`structTypeInside_ends`), so
that a build ends as alignment says (`structType_iff_isAligned`). Alignment and plain entries are
not enough for that: a type may be called by what cannot name a structure, nest another type that
contains itself, or lie at an offset that no message can hold (`structType_of_simple`). -/
namespace EngineBindings.Registry

open Attempt Relation

variable {r : Registry} {root t : Name} {inside : List Name}

theorem structTypeInside_ends (h : Regular r root) {fuel : Nat}
    (descent : Descent r root inside t) (enough : r.sizes.entries.length < fuel + inside.length) :
    Ends r t (r.structTypeInside fuel inside t) := by
  induction fuel generalizing inside t with
  | zero =>
    have short := descent.length_le h
    omega
  | succ fuel ih =>
    rcases layout_makes h.types t with ⟨l, hl, holds⟩ | ⟨cause, hcause⟩
    · exact ends_of_layout h descent hl holds fun u nests =>
        ih (descent.cons h nests) (by rw [List.length_cons]; omega)
    · refine .inr ⟨fun aligned => ?_, cause, ?_⟩
      · obtain ⟨l, hl, _⟩ := aligned t .refl
        rw [hcause] at hl
        cases hl
      · unfold structTypeInside
        rw [descent.contains_eq_false h, hcause]
        rfl

theorem structType_ends {name : Name} (h : Regular r name) :
    Ends r name (r.structType name) :=
  structTypeInside_ends h .nil (by rw [List.length_nil]; omega)

theorem Ends.returns_iff {x : Except Fault NativeStruct} (h : Ends r t x) :
    (∃ s, x = .ok s) ↔ r.IsAligned t := by
  rcases h with ⟨s, _, rfl, _, _, aligned⟩ | ⟨unaligned, cause, rfl⟩
  · exact ⟨fun _ => aligned, fun _ => ⟨s, rfl⟩⟩
  · refine ⟨?_, fun aligned => absurd aligned unaligned⟩
    rintro ⟨s, hs⟩
    cases hs

/-- What the types in the fields of a value type are called, as far as they are called by texts. -/
def nestedTexts (r : Registry) (name : String) : List (Option String) :=
  match r.layout name with
  | .ok l => l.fields.filterMap fun f => f.nested.map Name.text?
  | .error _ => []

/-- What the entries of a value type are called, as far as they are called by texts. -/
def entryTexts (r : Registry) (name : String) : List (Option String) :=
  match r.layout name with
  | .ok l =>
    match l.specs with
    | .ok specs => specs.map (·.name.text?)
    | .error _ => []
  | .error _ => []

/-- Whether entries are called by distinct plain texts. -/
def arePlain (entries : List (Option String)) : Bool :=
  decide entries.Nodup && entries.all fun entry =>
    entry.any fun text => !reservedFieldNames.contains text

/-- Whether types have plain entries and stand in front of all types that they nest, whose names
can name structures. -/
def areListed (r : Registry) : List String → Bool
  | [] => true
  | name :: rest =>
    !rest.contains name && !name.toList.contains (Char.ofNat 0) &&
      ((r.nestedTexts name).all fun text => text.any rest.contains) &&
        arePlain (r.entryTexts name) && r.areListed rest

theorem plainNames_of_arePlain {names : List Name} (h : arePlain (names.map Name.text?) = true) :
    PlainNames names := by
  rw [arePlain, Bool.and_eq_true, decide_eq_true_iff, List.all_eq_true] at h
  refine ⟨fun name hname => ?_, List.Nodup.of_map _ h.1⟩
  have given := h.2 _ (List.mem_map_of_mem hname)
  cases htext : name.text? with
  | none =>
    rw [htext] at given
    cases given
  | some text =>
    rw [htext] at given
    exact ⟨text, Name.eq_text_of_text? htext, by simpa using given⟩

theorem plainNames_of_entryTexts {name : String} {l : Layout Int} {specs : List (FieldSpec Int)}
    (hl : r.layout name = .ok l) (hspecs : l.specs = .ok specs)
    (h : arePlain (r.entryTexts name) = true) : PlainNames (specs.map (·.name)) := by
  rw [entryTexts, hl] at h
  simp only [hspecs] at h
  exact plainNames_of_arePlain (by rw [List.map_map]; exact h)

section Listed

variable {name text : String} {rest names : List String} {u : Name}

theorem areListed_cons : r.areListed (name :: rest) = true ↔
    (name ∉ rest ∧ Char.ofNat 0 ∉ name.toList ∧
      (∀ entry ∈ r.nestedTexts name, ∃ text ∈ rest, entry = some text) ∧
      arePlain (r.entryTexts name) = true) ∧ r.areListed rest = true := by
  simp only [areListed, Bool.and_eq_true, Bool.not_eq_true', List.all_eq_true, Option.any_eq_true,
    List.contains_eq_mem, decide_eq_false_iff_not, decide_eq_true_eq]
  constructor
  · rintro ⟨⟨⟨⟨absent, noNul⟩, nested⟩, plain⟩, listed⟩
    refine ⟨⟨absent, noNul, fun entry hentry => ?_, plain⟩, listed⟩
    obtain ⟨text, htext, hmem⟩ := nested entry hentry
    exact ⟨text, hmem, htext⟩
  · rintro ⟨⟨absent, noNul, nested, plain⟩, listed⟩
    refine ⟨⟨⟨⟨absent, noNul⟩, fun entry hentry => ?_⟩, plain⟩, listed⟩
    obtain ⟨text, hmem, htext⟩ := nested entry hentry
    exact ⟨text, htext, hmem⟩

theorem text?_mem_nestedTexts (h : r.Nests (name : Name) u) : u.text? ∈ r.nestedTexts name := by
  obtain ⟨l, hl, f, hf, type⟩ := h
  rw [nestedTexts, hl]
  exact List.mem_filterMap.mpr ⟨f, hf, by rw [type]; rfl⟩

/-- Whatever a listed type nests, however deeply, is listed too, and is not the type itself. -/
theorem exists_of_transGen (h : r.areListed names = true) (hname : name ∈ names)
    (below : TransGen r.Nests (name : Name) u) :
    ∃ text ∈ names, u = (text : Name) ∧ text ≠ name := by
  induction names generalizing name u with
  | nil => cases hname
  | cons first rest ih =>
    obtain ⟨⟨absent, _, nested, _⟩, hrest⟩ := areListed_cons.mp h
    rcases List.mem_cons.mp hname with rfl | hname
    · obtain ⟨v, nests, hv⟩ := TransGen.head'_iff.mp below
      obtain ⟨text, htext, heq⟩ := nested _ (text?_mem_nestedTexts nests)
      obtain rfl := Name.eq_text_of_text? heq
      rcases reflTransGen_iff_eq_or_transGen.mp hv with rfl | hv
      · exact ⟨text, List.mem_cons_of_mem _ htext, rfl, fun same => absent (same ▸ htext)⟩
      · obtain ⟨text', htext', rfl, _⟩ := ih hrest htext hv
        exact ⟨text', List.mem_cons_of_mem _ htext', rfl, fun same => absent (same ▸ htext')⟩
    · obtain ⟨text, htext, hu, apart⟩ := ih hrest hname below
      exact ⟨text, List.mem_cons_of_mem _ htext, hu, apart⟩

theorem plain_of_areListed (h : r.areListed names = true) (hname : name ∈ names) :
    Char.ofNat 0 ∉ name.toList ∧ arePlain (r.entryTexts name) = true := by
  induction names with
  | nil => cases hname
  | cons first rest ih =>
    obtain ⟨⟨_, noNul, _, plain⟩, hrest⟩ := areListed_cons.mp h
    rcases List.mem_cons.mp hname with rfl | hname
    · exact ⟨noNul, plain⟩
    · exact ih hrest hname

theorem regular_of_areListed
    (sizes : ∀ entry ∈ r.sizes.entries, 0 ≤ entry.2 ∧ entry.2 ≤ Number.twoPow 31)
    (types : r.DeclaresTypes) (h : r.areListed names = true) (hname : name ∈ names) :
    Regular r (name : Name) := by
  have listed : ∀ t, ReflTransGen r.Nests (name : Name) t → ∃ text ∈ names, t = (text : Name) := by
    intro t ht
    rcases reflTransGen_iff_eq_or_transGen.mp ht with rfl | ht
    · exact ⟨name, hname, rfl⟩
    · obtain ⟨text, htext, heq, _⟩ := exists_of_transGen h hname ht
      exact ⟨text, htext, heq⟩
  have acyclic : ∀ t, ReflTransGen r.Nests (name : Name) t → ¬TransGen r.Nests t t := by
    intro t ht loop
    obtain ⟨text, htext, rfl⟩ := listed t ht
    obtain ⟨_, _, heq, apart⟩ := exists_of_transGen h htext loop
    cases heq
    exact apart rfl
  refine ⟨⟨sizes, types, acyclic _ .refl, fun t ht l specs hl hspecs => ?_⟩, fun t ht => ?_,
    acyclic⟩
  · obtain ⟨text, htext, rfl⟩ := listed t ht
    exact plainNames_of_entryTexts hl hspecs (plain_of_areListed h htext).2
  · obtain ⟨text, htext, rfl⟩ := listed t ht
    exact ⟨text, rfl, (plain_of_areListed h htext).1⟩

end Listed

/-! ### Types that fit and types that do not -/

/-- A builtin value type whose members are declared as numbers. -/
def structOf (name : Name) (members : List MemberOffset) : BuiltinDef where
  name := name
  members := members.map fun m => ⟨m.member, ("float" : String)⟩
  operators := []
  hasDestructor := false
  constructorCount := 0
  enums := []
  methods := []

/-- A registry of value types of given sizes and member offsets, and of nothing else. -/
def ofOffsets (sizes : List (Name × Int)) (offsets : List (Name × List MemberOffset)) :
    Registry where
  profile := ⟨"float_64", .w64, .w64, .w64⟩
  classes := []
  builtins := offsets.map fun entry => structOf entry.1 entry.2
  globalEnums := []
  utilities := []
  natives := []
  header := .empty
  sizes := ⟨sizes⟩
  offsets := ⟨offsets⟩
  enums := .empty

theorem ofOffsets_declaresTypes {sizes : List (Name × Int)}
    {offsets : List (Name × List MemberOffset)}
    (texts : ∀ entry ∈ offsets, ∀ m ∈ entry.2, m.content.IsText) :
    (ofOffsets sizes offsets).DeclaresTypes where
  members b hb m hm := by
    obtain ⟨entry, _, rfl⟩ := List.mem_map.mp hb
    obtain ⟨offset, _, rfl⟩ := List.mem_map.mp hm
    exact ⟨Name.isText_text _, by simp⟩
  contents := texts

/-- A member of a given name and offset, and the text of what it holds. -/
def member (name : String) (offset : Int) (content : String) : MemberOffset :=
  ⟨name, offset, content⟩

/-- A value type that nests another one behind padding, and one with a member where the platform
cannot place it. -/
def boxes : Registry :=
  ofOffsets [(("Item" : String), 16), (("Box" : String), 24), (("Tight" : String), 12)]
    [(("Item" : String), [member "weight" 8 "double"]),
     (("Box" : String), [member "item" 8 "Item"]),
     (("Tight" : String), [member "weight" 4 "double"])]

theorem boxes_regular (name : String) (h : name ∈ ["Box", "Item", "Tight"]) :
    Regular boxes (name : Name) := by
  have listed : boxes.areListed ["Box", "Item", "Tight"] = true := by cbv
  refine regular_of_areListed ?_ (ofOffsets_declaresTypes ?_) listed h
  · simp [boxes, ofOffsets, Number.twoPow]
  · simp [member, Name.isText_text]

theorem boxes_item : boxes.layout ("Item" : String) = .ok ⟨("Item" : String), ("Item" : String), 16,
    [scalarField ("weight" : String) 8 .double]⟩ :=
  layout_eq_ok.mpr ⟨_, _, rfl, rfl, rfl, exists_eq_ok (by cbv)⟩

theorem boxes_box : boxes.layout ("Box" : String) = .ok ⟨("Box" : String), ("Box" : String), 24,
    [⟨("item" : String), 8, 16, none, some ("Item" : String)⟩]⟩ :=
  layout_eq_ok.mpr ⟨_, _, rfl, rfl, rfl, exists_eq_ok (by cbv)⟩

theorem boxes_tight : boxes.layout ("Tight" : String) = .ok ⟨("Tight" : String),
    ("Tight" : String), 12, [scalarField ("weight" : String) 4 .double]⟩ :=
  layout_eq_ok.mpr ⟨_, _, rfl, rfl, rfl, exists_eq_ok (by cbv)⟩

theorem fieldsAlign_scalarField (name : Name) (offset : Int) (s : Scalar) :
    FieldsAlign r [scalarField name offset s] (max s.size 1) :=
  .scalar rfl .nil

theorem boxes_isAligned : boxes.IsAligned ("Box" : String) := by
  have itemAlign := fieldsAlign_scalarField (r := boxes) ("weight" : String) 8 .double
  have boxAlign : FieldsAlign boxes [⟨("item" : String), 8, 16, none, some ("Item" : String)⟩] _ :=
    .nested rfl rfl boxes_item itemAlign .nil
  have item : boxes.IsAligned ("Item" : String) := by
    refine isAligned_iff.mpr ⟨⟨_, boxes_item, ?_, _, itemAlign, by decide⟩, ?_⟩
    · exact List.forall_mem_singleton.mpr ⟨_, itemAlign, by decide⟩
    · rintro u ⟨l, hl, f, hf, type⟩
      obtain rfl := Except.ok.inj (hl.symm.trans boxes_item)
      rw [List.mem_singleton.mp hf] at type
      cases type
  refine isAligned_iff.mpr ⟨⟨_, boxes_box, ?_, _, boxAlign, by decide⟩, ?_⟩
  · exact List.forall_mem_singleton.mpr ⟨_, boxAlign, by decide⟩
  · rintro u ⟨l, hl, f, hf, type⟩
    obtain rfl := Except.ok.inj (hl.symm.trans boxes_box)
    rw [List.mem_singleton.mp hf] at type
    cases type
    exact item

theorem boxes_not_isAligned : ¬boxes.IsAligned ("Tight" : String) := by
  intro aligned
  obtain ⟨l, hl, fits⟩ := aligned _ .refl
  obtain rfl := Except.ok.inj (hl.symm.trans boxes_tight)
  obtain ⟨a, ha, divides⟩ := fits.members _ (List.mem_singleton_self _)
  obtain rfl := ha.unique (fieldsAlign_scalarField _ _ .double)
  exact absurd divides (by decide)

/-- A value type that is called by a text with a character of code 0. -/
def nulNamed : Registry :=
  ofOffsets [(("Box\x00" : String), 4)] []

/-- A value type that nests another one, which contains itself. -/
def looped : Registry :=
  ofOffsets [(("Outer" : String), 4), (("Inner" : String), 4)]
    [(("Outer" : String), [member "inner" 0 "Inner"]),
     (("Inner" : String), [member "inner" 0 "Inner"])]

/-- A value type with a member at an offset of more digits than are written. -/
def faraway : Registry :=
  ofOffsets [(("Far" : String), 4)]
    [(("Far" : String), [member "first" (Number.tenPow Number.maxDigits) "float"])]

/-- Whether a build stops at a fault of a value. -/
def stopsAt (x : Except Fault NativeStruct) (cause : ValueFault) : Bool :=
  match x with
  | .error (.value found) => decide (found = cause)
  | _ => false

theorem eq_of_stopsAt {x : Except Fault NativeStruct} {cause : ValueFault}
    (h : stopsAt x cause = true) : x = .error (.value cause) := by
  unfold stopsAt at h
  split at h
  · rw [of_decide_eq_true h]
  · cases h

theorem nulNamed_simple : Simple nulNamed ("Box\x00" : String) := by
  have bare : ∀ t l, nulNamed.layout t = .ok l → l.fields = [] := fun t l hl => by
    obtain ⟨_, fields, _, hfields, rfl, _⟩ := layout_eq_ok.mp hl
    exact (Except.ok.inj hfields).symm
  have alone : ∀ t u, ¬nulNamed.Nests t u := by
    rintro t u ⟨l, hl, f, hf, _⟩
    rw [bare t l hl] at hf
    cases hf
  refine ⟨by simp [nulNamed, ofOffsets, Number.twoPow], ofOffsets_declaresTypes nofun, ?_, ?_⟩
  · intro loop
    obtain ⟨u, nests, _⟩ := TransGen.head'_iff.mp loop
    exact alone _ u nests
  · intro t ht l specs hl hspecs
    rcases ht.cases_head with rfl | ⟨u, nests, _⟩
    · obtain ⟨_, fields, hsize, hfields, rfl, _⟩ := layout_eq_ok.mp hl
      cases hsize
      cases hfields
      cases hspecs
      exact plainNames_of_arePlain (by decide)
    · exact (alone _ u nests).elim

theorem looped_layout {name : String} (h : name = "Outer" ∨ name = "Inner") :
    looped.layout (name : Name) = .ok ⟨(name : Name), (name : Name), 4,
      [⟨("inner" : String), 0, 4, none, some ("Inner" : String)⟩]⟩ := by
  rcases h with rfl | rfl <;>
    exact layout_eq_ok.mpr ⟨_, _, rfl, rfl, rfl, exists_eq_ok (by cbv)⟩

theorem looped_simple : Simple looped ("Outer" : String) := by
  have nests : ∀ name : String, name = "Outer" ∨ name = "Inner" → ∀ u,
      looped.Nests (name : Name) u → u = ("Inner" : String) := by
    rintro name hname u ⟨l, hl, f, hf, type⟩
    obtain rfl := Except.ok.inj (hl.symm.trans (looped_layout hname))
    obtain rfl := List.mem_singleton.mp hf
    exact (Option.some.inj type).symm
  have below : ∀ t, TransGen looped.Nests ("Outer" : String) t → t = ("Inner" : String) := by
    intro t ht
    induction ht with
    | single h => exact nests "Outer" (.inl rfl) _ h
    | tail _ h ih =>
      rw [ih] at h
      exact nests "Inner" (.inr rfl) _ h
  refine ⟨by simp [looped, ofOffsets, Number.twoPow], ofOffsets_declaresTypes ?_, ?_, ?_⟩
  · simp [member, Name.isText_text]
  · intro loop
    exact absurd (below _ loop) (by simp)
  · intro t ht l specs hl hspecs
    have named : ∃ name : String, t = (name : Name) ∧ (name = "Outer" ∨ name = "Inner") := by
      rcases reflTransGen_iff_eq_or_transGen.mp ht with rfl | ht
      · exact ⟨"Outer", rfl, .inl rfl⟩
      · exact ⟨"Inner", below t ht, .inr rfl⟩
    obtain ⟨name, rfl, hname⟩ := named
    refine plainNames_of_entryTexts hl hspecs ?_
    rcases hname with rfl | rfl <;> cbv

theorem faraway_simple : Simple faraway ("Far" : String) := by
  have none : ∀ l, faraway.layout ("Far" : String) ≠ .ok l := fun l hl => by
    have refused : (faraway.layout ("Far" : String)).toOption.isNone := by decide +kernel
    rw [hl] at refused
    cases refused
  have alone : ∀ u, ¬faraway.Nests ("Far" : String) u := fun u ⟨l, hl, _⟩ => none l hl
  refine ⟨List.forall_mem_singleton.mpr (by decide), ofOffsets_declaresTypes ?_, ?_, ?_⟩
  · exact List.forall_mem_singleton.mpr (List.forall_mem_singleton.mpr (Name.isText_text _))
  · intro loop
    obtain ⟨u, nests, _⟩ := TransGen.head'_iff.mp loop
    exact alone u nests
  · intro t ht l specs hl
    rcases ht.cases_head with rfl | ⟨u, nests, _⟩
    · exact (none l hl).elim
    · exact (alone u nests).elim

end EngineBindings.Registry
