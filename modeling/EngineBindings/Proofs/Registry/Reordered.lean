import EngineBindings.Proofs.OrderedMap
import EngineBindings.Proofs.Registry.Lineage
import EngineBindings.Proofs.Schema.Reordered

/-! Registries of the same classes in another order.

The checks that building a registry makes do not look at the order: names are distinct, parents are
declared and chains of parents end in one order as in every other. What is looked up afterwards is
the same as well (`agrees_of_build`). Only the table of enumerations could tell the orders apart,
where two classes write to one entry, and the last of them stays. -/
namespace EngineBindings

open Attempt

/-- No two classes have enumerations that go by the same dotted name. -/
def EnumsApart (classes : List ClassDef) : Prop :=
  classes.Pairwise fun a b =>
    ∀ e ∈ a.enums, ∀ e' ∈ b.enums, e.ownedName a.name ≠ e'.ownedName b.name

instance (classes : List ClassDef) : Decidable (EnumsApart classes) :=
  inferInstanceAs (Decidable (classes.Pairwise _))

namespace Declarations

variable {d d' : Declarations}

/-- Every entry is written by one class at most, and found whatever the order of the classes. -/
theorem find?_enumTable (h : d.Rearranged d') (apart : EnumsApart d.classes) (name : Name) :
    d'.enumTable.find? name = d.enumTable.find? name := by
  rw [h.others]
  unfold enumTable
  rw [OrderedMap.find?_foldl_insertNew, OrderedMap.find?_foldl_insertNew]
  refine congrArg (Option.or · _) ?_
  rw [OrderedMap.find?_insertAll, OrderedMap.find?_insertAll, List.reverse_flatMap,
    List.reverse_flatMap, List.find?_flatMap, List.find?_flatMap]
  congr 2
  refine findSome?_perm (((List.reverse_perm _).trans h.classes).trans (List.reverse_perm _).symm) ?_
  refine List.Pairwise.perm apart (List.reverse_perm _).symm (fun hab e he e' he' => (hab e' he' e he).symm)
    |>.imp fun {a b} hab => ?_
  have absent (c : ClassDef) (h : ∀ e ∈ c.enums, ((e.ownedName c.name : Name) == name) = false) :
      (c.enums.map fun e => ((e.ownedName c.name : Name), e)).reverse.find? (·.1 == name) = none := by
    rw [List.find?_eq_none]
    intro entry hentry
    obtain ⟨e, he, rfl⟩ := List.mem_map.mp (List.mem_reverse.mp hentry)
    simp [h e he]
  by_cases hk : ∃ e ∈ a.enums, ((e.ownedName a.name : Name) == name) = true
  · obtain ⟨e, he, hname⟩ := hk
    refine .inr (absent b fun e' he' => ?_)
    rw [Bool.eq_false_iff]
    intro hname'
    have same := BEq.trans hname (BEq.symm hname')
    rw [Name.beq_text] at same
    exact hab e he e' he' (of_decide_eq_true same)
  · refine .inl (absent a fun e he => ?_)
    rw [Bool.eq_false_iff]
    exact fun hname => hk ⟨e, he, hname⟩

end Declarations

namespace Registry

variable {d d' : Declarations} {r r' : Registry}

/-- Two registries that differ in the order of classes alone. -/
structure Rearranged (r r' : Registry) : Prop where
  classes : r.classes.Perm r'.classes
  others : r' = { r with classes := r'.classes, enums := r'.enums }

/-- Two registries of which every look-up finds the same. -/
structure Agrees (r r' : Registry) : Prop where
  profile : r'.profile = r.profile
  builtins : r'.builtins = r.builtins
  globalEnums : r'.globalEnums = r.globalEnums
  utilities : r'.utilities = r.utilities
  natives : r'.natives = r.natives
  header : r'.header = r.header
  sizes : r'.sizes = r.sizes
  offsets : r'.offsets = r.offsets
  class? : r'.class? = r.class?
  enum? : r'.enum? = r.enum?
  hasSubclasses : r'.hasSubclasses = r.hasSubclasses

section Orders

variable {classes classes' : List ClassDef}

theorem find?_of_perm (h : classes.Perm classes')
    (distinct : classes.Pairwise fun a b => (a.name == b.name) = false) (name : Name) :
    classes'.find? (·.name == name) = classes.find? (·.name == name) := by
  refine find?_perm h (distinct.imp fun {a b} hab => ?_)
  by_cases ha : (a.name == name) = true
  · right
    rw [Bool.eq_false_iff]
    intro hb
    rw [BEq.trans ha (BEq.symm hb)] at hab
    cases hab
  · exact .inl (Bool.eq_false_iff.mpr ha)

theorem checkParent_of_perm (h : classes.Perm classes') :
    Declarations.checkParent classes' = Declarations.checkParent classes := by
  funext c
  unfold Declarations.checkParent
  simp only [h.any_eq]

theorem ancestorsAmong_of_find? (same : ∀ name, classes'.find? (·.name == name) =
    classes.find? (·.name == name)) (fuel : Nat) (seen : List Name) (name : Name) :
    ancestorsAmong classes' fuel seen name = ancestorsAmong classes fuel seen name := by
  induction fuel generalizing seen name with
  | zero => rfl
  | succ fuel ih => simp only [ancestorsAmong, same, ih]

theorem ancestorsOf_of_perm (h : classes.Perm classes')
    (distinct : classes.Pairwise fun a b => (a.name == b.name) = false) (name : Name) :
    ancestorsOf classes' name = ancestorsOf classes name := by
  unfold ancestorsOf
  rw [h.length_eq, ancestorsAmong_of_find? (find?_of_perm h distinct)]

end Orders

/-- Declarations that can be built can be in any order of the classes. -/
theorem exists_build (h : d.Rearranged d') (hb : build d = .ok r) :
    ∃ r', build d' = .ok r' ∧ Rearranged r r' := by
  obtain ⟨header, passes, rfl⟩ := build_eq_ok.mp hb
  refine ⟨d'.registry header, build_eq_ok.mpr ⟨header, ?_, rfl⟩, h.classes, ?_⟩
  · constructor
    case distinct =>
      exact passes.distinct.perm h.classes fun hab => BEq.comm.trans hab
    case parents =>
      intro c hc
      rw [checkParent_of_perm h.classes]
      exact passes.parents c (h.classes.mem_iff.mpr hc)
    case globals =>
      rw [h.others]
      exact passes.globals
    case header =>
      rw [h.others]
      exact passes.header
    case chains =>
      intro c hc
      rw [ancestorsOf_of_perm h.classes passes.distinct]
      exact passes.chains c (h.classes.mem_iff.mpr hc)
  · rw [h.others]
    rfl

theorem agrees_of_build (h : d.Rearranged d') (hb : build d = .ok r) (hb' : build d' = .ok r')
    (apart : EnumsApart r.classes) : Agrees r r' := by
  have distinct := distinct_of_build hb
  obtain ⟨header, passes, rfl⟩ := build_eq_ok.mp hb
  obtain ⟨header', passes', rfl⟩ := build_eq_ok.mp hb'
  have sameHeader : header' = header := by
    have read := passes'.header
    rw [h.others] at read
    exact Except.ok.inj (read.symm.trans passes.header)
  constructor
  case profile | builtins | globalEnums | utilities | natives | sizes | offsets =>
    rw [h.others]
    rfl
  case header => exact sameHeader
  case class? =>
    funext name
    exact find?_of_perm h.classes distinct name
  case enum? =>
    funext name
    exact Declarations.find?_enumTable h apart name
  case hasSubclasses =>
    funext name
    exact h.classes.symm.any_eq

theorem exists_ofDocument {configuration : String} {document document' : Json}
    (h : Schema.Reordered document document') (hr : ofDocument configuration document = .ok r) :
    ∃ r', ofDocument configuration document' = .ok r' ∧ Rearranged r r' := by
  obtain ⟨profile, hprofile, hr⟩ := bind_eq_ok.mp hr
  obtain ⟨d, hd, hr⟩ := bind_eq_ok.mp hr
  obtain ⟨d', hd', same⟩ := Schema.exists_declarations h hd
  obtain ⟨r', hr', rearranged⟩ := exists_build same hr
  exact ⟨r', bind_eq_ok.mpr ⟨profile, hprofile, bind_eq_ok.mpr ⟨d', hd', hr'⟩⟩, rearranged⟩

theorem agrees_of_ofDocument {configuration : String} {document document' : Json}
    (h : Schema.Reordered document document') (hr : ofDocument configuration document = .ok r)
    (hr' : ofDocument configuration document' = .ok r') (apart : EnumsApart r.classes) :
    Agrees r r' := by
  obtain ⟨profile, hprofile, hr⟩ := bind_eq_ok.mp hr
  obtain ⟨d, hd, hbuild⟩ := bind_eq_ok.mp hr
  obtain ⟨d', hd', same⟩ := Schema.exists_declarations h hd
  have hbuild' : build d' = .ok r' := by
    rw [ofDocument, hprofile, ok_bind, hd', ok_bind] at hr'
    exact hr'
  exact agrees_of_build same hbuild hbuild' apart

end Registry

end EngineBindings
