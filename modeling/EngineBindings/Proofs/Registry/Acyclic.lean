import EngineBindings.Proofs.Registry.Lineage
import Mathlib.Data.List.Nodup
import Mathlib.Logic.Relation

/-! Which inheritance can be built.

Building a registry refuses its classes for three reasons: two of them share a name, a parent is not
declared, or a class is above itself. `build_refused_iff` says that these are all the reasons there
are, and that without them every name has a chain of parents that ends.

A walk along parents carries the names that it has met. All of them are declared, no two are the
same and each leads to the place where the walk stands (`Walk`). So a walk that meets a name again
has gone around a cycle, and one that does not ends before it has met more names than there are
classes (`exists_ancestorsAmong`). -/
namespace EngineBindings

open Attempt

variable {classes : List ClassDef}

/-- One step along inheritance, from the name of a class to that of its parent. -/
def Inherits (classes : List ClassDef) (name parent : Name) : Prop :=
  ∃ c ∈ classes, c.name = name ∧ c.parent = some parent

/-- Two classes share a name. -/
def SharesName (classes : List ClassDef) : Prop :=
  ¬(classes.map (·.name)).Nodup

/-- A class has a parent that no class is called by. -/
def HasOrphan (classes : List ClassDef) : Prop :=
  ∃ c ∈ classes, ∃ parent, c.parent = some parent ∧ ∀ c' ∈ classes, c'.name ≠ parent

/-- A class reaches itself by one or more steps along inheritance. -/
def HasCycle (classes : List ClassDef) : Prop :=
  ∃ c ∈ classes, Relation.TransGen (Inherits classes) c.name c.name

/-- Classes that are called by texts, and so are their parents. -/
structure HasTextNames (classes : List ClassDef) : Prop where
  names : ∀ c ∈ classes, c.name.IsText
  parents : ∀ c ∈ classes, ∀ parent, c.parent = some parent → parent.IsText

/-! ### Names and parents -/

theorem pairwise_iff_not_sharesName (texts : HasTextNames classes) :
    (classes.Pairwise fun a b => (a.name == b.name) = false) ↔ ¬SharesName classes := by
  rw [SharesName, not_not, List.Nodup, List.pairwise_map]
  refine List.Pairwise.iff_of_mem fun {a b} _ hb => ?_
  rw [Bool.eq_false_iff, ne_eq, Name.beq_iff_eq_of_isText (texts.names b hb)]

theorem checkParent_of_text {c : ClassDef} (texts : HasTextNames classes) (hc : c ∈ classes) :
    Declarations.checkParent classes c = .ok () ∧
        (∀ parent, c.parent = some parent → ∃ c' ∈ classes, c'.name = parent) ∨
      (∃ fault, Declarations.checkParent classes c = .error (.schema fault)) ∧
        ∃ parent, c.parent = some parent ∧ ∀ c' ∈ classes, c'.name ≠ parent := by
  unfold Declarations.checkParent
  cases hp : c.parent with
  | none => exact .inl ⟨rfl, fun _ h => by cases h⟩
  | some parent =>
    have text := texts.parents c hc parent hp
    dsimp only
    rw [Name.keyed_of_isText text]
    by_cases hany : classes.any (·.name == parent) = true
    · refine .inl ⟨if_pos hany, fun parent' h => ?_⟩
      cases h
      obtain ⟨c', hc', hname⟩ := List.any_eq_true.mp hany
      exact ⟨c', hc', (Name.beq_iff_eq_of_isText text).mp hname⟩
    · refine .inr ⟨⟨_, if_neg hany⟩, parent, rfl, fun c' hc' hname => hany ?_⟩
      exact List.any_eq_true.mpr ⟨c', hc', (Name.beq_iff_eq_of_isText text).mpr hname⟩

/-- Where names are not shared, a step along inheritance is the one that a look-up takes. -/
theorem parentAmong_of_inherits {name parent : Name} (apart : ¬SharesName classes)
    (texts : HasTextNames classes) (h : Inherits classes name parent) :
    parentAmong classes name = some parent := by
  obtain ⟨c, hc, rfl, hp⟩ := h
  have distinct := (pairwise_iff_not_sharesName texts).mpr apart
  rw [parentAmong, Name.find?_of_distinct distinct hc, Option.bind_some, hp]

theorem inherits_of_parentAmong {name parent : Name} (hname : name.IsText)
    (h : parentAmong classes name = some parent) : Inherits classes name parent := by
  obtain ⟨c, hfound, hp⟩ := Option.bind_eq_some_iff.mp h
  have same : (c.name == name) = true := by simpa using List.find?_some hfound
  exact ⟨c, List.mem_of_find?_eq_some hfound, (Name.beq_iff_eq_of_isText hname).mp same, hp⟩

/-! ### Walks along parents -/

/-- Where a walk along parents stands, and the names that it has met. -/
structure Walk (classes : List ClassDef) (fuel : Nat) (seen : List Name) (name : Name) : Prop where
  declared : ∀ n ∈ seen, ∃ c ∈ classes, c.name = n
  distinct : seen.Nodup
  leads : ∀ n ∈ seen, Relation.ReflTransGen (Inherits classes) n name
  fuel : classes.length < fuel + seen.length

namespace Walk

variable {fuel : Nat} {seen : List Name} {name parent : Name}

theorem length_le (h : Walk classes fuel seen name) : seen.length ≤ classes.length := by
  have known : seen ⊆ classes.map (·.name) := by
    intro n hn
    obtain ⟨c, hc, rfl⟩ := h.declared n hn
    exact List.mem_map_of_mem hc
  simpa using (h.distinct.subperm known).length_le

/-- The first name of a walk. -/
theorem start {c : ClassDef} (hc : c ∈ classes) :
    Walk classes (classes.length + 2) [c.name] c.name where
  declared := by simpa using ⟨c, hc, rfl⟩
  distinct := List.nodup_singleton _
  leads n hn := by
    rw [List.mem_singleton.mp hn]
  fuel := by
    rw [List.length_singleton]
    omega

/-- A walk that has come back has gone around a cycle. -/
theorem hasCycle (h : Walk classes fuel seen name) (hstep : Inherits classes name parent)
    (hparent : parent ∈ seen) : HasCycle classes := by
  obtain ⟨c, hc, rfl⟩ := h.declared parent hparent
  exact ⟨c, hc, .tail' (h.leads _ hparent) hstep⟩

/-- A step to a name that was not met. -/
theorem step (h : Walk classes (fuel + 1) seen name) (hstep : Inherits classes name parent)
    (hdeclared : ∃ c ∈ classes, c.name = parent) (hparent : parent ∉ seen) :
    Walk classes fuel (parent :: seen) parent where
  declared := List.forall_mem_cons.mpr ⟨hdeclared, h.declared⟩
  distinct := List.nodup_cons.mpr ⟨hparent, h.distinct⟩
  leads := List.forall_mem_cons.mpr ⟨.refl, fun n hn => (h.leads n hn).tail hstep⟩
  fuel := by
    have := h.fuel
    rw [List.length_cons]
    omega

end Walk

/-- A walk that finds no cycle ends, by induction on the fuel: it is never used up, since a walk
meets a declared name for each part of it. -/
theorem exists_ancestorsAmong {fuel : Nat} {seen : List Name} {name : Name}
    (texts : HasTextNames classes) (parents : ¬HasOrphan classes) (acyclic : ¬HasCycle classes)
    (hname : name.IsText) (h : Walk classes fuel seen name) :
    ∃ line, ancestorsAmong classes fuel seen name = .ok line := by
  induction fuel generalizing seen name with
  | zero =>
    have short := h.length_le
    have long := h.fuel
    omega
  | succ fuel ih =>
    unfold ancestorsAmong
    cases hp : (classes.find? (·.name == name)).bind (·.parent) with
    | none => exact ⟨[], rfl⟩
    | some parent =>
      have hstep : Inherits classes name parent := inherits_of_parentAmong hname hp
      obtain ⟨c, hc, _, hparent⟩ := id hstep
      have text := texts.parents c hc parent hparent
      have hdeclared : ∃ c' ∈ classes, c'.name = parent := by
        by_contra absent
        push Not at absent
        exact parents ⟨c, hc, parent, hparent, absent⟩
      have fresh : parent ∉ seen := fun hmem => acyclic (h.hasCycle hstep hmem)
      have unmet : ¬seen.contains parent = true :=
        fun hmet => fresh ((Name.contains_iff_mem_of_isText text).mp hmet)
      obtain ⟨line, hline⟩ := ih text (h.step hstep hdeclared fresh)
      dsimp only
      rw [if_neg unmet, hline]
      exact ⟨_, rfl⟩

/-- Whatever a class reaches along inheritance is on its chain of parents. -/
theorem mem_of_transGen {name above : Name} {line : List Name} (apart : ¬SharesName classes)
    (texts : HasTextNames classes) (h : Relation.TransGen (Inherits classes) name above)
    (hline : Line classes name line) : above ∈ line := by
  induction h using Relation.TransGen.head_induction_on generalizing line with
  | single hstep =>
    have hp := parentAmong_of_inherits apart texts hstep
    cases hline with
    | top hnone => cases hnone.symm.trans hp
    | up hsome rest =>
      cases hsome.symm.trans hp
      exact List.mem_cons_self ..
  | head hstep _ ih =>
    have hp := parentAmong_of_inherits apart texts hstep
    cases hline with
    | top hnone => cases hnone.symm.trans hp
    | up hsome rest =>
      cases hsome.symm.trans hp
      exact List.mem_cons_of_mem _ (ih rest)

theorem not_hasCycle {c : ClassDef} (apart : ¬SharesName classes) (texts : HasTextNames classes)
    (chains : ∀ c ∈ classes, ∃ line, ancestorsOf classes c.name = .ok line) (hc : c ∈ classes) :
    ¬Relation.TransGen (Inherits classes) c.name c.name := by
  intro hcycle
  obtain ⟨line, hline⟩ := chains c hc
  have chain := line_of_ancestorsAmong hline
  have hmem := mem_of_transGen apart texts hcycle chain
  have hcontains := (Name.contains_iff_mem_of_isText (texts.names c hc)).mpr hmem
  rw [chain.not_contains] at hcontains
  cases hcontains

/-! ### Building a registry -/

namespace Declarations

/-- Declarations whose other parts can be read: enumerations are called by what can be looked up,
and the header is a mapping. -/
structure Readable (d : Declarations) : Prop where
  enums : ∀ e ∈ d.globalEnums, e.name.isComposite = false
  header : ∃ header, headerEntries d.header = .ok header

end Declarations

namespace Registry

variable {d : Declarations} {r : Registry}

/-- Building returns a registry or refuses the classes; nothing else can go wrong. -/
theorem build_eq_ok_or_refused (texts : HasTextNames d.classes) (readable : d.Readable) :
    (∃ r, build d = .ok r) ∨ ∃ fault, build d = .error (.schema fault) := by
  obtain ⟨header, hheader⟩ := readable.header
  have globals : d.globalEnums.any (·.name.isComposite) = false := by
    rw [List.any_eq_false]
    intro e he
    rw [readable.enums e he]
    exact Bool.false_ne_true
  unfold build
  cases Declarations.checkDistinct [] d.classes with
  | error fault => exact .inr ⟨fault, rfl⟩
  | ok _ =>
    rcases forM_eq_ok_or_error (Declarations.checkParent d.classes) d.classes with
      hparents | ⟨c, hc, e, he, hparents⟩
    · rw [hparents, globals, hheader]
      rcases forM_eq_ok_or_error (fun c : ClassDef =>
          (ancestorsOf d.classes c.name).mapError Fault.schema |>.map fun _ => ()) d.classes with
        hchains | ⟨c, _, e, he, hchains⟩
      · exact .inl ⟨d.registry header, by rw [hchains]; rfl⟩
      · cases hline : ancestorsOf d.classes c.name with
        | ok line =>
          rw [hline] at he
          cases he
        | error fault =>
          rw [hline] at he
          cases he
          exact .inr ⟨fault, by rw [hchains]; rfl⟩
    · rcases checkParent_of_text texts hc with ⟨hok, _⟩ | ⟨⟨fault, hfault⟩, _⟩
      · cases hok.symm.trans he
      · cases hfault.symm.trans he
        exact .inr ⟨fault, by rw [hparents]; rfl⟩

/-- A registry is built exactly of classes that can be told apart, have their parents declared and
are not above themselves. -/
theorem exists_build_iff (texts : HasTextNames d.classes) (readable : d.Readable) :
    (∃ r, build d = .ok r) ↔
      ¬SharesName d.classes ∧ ¬HasOrphan d.classes ∧ ¬HasCycle d.classes := by
  constructor
  · rintro ⟨r, hr⟩
    obtain ⟨header, passes, _⟩ := build_eq_ok.mp hr
    have apart := (pairwise_iff_not_sharesName texts).mp passes.distinct
    refine ⟨apart, ?_, ?_⟩
    · rintro ⟨c, hc, parent, hp, absent⟩
      rcases checkParent_of_text texts hc with ⟨_, found⟩ | ⟨⟨fault, hfault⟩, _⟩
      · obtain ⟨c', hc', hname⟩ := found parent hp
        exact absent c' hc' hname
      · cases (passes.parents c hc).symm.trans hfault
    · rintro ⟨c, hc, hcycle⟩
      exact not_hasCycle apart texts passes.chains hc hcycle
  · rintro ⟨apart, parents, acyclic⟩
    obtain ⟨header, hheader⟩ := readable.header
    refine ⟨d.registry header, build_eq_ok.mpr ⟨header, ?_, rfl⟩⟩
    constructor
    case distinct => exact (pairwise_iff_not_sharesName texts).mpr apart
    case parents =>
      intro c hc
      rcases checkParent_of_text texts hc with ⟨hok, _⟩ | ⟨_, parent, hp, absent⟩
      · exact hok
      · exact absurd ⟨c, hc, parent, hp, absent⟩ parents
    case globals =>
      rw [List.any_eq_false]
      intro e he
      rw [readable.enums e he]
      exact Bool.false_ne_true
    case header => exact hheader
    case chains =>
      exact fun c hc =>
        exists_ancestorsAmong texts parents acyclic (texts.names c hc) (Walk.start hc)

/-- A chain of parents that was found: no name is on it twice, nor the one it starts from, and it
is the parent followed by the parent's chain. -/
structure Ascends (r : Registry) (name : Name) (line : List Name) : Prop where
  found : r.ancestors name = .ok line
  distinct : line.Nodup
  proper : name ∉ line
  steps : match (r.class? name).bind (·.parent) with
    | none => line = []
    | some parent => ∃ rest, r.ancestors parent = .ok rest ∧ line = parent :: rest

theorem exists_ascends (h : build d = .ok r) (name : Name) : ∃ line, r.Ascends name line := by
  have sound := sound_of_build h
  obtain ⟨line, hfound⟩ := sound.exists_ancestors name
  have chain := line_of_ancestors hfound
  refine ⟨line, hfound, chain.pairwise.imp fun {a b} hab hsame => ?_, fun hmem => ?_, ?_⟩
  · rw [hsame, BEq.rfl] at hab
    cases hab
  · have hcontains := List.contains_iff_exists_mem_beq.mpr ⟨name, hmem, BEq.rfl⟩
    rw [chain.not_contains] at hcontains
    cases hcontains
  · cases chain with
    | top hp =>
      rw [show (r.class? name).bind (·.parent) = none from hp]
    | @up _ parent rest hp above =>
      rw [show (r.class? name).bind (·.parent) = some parent from hp]
      obtain ⟨line, hline⟩ := sound.exists_ancestors parent
      exact ⟨line, hline, congrArg _ (above.unique (line_of_ancestors hline) BEq.rfl)⟩

/-- A lamp, which is a light, which is a node. -/
def lamps : List ClassDef :=
  [.declaring ("Lamp" : String) (some ("Light" : String)) [] [],
   .declaring ("Light" : String) (some ("Node" : String)) [] [],
   .declaring ("Node" : String) none [] []]

/-- Two classes that inherit from each other, and one that leads into them. -/
def ring : List ClassDef :=
  [.declaring ("Chick" : String) (some ("Hen" : String)) [] [],
   .declaring ("Hen" : String) (some ("Egg" : String)) [] [],
   .declaring ("Egg" : String) (some ("Hen" : String)) [] []]

end Registry

end EngineBindings
