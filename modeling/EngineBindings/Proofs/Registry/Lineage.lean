import EngineBindings.Proofs.Name
import EngineBindings.Proofs.Registry.Built

/-! The chain of parents above a class.

`Line` is the chain as a relation: from a class to its parent as long as there is one.
`ancestors` finds it. In a built registry it finds one for every name (`exists_ancestors`): the
chain of a declared class has been checked, and a name without a declaration has no parent. -/
namespace EngineBindings

open Attempt

/-- The parent of a class of a given name. -/
def parentAmong (classes : List ClassDef) (name : Name) : Option Name :=
  (classes.find? (·.name == name)).bind (·.parent)

/-- The chain of parents above a name, nearest first. -/
inductive Line (classes : List ClassDef) : Name → List Name → Prop
  | top {name : Name} (hp : parentAmong classes name = none) : Line classes name []
  | up {name parent : Name} {line : List Name} (hp : parentAmong classes name = some parent)
      (rest : Line classes parent line) : Line classes name (parent :: line)

section Spelling

variable {classes : List ClassDef}

theorem find?_congr {a b : Name} (h : (a == b) = true) :
    classes.find? (·.name == a) = classes.find? (·.name == b) := by
  congr 1
  funext c
  exact BEq.congr_right h

theorem parentAmong_congr {a b : Name} (h : (a == b) = true) :
    parentAmong classes a = parentAmong classes b := by
  rw [parentAmong, parentAmong, find?_congr h]

end Spelling

namespace Line

variable {classes : List ClassDef} {name : Name} {line : List Name}

/-- A name has one chain, however it is spelt. -/
theorem unique {name' : Name} {line' : List Name} (h : Line classes name line)
    (h' : Line classes name' line') (same : (name == name') = true) : line = line' := by
  induction h generalizing name' line' with
  | top hp =>
    rw [parentAmong_congr same] at hp
    cases h' with
    | top => rfl
    | up hp' =>
      rw [hp] at hp'
      cases hp'
  | up hp _ ih =>
    rw [parentAmong_congr same] at hp
    cases h' with
    | top hp' =>
      rw [hp] at hp'
      cases hp'
    | up hp' rest' =>
      rw [hp] at hp'
      cases hp'
      rw [ih rest' BEq.rfl]

/-- Above every ancestor stands a shorter chain. -/
theorem above (h : Line classes name line) {n : Name} (hn : line.contains n) :
    ∃ name' line', (name' == n) = true ∧ Line classes name' line' ∧
      line'.length < line.length := by
  induction h with
  | top => cases hn
  | @up _ parent line hp rest ih =>
    rw [List.contains_cons, Bool.or_eq_true] at hn
    rcases hn with hn | hn
    · exact ⟨parent, line, BEq.symm hn, rest, by simp⟩
    · obtain ⟨name', line', hname, hline, hlength⟩ := ih hn
      exact ⟨name', line', hname, hline, by simp only [List.length_cons]; omega⟩

/-- No class is above itself. -/
theorem not_contains (h : Line classes name line) : line.contains name = false := by
  by_contra hcontains
  obtain ⟨name', line', hname, hline, hlength⟩ := h.above (by simpa using hcontains)
  rw [hline.unique h hname] at hlength
  exact absurd hlength (Nat.lt_irrefl _)

theorem pairwise (h : Line classes name line) :
    line.Pairwise fun a b => (a == b) = false := by
  induction h with
  | top => exact List.Pairwise.nil
  | @up _ parent line _ rest ih =>
    refine List.Pairwise.cons (fun n hn => ?_) ih
    have apart := rest.not_contains
    rw [List.contains_eq_any_beq, List.any_eq_false] at apart
    simpa using apart n hn

/-- A chain of declared classes is no longer than the list of classes. -/
theorem length_le (h : Line classes name line)
    (declared : ∀ n ∈ line, ∃ c ∈ classes, (c.name == n) = true) :
    line.length ≤ classes.length := by
  have known : line.length ≤ (classes.map (·.name)).length := by
    refine Name.length_le_of_distinct h.pairwise fun n hn => ?_
    obtain ⟨c, hc, hname⟩ := declared n hn
    exact ⟨c.name, List.mem_map_of_mem hc, hname⟩
  rwa [List.length_map] at known

end Line

section Ancestors

variable {classes : List ClassDef}

theorem line_of_ancestorsAmong {fuel : Nat} {seen : List Name} {name : Name} {line : List Name}
    (h : ancestorsAmong classes fuel seen name = .ok line) : Line classes name line := by
  induction fuel generalizing seen name line with
  | zero => cases h
  | succ fuel ih =>
    unfold ancestorsAmong at h
    split at h
    · next hp =>
      cases h
      exact .top hp
    · next parent hp =>
      split at h
      · cases h
      · obtain ⟨rest, hrest, rfl⟩ := map_eq_ok.mp h
        exact .up hp (ih hrest)

/-- The names met so far matter only by which names they are. -/
theorem ancestorsAmong_congr {fuel : Nat} {a b : List Name} {name : Name}
    (h : ∀ n, a.contains n = b.contains n) :
    ancestorsAmong classes fuel a name = ancestorsAmong classes fuel b name := by
  induction fuel generalizing a b name with
  | zero => rfl
  | succ fuel ih =>
    unfold ancestorsAmong
    split
    · rfl
    · next parent _ =>
      have hmet (n : Name) : (parent :: a).contains n = (parent :: b).contains n := by
        rw [List.contains_cons, List.contains_cons, h n]
      rw [h parent, ih hmet]

/-- A chain starts the same way from every spelling of a name. -/
theorem ancestorsOf_congr {a b : Name} (h : (a == b) = true) :
    ancestorsOf classes a = ancestorsOf classes b := by
  have hseen (n : Name) : [a].contains n = [b].contains n := by
    simpa [List.contains_cons] using BEq.congr_right h
  unfold ancestorsOf ancestorsAmong
  rw [find?_congr h]
  split
  · rfl
  · next parent _ =>
    have hmet (n : Name) : [parent, a].contains n = [parent, b].contains n := by
      rw [List.contains_cons, List.contains_cons (l := [b]), hseen n]
    rw [hseen parent, ancestorsAmong_congr hmet]

end Ancestors

namespace Registry

variable {d : Declarations} {r : Registry}

/-- What building a registry has checked about inheritance. -/
structure Sound (r : Registry) : Prop where
  /-- Every parent is declared. -/
  parents : ∀ c ∈ r.classes, ∀ parent, c.parent = some parent → ∃ c', r.class? parent = some c'
  /-- Every chain ends. -/
  chains : ∀ c ∈ r.classes, ∃ line, r.ancestors c.name = .ok line

theorem declared_of_checkParent {classes : List ClassDef} {c : ClassDef} {parent : Name}
    (h : Declarations.checkParent classes c = .ok ()) (hp : c.parent = some parent) :
    ∃ c', classes.find? (·.name == parent) = some c' := by
  obtain ⟨_, c', hc', hname⟩ := checkParent_eq_ok.mp h parent hp
  cases hfound : classes.find? (·.name == parent) with
  | some found => exact ⟨found, rfl⟩
  | none => exact absurd hname (List.find?_eq_none.mp hfound c' hc')

theorem sound_of_build (h : build d = .ok r) : Sound r := by
  obtain ⟨header, passes, rfl⟩ := build_eq_ok.mp h
  exact ⟨fun c hc parent hp => declared_of_checkParent (passes.parents c hc) hp, passes.chains⟩

theorem line_of_ancestors {name : Name} {line : List Name} (h : r.ancestors name = .ok line) :
    Line r.classes name line :=
  line_of_ancestorsAmong h

/-- A chain of parents goes along declared classes. -/
theorem declared_of_line {name : Name} {line : List Name} (hs : Sound r)
    (h : Line r.classes name line) : ∀ n ∈ line, ∃ c ∈ r.classes, (c.name == n) = true := by
  induction h with
  | top => exact fun n hn => (List.not_mem_nil hn).elim
  | @up name parent line hp _ ih =>
    refine List.forall_mem_cons.mpr ⟨?_, ih⟩
    obtain ⟨c, hc, hparent⟩ := Option.bind_eq_some_iff.mp hp
    obtain ⟨above, habove⟩ := hs.parents c (List.mem_of_find?_eq_some hc) parent hparent
    exact ⟨above, List.mem_of_find?_eq_some habove, by simpa using List.find?_some habove⟩

/-- Every name has a chain of parents. -/
theorem Sound.exists_ancestors (h : Sound r) (name : Name) :
    ∃ line, r.ancestors name = .ok line := by
  cases hc : r.class? name with
  | none =>
    refine ⟨[], ?_⟩
    unfold ancestors ancestorsOf ancestorsAmong
    rw [show r.classes.find? (·.name == name) = none from hc]
    rfl
  | some c =>
    have hname : (c.name == name) = true := by simpa using List.find?_some (show _ = _ from hc)
    obtain ⟨line, hline⟩ := h.chains c (List.mem_of_find?_eq_some hc)
    exact ⟨line, by rw [ancestors, ← ancestorsOf_congr hname]; exact hline⟩

end Registry

end EngineBindings
