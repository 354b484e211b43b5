import EngineBindings.Proofs.Registry.Lineage

/-! The order with parents first.

Placing a class behind its ancestors keeps what was placed before and adds declared classes alone
(`mem_placeClass`). The class itself, or another of its name, has a place afterwards. In a built
registry, where chains of parents end, what is added are the class and ancestors of it, each of
them once and behind its parent (`ordered_placeClass`), so that the order has every class in one
place. -/
namespace EngineBindings

section Placing

variable {classes placed : List ClassDef} {fuel : Nat} {c : ClassDef}

theorem sublist_placeClass : placed.Sublist (placeClass classes fuel placed c) := by
  induction fuel generalizing placed c with
  | zero => exact List.Sublist.refl _
  | succ fuel ih =>
    unfold placeClass
    split
    · exact List.Sublist.refl _
    · dsimp only
      split
      · exact List.sublist_append_left ..
      · exact ih.trans (List.sublist_append_left ..)

theorem mem_placeClass {x : ClassDef} (hc : c ∈ classes)
    (hx : x ∈ placeClass classes fuel placed c) : x ∈ placed ∨ x ∈ classes := by
  induction fuel generalizing placed c with
  | zero => exact .inl hx
  | succ fuel ih =>
    unfold placeClass at hx
    split at hx
    · exact .inl hx
    · rcases List.mem_append.mp hx with hx | hx
      · split at hx
        · exact .inl hx
        · next parent hparent =>
          obtain ⟨name, _, hfound⟩ := Option.bind_eq_some_iff.mp hparent
          exact ih (List.mem_of_find?_eq_some hfound) hx
      · rw [List.mem_singleton.mp hx]
        exact .inr hc

/-- With any fuel left, a class has a place once it has been asked for. -/
theorem any_placeClass : (placeClass classes (fuel + 1) placed c).any (·.name == c.name) := by
  unfold placeClass
  split
  · next hplaced => exact hplaced
  · rw [List.any_append]
    simp

theorem placed_of_foldl {todo : List ClassDef} (h : ∀ c ∈ todo, c ∈ classes)
    (hplaced : ∀ x ∈ placed, x ∈ classes) :
    (∀ x ∈ todo.foldl (placeClass classes (fuel + 1)) placed, x ∈ classes) ∧
      placed.Sublist (todo.foldl (placeClass classes (fuel + 1)) placed) ∧
      ∀ c ∈ todo, (todo.foldl (placeClass classes (fuel + 1)) placed).any (·.name == c.name) := by
  induction todo generalizing placed with
  | nil => exact ⟨hplaced, List.Sublist.refl _, fun c hc => (List.not_mem_nil hc).elim⟩
  | cons c rest ih =>
    obtain ⟨hc, hrest⟩ := List.forall_mem_cons.mp h
    have next : ∀ x ∈ placeClass classes (fuel + 1) placed c, x ∈ classes := by
      intro x hx
      exact (mem_placeClass hc hx).elim (hplaced x) id
    obtain ⟨declared, keeps, covers⟩ := ih hrest next
    refine ⟨declared, sublist_placeClass.trans keeps, List.forall_mem_cons.mpr ⟨?_, covers⟩⟩
    have covered : (placeClass classes (fuel + 1) placed c).any (·.name == c.name) :=
      any_placeClass
    obtain ⟨x, hx, hname⟩ := List.any_eq_true.mp covered
    exact List.any_eq_true.mpr ⟨x, keeps.mem hx, hname⟩

/-- Classes of different names, each behind its parent. -/
inductive ParentsFirst : List ClassDef → Prop
  | nil : ParentsFirst []
  | behind {placed : List ClassDef} {c : ClassDef} (before : ParentsFirst placed)
      (unplaced : placed.any (·.name == c.name) = false)
      (parent : ∀ parent, c.parent = some parent → placed.any (·.name == parent) = true) :
      ParentsFirst (placed ++ [c])

/-- Where every class is found by its name, and so is every parent. -/
structure Findable (classes : List ClassDef) : Prop where
  self : ∀ c ∈ classes, classes.find? (·.name == c.name) = some c
  parents : ∀ c ∈ classes, ∀ parent, c.parent = some parent →
    ∃ c', classes.find? (·.name == parent) = some c'

theorem Findable.parentAmong_eq (h : Findable classes) (hc : c ∈ classes) {name : Name}
    (hname : (c.name == name) = true) : parentAmong classes name = c.parent := by
  rw [← parentAmong_congr hname, parentAmong, h.self c hc, Option.bind_some]

/-- What has come of placing a class whose chain of parents is known. -/
structure PlacedAlong (classes placed : List ClassDef) (c : ClassDef) (line : List Name)
    (result : List ClassDef) : Prop where
  ordered : ParentsFirst result
  has : result.any (·.name == c.name) = true
  added : ∀ x ∈ result, x ∈ placed ∨ (x.name == c.name) = true ∨ line.contains x.name = true

/-- Placing a class adds it behind its ancestors, by induction on the chain of its parents. -/
theorem ordered_placeClass (h : Findable classes) {name : Name} {line : List Name}
    (hline : Line classes name line) (hc : c ∈ classes) (hname : (c.name == name) = true)
    (hfuel : line.length < fuel) (ordered : ParentsFirst placed) :
    PlacedAlong classes placed c line (placeClass classes fuel placed c) := by
  induction hline generalizing c placed fuel with
  | @top name hp =>
    obtain ⟨fuel, rfl⟩ := Nat.exists_eq_add_one.mpr (Nat.lt_of_le_of_lt (Nat.zero_le _) hfuel)
    rw [h.parentAmong_eq hc hname] at hp
    unfold placeClass
    split
    · next hplaced => exact ⟨ordered, hplaced, fun x hx => .inl hx⟩
    · next hplaced =>
      simp only [hp, Option.bind_none]
      refine ⟨.behind ordered (by simpa using hplaced) (by simp [hp]), by simp, ?_⟩
      intro x hx
      rcases List.mem_append.mp hx with hx | hx
      · exact .inl hx
      · rw [List.mem_singleton.mp hx]
        exact .inr (.inl BEq.rfl)
  | @up name parent line hp rest ih =>
    have apart : (parent :: line).contains c.name = false := by
      have own := (Line.up hp rest).not_contains
      rw [List.contains_eq_any_beq] at own ⊢
      rw [← own]
      congr 1
      funext n
      exact BEq.congr_left hname
    obtain ⟨fuel, rfl⟩ := Nat.exists_eq_add_one.mpr (Nat.lt_of_le_of_lt (Nat.zero_le _) hfuel)
    rw [List.length_cons] at hfuel
    rw [h.parentAmong_eq hc hname] at hp
    obtain ⟨above, hfound⟩ := h.parents c hc parent hp
    have hparent : (above.name == parent) = true := by simpa using List.find?_some hfound
    unfold placeClass
    split
    · next hplaced => exact ⟨ordered, hplaced, fun x hx => .inl hx⟩
    · next hplaced =>
      simp only [hp, Option.bind_some, hfound]
      have step := ih (List.mem_of_find?_eq_some hfound) hparent (Nat.lt_of_succ_lt_succ hfuel) ordered
      -- an addition is the parent or above it, so it has the name of a proper ancestor
      have listed : ∀ x ∈ placeClass classes fuel placed above,
          x ∈ placed ∨ (parent :: line).contains x.name = true := by
        intro x hx
        rw [List.contains_cons, Bool.or_eq_true]
        rcases step.added x hx with hx | hx | hx
        · exact .inl hx
        · exact .inr (.inl (BEq.trans hx hparent))
        · exact .inr (.inr hx)
      refine ⟨.behind step.ordered ?_ ?_, by simp, ?_⟩
      · rw [List.any_eq_false]
        intro x hx hsame
        rcases listed x hx with hx | hx
        · exact hplaced (List.any_eq_true.mpr ⟨x, hx, hsame⟩)
        · rw [List.contains_eq_any_beq] at hx apart
          obtain ⟨n, hn, hx⟩ := List.any_eq_true.mp hx
          exact List.any_eq_false.mp apart n hn (BEq.trans (BEq.symm hsame) hx)
      · intro parent' hp'
        rw [hp] at hp'
        cases hp'
        obtain ⟨x, hx, hsame⟩ := List.any_eq_true.mp step.has
        exact List.any_eq_true.mpr ⟨x, hx, BEq.trans hsame hparent⟩
      · intro x hx
        rcases List.mem_append.mp hx with hx | hx
        · exact (listed x hx).imp_right .inr
        · rw [List.mem_singleton.mp hx]
          exact .inr (.inl BEq.rfl)

theorem ordered_foldl {todo : List ClassDef} (h : Findable classes) (htodo : ∀ c ∈ todo, c ∈ classes)
    (lines : ∀ c ∈ classes, ∃ line, Line classes c.name line ∧ line.length < fuel)
    (ordered : ParentsFirst placed) :
    ParentsFirst (todo.foldl (placeClass classes fuel) placed) := by
  induction todo generalizing placed with
  | nil => exact ordered
  | cons c rest ih =>
    obtain ⟨hc, hrest⟩ := List.forall_mem_cons.mp htodo
    obtain ⟨line, hline, hfuel⟩ := lines c hc
    exact ih hrest (ordered_placeClass h hline hc BEq.rfl hfuel ordered).ordered

theorem ParentsFirst.distinct (h : ParentsFirst placed) :
    placed.Pairwise fun a b => (a.name == b.name) = false := by
  induction h with
  | nil => exact List.Pairwise.nil
  | behind _ unplaced _ ih =>
    refine List.pairwise_append.mpr ⟨ih, List.pairwise_singleton .., fun x hx c hc => ?_⟩
    rw [List.mem_singleton.mp hc]
    simpa using List.any_eq_false.mp unplaced x hx

/-- A class that has a parent has it among the classes in front of it. -/
theorem ParentsFirst.exists_before (h : ParentsFirst placed) {before after : List ClassDef}
    (hplaced : placed = before ++ c :: after) {parent : Name} (hparent : c.parent = some parent) :
    ∃ above ∈ before, (above.name == parent) = true := by
  induction h generalizing after with
  | nil => simp at hplaced
  | @behind placed last _ _ hlast ih =>
    rcases List.eq_nil_or_concat after with rfl | ⟨rest, x, rfl⟩
    · obtain ⟨rfl, hlast'⟩ := List.append_inj' hplaced rfl
      cases hlast'
      exact List.any_eq_true.mp (hlast parent hparent)
    · rw [List.concat_eq_append, ← List.cons_append, ← List.append_assoc] at hplaced
      exact ih (List.append_inj' hplaced rfl).1

end Placing

namespace Registry

variable {r : Registry} {c : ClassDef}

theorem mem_classes_of_parentFirst (h : c ∈ r.parentFirst) : c ∈ r.classes :=
  (placed_of_foldl (fun _ hc => hc) (fun _ hx => (List.not_mem_nil hx).elim)).1 c h

/-- Every class has a place in the order, if not itself then by its name. -/
theorem exists_parentFirst (h : c ∈ r.classes) :
    ∃ c' ∈ r.parentFirst, (c'.name == c.name) = true :=
  List.any_eq_true.mp
    ((placed_of_foldl (fun _ hc => hc) (fun _ hx => (List.not_mem_nil hx).elim)).2.2 c h)

theorem findable_of_build {d : Declarations} (h : build d = .ok r) : Findable r.classes :=
  ⟨fun _ hc => class?_of_mem h hc, (sound_of_build h).parents⟩

/-- In a built registry the order has every parent in front of its children. -/
theorem parentsFirst_of_build {d : Declarations} (h : build d = .ok r) :
    ParentsFirst r.parentFirst := by
  have sound := sound_of_build h
  refine ordered_foldl (findable_of_build h) (fun _ hc => hc) (fun c hc => ?_) .nil
  obtain ⟨line, hline⟩ := sound.exists_ancestors c.name
  have chain := line_of_ancestors hline
  refine ⟨line, chain, Nat.lt_succ_of_le (chain.length_le ?_)⟩
  exact declared_of_line sound chain

/-- In a built registry the order has every class, and has it once. -/
theorem parentFirst_perm {d : Declarations} (h : build d = .ok r) :
    r.parentFirst.Perm r.classes := by
  have nodup {classes : List ClassDef}
      (distinct : classes.Pairwise fun a b => (a.name == b.name) = false) : classes.Nodup := by
    refine distinct.imp fun {a b} hab hsame => ?_
    rw [hsame, BEq.rfl] at hab
    cases hab
  rw [List.perm_ext_iff_of_nodup (nodup (parentsFirst_of_build h).distinct)
    (nodup (distinct_of_build h))]
  intro c
  refine ⟨mem_classes_of_parentFirst, fun hc => ?_⟩
  obtain ⟨c', hc', hname⟩ := exists_parentFirst hc
  have self := class?_of_mem h (mem_classes_of_parentFirst hc')
  rw [class?, find?_congr hname] at self
  rw [← Option.some.inj (self.symm.trans (class?_of_mem h hc))]
  exact hc'

end Registry

end EngineBindings
