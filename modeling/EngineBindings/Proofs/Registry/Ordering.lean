import EngineBindings.Proofs.Registry.ParentFirst
import Mathlib.Data.List.Induction

/-! What the order with parents first is.

Placing a class puts what is missing of its line behind the classes placed before: its ancestors
from the farthest to the nearest, and then the class (`keys_placeClass`). So the order can be told
without the walk that makes it. It is what is left of the lines of all classes, written one after
another in the order of declaration, when every name is kept where it first occurs
(`parentFirst_eq_lines`). -/
namespace EngineBindings

variable {classes placed : List ClassDef} {fuel : Nat}

/-! ### First occurrences -/

theorem eraseDups_of_nodup {α : Type} [BEq α] [LawfulBEq α] {xs : List α} (h : xs.Nodup) :
    xs.eraseDups = xs := by
  induction h with
  | nil => rfl
  | @cons x xs apart _ ih =>
    have others : xs.filter (fun y => !y == x) = xs := by
      refine List.filter_eq_self.mpr fun y hy => ?_
      simpa using Ne.symm (apart y hy)
    rw [List.eraseDups_cons, others, ih]

/-- Behind a list, what occurs for the first time is what the list does not have. -/
theorem eraseDups_append_of_nodup {α : Type} [BEq α] [LawfulBEq α] {xs ys : List α}
    (h : ys.Nodup) :
    (xs ++ ys).eraseDups = xs.eraseDups ++ ys.filter fun y => !xs.eraseDups.contains y := by
  have left : ys.removeAll xs = ys.filter fun y => !xs.eraseDups.contains y := by
    refine List.filter_congr fun y _ => ?_
    rw [Bool.eq_iff_iff]
    simp
  rw [List.eraseDups_append, left, eraseDups_of_nodup (h.filter _)]

/-- Names occur for the first time where their keys do. -/
theorem Name.map_key_eraseDups :
    (names : List Name) → names.eraseDups.map Name.key = (names.map Name.key).eraseDups
  | [] => rfl
  | name :: rest => by
    have others : (rest.filter fun m => !m == name).map Name.key =
        (rest.map Name.key).filter fun k => !k == name.key := by
      rw [List.filter_map]
      refine congrArg _ (List.filter_congr fun m _ => ?_)
      rw [Function.comp_apply, Bool.eq_iff_iff, Bool.not_eq_true', Bool.not_eq_true',
        Bool.eq_false_iff, Bool.eq_false_iff, ne_eq, ne_eq, Name.beq_iff, beq_iff_eq]
    rw [List.eraseDups_cons, List.map_cons, map_key_eraseDups, others, List.map_cons,
      List.eraseDups_cons]
termination_by names => names.length
decreasing_by
  exact Nat.lt_succ_of_le (List.length_filter_le ..)

theorem Name.beq_of_map_key {xs ys : List Name} (h : xs.map Name.key = ys.map Name.key) :
    (xs == ys) = true := by
  induction xs generalizing ys with
  | nil =>
    rw [List.map_nil, eq_comm, List.map_eq_nil_iff] at h
    rw [h]
    rfl
  | cons x xs ih =>
    cases ys with
    | nil => cases h
    | cons y ys =>
      obtain ⟨first, rest⟩ := List.cons.inj h
      rw [List.cons_beq_cons, (Name.beq_iff x y).mpr first, ih rest, Bool.and_true]

/-! ### Placing along a line -/

theorem placeClass_of_placed {c : ClassDef} (h : placed.any (·.name == c.name) = true) :
    placeClass classes fuel placed c = placed := by
  cases fuel with
  | zero => rfl
  | succ fuel => rw [placeClass, if_pos h]

/-- What tells the placed classes apart, in order. -/
def keysOf (placed : List ClassDef) : List Name.Key :=
  placed.map (·.name.key)

theorem any_name_iff {name : Name} :
    placed.any (·.name == name) = true ↔ name.key ∈ keysOf placed := by
  rw [List.any_eq_true, keysOf, List.mem_map]
  simp only [Name.beq_iff]

/-- A placed class is behind all of its ancestors, so that they are placed as well. -/
theorem ParentsFirst.key_mem (h : Findable classes) (ordered : ParentsFirst placed)
    (declared : ∀ x ∈ placed, x ∈ classes) {name : Name} {line : List Name}
    (hline : Line classes name line) (hname : name.key ∈ keysOf placed) :
    ∀ n ∈ line, n.key ∈ keysOf placed := by
  induction hline with
  | top => exact fun n hn => (List.not_mem_nil hn).elim
  | @up name parent line hp _ ih =>
    obtain ⟨x, hx, hsame⟩ := List.any_eq_true.mp (any_name_iff.mpr hname)
    rw [h.parentAmong_eq (declared x hx) hsame] at hp
    obtain ⟨before, after, hplaced⟩ := List.append_of_mem hx
    obtain ⟨above, habove, hparent⟩ := ordered.exists_before hplaced hp
    have placedAbove : above ∈ placed := hplaced ▸ List.mem_append_left _ habove
    have known : parent.key ∈ keysOf placed :=
      any_name_iff.mp (List.any_eq_true.mpr ⟨above, placedAbove, hparent⟩)
    exact List.forall_mem_cons.mpr ⟨known, ih known⟩

/-- No two names on a line are the same. -/
theorem Line.nodup_keys {name : Name} {line : List Name} (h : Line classes name line) :
    ((line.reverse ++ [name]).map Name.key).Nodup := by
  rw [← List.reverse_cons, List.map_reverse, (List.reverse_perm _).nodup_iff, List.map_cons,
    List.nodup_cons]
  have apart := h.not_contains
  rw [List.contains_eq_any_beq, List.any_eq_false] at apart
  constructor
  · intro hmem
    obtain ⟨n, hn, hkey⟩ := List.mem_map.mp hmem
    exact apart n hn ((Name.beq_iff _ _).mpr hkey.symm)
  · refine List.pairwise_map.mpr (h.pairwise.imp fun {a b} hab hkey => ?_)
    rw [(Name.beq_iff a b).mpr hkey] at hab
    cases hab

/-- The keys of names that no placed class goes by. -/
def missingFrom (placed : List ClassDef) (names : List Name) : List Name.Key :=
  (names.map Name.key).filter fun k => !(keysOf placed).contains k

theorem missingFrom_append (names others : List Name) :
    missingFrom placed (names ++ others) =
      missingFrom placed names ++ missingFrom placed others := by
  simp only [missingFrom, List.map_append, List.filter_append]

theorem missingFrom_eq_nil {names : List Name} (h : ∀ n ∈ names, n.key ∈ keysOf placed) :
    missingFrom placed names = [] := by
  refine List.filter_eq_nil_iff.mpr fun k hk => ?_
  obtain ⟨n, hn, rfl⟩ := List.mem_map.mp hk
  simpa using h n hn

theorem missingFrom_singleton {name : Name} (h : name.key ∉ keysOf placed) :
    missingFrom placed [name] = [name.key] := by
  refine List.filter_eq_self.mpr fun k hk => ?_
  rw [List.map_singleton, List.mem_singleton] at hk
  simpa [hk] using h

/-- Placing a class adds what is missing of its line, from the farthest ancestor to the class
itself, by induction on the chain of its parents. -/
theorem keys_placeClass (h : Findable classes) {c : ClassDef} {name : Name} {line : List Name}
    (hline : Line classes name line) (hc : c ∈ classes) (hname : (c.name == name) = true)
    (hfuel : line.length < fuel) (ordered : ParentsFirst placed)
    (declared : ∀ x ∈ placed, x ∈ classes) :
    keysOf (placeClass classes fuel placed c) =
      keysOf placed ++ missingFrom placed (line.reverse ++ [name]) := by
  have hkey : c.name.key = name.key := (Name.beq_iff _ _).mp hname
  induction hline generalizing c fuel with
  | @top name hp =>
    obtain ⟨fuel, rfl⟩ := Nat.exists_eq_add_one.mpr (Nat.lt_of_le_of_lt (Nat.zero_le _) hfuel)
    rw [h.parentAmong_eq hc hname] at hp
    rw [List.reverse_nil, List.nil_append, placeClass]
    split
    · next hplaced =>
      rw [missingFrom_eq_nil (by simpa [← hkey] using any_name_iff.mp hplaced), List.append_nil]
    · next hplaced =>
      rw [any_name_iff, hkey] at hplaced
      rw [missingFrom_singleton hplaced, hp, ← hkey]
      exact List.map_append ..
  | @up name parent line hp rest ih =>
    obtain ⟨fuel, rfl⟩ := Nat.exists_eq_add_one.mpr (Nat.lt_of_le_of_lt (Nat.zero_le _) hfuel)
    have hline := Line.up hp rest
    rw [h.parentAmong_eq hc hname] at hp
    obtain ⟨above, hfound⟩ := h.parents c hc parent hp
    have hparent : (above.name == parent) = true := by simpa using List.find?_some hfound
    rw [placeClass]
    split
    · -- nothing is missing, since a placed class is behind all of its ancestors
      next hplaced =>
      have known : name.key ∈ keysOf placed := hkey ▸ any_name_iff.mp hplaced
      have whole : ∀ n ∈ (parent :: line).reverse ++ [name], n.key ∈ keysOf placed := by
        intro n hn
        rcases List.mem_append.mp hn with hn | hn
        · exact ordered.key_mem h declared hline known n (List.mem_reverse.mp hn)
        · rwa [List.mem_singleton.mp hn]
      rw [missingFrom_eq_nil whole, List.append_nil]
    · next hplaced =>
      rw [any_name_iff, hkey] at hplaced
      have step := ih (List.mem_of_find?_eq_some hfound) hparent (Nat.lt_of_succ_lt_succ hfuel)
        ((Name.beq_iff _ _).mp hparent)
      simp only [hp, Option.bind_some, hfound]
      rw [List.reverse_cons, missingFrom_append _ [name], missingFrom_singleton hplaced, ← hkey,
        ← List.append_assoc, ← step]
      exact List.map_append ..

/-! ### The whole order -/

/-- Placing classes one after another keeps the first occurrences along their lines. -/
theorem keys_foldl (h : Findable classes) {lineOf : ClassDef → List Name}
    (lines : ∀ c ∈ classes, Line classes c.name (lineOf c) ∧ (lineOf c).length < fuel)
    {todo : List ClassDef} (htodo : ∀ c ∈ todo, c ∈ classes) (ordered : ParentsFirst placed)
    (declared : ∀ x ∈ placed, x ∈ classes) {names : List Name}
    (before : keysOf placed = (names.map Name.key).eraseDups) :
    keysOf (todo.foldl (placeClass classes fuel) placed) =
      ((names ++ todo.flatMap fun c => (lineOf c).reverse ++ [c.name]).map Name.key).eraseDups := by
  induction todo generalizing placed names with
  | nil => rw [List.foldl_nil, before, List.flatMap_nil, List.append_nil]
  | cons c rest ih =>
    obtain ⟨hc, hrest⟩ := List.forall_mem_cons.mp htodo
    obtain ⟨hline, hfuel⟩ := lines c hc
    rw [List.foldl_cons, List.flatMap_cons, ← List.append_assoc]
    refine ih hrest (ordered_placeClass h hline hc BEq.rfl hfuel ordered).ordered
      (fun x hx => (mem_placeClass hc hx).elim (declared x) id) ?_
    rw [keys_placeClass h hline hc BEq.rfl hfuel ordered declared, List.map_append,
      eraseDups_append_of_nodup hline.nodup_keys, ← before]
    rfl

/-- Classes that stand behind their parents already are placed as they come. -/
theorem foldl_placeClass_of_parentsFirst {todo : List ClassDef}
    (ordered : ParentsFirst (placed ++ todo)) :
    todo.foldl (placeClass classes (fuel + 1)) placed = placed ++ todo := by
  induction todo generalizing placed with
  | nil => rw [List.foldl_nil, List.append_nil]
  | cons c rest ih =>
    have unplaced : ¬placed.any (·.name == c.name) = true := by
      intro hplaced
      obtain ⟨x, hx, hsame⟩ := List.any_eq_true.mp hplaced
      have apart := (List.pairwise_append.mp ordered.distinct).2.2 x hx c (List.mem_cons_self ..)
      rw [hsame] at apart
      cases apart
    have next : placeClass classes (fuel + 1) placed c = placed ++ [c] := by
      rw [placeClass, if_neg unplaced]
      split
      · rfl
      · next above hfound =>
        obtain ⟨parent, hp, hfound⟩ := Option.bind_eq_some_iff.mp hfound
        obtain ⟨x, hx, hsame⟩ := ordered.exists_before rfl hp
        have hparent : (above.name == parent) = true := by simpa using List.find?_some hfound
        have already : placed.any (·.name == above.name) = true :=
          List.any_eq_true.mpr ⟨x, hx, BEq.trans hsame (BEq.symm hparent)⟩
        rw [placeClass_of_placed already]
    rw [List.foldl_cons, next, ih (by rwa [List.append_assoc]), List.append_assoc]
    rfl

/-- No class is in front of one of its ancestors. -/
theorem ParentsFirst.pairwise_lines (h : Findable classes) (ordered : ParentsFirst placed)
    (declared : ∀ x ∈ placed, x ∈ classes) :
    placed.Pairwise fun c behind => ∀ line, Line classes c.name line →
      line.contains behind.name = false := by
  induction ordered with
  | nil => exact List.Pairwise.nil
  | @behind placed last before unplaced _ ih =>
    obtain ⟨declared, _⟩ := List.forall_mem_append.mp declared
    refine List.pairwise_append.mpr ⟨ih declared, List.pairwise_singleton .., ?_⟩
    intro c hc last' hlast line hline
    rw [List.mem_singleton.mp hlast, Bool.eq_false_iff]
    intro hcontains
    obtain ⟨n, hn, hsame⟩ := List.contains_iff_exists_mem_beq.mp hcontains
    have known := before.key_mem h declared hline (List.mem_map_of_mem hc) n hn
    rw [← (Name.beq_iff _ _).mp hsame, ← any_name_iff, unplaced] at known
    cases known

namespace Registry

variable {d : Declarations} {r : Registry}

/-- No class is its own parent. -/
theorem parent_ne_of_build (h : build d = .ok r) {c : ClassDef} {parent : Name}
    (hc : c ∈ r.classes) (hp : c.parent = some parent) : (c.name == parent) = false := by
  obtain ⟨line, hline⟩ := (sound_of_build h).exists_ancestors parent
  have step := (findable_of_build h).parentAmong_eq hc BEq.rfl
  have apart := (Line.up (step.trans hp) (line_of_ancestors hline)).not_contains
  rw [List.contains_cons, Bool.or_eq_false_iff] at apart
  exact apart.1

/-- Where no class is declared in front of its parent, every class is declared behind it. -/
theorem parentsFirst_of_pairwise (h : build d = .ok r)
    (order : r.classes.Pairwise fun c behind => ∀ parent, c.parent = some parent →
      (behind.name == parent) = false) : ParentsFirst r.classes := by
  have sound := sound_of_build h
  -- every prefix is in order, by induction on its length from the back
  have prefixes (before : List ClassDef) : ∀ after, r.classes = before ++ after →
      ParentsFirst before := by
    induction before using List.reverseRecOn with
    | nil => exact fun _ _ => .nil
    | append_singleton before c ih =>
      intro after hclasses
      rw [List.append_assoc, List.singleton_append] at hclasses
      have hc : c ∈ r.classes := hclasses ▸ List.mem_append_right _ (List.mem_cons_self ..)
      have distinct := distinct_of_build h
      rw [hclasses] at distinct order
      refine .behind (ih _ hclasses) ?_ fun parent hp => ?_
      · rw [List.any_eq_false]
        intro x hx
        rw [(List.pairwise_append.mp distinct).2.2 x hx c (List.mem_cons_self ..)]
        exact Bool.false_ne_true
      · obtain ⟨above, habove⟩ := sound.parents c hc parent hp
        have hparent : (above.name == parent) = true := by
          simpa using List.find?_some (show _ = _ from habove)
        have place := hclasses ▸ List.mem_of_find?_eq_some habove
        rcases List.mem_append.mp place with hbefore | hbehind
        · exact List.any_eq_true.mpr ⟨above, hbefore, hparent⟩
        · rcases List.mem_cons.mp hbehind with rfl | hbehind
          · rw [parent_ne_of_build h hc hp] at hparent
            cases hparent
          · have apart := (List.pairwise_cons.mp (List.pairwise_append.mp order).2.1).1 above
              hbehind parent hp
            rw [hparent] at apart
            cases apart
  exact prefixes r.classes [] (List.append_nil _).symm

/-- A lamp and a door, declared in front of what they are, and a timer behind it. -/
def furniture : List ClassDef :=
  [.declaring ("Lamp" : String) (some ("Light" : String)) [] [],
   .declaring ("Door" : String) (some ("Node" : String)) [] [],
   .declaring ("Light" : String) (some ("Node" : String)) [] [],
   .declaring ("Node" : String) none [] [],
   .declaring ("Timer" : String) (some ("Node" : String)) [] []]

end Registry

end EngineBindings
