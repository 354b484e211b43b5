import EngineBindings.Insertion
import Mathlib.Data.List.Perm.Basic

/-! What sorting by insertion gives.

Sorting keeps all items, and on items made of others it does what it does on those. Where what
comes before what is a question of rank, the result is in order of the ranks
(`ranked_sortByInsertion`): the leading run is in order, and every further item goes behind all
items of at most its own rank and in front of all others. -/
namespace EngineBindings

variable {α β : Type} (before : α → α → Bool)

/-! ### All items are kept -/

theorem leadingRun_append (falling : Bool) (items : List α) :
    (leadingRun before falling items).1 ++ (leadingRun before falling items).2 = items := by
  fun_induction leadingRun before falling items with
  | case1 => rfl
  | case2 x => rfl
  | case3 x y rest _ run others _ ih => simpa [*] using ih
  | case4 x y rest => rfl

theorem insertSorted_perm (sorted : List α) (x : α) :
    (insertSorted before sorted x).Perm (x :: sorted) := by
  unfold insertSorted
  refine List.perm_middle.trans ?_
  rw [List.take_append_drop]

theorem foldl_insertSorted_perm (sorted items : List α) :
    (items.foldl (insertSorted before) sorted).Perm (sorted ++ items) := by
  induction items generalizing sorted with
  | nil => simp
  | cons x items ih =>
    refine (ih (insertSorted before sorted x)).trans ?_
    exact ((insertSorted_perm before sorted x).append_right items).trans List.perm_middle.symm

theorem sortByInsertion_perm (items : List α) : (sortByInsertion before items).Perm items := by
  unfold sortByInsertion
  split
  · next x y rest =>
    refine (foldl_insertSorted_perm before _ _).trans ?_
    have kept := leadingRun_append before (before y x) (x :: y :: rest)
    conv_rhs => rw [← kept]
    split
    · exact (List.reverse_perm _).append_right _
    · exact .rfl
  · exact .rfl

/-! ### Items made of others -/

section Map

variable (f : β → α)

theorem leadingRun_map (falling : Bool) (items : List β) :
    leadingRun before falling (items.map f) =
      ((leadingRun (fun a b => before (f a) (f b)) falling items).1.map f,
        (leadingRun (fun a b => before (f a) (f b)) falling items).2.map f) := by
  fun_induction leadingRun (fun a b => before (f a) (f b)) falling items with
  | case1 => rfl
  | case2 x => rfl
  | case3 x y rest hrun run others hothers ih =>
    rw [hothers, List.map_cons] at ih
    simp [leadingRun, hrun, ih]
  | case4 x y rest hrun => simp [leadingRun, hrun]

theorem placeBetween_map (sorted : List β) (x : β) (low high : Nat) :
    placeBetween before (sorted.map f) (f x) low high =
      placeBetween (fun a b => before (f a) (f b)) sorted x low high := by
  fun_induction placeBetween (fun a b => before (f a) (f b)) sorted x low high with
  | case1 low high hlow middle hnone =>
    rw [placeBetween, if_pos hlow]
    simp only [List.getElem?_map, middle, hnone, Option.map_none]
  | case2 low high hlow middle y hy hbefore ih =>
    rw [placeBetween, if_pos hlow]
    simp only [List.getElem?_map, middle, hy, Option.map_some, hbefore, if_true, ih]
  | case3 low high hlow middle y hy hbefore ih =>
    rw [placeBetween, if_pos hlow]
    simp only [List.getElem?_map, middle, hy, Option.map_some, hbefore, ih]
    rfl
  | case4 low high hlow => rw [placeBetween, if_neg hlow]

theorem insertSorted_map (sorted : List β) (x : β) :
    insertSorted before (sorted.map f) (f x) =
      (insertSorted (fun a b => before (f a) (f b)) sorted x).map f := by
  simp [insertSorted, placeBetween_map, List.map_take, List.map_drop]

theorem foldl_insertSorted_map (sorted items : List β) :
    (items.map f).foldl (insertSorted before) (sorted.map f) =
      (items.foldl (insertSorted fun a b => before (f a) (f b)) sorted).map f := by
  induction items generalizing sorted with
  | nil => rfl
  | cons x items ih => rw [List.map_cons, List.foldl_cons, insertSorted_map, ih, List.foldl_cons]

/-- Sorting looks at nothing of the items but what comes before what. -/
theorem sortByInsertion_map (items : List β) :
    sortByInsertion before (items.map f) =
      (sortByInsertion (fun a b => before (f a) (f b)) items).map f := by
  match items with
  | [] => rfl
  | [x] => rfl
  | x :: y :: rest =>
    have hrun := leadingRun_map before f (before (f y) (f x)) (x :: y :: rest)
    simp only [List.map_cons] at hrun
    simp only [sortByInsertion, List.map_cons, hrun, ← foldl_insertSorted_map]
    split <;> simp

end Map

/-! ### Items in order of their ranks -/

/-- Items none of which stands behind one of a higher rank. -/
def Ranked (rank : α → Int) (items : List α) : Prop :=
  items.Pairwise fun a b => rank a ≤ rank b

variable {before} {rank : α → Int} {sorted : List α} {x : α}

theorem exists_leadingRun_cons (before : α → α → Bool) (falling : Bool) (x : α) (rest : List α) :
    ∃ run, (leadingRun before falling (x :: rest)).1 = x :: run := by
  cases rest with
  | nil => exact ⟨[], rfl⟩
  | cons y rest =>
    unfold leadingRun
    split <;> exact ⟨_, rfl⟩

/-- What holds from each item of a run to the next holds along the run. -/
theorem pairwise_leadingRun {R : α → α → Prop} [IsTrans α R] {falling : Bool}
    (step : ∀ x y, before y x = falling → R x y) (items : List α) :
    (leadingRun before falling items).1.Pairwise R := by
  rw [← List.isChain_iff_pairwise]
  fun_induction leadingRun before falling items with
  | case1 => exact .nil
  | case2 x => exact .singleton x
  | case3 x y rest hrun run others hothers ih =>
    obtain ⟨tail, htail⟩ := exists_leadingRun_cons before falling y rest
    rw [hothers] at ih htail
    subst htail
    exact .cons_cons (step x y hrun) ih
  | case4 x y rest => exact .singleton x

/-- Where an item is put, the items in front of it are of at most its rank and those behind it of
a higher one, if that was so of the items outside the two places to begin with. -/
theorem placeBetween_spec (ranks : ∀ a b, before a b = true ↔ rank a < rank b)
    (ranked : Ranked rank sorted) {low high : Nat} (hlow : low ≤ high)
    (hhigh : high ≤ sorted.length) (below : ∀ y ∈ sorted.take low, rank y ≤ rank x)
    (above : ∀ y ∈ sorted.drop high, rank x < rank y) :
    (∀ y ∈ sorted.take (placeBetween before sorted x low high), rank y ≤ rank x) ∧
      ∀ y ∈ sorted.drop (placeBetween before sorted x low high), rank x < rank y := by
  fun_induction placeBetween before sorted x low high with
  | case1 low high hlt middle hnone =>
    -- The middle lies in front of `high`, so there is an item.
    have past : sorted.length ≤ middle := List.getElem?_eq_none_iff.mp hnone
    omega
  | case2 low high hlt middle y hy hbefore ih =>
    refine ih (by omega) (by omega) below fun z hz => ?_
    have hxy := (ranks x y).mp hbefore
    obtain ⟨bound, rfl⟩ := List.getElem?_eq_some_iff.mp hy
    have behind : Ranked rank (sorted.drop middle) := List.Pairwise.drop ranked
    rw [List.drop_eq_getElem_cons bound] at hz behind
    rcases List.mem_cons.mp hz with rfl | hz
    · exact hxy
    · exact Int.lt_of_lt_of_le hxy (List.rel_of_pairwise_cons behind hz)
  | case3 low high hlt middle y hy hbefore ih =>
    refine ih (by omega) hhigh (fun z hz => ?_) above
    have hyx : rank y ≤ rank x := Int.not_lt.mp fun h => hbefore ((ranks x y).mpr h)
    have front : Ranked rank (sorted.take (middle + 1)) := List.Pairwise.take ranked
    rw [List.take_add_one, hy, Option.toList_some] at hz front
    rcases List.mem_append.mp hz with hz | hz
    · exact Int.le_trans ((List.pairwise_append.mp front).2.2 z hz y (by simp)) hyx
    · rwa [List.mem_singleton.mp hz]
  | case4 low high hle =>
    obtain rfl : low = high := by omega
    exact ⟨below, above⟩

theorem ranked_insertSorted (ranks : ∀ a b, before a b = true ↔ rank a < rank b)
    (ranked : Ranked rank sorted) (x : α) : Ranked rank (insertSorted before sorted x) := by
  obtain ⟨below, above⟩ := placeBetween_spec (x := x) ranks ranked (Nat.zero_le _)
    (Nat.le_refl _) (by simp) (by simp)
  have cut := ranked
  rw [← List.take_append_drop (placeBetween before sorted x 0 sorted.length) sorted] at cut
  obtain ⟨front, behind, across⟩ := List.pairwise_append.mp cut
  refine List.pairwise_append.mpr ⟨front, .cons (fun y hy => Int.le_of_lt (above y hy)) behind, ?_⟩
  intro y hy z hz
  rcases List.mem_cons.mp hz with rfl | hz
  · exact below y hy
  · exact across y hy z hz

theorem ranked_foldl_insertSorted (ranks : ∀ a b, before a b = true ↔ rank a < rank b)
    (ranked : Ranked rank sorted) (items : List α) :
    Ranked rank (items.foldl (insertSorted before) sorted) := by
  induction items generalizing sorted with
  | nil => exact ranked
  | cons x items ih => exact ih (ranked_insertSorted ranks ranked x)

/-- Sorted items are in order of their ranks. -/
theorem ranked_sortByInsertion (ranks : ∀ a b, before a b = true ↔ rank a < rank b)
    (items : List α) : Ranked rank (sortByInsertion before items) := by
  unfold sortByInsertion
  split
  · next x y rest =>
    refine ranked_foldl_insertSorted ranks ?_ _
    split
    · next falling =>
      have : IsTrans α fun a b => rank b < rank a := ⟨fun a b c hab hbc => by omega⟩
      have run : (leadingRun before (before y x) (x :: y :: rest)).1.Pairwise
          fun a b => rank b < rank a :=
        pairwise_leadingRun (fun a b hab => (ranks b a).mp (hab.trans falling)) _
      exact List.pairwise_reverse.mpr (run.imp Int.le_of_lt)
    · next rising =>
      have : IsTrans α fun a b => rank a ≤ rank b := ⟨fun a b c hab hbc => by omega⟩
      refine pairwise_leadingRun (fun a b hab => ?_) (x :: y :: rest)
      exact Int.not_lt.mp fun h => rising (hab ▸ (ranks b a).mpr h)
  · next short =>
    match items, short with
    | [], _ => exact .nil
    | [x], _ => exact List.pairwise_singleton ..
    | x :: y :: rest, short => exact absurd rfl (short x y rest)

end EngineBindings
