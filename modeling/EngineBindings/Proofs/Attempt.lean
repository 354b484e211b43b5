import Mathlib.Data.List.Forall2
import Mathlib.Data.List.Perm.Basic

/-! Computations that may fail, one after another.

Planning is a sequence of steps each of which may stop the run. `bind_eq_ok` takes a sequence
that has returned apart into its steps, and `mapM_eq_ok` does so for a step repeated over a
list: the results stand in order beside what they were made from. -/
namespace EngineBindings.Attempt

variable {ε ε' α β γ : Type}

/-! ### Single steps -/

theorem bind_eq_ok {x : Except ε α} {f : α → Except ε β} {b : β} :
    x >>= f = .ok b ↔ ∃ a, x = .ok a ∧ f a = .ok b := by
  cases x with
  | error e => simp [bind, Except.bind]
  | ok a => simp [bind, Except.bind]

theorem ok_bind {a : α} {f : α → Except ε β} : Except.ok a >>= f = f a :=
  rfl

theorem pure_eq_ok {a b : α} : (pure a : Except ε α) = .ok b ↔ a = b :=
  Except.ok.injEq a b ▸ Iff.rfl

theorem map_eq_ok {x : Except ε α} {f : α → β} {b : β} :
    x.map f = .ok b ↔ ∃ a, x = .ok a ∧ f a = b := by
  cases x with
  | error e => simp [Except.map]
  | ok a => simp [Except.map]

theorem map_map {x : Except ε α} {f : α → β} {g : β → γ} :
    (x.map f).map g = x.map fun a => g (f a) := by
  cases x <;> rfl

theorem map_bind {x : Except ε α} {g : α → Except ε β} {f : β → γ} :
    (x >>= g).map f = x >>= fun a => (g a).map f := by
  cases x <;> rfl

theorem map_pure {a : α} {f : α → β} : (pure a : Except ε α).map f = pure (f a) :=
  rfl

theorem ok_of_map_eq {x : Except ε α} {y : Except ε β} {f : α → γ} {g : β → γ} {a : α}
    (h : x.map f = y.map g) (hx : x = .ok a) : ∃ b, y = .ok b ∧ f a = g b := by
  subst hx
  cases y with
  | error e => cases h
  | ok b => exact ⟨b, rfl, Except.ok.inj h⟩

theorem mapError_eq_ok {x : Except ε α} {f : ε → ε'} {a : α} :
    x.mapError f = .ok a ↔ x = .ok a := by
  cases x with
  | error e => simp [Except.mapError]
  | ok a => simp [Except.mapError]

theorem exists_eq_ok_of_any {x : Except ε α} {p : α → Bool} (h : x.toOption.any p) :
    ∃ a, x = .ok a ∧ p a = true := by
  cases x with
  | error e => cases h
  | ok a => exact ⟨a, rfl, h⟩

theorem exists_eq_ok {x : Except ε α} (h : x.toOption.isSome) : ∃ a, x = .ok a := by
  cases x with
  | error e => cases h
  | ok a => exact ⟨a, rfl⟩

/-- Two steps fail together when they return together. -/
theorem error_iff_of_ok_iff {x : Except ε α} {y : Except ε β}
    (h : (∃ a, x = .ok a) ↔ ∃ b, y = .ok b) : (∃ e, x = .error e) ↔ ∃ e, y = .error e := by
  cases x with
  | error e => cases y with
    | error e' => exact ⟨fun _ => ⟨e', rfl⟩, fun _ => ⟨e, rfl⟩⟩
    | ok b =>
      obtain ⟨a, ha⟩ := h.mpr ⟨b, rfl⟩
      exact absurd ha (by simp)
  | ok a => cases y with
    | error e' =>
      obtain ⟨b, hb⟩ := h.mp ⟨a, rfl⟩
      exact absurd hb (by simp)
    | ok b => simp

/-! ### A step repeated over a list -/

theorem mapM_eq_ok {f : α → Except ε β} {xs : List α} {ys : List β} :
    xs.mapM f = .ok ys ↔ List.Forall₂ (fun x y => f x = .ok y) xs ys := by
  induction xs generalizing ys with
  | nil =>
    rw [List.mapM_nil, pure_eq_ok, List.forall₂_nil_left_iff, eq_comm]
  | cons x xs ih =>
    rw [List.mapM_cons]
    constructor
    · intro h
      obtain ⟨y, hy, h⟩ := bind_eq_ok.mp h
      obtain ⟨rest, hrest, h⟩ := bind_eq_ok.mp h
      rw [← pure_eq_ok.mp h]
      exact .cons hy (ih.mp hrest)
    · intro h
      cases h with
      | cons hy hrest =>
        exact bind_eq_ok.mpr ⟨_, hy, bind_eq_ok.mpr ⟨_, ih.mpr hrest, rfl⟩⟩

/-- A repeated step returns exactly when it returns on every item. -/
theorem exists_mapM_eq_ok {f : α → Except ε β} {xs : List α} :
    (∃ ys, xs.mapM f = .ok ys) ↔ ∀ x ∈ xs, ∃ y, f x = .ok y := by
  induction xs with
  | nil => simp [pure_eq_ok]
  | cons x xs ih =>
    rw [List.forall_mem_cons, ← ih, List.mapM_cons]
    constructor
    · rintro ⟨ys, h⟩
      obtain ⟨y, hy, h⟩ := bind_eq_ok.mp h
      obtain ⟨rest, hrest, _⟩ := bind_eq_ok.mp h
      exact ⟨⟨y, hy⟩, rest, hrest⟩
    · rintro ⟨⟨y, hy⟩, rest, hrest⟩
      exact ⟨y :: rest, bind_eq_ok.mpr ⟨y, hy, bind_eq_ok.mpr ⟨rest, hrest, rfl⟩⟩⟩

/-- A repeated step returns, or stops at an item with the fault found there. -/
theorem mapM_eq_ok_or_error (f : α → Except ε β) (xs : List α) :
    (∃ ys, xs.mapM f = .ok ys) ∨ ∃ x ∈ xs, ∃ e, f x = .error e ∧ xs.mapM f = .error e := by
  induction xs with
  | nil => exact .inl ⟨[], rfl⟩
  | cons x xs ih =>
    rw [List.mapM_cons]
    cases hx : f x with
    | error e => exact .inr ⟨x, List.mem_cons_self .., e, hx, rfl⟩
    | ok y =>
      rcases ih with ⟨ys, hxs⟩ | ⟨x', hx', e, he, hxs⟩
      · exact .inl ⟨y :: ys, by rw [hxs]; rfl⟩
      · exact .inr ⟨x', List.mem_cons_of_mem _ hx', e, he, by rw [hxs]; rfl⟩

/-- A step that returns wherever another one does, repeated over the same items. -/
theorem exists_mapM_of_forall {f : α → Except ε β} {g : α → Except ε γ} {R : β → γ → Prop}
    {xs : List α} {ys : List β} (h : xs.mapM f = .ok ys)
    (hfg : ∀ x ∈ xs, ∀ y, f x = .ok y → ∃ z, g x = .ok z ∧ R y z) :
    ∃ zs, xs.mapM g = .ok zs ∧ List.Forall₂ R ys zs := by
  induction xs generalizing ys with
  | nil =>
    cases pure_eq_ok.mp h
    exact ⟨[], rfl, .nil⟩
  | cons x xs ih =>
    obtain ⟨hx, hxs⟩ := List.forall_mem_cons.mp hfg
    rw [List.mapM_cons] at h
    obtain ⟨y, hy, h⟩ := bind_eq_ok.mp h
    obtain ⟨rest, hrest, h⟩ := bind_eq_ok.mp h
    cases pure_eq_ok.mp h
    obtain ⟨z, hz, related⟩ := hx y hy
    obtain ⟨zs, hzs, others⟩ := ih hrest hxs
    refine ⟨z :: zs, ?_, .cons related others⟩
    rw [List.mapM_cons, hz, ok_bind, hzs]
    rfl

/-- A step that returns what another one does wherever that returns, repeated over the same
items. -/
theorem mapM_of_forall {f g : α → Except ε β} {P : β → Prop} {xs : List α} {ys : List β}
    (h : xs.mapM f = .ok ys) (hfg : ∀ x ∈ xs, ∀ y, f x = .ok y → g x = .ok y ∧ P y) :
    xs.mapM g = .ok ys ∧ ∀ y ∈ ys, P y := by
  induction xs generalizing ys with
  | nil =>
    cases pure_eq_ok.mp h
    exact ⟨rfl, nofun⟩
  | cons x xs ih =>
    obtain ⟨hx, hxs⟩ := List.forall_mem_cons.mp hfg
    rw [List.mapM_cons] at h
    obtain ⟨y, hy, h⟩ := bind_eq_ok.mp h
    obtain ⟨rest, hrest, h⟩ := bind_eq_ok.mp h
    cases pure_eq_ok.mp h
    obtain ⟨first, hP⟩ := hx y hy
    obtain ⟨others, hPs⟩ := ih hrest hxs
    rw [List.mapM_cons, first, ok_bind, others]
    exact ⟨rfl, List.forall_mem_cons.mpr ⟨hP, hPs⟩⟩

/-- What every step of a walk preserves holds at its end. -/
theorem foldlM_preserves {f : β → α → Except ε β} {P : β → Prop}
    (step : ∀ {b a b'}, P b → f b a = .ok b' → P b') {xs : List α} {b b' : β} (hb : P b)
    (h : xs.foldlM f b = .ok b') : P b' := by
  induction xs generalizing b with
  | nil =>
    cases h
    exact hb
  | cons x xs ih =>
    rw [List.foldlM_cons] at h
    obtain ⟨next, hnext, h⟩ := bind_eq_ok.mp h
    exact ih (step hb hnext) h

theorem forM_eq_ok {f : α → Except ε Unit} {xs : List α} {u : Unit} (h : xs.forM f = .ok u) :
    ∀ x ∈ xs, f x = .ok () := by
  induction xs with
  | nil => exact fun x hx => by cases hx
  | cons x xs ih =>
    rw [List.forM_eq_forM, List.forM_cons] at h
    obtain ⟨_, hx, hrest⟩ := bind_eq_ok.mp h
    exact List.forall_mem_cons.mpr ⟨hx, ih hrest⟩

theorem forM_of_forall {f : α → Except ε Unit} {xs : List α} (h : ∀ x ∈ xs, f x = .ok ()) :
    xs.forM f = .ok () := by
  induction xs with
  | nil => rfl
  | cons x xs ih =>
    obtain ⟨hx, hxs⟩ := List.forall_mem_cons.mp h
    rw [List.forM_eq_forM, List.forM_cons]
    exact bind_eq_ok.mpr ⟨(), hx, ih hxs⟩

/-- Checks of all items pass, or they stop at an item with the fault found there. -/
theorem forM_eq_ok_or_error (f : α → Except ε Unit) (xs : List α) :
    xs.forM f = .ok () ∨ ∃ x ∈ xs, ∃ e, f x = .error e ∧ xs.forM f = .error e := by
  induction xs with
  | nil => exact .inl rfl
  | cons x xs ih =>
    rw [List.forM_eq_forM, List.forM_cons]
    cases hx : f x with
    | error e => exact .inr ⟨x, List.mem_cons_self .., e, hx, rfl⟩
    | ok u =>
      rcases ih with hxs | ⟨x', hx', e, he, hxs⟩
      · exact .inl hxs
      · exact .inr ⟨x', List.mem_cons_of_mem _ hx', e, he, hxs⟩

/-- A step that has returned on every item does so whatever their order, with the same results. -/
theorem exists_mapM_perm {f : α → Except ε β} {xs xs' : List α} {ys : List β}
    (hp : xs.Perm xs') (h : xs.mapM f = .ok ys) :
    ∃ ys', xs'.mapM f = .ok ys' ∧ ys.Perm ys' := by
  obtain ⟨ys', hys', hperm⟩ := List.perm_comp_forall₂ hp.symm (mapM_eq_ok.mp h)
  exact ⟨ys', mapM_eq_ok.mpr hys', hperm.symm⟩

/-- One more item, on which a step returns, has its result among the others. -/
theorem exists_mapM_insert {f : α → Except ε β} {xs xs' : List α} {x : α} {ys : List β} {y : β}
    (h : (xs ++ xs').mapM f = .ok ys) (hx : f x = .ok y) :
    ∃ zs zs', ys = zs ++ zs' ∧ (xs ++ x :: xs').mapM f = .ok (zs ++ y :: zs') := by
  rw [List.mapM_append] at h
  obtain ⟨zs, hzs, h⟩ := bind_eq_ok.mp h
  obtain ⟨zs', hzs', h⟩ := bind_eq_ok.mp h
  refine ⟨zs, zs', (pure_eq_ok.mp h).symm, ?_⟩
  rw [List.mapM_append, List.mapM_cons, hzs, ok_bind, hx, ok_bind, hzs']
  rfl

/-- What is done with every result can be done as soon as the result is there. -/
theorem map_mapM {f : α → Except ε β} {k : β → γ} {xs : List α} :
    (xs.mapM f).map (List.map k) = xs.mapM fun x => (f x).map k := by
  induction xs with
  | nil => rfl
  | cons x xs ih =>
    rw [List.mapM_cons, List.mapM_cons, ← ih]
    cases f x with
    | error e => rfl
    | ok y => cases xs.mapM f <;> rfl

/-- An error is renamed where it arises or behind all the steps. -/
theorem mapM_mapError {f : α → Except ε β} {k : ε → ε'} {xs : List α} :
    (xs.mapM fun x => (f x).mapError k) = (xs.mapM f).mapError k := by
  induction xs with
  | nil => rfl
  | cons x xs ih =>
    rw [List.mapM_cons, List.mapM_cons, ih]
    cases f x with
    | error e => rfl
    | ok y => cases xs.mapM f <;> rfl

theorem mapM_congr {f g : α → Except ε β} {xs : List α} (h : ∀ x ∈ xs, f x = g x) :
    xs.mapM f = xs.mapM g := by
  induction xs with
  | nil => rfl
  | cons x xs ih =>
    rw [List.mapM_cons, List.mapM_cons, h x (List.mem_cons_self ..),
      ih fun x hx => h x (List.mem_cons_of_mem _ hx)]

/-! ### Faults of one kind

The faults that a computation can fail with are those of its steps. -/

/-- A computation that returns, or fails with a fault of a given kind. -/
def FailsOnly (p : ε → Prop) : Except ε α → Prop
  | .ok _ => True
  | .error e => p e

namespace FailsOnly

variable {p q : ε → Prop} {x : Except ε α}

theorem ok (a : α) : FailsOnly p (.ok a : Except ε α) :=
  trivial

theorem error {e : ε} (h : p e) : FailsOnly p (.error e : Except ε α) :=
  h

theorem of_exists (h : ∃ a, x = .ok a) : FailsOnly p x := by
  obtain ⟨a, rfl⟩ := h
  exact ok a

theorem returns_or (h : FailsOnly p x) : (∃ a, x = .ok a) ∨ ∃ e, x = .error e ∧ p e := by
  cases x with
  | ok a => exact .inl ⟨a, rfl⟩
  | error e => exact .inr ⟨e, rfl, h⟩

theorem weaken (h : FailsOnly p x) (hpq : ∀ e, p e → q e) : FailsOnly q x := by
  cases x with
  | ok a => exact ok a
  | error e => exact error (hpq e h)

theorem bind {f : α → Except ε β} (h : FailsOnly p x)
    (hf : ∀ a, x = .ok a → FailsOnly p (f a)) : FailsOnly p (x >>= f) := by
  cases x with
  | ok a => exact hf a rfl
  | error e => exact h

theorem map {f : α → β} (h : FailsOnly p x) : FailsOnly p (x.map f) := by
  cases x with
  | ok a => exact ok (f a)
  | error e => exact h

theorem mapError {f : ε → ε'} {p : ε' → Prop} (h : FailsOnly (fun e => p (f e)) x) :
    FailsOnly p (x.mapError f) := by
  cases x with
  | ok a => exact ok a
  | error e => exact h

/-- A step that returns fails with nothing, whatever its faults are called. -/
theorem of_returns {y : Except ε' α} {f : ε' → ε} (h : ∃ a, y = .ok a) :
    FailsOnly p (y.mapError f) :=
  mapError (of_exists h)

theorem mapM {f : α → Except ε β} {xs : List α} (h : ∀ a ∈ xs, FailsOnly p (f a)) :
    FailsOnly p (xs.mapM f) := by
  rcases mapM_eq_ok_or_error f xs with returned | ⟨a, ha, e, he, stopped⟩
  · exact of_exists returned
  · have found := h a ha
    rw [he] at found
    rw [stopped]
    exact found

theorem forM {f : α → Except ε Unit} {xs : List α} (h : ∀ a ∈ xs, FailsOnly p (f a)) :
    FailsOnly p (xs.forM f) := by
  rcases forM_eq_ok_or_error f xs with returned | ⟨a, ha, e, he, stopped⟩
  · exact of_exists ⟨(), returned⟩
  · have found := h a ha
    rw [he] at found
    rw [stopped]
    exact found

end FailsOnly

/-! ### Reading results back from what they were made from -/

theorem map_eq_map {R : α → β → Prop} {xs : List α} {ys : List β} {f : α → γ} {g : β → γ}
    (h : List.Forall₂ R xs ys) (hR : ∀ x ∈ xs, ∀ y, R x y → g y = f x) : ys.map g = xs.map f := by
  induction h with
  | nil => rfl
  | @cons x y xs ys hxy _ ih =>
    rw [List.map_cons, List.map_cons, hR x (List.mem_cons_self ..) y hxy,
      ih fun x hx => hR x (List.mem_cons_of_mem _ hx)]

theorem filterMap_eq_filterMap {R : α → β → Prop} {xs : List α} {ys : List β} {f : α → Option γ}
    {g : β → Option γ} (h : List.Forall₂ R xs ys) (hR : ∀ x ∈ xs, ∀ y, R x y → g y = f x) :
    ys.filterMap g = xs.filterMap f := by
  induction h with
  | nil => rfl
  | @cons x y xs ys hxy _ ih =>
    rw [List.filterMap_cons, List.filterMap_cons, hR x (List.mem_cons_self ..) y hxy,
      ih fun x hx => hR x (List.mem_cons_of_mem _ hx)]

/-- What stands behind a result. -/
theorem exists_left {R : α → β → Prop} {xs : List α} {ys : List β} (h : List.Forall₂ R xs ys)
    {y : β} (hy : y ∈ ys) : ∃ x ∈ xs, R x y := by
  induction h with
  | nil => cases hy
  | @cons x y' xs ys hxy _ ih =>
    rcases List.mem_cons.mp hy with rfl | hy
    · exact ⟨x, List.mem_cons_self .., hxy⟩
    · obtain ⟨x', hx', hR⟩ := ih hy
      exact ⟨x', List.mem_cons_of_mem _ hx', hR⟩

/-- What has come of an item. -/
theorem exists_right {R : α → β → Prop} {xs : List α} {ys : List β} (h : List.Forall₂ R xs ys)
    {x : α} (hx : x ∈ xs) : ∃ y ∈ ys, R x y :=
  exists_left h.flip hx

/-- What has come of two lists of items, one behind the other. -/
theorem exists_append {R : α → β → Prop} {xs xs' : List α} {ys : List β}
    (h : List.Forall₂ R (xs ++ xs') ys) :
    ∃ zs zs', ys = zs ++ zs' ∧ List.Forall₂ R xs zs ∧ List.Forall₂ R xs' zs' :=
  ⟨ys.take xs.length, ys.drop xs.length, (List.take_append_drop ..).symm,
    (List.forall₂_take_append ys xs xs' h.flip).flip,
    (List.forall₂_drop_append ys xs xs' h.flip).flip⟩

theorem exists_mem_zipWith {f : α → β → γ} {xs : List α} {ys : List β} {x : α}
    (hlen : xs.length ≤ ys.length) (hx : x ∈ xs) : ∃ y, f x y ∈ List.zipWith f xs ys := by
  rw [← List.map_fst_zip hlen] at hx
  obtain ⟨pair, hpair, rfl⟩ := List.mem_map.mp hx
  rw [← List.map_uncurry_zip_eq_zipWith]
  exact ⟨pair.2, List.mem_map_of_mem (f := Function.uncurry f) hpair⟩

theorem zipWith_eq_map {f : α → β → γ} {g : β → γ} {xs : List α} {ys : List β}
    (hlen : ys.length ≤ xs.length) (h : ∀ x ∈ xs, ∀ y ∈ ys, f x y = g y) :
    List.zipWith f xs ys = ys.map g := by
  induction xs generalizing ys with
  | nil =>
    rw [List.length_eq_zero_iff.mp (Nat.le_zero.mp hlen)]
    rfl
  | cons x xs ih =>
    cases ys with
    | nil => rfl
    | cons y ys =>
      rw [List.zipWith_cons_cons, List.map_cons, h x List.mem_cons_self y List.mem_cons_self,
        ih (Nat.le_of_succ_le_succ hlen) fun x' hx y' hy =>
          h x' (List.mem_cons_of_mem x hx) y' (List.mem_cons_of_mem y hy)]

/-- Items that are kept and items that leave something else make up all of them. -/
theorem length_filter_add_length_filterMap {xs : List α} {p : α → Bool} {f : α → Option β}
    (h : ∀ x ∈ xs, (f x).isNone = p x) :
    (xs.filter p).length + (xs.filterMap f).length = xs.length := by
  induction xs with
  | nil => rfl
  | cons x xs ih =>
    have ih := ih fun x hx => h x (List.mem_cons_of_mem _ hx)
    have hx := h x (List.mem_cons_self ..)
    cases hf : f x with
    | none =>
      rw [List.filter_cons_of_pos (by simp [← hx, hf]), List.filterMap_cons_none hf,
        List.length_cons, List.length_cons]
      omega
    | some y =>
      rw [List.filter_cons_of_neg (by simp [← hx, hf]), List.filterMap_cons_some hf,
        List.length_cons, List.length_cons]
      omega

end EngineBindings.Attempt

/-! ### Two computations side by side

The same planning is run twice, against two registries. `Paired R` says that what the two runs
return is related by `R`; a run that stops leaves nothing to relate. The rules follow the steps of a
run: steps whose results are related go on with related results (`Paired.bind`), and a step repeated
over related items leaves related results (`Paired.mapM`). -/
namespace EngineBindings

variable {ε ε' α α' β β' : Type}

/-- Whatever two computations return is related. -/
def Paired (R : α → β → Prop) (x : Except ε α) (y : Except ε β) : Prop :=
  ∀ a b, x = .ok a → y = .ok b → R a b

/-- Results that are the same reason on both sides, or values on both sides that are related. -/
inductive ResultRel (R : α → β → Prop) : Except ε α → Except ε β → Prop
  | error (e : ε) : ResultRel R (.error e) (.error e)
  | ok {a : α} {b : β} (h : R a b) : ResultRel R (.ok a) (.ok b)

namespace Paired

variable {R : α → β → Prop} {S : α' → β' → Prop} {x : Except ε α} {y : Except ε β}

theorem ok {a : α} {b : β} (h : R a b) : Paired (ε := ε) R (.ok a) (.ok b) := by
  rintro _ _ ⟨⟩ ⟨⟩
  exact h

theorem error_left {e : ε} : Paired R (.error e) y :=
  fun _ _ ha => by cases ha

/-- A computation returns the same in every run. -/
theorem of_eq {x y : Except ε α} (h : x = y) : Paired Eq x y := by
  rintro a b ha hb
  rw [h, hb] at ha
  exact (Except.ok.inj ha).symm

theorem mono {R' : α → β → Prop} (h : Paired R x y) (hR : ∀ a b, R a b → R' a b) :
    Paired R' x y :=
  fun a b ha hb => hR a b (h a b ha hb)

theorem bind {f : α → Except ε α'} {g : β → Except ε β'} (h : Paired R x y)
    (hfg : ∀ a b, R a b → Paired S (f a) (g b)) : Paired S (x >>= f) (y >>= g) := by
  intro a' b' hx hy
  obtain ⟨a, ha, hf⟩ := Attempt.bind_eq_ok.mp hx
  obtain ⟨b, hb, hg⟩ := Attempt.bind_eq_ok.mp hy
  exact hfg a b (h a b ha hb) a' b' hf hg

/-- Two runs take the same step first. -/
theorem bind_same {f : α → Except ε α'} {g : α → Except ε β'}
    (hfg : ∀ a, x = .ok a → Paired S (f a) (g a)) : Paired S (x >>= f) (x >>= g) := by
  intro a' b' hx hy
  obtain ⟨a, ha, hf⟩ := Attempt.bind_eq_ok.mp hx
  obtain ⟨b, hb, hg⟩ := Attempt.bind_eq_ok.mp hy
  obtain rfl := Except.ok.inj (ha.symm.trans hb)
  exact hfg a ha a' b' hf hg

/-- Two runs take steps of which nothing is compared first. -/
theorem bind_any {f : α → Except ε α'} {g : β → Except ε β'}
    (hfg : ∀ a b, Paired S (f a) (g b)) : Paired S (x >>= f) (y >>= g) :=
  bind (R := fun _ _ => True) (fun _ _ _ _ => trivial) fun a b _ => hfg a b

theorem map {f : α → α'} {g : β → β'} (h : Paired R x y) (hfg : ∀ a b, R a b → S (f a) (g b)) :
    Paired S (x.map f) (y.map g) := by
  intro a' b' hx hy
  obtain ⟨a, ha, rfl⟩ := Attempt.map_eq_ok.mp hx
  obtain ⟨b, hb, rfl⟩ := Attempt.map_eq_ok.mp hy
  exact hfg a b (h a b ha hb)

theorem mapError {k k' : ε → ε'} (h : Paired R x y) : Paired R (x.mapError k) (y.mapError k') :=
  fun a b ha hb => h a b (Attempt.mapError_eq_ok.mp ha) (Attempt.mapError_eq_ok.mp hb)

/-- A step repeated over items that are related. -/
theorem mapM {f : α → Except ε α'} {g : β → Except ε β'} {xs : List α} {ys : List β}
    (items : List.Forall₂ R xs ys) (h : ∀ x y, R x y → Paired S (f x) (g y)) :
    Paired (List.Forall₂ S) (xs.mapM f) (ys.mapM g) := by
  induction items with
  | nil => exact .ok .nil
  | cons hxy _ ih =>
    rw [List.mapM_cons, List.mapM_cons]
    exact (h _ _ hxy).bind fun a b hab => ih.bind fun as bs habs => .ok (.cons hab habs)

/-- A step repeated over the same items. -/
theorem mapM_same {f : α → Except ε α'} {g : α → Except ε β'} {xs : List α}
    (h : ∀ x ∈ xs, Paired S (f x) (g x)) : Paired (List.Forall₂ S) (xs.mapM f) (xs.mapM g) := by
  induction xs with
  | nil => exact .ok .nil
  | cons x xs ih =>
    obtain ⟨hx, hxs⟩ := List.forall_mem_cons.mp h
    rw [List.mapM_cons, List.mapM_cons]
    exact hx.bind fun a b hab => (ih hxs).bind fun as bs habs => .ok (.cons hab habs)

/-- A step that returns the same in every run, repeated over the same items. -/
theorem mapM_eq {f g : α → Except ε β} {xs : List α} (h : ∀ x ∈ xs, Paired Eq (f x) (g x)) :
    Paired Eq (xs.mapM f) (xs.mapM g) :=
  (mapM_same h).mono fun _ _ hys => List.forall₂_eq_eq_eq ▸ hys

end Paired

end EngineBindings
