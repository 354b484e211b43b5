import EngineBindings.Proofs.Layout.Alignment
import EngineBindings.Proofs.OrderedMap

/-! Every structure that has a size is laid out, and so is what it nests, each once.

A name is marked as met before the types nested in it are placed, and its layout comes behind
theirs. A placement therefore only grows, and once a name's own placing is over there is a layout
for it (`Grows`). The fuel only bounds how deep types nest: each structure is asked for with some
left, so that none is missing from the layouts (`exists_structLayout`), and since no name is marked
twice there is some left for all that is nested (`Room`). What is laid out are therefore the
structures and the types that are nested in what is laid out (`laidOut_iff`), no type twice
(`distinct_structLayouts`). -/
namespace EngineBindings.Registry

open Attempt

variable {r : Registry} {p p' p'' : Placement}

/-- What placing does: nothing is lost, and whatever is newly met has its layout in order. -/
structure Grows (r : Registry) (p p' : Placement) : Prop where
  met : p.met ⊆ p'.met
  ordered : p.ordered ⊆ p'.ordered
  placed : ∀ name ∈ p'.met,
    name ∈ p.met ∨ ∃ layout ∈ p'.ordered, r.layout name = .ok layout

namespace Grows

theorem refl (p : Placement) : Grows r p p where
  met _ h := h
  ordered _ h := h
  placed _ h := .inl h

theorem trans (h : Grows r p p') (h' : Grows r p' p'') : Grows r p p'' where
  met := List.Subset.trans h.met h'.met
  ordered := List.Subset.trans h.ordered h'.ordered
  placed name hname := by
    rcases h'.placed name hname with hname | hplaced
    · rcases h.placed name hname with hname | ⟨layout, hlayout, hname⟩
      · exact .inl hname
      · exact .inr ⟨layout, h'.ordered hlayout, hname⟩
    · exact .inr hplaced

/-- Placing one name after another grows a placement if placing each does. -/
theorem of_foldlM {place : Placement → Name → Except Fault Placement}
    (hplace : ∀ {p p' name}, place p name = .ok p' → Grows r p p') {names : List Name}
    (h : names.foldlM place p = .ok p') : Grows r p p' := by
  induction names generalizing p with
  | nil =>
    cases h
    exact refl _
  | cons name rest ih =>
    rw [List.foldlM_cons] at h
    obtain ⟨next, hnext, h⟩ := bind_eq_ok.mp h
    exact (hplace hnext).trans (ih h)

/-- A name that was marked before what is nested in it was placed gets its layout last. -/
theorem of_nested {name : Name} {layout : Layout Int} (hlayout : r.layout name = .ok layout)
    (h : Grows r { p with met := name :: p.met } p') :
    Grows r p { p' with ordered := p'.ordered ++ [layout] } where
  met := List.Subset.trans (List.subset_cons_self name p.met) h.met
  ordered := List.Subset.trans h.ordered (List.subset_append_left ..)
  placed other hother := by
    rcases h.placed other hother with hmet | ⟨found, hfound, hother⟩
    · rcases List.mem_cons.mp hmet with rfl | hmet
      · exact .inr ⟨layout, List.mem_append_right _ (List.mem_singleton_self _), hlayout⟩
      · exact .inl hmet
    · exact .inr ⟨found, List.mem_append_left _ hfound, hother⟩

end Grows

theorem grows_of_placeLayout {fuel : Nat} {name : Name}
    (h : r.placeLayout fuel p name = .ok p') : Grows r p p' := by
  induction fuel generalizing p p' name with
  | zero =>
    cases h
    exact .refl _
  | succ fuel ih =>
    unfold placeLayout at h
    split at h
    · cases h
      exact .refl _
    · obtain ⟨layout, hlayout, h⟩ := bind_eq_ok.mp h
      obtain ⟨nested, hnested, h⟩ := bind_eq_ok.mp h
      cases h
      exact .of_nested hlayout (.of_foldlM ih hnested)

/-- A name that was asked for has been met, as long as any fuel was left. -/
theorem met_of_placeLayout {fuel : Nat} {name : Name}
    (h : r.placeLayout (fuel + 1) p name = .ok p') : ∃ n ∈ p'.met, (name == n) = true := by
  unfold placeLayout at h
  split at h
  · next hmet =>
    cases h
    obtain ⟨n, hn, hname⟩ := List.contains_iff_exists_mem_beq.mp hmet
    exact ⟨n, hn, hname⟩
  · obtain ⟨layout, _, h⟩ := bind_eq_ok.mp h
    obtain ⟨nested, hnested, h⟩ := bind_eq_ok.mp h
    cases h
    have grows : Grows r { p with met := name :: p.met } nested :=
      .of_foldlM grows_of_placeLayout hnested
    exact ⟨name, grows.met (List.mem_cons_self ..), BEq.rfl⟩

theorem met_of_foldlM {fuel : Nat} {names : List Name}
    (h : names.foldlM (r.placeLayout (fuel + 1)) p = .ok p') :
    ∀ name ∈ names, ∃ n ∈ p'.met, (name == n) = true := by
  induction names generalizing p with
  | nil => exact fun name hname => (List.not_mem_nil hname).elim
  | cons first rest ih =>
    rw [List.foldlM_cons] at h
    obtain ⟨next, hnext, h⟩ := bind_eq_ok.mp h
    have grows : Grows r next p' := .of_foldlM grows_of_placeLayout h
    obtain ⟨n, hn, hname⟩ := met_of_placeLayout hnext
    exact List.forall_mem_cons.mpr ⟨⟨n, grows.met hn, hname⟩, ih h⟩

/-- Every structure of a declared size has a layout among those that are declared. -/
theorem exists_structLayout {layouts : List (Layout Int)} (h : r.structLayouts = .ok layouts)
    {name : Name} (hname : name ∈ r.sizedStructs) :
    ∃ n, (name == n) = true ∧ ∃ layout ∈ layouts, r.layout n = .ok layout := by
  obtain ⟨p, hp, h⟩ := bind_eq_ok.mp h
  cases h
  have grows : Grows r ⟨[], []⟩ p := .of_foldlM grows_of_placeLayout hp
  obtain ⟨n, hn, hsame⟩ := met_of_foldlM hp name hname
  rcases grows.placed n hn with hnone | hplaced
  · cases hnone
  · exact ⟨n, hsame, hplaced⟩

theorem host_of_layout {name : Name} {layout : Layout Int} (h : r.layout name = .ok layout) :
    layout.host = builtinHost name := by
  obtain ⟨_, _, _, _, rfl, _⟩ := layout_eq_ok.mp h
  rfl

theorem name_of_layout {name : Name} {layout : Layout Int} (h : r.layout name = .ok layout) :
    layout.name = name := by
  obtain ⟨_, _, _, _, rfl, _⟩ := layout_eq_ok.mp h
  rfl

theorem isSome_size?_of_layout {name : Name} {layout : Layout Int}
    (h : r.layout name = .ok layout) : (r.size? name).isSome := by
  obtain ⟨_, _, hsize, _⟩ := layout_eq_ok.mp h
  rw [hsize]
  rfl

/-! ### Each name once -/

/-- What placing names adds: the layouts of names that had not been met, no two of one name, each
asked for or nested in another that is added. -/
structure Adds (r : Registry) (names : List Name) (p p' : Placement) (added : List (Layout Int)) :
    Prop where
  met : p.met ⊆ p'.met
  ordered : p'.ordered = p.ordered ++ added
  made : ∀ l ∈ added, r.layout l.name = .ok l
  distinct : added.Pairwise fun a b => (a.name == b.name) = false
  fresh : ∀ l ∈ added, p.met.contains l.name = false
  marked : ∀ l ∈ added, l.name ∈ p'.met
  origin : ∀ l ∈ added, l.name ∈ names ∨ ∃ k ∈ added, r.Nests k.name l.name

namespace Adds

variable {names names' : List Name} {added added' : List (Layout Int)}

theorem none (names : List Name) (p : Placement) : Adds r names p p [] where
  met := List.Subset.refl _
  ordered := (List.append_nil _).symm
  made := List.forall_mem_nil _
  distinct := .nil
  fresh := List.forall_mem_nil _
  marked := List.forall_mem_nil _
  origin := List.forall_mem_nil _

theorem append (h : Adds r names p p' added) (h' : Adds r names' p' p'' added') :
    Adds r (names ++ names') p p'' (added ++ added') where
  met := List.Subset.trans h.met h'.met
  ordered := by rw [h'.ordered, h.ordered, List.append_assoc]
  made := List.forall_mem_append.mpr ⟨h.made, h'.made⟩
  distinct := by
    refine List.pairwise_append.mpr ⟨h.distinct, h'.distinct, fun a ha b hb => ?_⟩
    have fresh := h'.fresh b hb
    rw [List.contains_eq_any_beq, List.any_eq_false] at fresh
    rw [BEq.comm]
    exact Bool.eq_false_iff.mpr (fresh a.name (h.marked a ha))
  fresh := by
    refine List.forall_mem_append.mpr ⟨h.fresh, fun l hl => ?_⟩
    have fresh := h'.fresh l hl
    rw [List.contains_eq_any_beq, List.any_eq_false] at fresh ⊢
    exact fun n hn => fresh n (h.met hn)
  marked := List.forall_mem_append.mpr ⟨fun l hl => h'.met (h.marked l hl), h'.marked⟩
  origin := by
    refine List.forall_mem_append.mpr ⟨fun l hl => ?_, fun l hl => ?_⟩
    · exact (h.origin l hl).imp (List.mem_append_left _)
        fun ⟨k, hk, nests⟩ => ⟨k, List.mem_append_left _ hk, nests⟩
    · exact (h'.origin l hl).imp (List.mem_append_right _)
        fun ⟨k, hk, nests⟩ => ⟨k, List.mem_append_right _ hk, nests⟩

theorem of_foldlM {place : Placement → Name → Except Fault Placement}
    (hplace : ∀ {p p' name}, place p name = .ok p' → ∃ added, Adds r [name] p p' added)
    (h : names.foldlM place p = .ok p') : ∃ added, Adds r names p p' added := by
  induction names generalizing p with
  | nil =>
    cases h
    exact ⟨[], none _ _⟩
  | cons name rest ih =>
    rw [List.foldlM_cons] at h
    obtain ⟨next, hnext, h⟩ := bind_eq_ok.mp h
    obtain ⟨first, hfirst⟩ := hplace hnext
    obtain ⟨others, hothers⟩ := ih h
    exact ⟨first ++ others, hfirst.append hothers⟩

/-- A name that had not been met adds its own layout behind those of what is nested in it. -/
theorem of_nested {name : Name} {layout : Layout Int} (new : p.met.contains name = false)
    (hlayout : r.layout name = .ok layout) (nested : ∀ n ∈ names, r.Nests name n)
    (h : Adds r names { p with met := name :: p.met } p' added) :
    Adds r [name] p { p' with ordered := p'.ordered ++ [layout] } (added ++ [layout]) where
  met := List.Subset.trans (List.subset_cons_self name p.met) h.met
  ordered := by rw [h.ordered, List.append_assoc]
  made := by
    refine List.forall_mem_append.mpr ⟨h.made, List.forall_mem_singleton.mpr ?_⟩
    rwa [name_of_layout hlayout]
  distinct := by
    refine List.pairwise_append.mpr ⟨h.distinct, List.pairwise_singleton _ _, fun l hl k hk => ?_⟩
    have fresh := h.fresh l hl
    rw [List.contains_cons, Bool.or_eq_false_iff] at fresh
    rw [List.mem_singleton.mp hk, name_of_layout hlayout]
    exact fresh.1
  fresh := by
    refine List.forall_mem_append.mpr ⟨fun l hl => ?_, List.forall_mem_singleton.mpr ?_⟩
    · have fresh := h.fresh l hl
      rw [List.contains_cons, Bool.or_eq_false_iff] at fresh
      exact fresh.2
    · rwa [name_of_layout hlayout]
  marked := by
    refine List.forall_mem_append.mpr ⟨h.marked, List.forall_mem_singleton.mpr ?_⟩
    rw [name_of_layout hlayout]
    exact h.met (List.mem_cons_self ..)
  origin := by
    refine List.forall_mem_append.mpr ⟨fun l hl => .inr ?_, List.forall_mem_singleton.mpr ?_⟩
    · rcases h.origin l hl with asked | ⟨k, hk, nests⟩
      · refine ⟨layout, List.mem_append_right _ (List.mem_singleton_self _), ?_⟩
        rw [name_of_layout hlayout]
        exact nested _ asked
      · exact ⟨k, List.mem_append_left _ hk, nests⟩
    · exact .inl (List.mem_singleton.mpr (name_of_layout hlayout))

end Adds

/-- What is placed for a layout is nested in it. -/
theorem nests_of_mem {name n : Name} {layout : Layout Int} (h : r.layout name = .ok layout)
    (hn : n ∈ (layout.fields.filterMap (·.nested)).filter (·.isGiven)) : r.Nests name n := by
  obtain ⟨f, hf, hnested⟩ := List.mem_filterMap.mp (List.mem_filter.mp hn).1
  exact ⟨layout, h, f, hf, hnested⟩

theorem adds_of_placeLayout {fuel : Nat} {name : Name} (h : r.placeLayout fuel p name = .ok p') :
    ∃ added, Adds r [name] p p' added := by
  induction fuel generalizing p p' name with
  | zero =>
    cases h
    exact ⟨[], .none _ _⟩
  | succ fuel ih =>
    unfold placeLayout at h
    split at h
    · cases h
      exact ⟨[], .none _ _⟩
    · next new =>
      obtain ⟨layout, hlayout, h⟩ := bind_eq_ok.mp h
      obtain ⟨below, hbelow, h⟩ := bind_eq_ok.mp h
      cases h
      obtain ⟨added, adds⟩ := Adds.of_foldlM ih hbelow
      exact ⟨_, adds.of_nested (Bool.eq_false_iff.mpr new) hlayout fun n => nests_of_mem hlayout⟩

/-- What is laid out comes from structures, no type twice. -/
theorem adds_of_structLayouts {layouts : List (Layout Int)} (h : r.structLayouts = .ok layouts) :
    ∃ met, Adds r r.sizedStructs ⟨[], []⟩ ⟨met, layouts⟩ layouts := by
  obtain ⟨p, hp, h⟩ := bind_eq_ok.mp h
  cases h
  obtain ⟨added, adds⟩ := Adds.of_foldlM adds_of_placeLayout hp
  have same : p.ordered = added := adds.ordered
  rw [← same] at adds
  exact ⟨p.met, adds⟩

theorem layout_of_structLayouts {layouts : List (Layout Int)} {l : Layout Int}
    (h : r.structLayouts = .ok layouts) (hl : l ∈ layouts) : r.layout l.name = .ok l :=
  (adds_of_structLayouts h).choose_spec.made l hl

/-- No type is laid out twice. -/
theorem distinct_structLayouts {layouts : List (Layout Int)} (h : r.structLayouts = .ok layouts) :
    layouts.Pairwise fun a b => (a.name == b.name) = false :=
  (adds_of_structLayouts h).choose_spec.distinct

/-! ### What is nested -/

/-- A placement with fuel left for every type of a declared size that has not been met, and with
everything met that the placed layouts nest. -/
structure Room (r : Registry) (fuel : Nat) (p : Placement) : Prop where
  distinct : p.met.Pairwise fun a b => (a == b) = false
  sized : ∀ n ∈ p.met, (r.size? n).isSome
  left : r.sizes.entries.length < p.met.length + fuel
  closed : ∀ l ∈ p.ordered, ∀ n, r.Nests l.name n → n.isGiven = true →
    ∃ m ∈ p.met, (n == m) = true

/-- There is some fuel left, since no more names can have been met than have a size. -/
theorem Room.pos {fuel : Nat} (room : Room r fuel p) : 0 < fuel := by
  have known : p.met.length ≤ r.sizes.keys.length := by
    refine Name.length_le_of_distinct room.distinct fun n hn => ?_
    have found := room.sized n hn
    rw [size?, OrderedMap.isSome_find?] at found
    exact OrderedMap.contains_iff.mp found
  rw [OrderedMap.keys, List.length_map] at known
  have left := room.left
  omega

/-- There is room for all types of a declared size before anything is placed. -/
theorem room_start : Room r (r.sizes.entries.length + 1) ⟨[], []⟩ := by
  constructor
  case distinct => exact .nil
  case sized => exact List.forall_mem_nil _
  case left =>
    rw [List.length_nil]
    omega
  case closed => exact List.forall_mem_nil _

/-- A name that had not been met takes up fuel of its own. -/
theorem Room.mark {fuel : Nat} {name : Name} (room : Room r (fuel + 1) p)
    (new : ¬p.met.contains name = true) (sized : (r.size? name).isSome) :
    Room r fuel { p with met := name :: p.met } := by
  rw [List.contains_eq_any_beq, List.any_eq_true] at new
  constructor
  case distinct =>
    refine List.pairwise_cons.mpr ⟨fun n hn => ?_, room.distinct⟩
    exact Bool.eq_false_iff.mpr fun same => new ⟨n, hn, same⟩
  case sized => exact List.forall_mem_cons.mpr ⟨sized, room.sized⟩
  case left =>
    have left := room.left
    rw [List.length_cons]
    omega
  case closed =>
    intro l hl n nests given
    obtain ⟨m, hm, same⟩ := room.closed l hl n nests given
    exact ⟨m, List.mem_cons_of_mem _ hm, same⟩

theorem room_of_placeLayout {fuel : Nat} {name : Name} (room : Room r fuel p)
    (h : r.placeLayout fuel p name = .ok p') : Room r fuel p' := by
  induction fuel generalizing p p' name with
  | zero =>
    cases h
    exact room
  | succ fuel ih =>
    unfold placeLayout at h
    split at h
    · cases h
      exact room
    · next new =>
      obtain ⟨layout, hlayout, h⟩ := bind_eq_ok.mp h
      obtain ⟨below, hbelow, h⟩ := bind_eq_ok.mp h
      cases h
      have marked := room.mark new (isSome_size?_of_layout hlayout)
      have after : Room r fuel below := foldlM_preserves (f := r.placeLayout fuel)
        (P := Room r fuel) (fun room h => ih room h) marked hbelow
      constructor
      case distinct => exact after.distinct
      case sized => exact after.sized
      case left =>
        have left := after.left
        show _ < below.met.length + (fuel + 1)
        omega
      case closed =>
        refine List.forall_mem_append.mpr ⟨after.closed, List.forall_mem_singleton.mpr ?_⟩
        rw [name_of_layout hlayout]
        rintro n ⟨l, hl, f, hf, hnested⟩ given
        obtain rfl := Except.ok.inj (hlayout.symm.trans hl)
        obtain ⟨enough, rfl⟩ := Nat.exists_eq_succ_of_ne_zero (Nat.ne_of_gt marked.pos)
        exact met_of_foldlM hbelow n
          (List.mem_filter.mpr ⟨List.mem_filterMap.mpr ⟨f, hf, hnested⟩, given⟩)

/-- What is laid out are the structures and the types that are nested in what is laid out. -/
theorem laidOut_iff {layouts : List (Layout Int)} (h : r.structLayouts = .ok layouts) {name : Name}
    (text : name.IsText) (given : name.isGiven = true) :
    (∃ l ∈ layouts, l.name = name) ↔
      name ∈ r.sizedStructs ∨ ∃ l ∈ layouts, r.Nests l.name name := by
  constructor
  · rintro ⟨l, hl, rfl⟩
    obtain ⟨met, adds⟩ := adds_of_structLayouts h
    exact adds.origin l hl
  · rintro (asked | ⟨l, hl, nests⟩)
    · obtain ⟨n, same, layout, hlayout, hmade⟩ := exists_structLayout h asked
      refine ⟨layout, hlayout, ?_⟩
      rw [name_of_layout hmade]
      exact (Name.beq_iff_eq_of_isText text).mp (BEq.symm same)
    · obtain ⟨p, hp, h⟩ := bind_eq_ok.mp h
      cases h
      have room := foldlM_preserves (f := r.placeLayout _) (P := Room r _)
        (fun room h => room_of_placeLayout room h) room_start hp
      obtain ⟨m, hm, same⟩ := room.closed l hl name nests given
      have grows : Grows r ⟨[], []⟩ p := .of_foldlM grows_of_placeLayout hp
      rcases grows.placed m hm with unmet | ⟨layout, hlayout, hmade⟩
      · cases unmet
      · refine ⟨layout, hlayout, ?_⟩
        rw [name_of_layout hmade]
        exact (Name.beq_iff_eq_of_isText text).mp (BEq.symm same)

end EngineBindings.Registry
