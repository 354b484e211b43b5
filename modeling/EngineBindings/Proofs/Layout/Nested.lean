import EngineBindings.Proofs.Layout.Placed
import EngineBindings.Proofs.Layout.StructType

/-! Types that are nested in others are laid out first.

Placing a type marks it before it goes through the types nested in it, so that types which contain
each other do not keep it going. What is placed comes from the types that were asked for, and stands
behind the types nested in it, except for those that were met but not laid out when placing began:
these are the types that are just being placed, and they contain it (`Sorts`). No type is marked
twice, so the bound on the depth is never reached (`structLayoutsWithin_eq`). -/
namespace EngineBindings

open Attempt

/-- The value types that fields hold, by names that are given. -/
def Layout.nestedNames (l : Layout Int) : List Name :=
  (l.fields.filterMap (·.nested)).filter (·.isGiven)

namespace Registry

variable {r : Registry} {p p' p'' : Placement}

/-! ### Names that are the same

A name may be written in several ways if it is no text. Whatever way a value type is written, it
has the same fields. -/

section Same

variable {a b : Name}

theorem size?_congr (same : (a == b) = true) : r.size? a = r.size? b := by
  simp only [size?, OrderedMap.find?, BEq.congr_right same]

theorem memberOffsets_congr (same : (a == b) = true) : r.memberOffsets a = r.memberOffsets b := by
  simp only [memberOffsets, OrderedMap.find?, BEq.congr_right same]

theorem builtin?_congr (same : (a == b) = true) : r.builtin? a = r.builtin? b := by
  simp only [builtin?, BEq.congr_right same]

/-- A field does not depend on the name of its owner, which only faults show. -/
theorem offsetField_owner {m : MemberOffset} {f : LayoutField Int} (h : r.offsetField a m = .ok f) :
    r.offsetField b m = .ok f := by
  unfold offsetField at h ⊢
  obtain ⟨content, hcontent, h⟩ := bind_eq_ok.mp h
  rw [hcontent, ok_bind]
  split at h
  · exact h
  · split at h
    · exact h
    · cases h

theorem memberField_owner {m : BuiltinMember} {offset : Int} {f : LayoutField Int}
    (h : r.memberField a offset m = .ok f) : r.memberField b offset m = .ok f := by
  unfold memberField at h ⊢
  obtain ⟨type, htype, h⟩ := bind_eq_ok.mp h
  rw [htype, ok_bind]
  split at h
  · exact h
  · split at h
    · exact h
    · cases h

theorem sequentialFields_owner {members : List BuiltinMember} {offset : Int}
    {fields : List (LayoutField Int)} (h : r.sequentialFields a offset members = .ok fields) :
    r.sequentialFields b offset members = .ok fields := by
  induction members generalizing offset fields with
  | nil => exact h
  | cons m rest ih =>
    obtain ⟨f, hf, h⟩ := bind_eq_ok.mp h
    obtain ⟨others, hothers, h⟩ := bind_eq_ok.mp h
    rw [sequentialFields, memberField_owner hf, ok_bind, ih hothers]
    exact h

theorem layoutFields_congr (same : (a == b) = true) {fields : List (LayoutField Int)}
    (h : r.layoutFields a = .ok fields) : r.layoutFields b = .ok fields := by
  unfold layoutFields at h ⊢
  rw [← memberOffsets_congr same, ← builtin?_congr same]
  split at h
  · split at h
    · exact sequentialFields_owner h
    · exact h
  · exact mapM_eq_ok.mpr ((mapM_eq_ok.mp h).imp fun _ _ => offsetField_owner)

theorem cover_congr {l l' : Layout Int} (size : l.size = l'.size) {fields : List (LayoutField Int)}
    {cursor : Int} {specs : List (FieldSpec Int)} (h : l.cover cursor fields = .ok specs) :
    l'.cover cursor fields = .ok specs := by
  induction fields generalizing cursor specs with
  | nil =>
    unfold Layout.cover at h ⊢
    by_cases short : l.size < cursor
    · rw [if_pos short] at h
      cases h
    · rw [if_neg short] at h
      rw [if_neg (size ▸ short), ← size]
      exact h
  | cons f rest ih =>
    unfold Layout.cover at h ⊢
    by_cases overlaps : f.offset < cursor
    · rw [if_pos overlaps] at h
      cases h
    · rw [if_neg overlaps] at h ⊢
      obtain ⟨others, hothers, h⟩ := map_eq_ok.mp h
      exact map_eq_ok.mpr ⟨others, ih hothers, h⟩

theorem specs_congr {l l' : Layout Int} (size : l.size = l'.size) (fields : l.fields = l'.fields)
    {specs : List (FieldSpec Int)} (h : l.specs = .ok specs) : l'.specs = .ok specs := by
  unfold Layout.specs Layout.isOpaque Layout.sortedFields at h ⊢
  rw [← fields, ← size]
  split at h
  · next none => rw [if_pos none, h]
  · next some => rw [if_neg some, cover_congr size h]
/-- A value type has one layout, up to the way in which its name is written. -/
theorem layout_congr (same : (a == b) = true) {l : Layout Int} (h : r.layout a = .ok l) :
    r.layout b = .ok { l with name := b, host := builtinHost b } := by
  obtain ⟨size, fields, hsize, hfields, rfl, specs, hspecs⟩ := layout_eq_ok.mp h
  have hspecs : Layout.specs ⟨b, builtinHost b, size, fields⟩ = .ok specs := by
    refine specs_congr ?_ ?_ hspecs <;> rfl
  exact layout_eq_ok.mpr ⟨size, fields, (size?_congr same).symm.trans hsize,
    layoutFields_congr same hfields, rfl, specs, hspecs⟩

end Same

/-! ### Types inside types -/

/-- A value type has a field that holds another one, by a name that is given. -/
def Leads (r : Registry) (outer inner : Name) : Prop :=
  ∃ n, r.Nests outer n ∧ n.isGiven = true ∧ (n == inner) = true

/-- A value type contains another one, however deeply. -/
def Contains (r : Registry) : Name → Name → Prop :=
  Relation.TransGen r.Leads

/-- A value type is a structure, or contained in one. -/
def Involves (r : Registry) (name : Name) : Prop :=
  ∃ s ∈ r.sizedStructs, (s == name) = true ∨ r.Contains s name

section Leads

variable {a b c : Name}

theorem leads_of_mem {l : Layout Int} {v : Name} (h : r.layout a = .ok l) (hv : v ∈ l.nestedNames) :
    r.Leads a v :=
  ⟨v, nests_of_mem h hv, (List.mem_filter.mp hv).2, BEq.rfl⟩

theorem Leads.congr_left (same : (a == b) = true) (h : r.Leads a c) : r.Leads b c := by
  obtain ⟨n, ⟨l, hl, hfield⟩, given, hn⟩ := h
  exact ⟨n, ⟨_, layout_congr same hl, hfield⟩, given, hn⟩

theorem Leads.congr_right (same : (b == c) = true) (h : r.Leads a b) : r.Leads a c := by
  obtain ⟨n, nests, given, hn⟩ := h
  exact ⟨n, nests, given, BEq.trans hn same⟩

theorem Contains.congr_left (same : (a == b) = true) (h : r.Contains a c) : r.Contains b c := by
  rcases Relation.TransGen.head'_iff.mp h with ⟨t, leads, rest⟩
  exact Relation.TransGen.head'_iff.mpr ⟨t, leads.congr_left same, rest⟩

theorem Contains.congr_right (same : (b == c) = true) (h : r.Contains a b) : r.Contains a c := by
  rcases Relation.TransGen.tail'_iff.mp h with ⟨t, rest, leads⟩
  exact Relation.TransGen.tail'_iff.mpr ⟨t, rest, leads.congr_right same⟩

end Leads

/-! ### The bound on the depth -/

/-- The layouts of all structures, with value types going no deeper than `depth`. -/
def structLayoutsWithin (r : Registry) (depth : Nat) : Except Fault (List (Layout Int)) :=
  (r.sizedStructs.foldlM (r.placeLayout depth) ⟨[], []⟩).map (·.ordered)

theorem structLayouts_eq_within :
    r.structLayouts = r.structLayoutsWithin (r.sizes.entries.length + 1) := by
  unfold structLayouts structLayoutsWithin
  cases r.sizedStructs.foldlM (r.placeLayout (r.sizes.entries.length + 1)) ⟨[], []⟩ <;> rfl

/-- Walks agree where their steps do, from wherever a walk may come. -/
theorem foldlM_congr_of {α β ε : Type} {f g : β → α → Except ε β} {P : β → Prop}
    (agree : ∀ b a, P b → g b a = f b a) (keeps : ∀ b a b', P b → f b a = .ok b' → P b')
    {xs : List α} {b : β} (hb : P b) : xs.foldlM g b = xs.foldlM f b := by
  induction xs generalizing b with
  | nil => rfl
  | cons x rest ih =>
    rw [List.foldlM_cons, List.foldlM_cons, agree b x hb]
    cases hx : f b x with
    | error e => rfl
    | ok next => exact ih (keeps b x next hb hx)

/-- Where there is room left, more of it changes nothing. -/
theorem placeLayout_eq_of_room {fuel more : Nat} {name : Name} (room : Room r fuel p)
    (h : fuel ≤ more) : r.placeLayout more p name = r.placeLayout fuel p name := by
  induction fuel generalizing p name more with
  | zero => exact absurd room.pos (Nat.lt_irrefl 0)
  | succ fuel ih =>
    obtain ⟨more, rfl⟩ : ∃ k, more = k + 1 := ⟨more - 1, by omega⟩
    unfold placeLayout
    split
    · rfl
    · next new =>
      cases hlayout : r.layout name with
      | error fault => rfl
      | ok layout =>
        have marked := room.mark new (isSome_size?_of_layout hlayout)
        rw [ok_bind, ok_bind]
        dsimp only
        rw [foldlM_congr_of (f := r.placeLayout fuel) (P := Room r fuel)
          (fun _ _ room => ih room (Nat.le_of_succ_le_succ h))
          (fun _ _ _ => room_of_placeLayout) marked]

/-- No registry lets value types go deeper than there are sizes. -/
theorem structLayoutsWithin_eq {depth : Nat} (h : r.sizes.entries.length < depth) :
    r.structLayoutsWithin depth = r.structLayouts := by
  rw [structLayouts_eq_within, structLayoutsWithin, structLayoutsWithin,
    foldlM_congr_of (f := r.placeLayout _) (P := Room r _)
      (fun _ _ room => placeLayout_eq_of_room room h) (fun _ _ _ => room_of_placeLayout) room_start]

/-! ### The order of what is placed -/

/-- A value type that has been met, and has no layout in order yet. -/
def Placement.IsOpen (p : Placement) (name : Name) : Prop :=
  (∃ m ∈ p.met, (m == name) = true) ∧ ∀ l ∈ p.ordered, (l.name == name) = false

/-- Behind the layouts of `before`, each layout has the types nested in it in front of it, except
for types that are open and for types that contain its own. -/
def StandsBehind (r : Registry) (isOpen : Name → Prop) :
    (before : List (Layout Int)) → List (Layout Int) → Prop
  | _, [] => True
  | before, u :: rest =>
    (∀ v ∈ u.nestedNames,
      (∃ l ∈ before, (l.name == v) = true) ∨ isOpen v ∨ r.Contains v u.name) ∧
      r.StandsBehind isOpen (before ++ [u]) rest

section StandsBehind

variable {isOpen isOpen' : Name → Prop} {before layouts others : List (Layout Int)}

theorem standsBehind_append : r.StandsBehind isOpen before (layouts ++ others) ↔
    r.StandsBehind isOpen before layouts ∧ r.StandsBehind isOpen (before ++ layouts) others := by
  induction layouts generalizing before with
  | nil => simp [StandsBehind]
  | cons u rest ih => simp [StandsBehind, ih, and_assoc]

/-- A type that is open no more has to contain what it is nested in. -/
theorem StandsBehind.imp (h : r.StandsBehind isOpen before layouts)
    (still : ∀ u ∈ layouts, ∀ v, isOpen v → isOpen' v ∨ r.Contains v u.name) :
    r.StandsBehind isOpen' before layouts := by
  induction layouts generalizing before with
  | nil => trivial
  | cons u rest ih =>
    obtain ⟨first, behind⟩ := h
    obtain ⟨stillFirst, stillRest⟩ := List.forall_mem_cons.mp still
    refine ⟨fun v hv => ?_, ih behind stillRest⟩
    rcases first v hv with placed | opened | contains
    · exact .inl placed
    · exact .inr (stillFirst v opened)
    · exact .inr (.inr contains)

end StandsBehind

/-- What placing names adds comes from these names, and stands behind what is nested in it. -/
structure Sorts (r : Registry) (names : List Name) (p p' : Placement)
    (added : List (Layout Int)) : Prop where
  ordered : p'.ordered = p.ordered ++ added
  asked : ∀ l ∈ added, ∃ n ∈ names, n = l.name ∨ r.Contains n l.name
  behind : r.StandsBehind p.IsOpen p.ordered added

namespace Sorts

variable {names names' : List Name} {added added' : List (Layout Int)}

theorem none (names : List Name) (p : Placement) : Sorts r names p p [] where
  ordered := (List.append_nil _).symm
  asked := List.forall_mem_nil _
  behind := trivial

/-- What is newly met has its layout once it is placed, so that nothing is left open. -/
theorem isOpen_of_grows {v : Name} (grows : Grows r p p') (h : p'.IsOpen v) : p.IsOpen v := by
  obtain ⟨⟨m, hm, same⟩, unplaced⟩ := h
  refine ⟨⟨m, ?_, same⟩, fun l hl => unplaced l (grows.ordered hl)⟩
  refine (grows.placed m hm).resolve_right fun ⟨layout, hlayout, hmade⟩ => ?_
  rw [← name_of_layout hmade, unplaced layout hlayout] at same
  cases same

theorem append (grows : Grows r p p') (h : Sorts r names p p' added)
    (h' : Sorts r names' p' p'' added') : Sorts r (names ++ names') p p'' (added ++ added') where
  ordered := by rw [h'.ordered, h.ordered, List.append_assoc]
  asked := by
    refine List.forall_mem_append.mpr ⟨fun l hl => ?_, fun l hl => ?_⟩
    · obtain ⟨n, hn, reaches⟩ := h.asked l hl
      exact ⟨n, List.mem_append_left _ hn, reaches⟩
    · obtain ⟨n, hn, reaches⟩ := h'.asked l hl
      exact ⟨n, List.mem_append_right _ hn, reaches⟩
  behind := by
    refine standsBehind_append.mpr ⟨h.behind, ?_⟩
    rw [← h.ordered]
    exact h'.behind.imp fun u _ v opened => .inl (isOpen_of_grows grows opened)

theorem of_foldlM {fuel : Nat}
    (hplace : ∀ {p p' name}, Room r fuel p → r.placeLayout fuel p name = .ok p' →
      ∃ added, Sorts r [name] p p' added)
    (room : Room r fuel p) (h : names.foldlM (r.placeLayout fuel) p = .ok p') :
    ∃ added, Sorts r names p p' added := by
  induction names generalizing p with
  | nil =>
    cases h
    exact ⟨[], none _ _⟩
  | cons name rest ih =>
    rw [List.foldlM_cons] at h
    obtain ⟨next, hnext, h⟩ := bind_eq_ok.mp h
    obtain ⟨first, hfirst⟩ := hplace room hnext
    obtain ⟨others, hothers⟩ := ih (room_of_placeLayout room hnext) h
    exact ⟨first ++ others, hfirst.append (grows_of_placeLayout hnext) hothers⟩

/-- The layout of a marked name comes behind those of what is nested in it. While they are placed
the name is open, and it contains all of them. -/
theorem of_nested {name : Name} {layout : Layout Int} (hlayout : r.layout name = .ok layout)
    (h : Sorts r layout.nestedNames { p with met := name :: p.met } p' added)
    (grows : Grows r { p with met := name :: p.met } p')
    (met : ∀ v ∈ layout.nestedNames, ∃ m ∈ p'.met, (v == m) = true) :
    Sorts r [name] p { p' with ordered := p'.ordered ++ [layout] } (added ++ [layout]) := by
  have contains : ∀ l ∈ added, r.Contains name l.name := by
    intro l hl
    obtain ⟨n, hn, reaches⟩ := h.asked l hl
    have leads := leads_of_mem hlayout hn
    rcases reaches with rfl | reaches
    · exact .single leads
    · exact .head leads reaches
  constructor
  case ordered =>
    rw [h.ordered, List.append_assoc]
  case asked =>
    refine List.forall_mem_append.mpr ⟨fun l hl => ?_, List.forall_mem_singleton.mpr ?_⟩
    · exact ⟨name, List.mem_singleton_self _, .inr (contains l hl)⟩
    · exact ⟨name, List.mem_singleton_self _, .inl (name_of_layout hlayout).symm⟩
  case behind =>
    refine standsBehind_append.mpr ⟨?_, fun v hv => ?_, trivial⟩
    · refine h.behind.imp fun u hu v ⟨⟨m, hm, same⟩, unplaced⟩ => ?_
      rcases List.mem_cons.mp hm with rfl | hm
      · exact .inr ((contains u hu).congr_left same)
      · exact .inl ⟨⟨m, hm, same⟩, unplaced⟩
    · obtain ⟨m, hm, same⟩ := met v hv
      have same := BEq.symm same
      rcases grows.placed m hm with marked | ⟨found, hfound, hmade⟩
      · rcases List.mem_cons.mp marked with rfl | hm
        · -- A type that is nested in itself contains itself.
          have leads := (leads_of_mem hlayout hv).congr_left same
          rw [name_of_layout hlayout]
          exact .inr (.inr (.single (leads.congr_right (BEq.symm same))))
        · by_cases placed : ∃ l ∈ p.ordered, (l.name == v) = true
          · obtain ⟨l, hl, hname⟩ := placed
            exact .inl ⟨l, List.mem_append_left _ hl, hname⟩
          · refine .inr (.inl ⟨⟨m, hm, same⟩, fun l hl => ?_⟩)
            exact Bool.eq_false_iff.mpr fun hname => placed ⟨l, hl, hname⟩
      · rw [h.ordered] at hfound
        rw [← name_of_layout hmade] at same
        exact .inl ⟨found, hfound, same⟩

end Sorts

theorem sorts_of_placeLayout {fuel : Nat} {name : Name} (room : Room r fuel p)
    (h : r.placeLayout fuel p name = .ok p') : ∃ added, Sorts r [name] p p' added := by
  induction fuel generalizing p p' name with
  | zero => exact absurd room.pos (Nat.lt_irrefl 0)
  | succ fuel ih =>
    unfold placeLayout at h
    split at h
    · cases h
      exact ⟨[], .none _ _⟩
    · next new =>
      obtain ⟨layout, hlayout, h⟩ := bind_eq_ok.mp h
      obtain ⟨below, hbelow, h⟩ := bind_eq_ok.mp h
      cases h
      have marked := room.mark new (isSome_size?_of_layout hlayout)
      obtain ⟨added, sorts⟩ := Sorts.of_foldlM ih marked hbelow
      obtain ⟨enough, rfl⟩ := Nat.exists_eq_succ_of_ne_zero (Nat.ne_of_gt marked.pos)
      exact ⟨_, sorts.of_nested hlayout (.of_foldlM grows_of_placeLayout hbelow)
        (met_of_foldlM hbelow)⟩

/-! ### Layouts that cannot be made -/

/-- A walk that stops has come to a step that stops. -/
theorem exists_step_of_foldlM {α β ε : Type} {f : β → α → Except ε β} {xs : List α} {b : β} {e : ε}
    (h : xs.foldlM f b = .error e) : ∃ x ∈ xs, ∃ b', f b' x = .error e := by
  induction xs generalizing b with
  | nil => cases h
  | cons x rest ih =>
    rw [List.foldlM_cons] at h
    cases hx : f b x with
    | error fault =>
      rw [hx] at h
      cases h
      exact ⟨x, List.mem_cons_self, b, hx⟩
    | ok next =>
      rw [hx] at h
      obtain ⟨y, hy, b', stops⟩ := ih h
      exact ⟨y, List.mem_cons_of_mem x hy, b', stops⟩

/-- Placing a type stops at the layout of that type, or of one that it contains. -/
theorem exists_unmade_of_placeLayout {fuel : Nat} {name : Name} {fault : Fault}
    (h : r.placeLayout fuel p name = .error fault) :
    ∃ t, (t = name ∨ r.Contains name t) ∧ r.layout t = .error fault := by
  induction fuel generalizing p name with
  | zero => cases h
  | succ fuel ih =>
    unfold placeLayout at h
    split at h
    · cases h
    · cases hlayout : r.layout name with
      | error found =>
        rw [hlayout] at h
        cases h
        exact ⟨name, .inl rfl, hlayout⟩
      | ok layout =>
        rw [hlayout, ok_bind] at h
        dsimp only at h
        cases hbelow : (layout.fields.filterMap (·.nested) |>.filter (·.isGiven)).foldlM
            (r.placeLayout fuel) { p with met := name :: p.met } with
        | ok below =>
          rw [hbelow] at h
          cases h
        | error found =>
          rw [hbelow] at h
          cases h
          obtain ⟨v, hv, q, stops⟩ := exists_step_of_foldlM hbelow
          obtain ⟨t, reaches, unmade⟩ := ih stops
          have leads := leads_of_mem hlayout hv
          refine ⟨t, .inr ?_, unmade⟩
          rcases reaches with rfl | contains
          · exact .single leads
          · exact .head leads contains

theorem exists_unmade_of_structLayouts {fault : Fault} (h : r.structLayouts = .error fault) :
    ∃ t, r.Involves t ∧ r.layout t = .error fault := by
  cases hp : r.sizedStructs.foldlM (r.placeLayout (r.sizes.entries.length + 1)) ⟨[], []⟩ with
  | ok p =>
    rw [structLayouts, hp] at h
    cases h
  | error found =>
    rw [structLayouts, hp] at h
    cases h
    obtain ⟨s, hs, q, stops⟩ := exists_step_of_foldlM hp
    obtain ⟨t, reaches, unmade⟩ := exists_unmade_of_placeLayout stops
    refine ⟨t, ⟨s, hs, reaches.imp_left ?_⟩, unmade⟩
    rintro rfl
    exact BEq.rfl

/-! ### All structures -/

section Layouts

variable {layouts : List (Layout Int)} {name : Name}

theorem sorts_of_structLayouts (h : r.structLayouts = .ok layouts) :
    ∃ met, Sorts r r.sizedStructs ⟨[], []⟩ ⟨met, layouts⟩ layouts := by
  obtain ⟨p, hp, h⟩ := bind_eq_ok.mp h
  cases h
  obtain ⟨added, sorts⟩ := Sorts.of_foldlM (fun room h => sorts_of_placeLayout room h) room_start hp
  have same : p.ordered = added := sorts.ordered
  rw [← same] at sorts
  exact ⟨p.met, sorts⟩

/-- Whatever a type holds that is laid out is laid out too. -/
theorem listed_of_leads {outer inner : Name} (h : r.structLayouts = .ok layouts)
    (listed : ∃ l ∈ layouts, (l.name == outer) = true) (leads : r.Leads outer inner) :
    ∃ l ∈ layouts, (l.name == inner) = true := by
  obtain ⟨l, hl, same⟩ := listed
  obtain ⟨n, nests, given, hn⟩ := leads.congr_left (BEq.symm same)
  obtain ⟨p, hp, h⟩ := bind_eq_ok.mp h
  cases h
  have room := foldlM_preserves (f := r.placeLayout _) (P := Room r _)
    (fun room h => room_of_placeLayout room h) room_start hp
  have grows : Grows r ⟨[], []⟩ p := .of_foldlM grows_of_placeLayout hp
  obtain ⟨m, hm, hnm⟩ := room.closed l hl n nests given
  rcases grows.placed m hm with unmet | ⟨layout, hlayout, hmade⟩
  · cases unmet
  · refine ⟨layout, hlayout, ?_⟩
    rw [name_of_layout hmade]
    exact BEq.trans (BEq.symm hnm) hn

/-- What is laid out are the structures, and what they contain. -/
theorem listed_iff (h : r.structLayouts = .ok layouts) :
    (∃ l ∈ layouts, (l.name == name) = true) ↔ r.Involves name := by
  constructor
  · rintro ⟨l, hl, same⟩
    obtain ⟨met, sorts⟩ := sorts_of_structLayouts h
    obtain ⟨s, hs, rfl | contains⟩ := sorts.asked l hl
    · exact ⟨_, hs, .inl same⟩
    · exact ⟨s, hs, .inr (contains.congr_right same)⟩
  · rintro ⟨s, hs, asked⟩
    obtain ⟨n, same, layout, hlayout, hmade⟩ := exists_structLayout h hs
    rw [← name_of_layout hmade] at same
    rcases asked with asked | contains
    · exact ⟨layout, hlayout, BEq.trans (BEq.symm same) asked⟩
    · have start : ∃ l ∈ layouts, (l.name == s) = true := ⟨layout, hlayout, BEq.symm same⟩
      induction contains with
      | single leads => exact listed_of_leads h start leads
      | tail _ leads ih => exact listed_of_leads h ih leads

/-- Layouts of structures and of what they contain, each type once, behind the types that are
nested in it and do not contain it. -/
structure NestedFirst (r : Registry) (layouts : List (Layout Int)) : Prop where
  made : ∀ l ∈ layouts, r.layout l.name = .ok l
  distinct : layouts.Pairwise fun a b => (a.name == b.name) = false
  involved : ∀ name, (∃ l ∈ layouts, (l.name == name) = true) ↔ r.Involves name
  first : ∀ front u back, layouts = front ++ u :: back → ∀ v ∈ u.nestedNames,
    (∃ l ∈ front, (l.name == v) = true) ∨ r.Contains v u.name

theorem nestedFirst_of_structLayouts (h : r.structLayouts = .ok layouts) :
    r.NestedFirst layouts where
  made _ hl := layout_of_structLayouts h hl
  distinct := distinct_structLayouts h
  involved _ := listed_iff h
  first := by
    rintro front u back rfl v hv
    obtain ⟨met, sorts⟩ := sorts_of_structLayouts h
    have behind := (standsBehind_append.mp sorts.behind).2.1 v hv
    rcases behind with placed | ⟨⟨m, hm, _⟩, _⟩ | contains
    · exact .inl placed
    · cases hm
    · exact .inr contains

/-- All structures are laid out, each type once and behind what is nested in it, exactly where
every type that is involved has a layout; the fault is otherwise one of these layouts. However deep
types nest, and whether or not they contain each other, the depth is no bound. -/
theorem nested_types_first (r : Registry) :
    (∀ depth, r.sizes.entries.length < depth → r.structLayoutsWithin depth = r.structLayouts) ∧
      ((∃ layouts, r.structLayouts = .ok layouts) ↔
        ∀ t, r.Involves t → ∃ l, r.layout t = .ok l) ∧
      (∀ fault, r.structLayouts = .error fault → ∃ t, r.Involves t ∧ r.layout t = .error fault) ∧
      ∀ layouts, r.structLayouts = .ok layouts → r.NestedFirst layouts := by
  refine ⟨fun depth h => structLayoutsWithin_eq h, ⟨?_, fun made => ?_⟩,
    fun fault => exists_unmade_of_structLayouts, fun layouts => nestedFirst_of_structLayouts⟩
  · rintro ⟨layouts, h⟩ t involved
    obtain ⟨l, hl, same⟩ := (listed_iff h).mpr involved
    exact ⟨_, layout_congr same (layout_of_structLayouts h hl)⟩
  · cases h : r.structLayouts with
    | ok layouts => exact ⟨layouts, rfl⟩
    | error fault =>
      obtain ⟨t, involved, unmade⟩ := exists_unmade_of_structLayouts h
      obtain ⟨l, hl⟩ := made t involved
      cases unmade.symm.trans hl

end Layouts

/-- Two value types that contain each other, and one that contains both. -/
def entangled : Registry :=
  ofOffsets [(("Outer" : String), 4), (("Left" : String), 4), (("Right" : String), 4)]
    [(("Outer" : String), [member "left" 0 "Left"]),
     (("Left" : String), [member "right" 0 "Right"]),
     (("Right" : String), [member "left" 0 "Left"])]

/-- A value type that nests one of no declared size. -/
def incomplete : Registry :=
  ofOffsets [(("Box" : String), 4)] [(("Box" : String), [member "item" 0 "Item"])]

theorem entangled_ordered : ∃ layouts, entangled.structLayouts = .ok layouts ∧
    layouts.map (·.name.text?) = [some "Right", some "Left", some "Outer"] := by
  have ordered : entangled.structLayouts.toOption.any fun layouts =>
      decide (layouts.map (·.name.text?) = [some "Right", some "Left", some "Outer"]) := by cbv
  obtain ⟨layouts, h, names⟩ := exists_eq_ok_of_any ordered
  exact ⟨layouts, h, of_decide_eq_true names⟩

theorem nested_types_first_entangled :
    (3 < 10 ∧ entangled.structLayoutsWithin 10 = entangled.structLayouts) ∧
    (∃ layouts, entangled.structLayouts = .ok layouts ∧ entangled.NestedFirst layouts ∧
      layouts.map (·.name.text?) = [some "Right", some "Left", some "Outer"]) ∧
    (∀ t, entangled.Involves t → ∃ l, entangled.layout t = .ok l) ∧
    ∃ fault t, incomplete.structLayouts = .error fault ∧ incomplete.Involves t ∧
      incomplete.layout t = .error fault := by
  obtain ⟨layouts, h, names⟩ := entangled_ordered
  obtain ⟨bounded, made, _, ordered⟩ := nested_types_first entangled
  have stops : incomplete.structLayouts.toOption.isNone := by cbv
  cases hincomplete : incomplete.structLayouts with
  | ok found =>
    rw [hincomplete] at stops
    cases stops
  | error fault =>
    obtain ⟨t, involved, unmade⟩ := (nested_types_first incomplete).2.2.1 fault hincomplete
    exact ⟨⟨by decide, bounded 10 (by decide)⟩, ⟨layouts, h, ordered layouts h, names⟩,
      made.mp ⟨layouts, h⟩, fault, t, rfl, involved, unmade⟩

/-- A value type that nests one with the empty name. -/
def unnamed : Registry :=
  ofOffsets [(("" : String), 4), (("Box" : String), 4)]
    [(("Box" : String), [member "content" 0 ""])]

/-- A nested type is left out if its name is empty, although it has a layout of its own, and the
fields of the type around it are declared with it. -/
theorem unnamed_left_out : (∃ l, unnamed.layout ("" : String) = .ok l) ∧
    unnamed.Nests ("Box" : String) ("" : String) ∧
    ∃ layouts, unnamed.structLayouts = .ok layouts ∧
      layouts.map (·.name.text?) = [some "Box"] := by
  have box : unnamed.layout ("Box" : String) = .ok ⟨("Box" : String), ("Box" : String), 4,
      [⟨("content" : String), 0, 4, none, some ("" : String)⟩]⟩ :=
    layout_eq_ok.mpr ⟨_, _, rfl, rfl, rfl, exists_eq_ok (by cbv)⟩
  have ordered : unnamed.structLayouts.toOption.any fun layouts =>
      decide (layouts.map (·.name.text?) = [some "Box"]) := by cbv
  obtain ⟨layouts, h, names⟩ := exists_eq_ok_of_any ordered
  exact ⟨⟨_, layout_eq_ok.mpr ⟨_, _, rfl, rfl, rfl, exists_eq_ok (by cbv)⟩⟩,
    ⟨_, box, _, List.mem_singleton_self _, rfl⟩, layouts, h, of_decide_eq_true names⟩

end Registry

end EngineBindings
