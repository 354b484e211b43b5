import EngineBindings.Files.Tree
import EngineBindings.Proofs.Attempt
import EngineBindings.Proofs.OrderedMap

/-! Where paths lead, and what making directories changes.

Following a path asks for directories alone, so a path leads to the same place in every tree that
has those directories (`KeepsDirectories`). Making a directory with those above it adds directories
where paths above it lead and changes nothing else (`AddsDirectories`); done once it leaves nothing
to be done (`ensureDirectory_of_leads`). -/
namespace EngineBindings.Tree

variable {t t' t'' : Tree} {path place : Path}

/-! ### Entries -/

theorem node?_root (t : Tree) : t.node? [] = some .directory := by
  simp [node?]

theorem ne_root_of_node?_eq_none (h : t.node? place = none) : place ≠ [] := by
  rintro rfl
  simp [node?_root] at h

theorem node?_put (t : Tree) (node : Node) (h : place ≠ []) (p : Path) :
    (t.put place node).node? p = if place = p then some node else t.node? p := by
  by_cases hp : p = []
  · subst hp
    simp [node?, h]
  · simp [node?, put, hp, OrderedMap.find?_insert]

theorem node?_put_self (t : Tree) (node : Node) (h : place ≠ []) :
    (t.put place node).node? place = some node := by
  simp [node?_put t node h]

theorem node?_remove (t : Tree) (h : place ≠ []) (p : Path) :
    (t.remove place).node? p = if place = p then none else t.node? p := by
  by_cases hp : p = []
  · subst hp
    simp [node?, h]
  · simp only [node?, remove, hp, if_false, OrderedMap.find?_erase, beq_iff_eq]

theorem isDirectoryAt_iff : t.isDirectoryAt place = true ↔ t.node? place = some .directory := by
  unfold isDirectoryAt
  split <;> simp_all

/-! ### Following -/

/-- Whether every directory of a tree is one of another. -/
def KeepsDirectories (t t' : Tree) : Prop :=
  ∀ place, t.node? place = some .directory → t'.node? place = some .directory

theorem KeepsDirectories.refl (t : Tree) : t.KeepsDirectories t := fun _ h => h

theorem KeepsDirectories.trans (h : t.KeepsDirectories t') (h' : t'.KeepsDirectories t'') :
    t.KeepsDirectories t'' := fun place hp => h' place (h place hp)

theorem follow_of_keeps (h : t.KeepsDirectories t') {base : Path}
    (hp : t.follow base path = .ok place) : t'.follow base path = .ok place := by
  fun_induction t.follow base path with
  | case1 base => simpa [follow] using hp
  | case2 | case3 | case5 => simp at hp
  | case4 base rest found ih => simpa [follow, h base found] using ih hp
  | case6 base name rest found notUp short ih =>
    simpa [follow, h base found, notUp, short] using ih hp

/-- Whether a path can be written down as one that a file may lie at. -/
structure Nameable (path : Path) : Prop where
  names : ∀ name ∈ path, isUnnameable name = false ∧ name.toList.contains (Char.ofNat 0) = false
  size : path.size ≤ maxPath

theorem Nameable.of_above {path' : Path} (h : Nameable path) (hp : path' <+: path) :
    Nameable path' := by
  obtain ⟨rest, rfl⟩ := hp
  refine ⟨fun name hname => h.names name (List.mem_append_left rest hname), ?_⟩
  have hsize := h.size
  rw [Path.size_append] at hsize
  exact Nat.le_of_add_right_le hsize

theorem locate_eq_follow (h : Nameable path) : t.locate path = t.follow [] path := by
  have hunnameable : path.any isUnnameable = false :=
    List.any_eq_false.2 fun name hname => by simp [h.names name hname]
  have hnul : path.any (·.toList.contains (Char.ofNat 0)) = false :=
    List.any_eq_false.2 fun name hname => by rw [(h.names name hname).2]; decide
  rw [locate, hunnameable, hnul, if_neg Bool.false_ne_true, if_neg Bool.false_ne_true,
    if_neg (Nat.not_lt.2 h.size)]

theorem locate_eq_ok :
    t.locate path = .ok place ↔ Nameable path ∧ t.follow [] path = .ok place := by
  constructor
  · intro h
    unfold locate at h
    split_ifs at h with hunnameable hnul hsize
    simp only [List.any_eq_true, not_exists, not_and, Bool.not_eq_true] at hunnameable hnul
    exact ⟨⟨fun name hname => ⟨hunnameable name hname, hnul name hname⟩, Nat.not_lt.1 hsize⟩, h⟩
  · rintro ⟨hnameable, h⟩
    rw [locate_eq_follow hnameable, h]

/-- A path leads to the same place when directories are added. -/
theorem locate_of_keeps (h : t.KeepsDirectories t') (hp : t.locate path = .ok place) :
    t'.locate path = .ok place := by
  rw [locate_eq_ok] at hp ⊢
  exact ⟨hp.1, follow_of_keeps h hp.2⟩

theorem leadsToDirectory_iff :
    t.leadsToDirectory path = true ↔
      ∃ place, t.locate path = .ok place ∧ t.node? place = some .directory := by
  unfold leadsToDirectory
  split
  · next place found => simp [found, isDirectoryAt_iff]
  · next found => simp [found]

theorem leadsToDirectory_of_keeps (h : t.KeepsDirectories t')
    (hp : t.leadsToDirectory path = true) : t'.leadsToDirectory path = true := by
  obtain ⟨place, found, isDirectory⟩ := leadsToDirectory_iff.1 hp
  exact leadsToDirectory_iff.2 ⟨place, locate_of_keeps h found, h place isDirectory⟩

/-! ### Names at the end of a path -/

theorem follow_append (t : Tree) (base first second : Path) :
    t.follow base (first ++ second) = t.follow base first >>= fun base => t.follow base second := by
  fun_induction t.follow base first with
  | case1 => rfl
  | case2 base name rest h => simp [follow, h]; rfl
  | case3 base name rest _ _ h => simp [follow, h]; rfl
  | case4 base rest h ih => simpa [follow, h] using ih
  | case5 base name rest h hup hlong => simp [follow, h, hup, hlong]; rfl
  | case6 base name rest h hup hlong ih => simpa [follow, h, hup, hlong] using ih

/-- Behind a directory a path goes on by its last name. -/
theorem follow_concat {name : String} (h : t.locate (path ++ [name]) = .ok place) :
    ∃ directory, t.locate path = .ok directory ∧ t.node? directory = some .directory ∧
      (name ≠ Path.up → place = directory ++ [name]) := by
  obtain ⟨hnameable, h⟩ := locate_eq_ok.1 h
  rw [follow_append] at h
  obtain ⟨directory, hdirectory, h⟩ := Attempt.bind_eq_ok.1 h
  refine ⟨directory, locate_eq_ok.2 ⟨hnameable.of_above (List.prefix_append _ _), hdirectory⟩, ?_⟩
  unfold follow at h
  split at h
  · cases h
  · cases h
  · next hnode =>
    refine ⟨hnode, fun hname => ?_⟩
    rw [if_neg hname] at h
    split at h
    · cases h
    · simpa [follow] using h.symm

theorem parent_append_name (h : path ≠ []) : path.parent ++ [path.name] = path := by
  rw [Path.parent, Path.name, List.getLastD_eq_getLast?, List.getLast?_eq_some_getLast h,
    Option.getD_some, List.dropLast_append_getLast h]

/-- What a path leads to lies in a directory. -/
theorem leads_parent_of_locate (h : t.locate path = .ok place) (hpath : path ≠ []) :
    t.leadsToDirectory path.parent = true := by
  rw [← parent_append_name hpath] at h
  obtain ⟨directory, hdirectory, hnode, -⟩ := follow_concat h
  exact leadsToDirectory_iff.2 ⟨directory, hdirectory, hnode⟩

/-! ### Directories that are added -/

/-- Whether a path, or one above it, leads to a place. -/
def LiesOn (t : Tree) (path place : Path) : Prop :=
  ∃ above, above <+: path ∧ t.locate above = .ok place

theorem LiesOn.of_keeps (h : t.KeepsDirectories t') (hp : t.LiesOn path place) :
    t'.LiesOn path place := by
  obtain ⟨above, isAbove, found⟩ := hp
  exact ⟨above, isAbove, locate_of_keeps h found⟩

theorem LiesOn.of_above {path' : Path} (h : path' <+: path) (hp : t.LiesOn path' place) :
    t.LiesOn path place := by
  obtain ⟨above, isAbove, found⟩ := hp
  exact ⟨above, isAbove.trans h, found⟩

/-- Whether a tree is another with directories added along a path; all else is as it was. -/
structure AddsDirectories (path : Path) (t t' : Tree) : Prop where
  log : t'.log = t.log
  node (place : Path) : t'.node? place = t.node? place ∨
    t.node? place = none ∧ t'.node? place = some .directory ∧ t'.LiesOn path place

namespace AddsDirectories

theorem refl (path : Path) (t : Tree) : AddsDirectories path t t :=
  ⟨rfl, fun _ => .inl rfl⟩

theorem keeps (h : AddsDirectories path t t') : t.KeepsDirectories t' := by
  intro place isDirectory
  rcases h.node place with same | ⟨missing, -, -⟩
  · rw [same, isDirectory]
  · simp [missing] at isDirectory

theorem of_above {path' : Path} (h : AddsDirectories path' t t') (hp : path' <+: path) :
    AddsDirectories path t t' :=
  ⟨h.log, fun place => (h.node place).imp_right fun ⟨missing, made, on⟩ =>
    ⟨missing, made, on.of_above hp⟩⟩

theorem trans (h : AddsDirectories path t t') (h' : AddsDirectories path t' t'') :
    AddsDirectories path t t'' := by
  refine ⟨h'.log.trans h.log, fun place => ?_⟩
  rcases h.node place with same | ⟨missing, made, on⟩
  · rw [← same]
    exact h'.node place
  · exact .inr ⟨missing, h'.keeps place made, on.of_keeps h'.keeps⟩

end AddsDirectories

/-! ### Making directories -/

theorem makeDirectory_eq_ok (h : t.makeDirectory path = .ok t') :
    ∃ place, t.locate path = .ok place ∧ t.node? place = none ∧ t' = t.put place .directory := by
  obtain ⟨place, found, h⟩ := Attempt.bind_eq_ok.1 h
  split at h
  · cases h
  · next missing => exact ⟨place, found, missing, by simpa using h.symm⟩

theorem makeDirectory_eq_error_of_leads (h : t.leadsToDirectory path = true) :
    t.makeDirectory path = .error .alreadyExists := by
  obtain ⟨place, found, isDirectory⟩ := leadsToDirectory_iff.1 h
  simp only [makeDirectory, found, Attempt.ok_bind, isDirectory]

/-- A directory that has been made is where the path leads, and nothing else has changed. -/
theorem adds_of_makeDirectory (h : t.makeDirectory path = .ok t') :
    AddsDirectories path t t' ∧ t'.leadsToDirectory path = true := by
  obtain ⟨place, found, missing, rfl⟩ := makeDirectory_eq_ok h
  have notRoot := ne_root_of_node?_eq_none missing
  have keeps : t.KeepsDirectories (t.put place .directory) := by
    intro p hp
    rw [node?_put t _ notRoot]
    split <;> simp [hp]
  have leads := locate_of_keeps keeps found
  refine ⟨⟨rfl, fun p => ?_⟩, leadsToDirectory_iff.2 ⟨place, leads, node?_put_self t _ notRoot⟩⟩
  by_cases hp : place = p
  · subst hp
    exact .inr ⟨missing, node?_put_self t _ notRoot, path, List.prefix_rfl, leads⟩
  · exact .inl (by simp [node?_put t _ notRoot, hp])

theorem leadsToDirectory_root (t : Tree) : t.leadsToDirectory [] = true :=
  leadsToDirectory_iff.2 ⟨[], locate_eq_ok.2 ⟨⟨by simp, Nat.zero_le _⟩, rfl⟩, node?_root t⟩

/-- Making directories adds directories along the path, also when it is refused at last. -/
theorem adds_makeDirectories (t : Tree) (reversed : Path) :
    AddsDirectories reversed.reverse t (t.makeDirectories reversed).1 := by
  induction reversed generalizing t with
  | nil => exact .refl _ t
  | cons name above ih =>
    have up : above.reverse <+: (name :: above).reverse := by simp
    have first := (ih t).of_above up
    rw [makeDirectories]
    split
    · next made => exact (adds_of_makeDirectory made).1
    · split
      · next stopped => simpa [stopped] using first
      · next t₁ done =>
        rw [done] at first
        split
        · next made => exact first.trans (adds_of_makeDirectory made).1
        · exact first
        · simp only
          split <;> exact first
    · simp only
      split <;> exact .refl _ t

/-- Directories that have been made are there. -/
theorem leads_of_makeDirectories {reversed : Path} (h : t.makeDirectories reversed = (t', .ok ())) :
    t'.leadsToDirectory reversed.reverse = true := by
  cases reversed with
  | nil => exact leadsToDirectory_root t'
  | cons name above =>
    rw [makeDirectories] at h
    split at h
    · next made =>
      cases h
      exact (adds_of_makeDirectory made).2
    · split at h
      · simp at h
      · split at h
        · next made =>
          cases h
          exact (adds_of_makeDirectory made).2
        · simp at h
        · simp only at h
          split at h <;> simp_all
    · simp only at h
      split at h <;> simp_all

theorem adds_ensureDirectory (t : Tree) (path : Path) :
    AddsDirectories path t (t.ensureDirectory path).1 := by
  unfold ensureDirectory
  split
  · exact .refl path t
  · simpa using adds_makeDirectories t path.reverse

theorem leads_of_ensureDirectory (h : t.ensureDirectory path = (t', .ok ())) :
    t'.leadsToDirectory path = true := by
  unfold ensureDirectory at h
  split at h
  · simp at h
  · simpa using leads_of_makeDirectories h

/-! ### Directories that are there -/

theorem missing_of_leads (h : t.leadsToDirectory path = true) : t.missing path.reverse = 0 := by
  cases hp : path.reverse with
  | nil => rfl
  | cons name above =>
    have : (name :: above).reverse = path := by rw [← hp, List.reverse_reverse]
    simp [missing, this, makeDirectory_eq_error_of_leads h]

/-- Below a directory no more are missing than there are names. -/
theorem missing_append_le (h : t.leadsToDirectory path = true) (reversed : Path) :
    t.missing (reversed ++ path.reverse) ≤ reversed.length := by
  induction reversed with
  | nil => simp [missing_of_leads h]
  | cons name above ih =>
    rw [List.cons_append, missing]
    split
    · simpa using ih
    · simp

/-- A directory that is there is left as it is. -/
theorem ensureDirectory_of_leads (h : t.leadsToDirectory path = true) :
    t.ensureDirectory path = (t, .ok ()) := by
  unfold ensureDirectory
  rw [missing_of_leads h, if_neg (Nat.not_lt_zero _ ∘ fun h => h)]
  cases hp : path.reverse with
  | nil => rfl
  | cons name above =>
    have : (name :: above).reverse = path := by rw [← hp, List.reverse_reverse]
    simp [makeDirectories, this, makeDirectory_eq_error_of_leads h, h]

end EngineBindings.Tree
