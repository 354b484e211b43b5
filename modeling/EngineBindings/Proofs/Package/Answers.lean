import EngineBindings.Proofs.Package.ClassCode

/-! What an emitted class module answers.

The engine asks a class's module for a proxy. A class with a dispatch table looks the method up
in its table and asks its parent on a miss; a class without one passes the question on. `Runs`
follows the question from module to module, and reads every name the way the emitted language
does: the last definition of a name counts, and a name that starts with two underscores means
another one inside a class statement. A dispatcher that reads anything but its own table, or a
definition of another kind under its name, answers something else. -/
namespace EngineBindings.Package

open Attempt EngineBindings.Code EngineBindings.Text

/-! ### Names inside a class statement -/

/-- Whether a name is private to the class statement that reads it: it starts with two
underscores and does not end with two. -/
def isPrivateName (name : String) : Bool :=
  startsWith name "__" && !(dropPrefix? ['_', '_'] name.toList.reverse).isSome

/-- What a name that is read inside a class statement stands for. A private one is prefixed with
the class's name, less the underscores in front, unless nothing remains of that. -/
def mangle (className name : String) : String :=
  if isPrivateName name && className.toList.any (· ≠ '_') then
    "_" ++ String.ofList (className.toList.dropWhile (· = '_')) ++ name
  else name

/-- Class names that make the names of their dispatch tables private. -/
def HidesTable (className : String) : Prop :=
  startsWith className "_" = true ∧ className.toList.any (· ≠ '_') = true

instance (className : String) : Decidable (HidesTable className) :=
  inferInstanceAs (Decidable (_ ∧ _))

theorem mangle_eq_self {className name : String} :
    mangle className name = name ↔
      ¬(isPrivateName name = true ∧ className.toList.any (· ≠ '_') = true) := by
  unfold mangle
  rw [← Bool.and_eq_true]
  constructor
  · intro h hprivate
    rw [if_pos hprivate] at h
    have hlength := congrArg String.length h
    rw [String.length_append, String.length_append] at hlength
    have hunderscore : "_".length = 1 := by decide
    omega
  · intro h
    rw [if_neg h]

theorem toList_tableName (t : DispatchTable) :
    t.tableName.toList =
      '_' :: (t.owner.display.toList ++ ['_', 'v', 'i', 'r', 't', 'u', 'a', 'l', 's']) := by
  simp [DispatchTable.tableName, String.toList_append]

theorem isPrivateName_tableName (t : DispatchTable) :
    isPrivateName t.tableName = true ↔
      t.owner.display.toList = [] ∨ startsWith t.owner.display "_" = true := by
  unfold isPrivateName startsWith
  rw [toList_tableName, Bool.and_eq_true]
  have hend : (!(dropPrefix? ['_', '_'] ('_' :: (t.owner.display.toList ++
      ['_', 'v', 'i', 'r', 't', 'u', 'a', 'l', 's'])).reverse).isSome) = true := by
    simp [dropPrefix?]
  cases t.owner.display.toList with
  | nil => simp [dropPrefix?]
  | cons c cs =>
    by_cases hc : '_' = c <;> simp [dropPrefix?, hc]

/-- A dispatcher reads its table under the table's own name, unless the class's name hides it. -/
theorem mangle_tableName {t : DispatchTable} {className : String}
    (h : t.owner.display = className) :
    mangle className t.tableName = t.tableName ↔ ¬HidesTable className := by
  rw [mangle_eq_self, isPrivateName_tableName, h, HidesTable]
  refine not_congr ⟨?_, ?_⟩
  · rintro ⟨hempty | hstart, hother⟩
    · rw [hempty] at hother
      cases hother
    · exact ⟨hstart, hother⟩
  · rintro ⟨hstart, hother⟩
    exact ⟨.inr hstart, hother⟩

/-! ### What a class answers -/

/-- What a name stands for in a module. -/
inductive Meaning where
  /-- What the language itself has under the name, if anything. -/
  | builtin
  | proxy (t : Trampoline)
  | table (t : DispatchTable)
  | other

/-- What a name stands for behind definitions: the last one counts. -/
def meaning (definitions : List (String × Meaning)) (name : String) : Meaning :=
  match definitions.reverse.find? (·.1 = name) with
  | some definition => definition.2
  | none => .builtin

/-- What the engine is given for a method. -/
inductive Answer where
  | proxy (t : Trampoline)
  /-- What the runtime's base class has. -/
  | base
  /-- What comes of a name that means something else than the dispatcher takes it for. -/
  | stray

/-- The answer that planning resolves. -/
def Answer.ofResolved : Option Trampoline → Answer
  | some t => proxy t
  | none => base

namespace ClassCode

/-- The names that are bound before the class statement. -/
def imported (c : ClassCode) : List String :=
  "annotations" :: (c.standard ++ c.project).flatMap Import.names

/-- The names that the class statement binds before the dispatcher. -/
def inner (c : ClassCode) : List String :=
  c.blocks.flatMap (·.names)

/-- The definitions of a module in order, up to the dispatch table. -/
def untilTable (c : ClassCode) : List (String × Meaning) :=
  c.imported.map (·, .other) ++ [(c.name.display, .other)] ++
    c.proxies.map fun t => (t.proxyName, .proxy t)

/-- The definitions of a module in order. -/
def definitions (c : ClassCode) : List (String × Meaning) :=
  c.untilTable ++ (c.table.toList.map fun t => (t.tableName, .table t)) ++ [("__all__", .other)]

/-- The names that a module binds. -/
def bound (c : ClassCode) : List String :=
  c.definitions.map (·.1)

/-- What a class answers by itself, nothing where its parent is asked instead. -/
def answer? (c : ClassCode) (m : String) : Option Answer :=
  match c.table with
  | none => if c.inner.contains "get_virtual_dispatcher" then some .stray else none
  | some t =>
    if (c.imported ++ c.inner).contains "classmethod" then some .stray
    else
      match meaning c.definitions "str",
        meaning c.definitions (mangle c.name.display t.tableName) with
      | .builtin, .table found =>
        match found.entries.find? m with
        | some entry =>
          match meaning c.untilTable entry.proxyName with
          | .proxy proxy => some (.proxy proxy)
          | _ => some .stray
        | none =>
          match meaning c.definitions "super" with
          | .builtin => none
          | _ => some .stray
      | _, _ => some .stray

/-- The names that a class's dispatcher reads, or that are read in place of one, mean what they
are taken for when a method is asked for. -/
def Clear (c : ClassCode) (m : String) : Prop :=
  match c.table with
  | none => "get_virtual_dispatcher" ∉ c.inner
  | some t =>
    "classmethod" ∉ c.imported ++ c.inner ∧ "str" ∉ c.bound ∧ ¬HidesTable c.name.display ∧
      match t.entries.find? m with
      | some entry => c.proxies.reverse.find? (·.proxyName = entry.proxyName) = some entry
      | none => "super" ∉ c.bound

end ClassCode

/-! ### What names mean in a module -/

/-- What the class's own dispatch table has for a method. -/
def ClassCode.own? (c : ClassCode) (m : String) : Option Trampoline :=
  c.table.bind (·.entries.find? (m : Name))

/-- A table belongs to its class and names proxies of the class. -/
structure ClassCode.WellFormed (c : ClassCode) : Prop where
  owner : ∀ t, c.table = some t → t.owner = c.name
  proxies : ∀ m entry, c.own? m = some entry → entry ∈ c.proxies

theorem meaning_eq_builtin {definitions : List (String × Meaning)}
    (h : ∀ d ∈ definitions, d.2 ≠ .builtin) {name : String} :
    meaning definitions name = .builtin ↔ name ∉ definitions.map (·.1) := by
  unfold meaning
  cases hfound : definitions.reverse.find? (·.1 = name) with
  | some d =>
    have hd := List.mem_reverse.mp (List.mem_of_find?_eq_some hfound)
    have hname : d.1 = name := by simpa using List.find?_some hfound
    exact iff_of_false (h d hd) (not_not_intro (List.mem_map.mpr ⟨d, hd, hname⟩))
  | none =>
    refine iff_of_true rfl fun hmem => ?_
    obtain ⟨d, hd, hname⟩ := List.mem_map.mp hmem
    exact List.find?_eq_none.mp hfound d (List.mem_reverse.mpr hd) (by simpa using hname)

section Names

variable {c : ClassCode} {t : DispatchTable} {m : String}

theorem definitions_ne_builtin : ∀ d ∈ c.definitions, d.2 ≠ .builtin := by
  intro d hd
  simp only [ClassCode.definitions, ClassCode.untilTable, List.mem_append, List.mem_map,
    List.mem_singleton] at hd
  rcases hd with (((⟨_, _, rfl⟩ | rfl) | ⟨_, _, rfl⟩) | ⟨_, _, rfl⟩) | rfl
  all_goals exact fun h => by cases h

/-- The only table of a module is the class's own. -/
theorem eq_of_table_mem {name : String} {found : DispatchTable} (ht : c.table = some t)
    (h : (name, .table found) ∈ c.definitions) : name = t.tableName ∧ found = t := by
  simp only [ClassCode.definitions, ClassCode.untilTable, List.mem_append, List.mem_map,
    List.mem_singleton, ht, Option.toList_some] at h
  rcases h with (((⟨_, _, h⟩ | h) | ⟨_, _, h⟩) | ⟨_, rfl, h⟩) | h
  · cases h
  · cases h
  · cases h
  · cases h
    exact ⟨rfl, rfl⟩
  · cases h

theorem tableName_ne_all (t : DispatchTable) : "__all__" ≠ t.tableName := by
  intro h
  have hlast := congrArg List.getLast? (congrArg String.toList h)
  rw [toList_tableName, ← List.cons_append, List.getLast?_append] at hlast
  exact absurd (show "__all__".toList.getLast? = some 's' from hlast) (by decide)

theorem meaning_tableName (ht : c.table = some t) :
    meaning c.definitions t.tableName = .table t := by
  have hreverse : c.definitions.reverse =
      ("__all__", .other) :: (t.tableName, .table t) :: c.untilTable.reverse := by
    simp [ClassCode.definitions, ht]
  unfold meaning
  rw [hreverse, List.find?_cons_of_neg (by simpa using tableName_ne_all t),
    List.find?_cons_of_pos (by simp)]

theorem eq_of_meaning_table {name : String} {found : DispatchTable} (ht : c.table = some t)
    (h : meaning c.definitions name = .table found) : name = t.tableName ∧ found = t := by
  unfold meaning at h
  split at h
  · next d hfound =>
    have hd := List.mem_reverse.mp (List.mem_of_find?_eq_some hfound)
    have hname : d.1 = name := by simpa using List.find?_some hfound
    obtain ⟨n, value⟩ := d
    dsimp only at hname h
    subst hname h
    exact eq_of_table_mem ht hd
  · cases h

/-- Behind the proxies, the name of a proxy stands for the last one that has it. -/
theorem meaning_proxyName {entry : Trampoline} (h : entry ∈ c.proxies) :
    ∃ last, c.proxies.reverse.find? (·.proxyName = entry.proxyName) = some last ∧
      meaning c.untilTable entry.proxyName = .proxy last := by
  have hsome : (c.proxies.reverse.find? (·.proxyName = entry.proxyName)).isSome := by
    rw [List.find?_isSome]
    exact ⟨entry, List.mem_reverse.mpr h, by simp⟩
  obtain ⟨last, hlast⟩ := Option.isSome_iff_exists.mp hsome
  refine ⟨last, hlast, ?_⟩
  unfold meaning ClassCode.untilTable
  rw [List.reverse_append, List.find?_append, ← List.map_reverse, List.find?_map]
  rw [show ((fun d : String × Meaning => decide (d.1 = entry.proxyName)) ∘
    fun t : Trampoline => (t.proxyName, Meaning.proxy t)) =
      fun t => decide (t.proxyName = entry.proxyName) from rfl, hlast]
  rfl

/-! ### Where a class answers what planning resolves -/

/-- A dispatcher that reads what it is meant to read looks the method up in the class's table. -/
theorem answer?_of_table (hc : c.WellFormed) (ht : c.table = some t) :
    c.answer? m =
      if "classmethod" ∉ c.imported ++ c.inner ∧ "str" ∉ c.bound ∧ ¬HidesTable c.name.display then
        match t.entries.find? m with
        | some entry =>
          match meaning c.untilTable entry.proxyName with
          | .proxy proxy => some (.proxy proxy)
          | _ => some .stray
        | none => if "super" ∉ c.bound then none else some .stray
      else some .stray := by
  have hmangle := mangle_tableName (congrArg Name.display (hc.owner t ht))
  unfold ClassCode.answer?
  rw [ht]
  dsimp only
  by_cases hclass : "classmethod" ∈ c.imported ++ c.inner
  · rw [if_pos (List.contains_iff_mem.mpr hclass), if_neg fun h => h.1 hclass]
  · rw [if_neg (by rwa [List.contains_iff_mem])]
    by_cases hstr : "str" ∈ c.bound
    · rw [if_neg fun h => h.2.1 hstr]
      cases hm : meaning c.definitions "str" with
      | builtin => exact absurd hstr ((meaning_eq_builtin definitions_ne_builtin).mp hm)
      | _ => rfl
    · rw [(meaning_eq_builtin definitions_ne_builtin).mpr hstr]
      by_cases hhide : HidesTable c.name.display
      · rw [if_neg fun h => h.2.2 hhide]
        cases hm : meaning c.definitions (mangle c.name.display t.tableName) with
        | table found => exact absurd hhide (hmangle.mp (eq_of_meaning_table ht hm).1)
        | _ => rfl
      · rw [if_pos ⟨hclass, hstr, hhide⟩, hmangle.mpr hhide, meaning_tableName ht]
        dsimp only
        cases t.entries.find? m with
        | some entry => rfl
        | none =>
          dsimp only
          by_cases hsuper : "super" ∈ c.bound
          · rw [if_neg (not_not_intro hsuper)]
            cases hm : meaning c.definitions "super" with
            | builtin => exact absurd hsuper ((meaning_eq_builtin definitions_ne_builtin).mp hm)
            | _ => rfl
          · rw [if_pos hsuper, (meaning_eq_builtin definitions_ne_builtin).mpr hsuper]

/-- A class with a proxy for a method gives an answer, and the proxy exactly where it is clear. -/
theorem answer?_of_own (hc : c.WellFormed) {entry : Trampoline} (hown : c.own? m = some entry) :
    ∃ answer, c.answer? m = some answer ∧ (answer = .proxy entry ↔ c.Clear m) := by
  obtain ⟨t, ht, hentry⟩ := Option.bind_eq_some_iff.mp hown
  obtain ⟨last, hlast, hmeaning⟩ := meaning_proxyName (hc.proxies m entry hown)
  rw [answer?_of_table hc ht, hentry]
  dsimp only
  rw [hmeaning]
  unfold ClassCode.Clear
  rw [ht]
  dsimp only
  rw [hentry]
  dsimp only
  rw [hlast]
  split
  · next hnames => exact ⟨_, rfl, by simp [hnames]⟩
  · next hnames =>
    exact ⟨_, rfl, iff_of_false (fun h => by cases h) fun h => hnames ⟨h.1, h.2.1, h.2.2.1⟩⟩

/-- A class without a proxy for a method passes the question on exactly where it is clear. -/
theorem answer?_of_own_none (hc : c.WellFormed) (hown : c.own? m = none) :
    (c.Clear m ∧ c.answer? m = none) ∨ ¬c.Clear m ∧ c.answer? m = some .stray := by
  unfold ClassCode.Clear
  cases ht : c.table with
  | none =>
    unfold ClassCode.answer?
    rw [ht]
    dsimp only
    by_cases hinner : "get_virtual_dispatcher" ∈ c.inner
    · exact .inr ⟨not_not_intro hinner, if_pos (List.contains_iff_mem.mpr hinner)⟩
    · exact .inl ⟨hinner, if_neg (by rwa [List.contains_iff_mem])⟩
  | some t =>
    have hentry : t.entries.find? m = none := by
      rw [ClassCode.own?, ht] at hown
      exact hown
    rw [answer?_of_table hc ht]
    dsimp only
    rw [hentry]
    dsimp only
    by_cases hnames : "classmethod" ∉ c.imported ++ c.inner ∧ "str" ∉ c.bound ∧
        ¬HidesTable c.name.display
    · rw [if_pos hnames]
      by_cases hsuper : "super" ∈ c.bound
      · exact .inr ⟨fun h => h.2.2.2 hsuper, if_neg (not_not_intro hsuper)⟩
      · exact .inl ⟨⟨hnames.1, hnames.2.1, hnames.2.2, hsuper⟩, if_pos hsuper⟩
    · rw [if_neg hnames]
      exact .inr ⟨fun h => hnames ⟨h.1, h.2.1, h.2.2.1⟩, rfl⟩

/-- A dispatcher whose table is hidden from it answers nothing that planning resolves. -/
theorem answer?_of_hidesTable (hc : c.WellFormed) (ht : c.table.isSome)
    (hhide : HidesTable c.name.display) : c.answer? m = some .stray := by
  obtain ⟨t, ht⟩ := Option.isSome_iff_exists.mp ht
  rw [answer?_of_table hc ht, if_neg fun h => h.2.2 hhide]

end Names

/-- What comes of asking the module of a class for a method. -/
inductive Runs (codes : List ClassCode) (m : String) : Name → Answer → Prop
  | answers {name : Name} {c : ClassCode} {answer : Answer}
      (hc : codes.find? (·.name == name) = some c) (ha : c.answer? m = some answer) :
      Runs codes m name answer
  | defers {name parent : Name} {c : ClassCode} {answer : Answer}
      (hc : codes.find? (·.name == name) = some c) (ha : c.answer? m = none)
      (hp : c.parent = some parent) (rest : Runs codes m parent answer) : Runs codes m name answer
  | ends {name : Name} {c : ClassCode} (hc : codes.find? (·.name == name) = some c)
      (ha : c.answer? m = none) (hp : c.parent = none) : Runs codes m name .base

/-- A class gives one answer. -/
theorem Runs.unique {codes : List ClassCode} {m : String} {name : Name} {a b : Answer}
    (ha : Runs codes m name a) (hb : Runs codes m name b) : a = b := by
  induction ha generalizing b with
  | answers hc ha =>
    cases hb with
    | answers hc' ha' => simp_all
    | defers hc' ha' hp' rest' => simp_all
    | ends hc' ha' hp' => simp_all
  | defers hc ha hp rest ih =>
    cases hb with
    | answers hc' ha' => simp_all
    | defers hc' ha' hp' rest' =>
      rw [hc] at hc'
      cases hc'
      rw [hp] at hp'
      cases hp'
      exact ih rest'
    | ends hc' ha' hp' => simp_all
  | ends hc ha hp =>
    cases hb with
    | answers hc' ha' => simp_all
    | defers hc' ha' hp' rest' => simp_all
    | ends hc' ha' hp' => rfl

end EngineBindings.Package
