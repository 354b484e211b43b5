import EngineBindings.Proofs.Package.Passages

/-! What the names in a class module are behind.

A passage of a module finds a name among its own, among the classes that it imports or at the top
of the module (`Passage.Finds`). What a module has at its top is decided by what the class was
planned with, in both directions: each thing comes with what needs it, and there is nothing else
(`origin_of_has`). Two kinds of names are missed by passages that read them: a private one, which
means another name inside the class statement, and an enumeration's host that starts from a class
whose own name is kept for receivers. -/
namespace EngineBindings.Package

open Attempt EngineBindings.Code EngineBindings.Text

/-! ### Where names are found -/

/-- What is behind a name at the top of a module: the language, the class, its proxies and its
table, and what is imported. -/
inductive ClassCode.Has (c : ClassCode) (name : String) : Prop
  | language (h : name ∈ languageNames)
  | self (h : name = c.name.display)
  | proxy {t : Trampoline} (ht : t ∈ c.proxies) (h : name = t.proxyName)
  | table {t : DispatchTable} (ht : c.table = some t) (h : name = t.tableName)
  | imported {i : Import} (hi : i ∈ c.standard ++ c.project) (h : name ∈ i.names)

namespace Passage

/-- A passage finds a name among its own, among the classes that it imports, or at the top of the
module, where a private name of the class statement is looked for under the name that it means. -/
inductive Finds (s : Passage) (c : ClassCode) (name : String) : Prop
  | own (h : name ∈ s.own)
  | imported (h : name ∈ s.imports)
  | module (h : c.Has (if s.inside then mangle c.name.display name else name))

/-- The module has a name that means another one where it is read. -/
def Hides (s : Passage) (c : ClassCode) (name : String) : Prop :=
  c.Has name ∧ s.inside = true ∧ mangle c.name.display name ≠ name

/-- A class is found under its own name, and read under that name with an underscore behind it. -/
def Misnames (s : Passage) (c : ClassCode) (name : String) : Prop :=
  ∃ owner ∈ receiverNames, name = owner ++ "_" ∧ s.Finds c owner

/-- A passage finds a name unless it is hidden or misnamed. -/
def Accounts (s : Passage) (c : ClassCode) (name : String) : Prop :=
  s.Finds c name ∨ s.Hides c name ∨ s.Misnames c name

section Accounts

variable {s : Passage} {c : ClassCode} {name : String}

theorem accounts_of_own (h : name ∈ s.own) : s.Accounts c name :=
  .inl (.own h)

theorem accounts_of_has (h : c.Has name) : s.Accounts c name := by
  by_cases inside : s.inside = true
  · by_cases same : mangle c.name.display name = name
    · refine .inl (.module ?_)
      rwa [if_pos inside, same]
    · exact .inr (.inl ⟨h, inside, same⟩)
  · refine .inl (.module ?_)
    rwa [if_neg inside]

/-- What the language has is never private. -/
theorem accounts_of_language (h : name ∈ languageNames) : s.Accounts c name :=
  accounts_of_has (.language h)

/-- The names of receivers are not private. -/
theorem mangle_of_receiver (className : String) (h : name ∈ receiverNames) :
    mangle className name = name := by
  have kept : ∀ name ∈ receiverNames, isPrivateName name = false := by decide
  rw [mangle_eq_self, kept name h]
  exact fun h => nomatch h.1

end Accounts

end Passage

/-! ### What the module of a class has -/

theorem ite_isEmpty_of_mem {α β : Type} {xs : List α} {x : α} (hx : x ∈ xs) (ys : List β) :
    (if xs.isEmpty then [] else ys) = ys := by
  have given : xs.isEmpty = false := List.isEmpty_eq_false_iff.mpr (List.ne_nil_of_mem hx)
  rw [given]
  rfl

section Module

variable {runtimeModule : String} {p : ClassPlan} {code : ClassCode}
  (hcode : classCode runtimeModule p = .ok code)
include hcode

theorem parts_of_classCode : ∃ blocks, code = {
    blocks
    name := p.name
    parent := p.parent
    standard := standardImports p
    project := projectImports runtimeModule p
    proxies := if hasTable p then p.virtuals else []
    table := if hasTable p then some p.dispatch else none } := by
  obtain ⟨blocks, _, h⟩ := bind_eq_ok.mp hcode
  exact ⟨blocks, (Except.ok.inj h).symm⟩

theorem has_project {i : Import} {name : String} (hi : i ∈ projectImports runtimeModule p)
    (h : name ∈ i.names) : code.Has name := by
  obtain ⟨blocks, rfl⟩ := parts_of_classCode hcode
  exact .imported (List.mem_append_right _ hi) h

theorem has_self : code.Has p.name.display := by
  obtain ⟨blocks, rfl⟩ := parts_of_classCode hcode
  exact .self rfl

theorem has_parent {parent : Name} (h : p.parent = some parent) : code.Has parent.display := by
  refine has_project hcode (i := .symbols ("." ++ parent.display) [parent.display]) ?_
    (List.mem_singleton_self _)
  refine List.mem_append_right _ ?_
  rw [h]
  exact List.mem_singleton_self _

theorem has_runtime {name : String}
    (h : name ∈ classRuntimeBase p ∨ ⟨.runtime, name⟩ ∈ p.requires) : code.Has name := by
  refine has_project hcode ?_ (i := .symbols runtimeModule _) (mem_runtimeSymbols.mpr h)
  exact List.mem_append_left _ (List.mem_append_left _
    (List.mem_append_right _ (List.mem_singleton_self _)))

theorem has_core {name : String} (h : ⟨.core, name⟩ ∈ p.requires) : code.Has name := by
  have required := mem_symbolsFrom.mpr h
  refine has_project hcode ?_ (i := .symbols "..core_defs" _) required
  refine List.mem_append_left _ (List.mem_append_right _ ?_)
  rw [ite_isEmpty_of_mem required]
  exact List.mem_singleton_self _

theorem has_slot {name : String} (h : name ∈ slotSymbols p) : code.Has name := by
  refine has_project hcode ?_ (i := .symbols slotModule _) h
  refine List.mem_append_left _ (List.mem_append_left _ (List.mem_append_left _ ?_))
  rw [ite_isEmpty_of_mem h]
  exact List.mem_singleton_self _

theorem has_ctypes {x : Member} (hx : x ∈ p.members) : code.Has "ctypes" := by
  obtain ⟨blocks, rfl⟩ := parts_of_classCode hcode
  refine .imported (i := .whole "ctypes") (List.mem_append_left _ ?_) (List.mem_singleton_self _)
  refine List.mem_append_left _ (List.mem_append_left _ ?_)
  rw [ite_isEmpty_of_mem hx]
  exact List.mem_singleton_self _

theorem has_enumBase {e : EnumDef} (he : e ∈ p.cls.enums) {decl : EnumDecl}
    (h : classEnum e = .ok decl) : code.Has decl.base := by
  obtain ⟨blocks, rfl⟩ := parts_of_classCode hcode
  refine .imported (i := .symbols "enum" ["IntEnum", "IntFlag"]) (List.mem_append_left _ ?_) ?_
  · refine List.mem_append_left _ (List.mem_append_right _ ?_)
    rw [ite_isEmpty_of_mem he]
    exact List.mem_singleton_self _
  · obtain ⟨host, _, h⟩ := bind_eq_ok.mp h
    obtain ⟨values, _, h⟩ := bind_eq_ok.mp h
    rw [← pure_eq_ok.mp h]
    dsimp only
    split <;> decide

theorem has_proxy {t : Trampoline} (table : hasTable p = true) (ht : t ∈ p.virtuals) :
    code.Has t.proxyName := by
  obtain ⟨blocks, rfl⟩ := parts_of_classCode hcode
  refine .proxy (t := t) ?_ rfl
  rwa [if_pos table]

theorem has_table (table : hasTable p = true) : code.Has p.dispatch.tableName := by
  obtain ⟨blocks, rfl⟩ := parts_of_classCode hcode
  exact .table (if_pos table) rfl

end Module

/-! ### The slot interface -/

section Slots

variable {p : ClassPlan} {t : Trampoline}

theorem lazyBinding_mem {b : MethodBinding} (hb : b ∈ p.bindings) : "LazyBinding" ∈ slotSymbols p := by
  refine mem_sortDistinct.mpr (List.mem_append_left _ ?_)
  rw [ite_isEmpty_of_mem hb]
  exact List.mem_singleton_self _

theorem slotAddresses_mem (ht : t ∈ p.virtuals) (hargs : t.args ≠ []) :
    "slot_addresses" ∈ slotSymbols p := by
  refine mem_sortDistinct.mpr (List.mem_append_right _ (List.mem_flatMap.mpr ⟨t, ht, ?_⟩))
  refine List.mem_append_left _ ?_
  rw [if_neg (by simpa using hargs)]
  exact List.mem_singleton_self _

/-- A proxy's text contains what its body reads, so that looking for a symbol in it finds it. -/
theorem contains_of_reads {name : String} (h : name ∈ readsOf t.proxyBody) :
    contains (join "\n" t.proxyLines) name = true := by
  obtain ⟨line, hline, hname⟩ := exists_line_of_reads h
  have shifted : "    " ++ line ∈ t.proxyLines :=
    List.mem_cons_of_mem _ (List.mem_map.mpr ⟨line, hline, rfl⟩)
  have within : line.toList <:+: ("    " ++ line).toList := ⟨"    ".toList, [], by simp⟩
  exact occursIn_of_infix ((hname.trans within).trans (infix_join "\n" shifted))

theorem slotSymbol_mem (ht : t ∈ p.virtuals) {name : String}
    (fixed : name ∈ ["SlotBuffer", "POINTER_SIZE"]) (h : name ∈ readsOf t.proxyBody) :
    name ∈ slotSymbols p := by
  refine mem_sortDistinct.mpr (List.mem_append_right _ (List.mem_flatMap.mpr ⟨t, ht, ?_⟩))
  exact List.mem_append_right _ (List.mem_filter.mpr ⟨fixed, contains_of_reads h⟩)

end Slots

/-! ### Nothing else is there -/

/-- The names that modules of classes import whatever is required: those of the native types and
the language's own modules, of the slot interface and of the runtime. -/
def fixedImports : List String :=
  ["ctypes", "IntEnum", "IntFlag", "Optional", "LazyBinding", "slot_addresses", "SlotBuffer",
   "POINTER_SIZE", "gi", "Wrapped", "classdb_method_bind", "instance_from_handle"]

theorem fixed_of_slotSymbols {p : ClassPlan} : slotSymbols p ⊆ fixedImports := by
  intro name h
  rcases List.mem_append.mp (mem_sortDistinct.mp h) with h | h
  · split at h
    · cases h
    · rw [List.mem_singleton.mp h]
      decide
  · obtain ⟨t, _, h⟩ := List.mem_flatMap.mp h
    rcases List.mem_append.mp h with h | h
    · split at h
      · cases h
      · rw [List.mem_singleton.mp h]
        decide
    · have fixed : ["SlotBuffer", "POINTER_SIZE"] ⊆ fixedImports := by decide
      exact fixed (List.mem_filter.mp h).1

theorem fixed_of_classRuntimeBase {p : ClassPlan} : classRuntimeBase p ⊆ fixedImports := by
  unfold classRuntimeBase
  split <;> split <;> split <;> decide

theorem fixed_of_standardImports {p : ClassPlan} :
    (standardImports p).flatMap Import.names ⊆ fixedImports := by
  unfold standardImports
  split <;> split <;> split <;> decide

/-- What is behind a name at the top of a module, by what the class was planned with. -/
theorem origin_of_has {runtimeModule : String} {p : ClassPlan} {code : ClassCode} {name : String}
    (hcode : classCode runtimeModule p = .ok code) (h : code.Has name) :
    name ∈ languageNames ++ fixedImports ∨ name = p.name.display ∨
      (∃ t ∈ p.virtuals, name = t.proxyName) ∨ name = p.dispatch.tableName ∨
      (∃ q ∈ p.requires, name = q.symbol) ∨ ∃ parent, p.parent = some parent ∧
        name = parent.display := by
  obtain ⟨blocks, rfl⟩ := parts_of_classCode hcode
  cases h with
  | language h => exact .inl (List.mem_append_left _ h)
  | self h => exact .inr (.inl h)
  | @proxy t ht h =>
    dsimp only at ht
    split at ht
    · exact .inr (.inr (.inl ⟨t, ht, h⟩))
    · cases ht
  | table ht h =>
    dsimp only at ht
    split at ht
    · cases ht
      exact .inr (.inr (.inr (.inl h)))
    · cases ht
  | @imported i hi h =>
    rcases List.mem_append.mp hi with hi | hi
    · have fixed := fixed_of_standardImports (List.mem_flatMap.mpr ⟨i, hi, h⟩)
      exact .inl (List.mem_append_right _ fixed)
    · dsimp only [projectImports] at hi
      simp only [List.mem_append, List.mem_ite_nil_left, List.mem_singleton, List.mem_map,
        Option.mem_toList] at hi
      rcases hi with ((⟨_, rfl⟩ | rfl) | ⟨_, rfl⟩) | ⟨parent, hparent, rfl⟩
      · exact .inl (List.mem_append_right _ (fixed_of_slotSymbols h))
      · rcases mem_runtimeSymbols.mp h with base | required
        · exact .inl (List.mem_append_right _ (fixed_of_classRuntimeBase base))
        · exact .inr (.inr (.inr (.inr (.inl ⟨_, required, rfl⟩))))
      · exact .inr (.inr (.inr (.inr (.inl ⟨_, mem_symbolsFrom.mp h, rfl⟩))))
      · obtain ⟨found, hfound, rfl⟩ := Option.map_eq_some_iff.mp hparent
        exact .inr (.inr (.inr (.inr (.inr ⟨found, hfound, List.mem_singleton.mp h⟩))))

/-- Whether a class was planned without anything that its module could have under a name. -/
def lacks (p : ClassPlan) (name : String) : Bool :=
  !(languageNames ++ fixedImports).contains name && p.name.display != name &&
    p.virtuals.all (·.proxyName != name) && p.dispatch.tableName != name &&
    p.requires.all (·.symbol != name) && p.parent.all (·.display != name)

/-- Whether a passage reads a name that is neither its own nor imported in it, nor had by the
module. -/
def Passage.misses (s : Passage) (p : ClassPlan) (name : String) : Bool :=
  s.reads.contains name && !(s.own ++ s.imports).contains name &&
    lacks p (if s.inside then mangle p.name.display name else name)

theorem not_has_of_lacks {runtimeModule : String} {p : ClassPlan} {code : ClassCode} {name : String}
    (hcode : classCode runtimeModule p = .ok code) (h : lacks p name = true) : ¬code.Has name := by
  simp only [lacks, Bool.and_eq_true, Bool.not_eq_true', List.all_eq_true, bne_iff_ne] at h
  obtain ⟨⟨⟨⟨⟨fixed, self⟩, proxies⟩, table⟩, required⟩, parent⟩ := h
  intro has
  rcases origin_of_has hcode has with given | rfl | ⟨t, ht, rfl⟩ | rfl | ⟨q, hq, rfl⟩ |
    ⟨found, hfound, rfl⟩
  · rw [List.contains_iff_mem.mpr given] at fixed
    cases fixed
  · exact self rfl
  · exact proxies t ht rfl
  · exact table rfl
  · exact required q hq rfl
  · rw [hfound] at parent
    simp at parent

theorem not_finds_of_misses {runtimeModule : String} {p : ClassPlan} {code : ClassCode}
    {s : Passage} {name : String} (hcode : classCode runtimeModule p = .ok code)
    (h : s.misses p name = true) : name ∈ s.reads ∧ ¬s.Finds code name := by
  simp only [Passage.misses, Bool.and_eq_true, Bool.not_eq_true', List.contains_iff_mem] at h
  obtain ⟨⟨reads, own⟩, missing⟩ := h
  refine ⟨reads, fun finds => ?_⟩
  have named : code.name = p.name := by
    obtain ⟨blocks, rfl⟩ := parts_of_classCode hcode
    rfl
  cases finds with
  | own h =>
    rw [List.contains_iff_mem.mpr (List.mem_append_left _ h)] at own
    cases own
  | imported h =>
    rw [List.contains_iff_mem.mpr (List.mem_append_right _ h)] at own
    cases own
  | module h =>
    rw [named] at h
    exact not_has_of_lacks hcode missing h

end EngineBindings.Package
