import EngineBindings.Package.ClassModule
import EngineBindings.Package.CoreDefs
import EngineBindings.Proofs.Attempt
import EngineBindings.Proofs.Text.Segment

/-! Lines that import nothing from the package that they stand in.

An import that is carried out when its module is imported stands at the beginning of a line; those
inside functions are shifted right. What is emitted for classes, core definitions and utility
functions behind the head of a module is quiet in this sense: each line starts with a blank or with
a word of its own. -/
namespace EngineBindings.Package

open Attempt EngineBindings.Code EngineBindings.Text

/-! ### What core definitions are gathered from

Every declaration of the core definitions stands beside what it was made from; nothing later opens
`coreDefs` again. -/

/-- The sources of a gathered module of core definitions. -/
structure Gathers (g : Generation) (runtimeModule : String) (inPackage : Bool) (defs : CoreDefs) :
    Prop where
  header : defs.header = headerComment g.registry
  runtimeModule : defs.runtimeModule = runtimeModule
  runtimeImports : defs.runtimeImports = runtimeSymbols
    (["variant_constructor", "variant_operator_evaluator"] ++
      if (boundBuiltins g).entries.isEmpty then [] else ["gi", "builtin_method_bind"])
    (((boundBuiltins g).values.flatMap (·.bindings)).flatMap (·.requires))
  enums : coreEnums g.registry = .ok defs.enums
  structs : ∃ layouts, g.registry.structLayouts = .ok layouts ∧
    List.Forall₂ (fun layout s => structDecl g.registry (boundBuiltins g) inPackage layout = .ok s)
      layouts defs.structs
  mixins : List.Forall₂ (fun p m => mixinDecl inPackage p = .ok m)
    ((boundBuiltins g).values.filter (!·.builtin.isStruct)) defs.mixins

theorem gathers_of_coreDefs {g : Generation} {runtimeModule : String} {inPackage : Bool}
    {defs : CoreDefs} (h : coreDefs g runtimeModule inPackage = .ok defs) :
    Gathers g runtimeModule inPackage defs := by
  unfold coreDefs at h
  simp only [bind_eq_ok, mapError_eq_ok, pure_eq_ok] at h
  obtain ⟨layouts, hlayouts, structs, hstructs, mixins, hmixins, enums, henums, entries, _, sizes,
    _, rfl⟩ := h
  constructor
  case header => rfl
  case runtimeModule => rfl
  case runtimeImports => rfl
  case enums => exact henums
  case structs => exact ⟨layouts, hlayouts, mapM_eq_ok.mp hstructs⟩
  case mixins => exact mapM_eq_ok.mp hmixins

/-- A line that imports from the package that it stands in. -/
def isRelative (line : String) : Bool :=
  startsWith line "from ."

/-- Lines none of which imports from the package that they stand in. -/
def Quiet (lines : List String) : Prop :=
  ∀ line ∈ lines, isRelative line = false

instance (lines : List String) : Decidable (Quiet lines) :=
  inferInstanceAs (Decidable (∀ line ∈ lines, isRelative line = false))

@[simp] theorem quiet_nil : Quiet [] :=
  List.forall_mem_nil _

@[simp] theorem quiet_cons {line : String} {lines : List String} :
    Quiet (line :: lines) ↔ isRelative line = false ∧ Quiet lines :=
  List.forall_mem_cons

@[simp] theorem quiet_append {first second : List String} :
    Quiet (first ++ second) ↔ Quiet first ∧ Quiet second :=
  List.forall_mem_append

theorem quiet_map {α : Type} {xs : List α} {line : α → String}
    (h : ∀ x ∈ xs, isRelative (line x) = false) : Quiet (xs.map line) :=
  List.forall_mem_map.mpr h

theorem quiet_flatMap {α : Type} {xs : List α} {lines : α → List String}
    (h : ∀ x ∈ xs, Quiet (lines x)) : Quiet (xs.flatMap lines) := by
  intro line hline
  obtain ⟨x, hx, hline⟩ := List.mem_flatMap.mp hline
  exact h x hx line hline

theorem Quiet.sublist {lines kept : List String} (h : Quiet lines) (hk : kept.Sublist lines) :
    Quiet kept :=
  fun line hline => h line (hk.mem hline)

theorem quiet_dropTrailingEmpty {lines : List String} (h : Quiet lines) :
    Quiet (dropTrailingEmpty lines) := by
  apply h.sublist
  rw [dropTrailingEmpty, ← List.sublist_reverse_iff]
  exact List.dropWhile_sublist _

/-- A line that starts with another character, or none, imports nothing. -/
theorem isRelative_of_head_ne {line : String} (h : line.toList.head? ≠ some 'f') :
    isRelative line = false := by
  cases hline : line.toList with
  | nil => simp [isRelative, startsWith, dropPrefix?, hline]
  | cons c rest =>
    have hc : 'f' ≠ c := by
      rintro rfl
      exact h (by rw [hline, List.head?_cons])
    simp [isRelative, startsWith, dropPrefix?, hline, hc]

theorem isRelative_of_head {line : String} {c : Char} (hc : c ≠ 'f')
    (h : line.toList.head? = some c) : isRelative line = false := by
  apply isRelative_of_head_ne
  rw [h]
  exact fun heq => hc (Option.some.inj heq)

theorem head?_append {first second : String} {c : Char} (h : first.toList.head? = some c) :
    (first ++ second).toList.head? = some c := by
  rw [String.toList_append, List.head?_append, h, Option.some_or]

theorem quiet_indent (width : Nat) (lines : List String) : Quiet (indent (width + 1) lines) := by
  apply quiet_map
  intro line _
  exact isRelative_of_head (c := ' ') (by decide) (by simp [spaces, List.replicate_succ])

/-- An import is relative where its module starts with a dot. -/
theorem isRelative_importLine (module : String) (symbols : List String) :
    isRelative (importLine module symbols) = startsWith module "." := by
  cases hmodule : module.toList with
  | nil => simp [isRelative, importLine, startsWith, dropPrefix?, hmodule]
  | cons c rest =>
    simp only [isRelative, importLine, startsWith, String.toList_append, hmodule]
    simp [dropPrefix?]
    split <;> rfl

/-! ### Members -/

theorem quiet_functionLines (name parameters result : String) (body : List String) :
    Quiet (functionLines name parameters result body) := by
  rw [functionLines, quiet_cons]
  exact ⟨isRelative_of_head (c := ' ') (by decide) (by simp), quiet_indent 7 body⟩

theorem quiet_bindingLines (site : Site) (b : MethodBinding) : Quiet (bindingLines site b) := by
  rw [bindingLines, quiet_append, quiet_append]
  refine ⟨⟨?_, quiet_functionLines _ _ _ _⟩, by decide⟩
  split
  · decide
  · exact quiet_nil

theorem quiet_virtualLines (site : Site) (t : Trampoline) : Quiet (virtualLines site t) := by
  rw [virtualLines, quiet_append]
  exact ⟨quiet_functionLines _ _ _ _, by decide⟩

theorem quiet_memberLines (site : Site) (x : Member) : Quiet (memberLines site x) := by
  cases x with
  | bound b => exact quiet_bindingLines site b
  | overridable t => exact quiet_virtualLines site t

theorem quiet_propertyLines (site : Site) (a : PropertyAccessor) :
    Quiet (propertyLines site a) := by
  have getter : Quiet ["    @property"] := by decide
  have setter : Quiet ["    @" ++ a.exposedName ++ ".setter"] := by
    rw [quiet_cons]
    exact ⟨isRelative_of_head (c := ' ') (by decide) (by simp), quiet_nil⟩
  have blank : Quiet [""] := by decide
  have accessor (parameters result : String) (body : List String) :=
    quiet_functionLines a.exposedName parameters result body
  simp only [quiet_cons, quiet_nil, and_true] at getter setter blank
  simp [propertyLines, getter, setter, blank, accessor]

/-! ### Class statements -/

theorem quiet_enumLines (e : EnumDecl) : Quiet e.lines := by
  unfold EnumDecl.lines
  rw [quiet_append, quiet_cons]
  refine ⟨⟨isRelative_of_head (c := 'c') (by decide) (by simp), ?_⟩, quiet_map fun v _ => ?_⟩
  · split <;> decide
  · exact isRelative_of_head (c := ' ') (by decide) (by simp)

theorem quiet_handleLine (name key resolver : String) :
    isRelative (handleLine name key resolver) = false :=
  isRelative_of_head (c := ' ') (by decide) (by simp [handleLine])

theorem quiet_classHead {p : ClassPlan} {base : String} {lines : List String}
    (h : classHead p base = .ok lines) : Quiet lines := by
  obtain ⟨enums, henums, h⟩ := bind_eq_ok.mp h
  obtain ⟨constants, hconstants, h⟩ := bind_eq_ok.mp h
  cases h
  have enumerations : Quiet enums.flatten := by
    rw [← List.flatMap_id]
    apply quiet_flatMap
    intro block hblock
    obtain ⟨e, _, he⟩ := exists_left (mapM_eq_ok.mp henums) hblock
    obtain ⟨host, _, he⟩ := bind_eq_ok.mp he
    obtain ⟨decl, _, he⟩ := bind_eq_ok.mp he
    cases he
    exact quiet_append.mpr ⟨quiet_indent 3 _, by decide⟩
  have values : Quiet constants := by
    intro line hline
    obtain ⟨c, _, hc⟩ := exists_left (mapM_eq_ok.mp hconstants) hline
    obtain ⟨name, _, hc⟩ := bind_eq_ok.mp hc
    cases hc
    exact isRelative_of_head (c := ' ') (by decide) (by simp)
  have handles : Quiet (p.bindings.map fun b =>
      handleLine b.handleName (handleKey b.owner b.method.name b.method.hash)
        "classdb_method_bind") :=
    quiet_map fun b _ => quiet_handleLine _ _ _
  have blank : Quiet [""] := by decide
  refine quiet_append.mpr ⟨quiet_append.mpr ⟨quiet_append.mpr ⟨?_, enumerations⟩, ?_⟩, ?_⟩
  · have name : isRelative ("    class_name = " ++ p.name.literal) = false :=
      isRelative_of_head (c := ' ') (by decide) (by simp)
    have head : isRelative ("class " ++ p.name.display ++ "(" ++ base ++ "):") = false :=
      isRelative_of_head (c := 'c') (by decide) (by simp)
    have doc : isRelative ("    \"\"\"Engine class " ++ p.name.display ++ ".\"\"\"") = false :=
      isRelative_of_head (c := ' ') (by decide) (by simp)
    simpa [name, head, doc] using blank
  · split
    · exact quiet_nil
    · exact quiet_append.mpr ⟨values, blank⟩
  · split
    · exact quiet_nil
    · exact quiet_append.mpr ⟨handles, blank⟩

theorem quiet_dispatcherLines (t : DispatchTable) : Quiet (dispatcherLines t) := by
  have table : isRelative ("        proxy = " ++ t.tableName ++ ".get(str(name))") = false :=
    isRelative_of_head (c := ' ') (by decide) (by simp)
  have before : Quiet ["    @classmethod", "    def get_virtual_dispatcher(cls, name):"] := by
    decide
  have behind : Quiet ["        if proxy is not None:", "            return proxy",
      "        return super().get_virtual_dispatcher(name)", ""] := by
    decide
  exact quiet_append.mpr ⟨before, quiet_cons.mpr ⟨table, behind⟩⟩

theorem quiet_proxyLines (site : Site) (t : Trampoline) : Quiet (proxyLines site t) := by
  have head : isRelative t.proxyHead = false :=
    isRelative_of_head (c := 'd') (by decide) (by simp [Trampoline.proxyHead])
  have body : Quiet t.proxyLines.tail := by
    apply quiet_map
    intro line _
    exact isRelative_of_head (c := ' ') (by decide) (by simp)
  have blank : Quiet [""] := by decide
  simp only [quiet_cons, quiet_nil, and_true] at blank
  simp [proxyLines, head, body, blank, quiet_indent 3]

theorem quiet_tableLines (t : DispatchTable) : Quiet (tableLines t) := by
  have head : isRelative (t.tableName ++ " = \x7b") = false :=
    isRelative_of_head (c := '_') (by decide) (by simp [DispatchTable.tableName])
  have entries : Quiet (t.entries.entries.map fun entry =>
      "    " ++ entry.1.literal ++ ": " ++ entry.2.proxyName ++ ",") := by
    apply quiet_map
    intro entry _
    exact isRelative_of_head (c := ' ') (by decide) (by simp)
  have rest : Quiet ["", "\x7d"] := by decide
  simp only [quiet_cons, quiet_nil, and_true] at rest
  simp [tableLines, head, entries, rest]

/-- A class's statement, its proxies and its dispatch table import nothing by themselves. -/
theorem quiet_classBody {p : ClassPlan} {inPackage : Bool} {lines : List String}
    (h : classBody p inPackage = .ok lines) : Quiet lines := by
  obtain ⟨statement, hstatement, h⟩ := bind_eq_ok.mp h
  obtain ⟨head, hhead, hstatement⟩ := bind_eq_ok.mp hstatement
  cases hstatement
  cases h
  have properties (site : Site) : Quiet (p.properties.flatMap (propertyLines site)) :=
    quiet_flatMap fun a _ => quiet_propertyLines site a
  have members (site : Site) : Quiet (p.members.flatMap (memberLines site)) :=
    quiet_flatMap fun x _ => quiet_memberLines site x
  have proxies (site : Site) : Quiet (p.virtuals.flatMap (proxyLines site)) :=
    quiet_flatMap fun t _ => quiet_proxyLines site t
  rw [quiet_append]
  constructor
  · apply quiet_dropTrailingEmpty
    simp only [quiet_append, quiet_classHead hhead, properties, members, true_and]
    split
    · exact quiet_dispatcherLines _
    · exact quiet_nil
  · split
    · exact quiet_append.mpr ⟨proxies _, quiet_tableLines _⟩
    · exact quiet_nil

/-! ### Core definitions -/

theorem head?_headerComment (r : Registry) : (headerComment r).toList.head? = some '#' :=
  head?_append (head?_append (head?_append (head?_append rfl)))

theorem isRelative_headerComment (r : Registry) : isRelative (headerComment r) = false :=
  isRelative_of_head (by decide) (head?_headerComment r)

theorem quiet_builtinMethodLines {inPackage : Bool} {p : BuiltinPlan} {lines : List String}
    (h : builtinMethodLines inPackage p = .ok lines) : Quiet lines := by
  obtain ⟨code, _, h⟩ := bind_eq_ok.mp h
  cases h
  apply quiet_dropTrailingEmpty
  rw [quiet_append, quiet_append]
  exact ⟨⟨quiet_map fun b _ => quiet_handleLine _ _ _, by decide⟩,
    quiet_flatMap fun b _ => quiet_bindingLines _ b⟩

theorem quiet_methods_of_structDecl {r : Registry} {bound : OrderedMap Name BuiltinPlan}
    {inPackage : Bool} {layout : Layout Int} {s : StructDecl}
    (h : structDecl r bound inPackage layout = .ok s) : Quiet s.methods := by
  obtain ⟨fields, _, h⟩ := bind_eq_ok.mp h
  split at h
  · obtain ⟨methods, hmethods, h⟩ := bind_eq_ok.mp h
    cases h
    exact quiet_builtinMethodLines hmethods
  · cases h
    exact quiet_nil

theorem quiet_structLines {s : StructDecl} (h : Quiet s.methods) :
    Quiet (CoreDefs.structLines s) := by
  have head : isRelative ("class " ++ s.host.display ++ "(ctypes.Structure):") = false :=
    isRelative_of_head (c := 'c') (by decide) (by simp)
  have fields : Quiet (s.fields.map fun f =>
      "        (" ++ f.1.literal ++ ", " ++ f.2.display ++ "),") := by
    apply quiet_map
    intro f _
    exact isRelative_of_head (c := ' ') (by decide) (by simp)
  have rest : Quiet ["", "    _fields_ = [", "    ]"] := by decide
  simp only [quiet_cons, quiet_nil, and_true] at rest
  obtain ⟨blank, opening, closing⟩ := rest
  rw [CoreDefs.structLines, quiet_append]
  refine ⟨by simp [head, fields, blank, opening, closing], ?_⟩
  split
  · exact quiet_nil
  · exact quiet_cons.mpr ⟨blank, h⟩

theorem quiet_mixinLines {m : MixinDecl} (h : Quiet m.methods) :
    Quiet (CoreDefs.mixinLines m) := by
  have head : isRelative ("class " ++ m.host.display ++ ":") = false :=
    isRelative_of_head (c := 'c') (by decide) (by simp)
  have doc : isRelative ("    \"\"\"Bound methods of " ++ m.name.display ++
      ", mixed into its runtime wrapper.\"\"\"") = false :=
    isRelative_of_head (c := ' ') (by decide) (head?_append (head?_append rfl))
  have blank : isRelative "" = false := by decide
  simp [CoreDefs.mixinLines, head, doc, blank, h]

theorem quiet_table {name : String} {entries : List String} {c : Char} (hc : c ≠ 'f')
    (hname : name.toList.head? = some c) (h : Quiet entries) :
    Quiet (CoreDefs.table name entries) := by
  have head : isRelative (name ++ " = \x7b") = false :=
    isRelative_of_head hc (by simp [hname])
  have closing : isRelative "\x7d" = false := by decide
  simp [CoreDefs.table, head, closing, h]

theorem quiet_operatorLines (entry : OperatorEntry) : Quiet (CoreDefs.operatorLines entry) := by
  have closing : isRelative "    )," = false := by decide
  simp only [CoreDefs.operatorLines, quiet_cons, closing, quiet_nil, and_true]
  constructor
  · exact isRelative_of_head (c := ' ') (by decide) (by simp)
  · exact isRelative_of_head (c := ' ') (by decide) (by simp)

theorem quiet_coreHead {defs : CoreDefs} (header : isRelative defs.header = false)
    (module : startsWith defs.runtimeModule "." = false) : Quiet defs.headLines := by
  have runtime : isRelative (importLine defs.runtimeModule defs.runtimeImports) = false := by
    rw [isRelative_importLine, module]
  have slots : isRelative (importLine slotModule ["LazyBinding"]) = false := by
    rw [isRelative_importLine]
    decide
  have optional : Quiet (if defs.usesOptional then ["from typing import Optional"] else []) := by
    split
    · decide
    · exact quiet_nil
  have blank : isRelative "" = false := by decide
  rw [CoreDefs.headLines, quiet_append, quiet_append]
  refine ⟨⟨quiet_cons.mpr ⟨header, by decide⟩, optional⟩, ?_⟩
  simp [slots, runtime, blank]

/-- The core definitions import nothing from the package. -/
theorem quiet_coreDefs {g : Generation} {runtimeModule : String} {inPackage : Bool}
    {defs : CoreDefs} (hmodule : startsWith runtimeModule "." = false)
    (h : coreDefs g runtimeModule inPackage = .ok defs) : Quiet (defs.lines true) := by
  have gathers := gathers_of_coreDefs h
  have head : Quiet defs.headLines := by
    apply quiet_coreHead
    · rw [gathers.header]
      exact isRelative_headerComment _
    · rw [gathers.runtimeModule]
      exact hmodule
  have configuration : isRelative ("BUILD_CONFIGURATION = " ++ quoted defs.configuration) = false :=
    isRelative_of_head (c := 'B') (by decide) (head?_append rfl)
  have blank : isRelative "" = false := by decide
  have sizes : Quiet (CoreDefs.table "BUILTIN_SIZES"
      (defs.sizes.map fun s => "    " ++ s.1.literal ++ ": " ++ Number.decimal s.2 ++ ",")) := by
    apply quiet_table (c := 'B') (by decide) rfl
    apply quiet_map
    intro s _
    exact isRelative_of_head (c := ' ') (by decide) (by simp)
  have enums : Quiet (defs.enums.flatMap fun e => "" :: "" :: e.lines) := by
    apply quiet_flatMap
    intro e _
    simp [blank, quiet_enumLines e]
  have structs : Quiet (defs.structs.flatMap CoreDefs.structLines) := by
    obtain ⟨layouts, _, declared⟩ := gathers.structs
    apply quiet_flatMap
    intro s hs
    obtain ⟨layout, _, hlayout⟩ := exists_left declared hs
    exact quiet_structLines (quiet_methods_of_structDecl hlayout)
  have mixins : Quiet (defs.mixins.flatMap CoreDefs.mixinLines) := by
    apply quiet_flatMap
    intro m hm
    obtain ⟨p, _, hp⟩ := exists_left gathers.mixins hm
    obtain ⟨methods, hmethods, hp⟩ := bind_eq_ok.mp hp
    cases hp
    exact quiet_mixinLines (quiet_builtinMethodLines hmethods)
  have constructors : Quiet (CoreDefs.table "CONSTRUCTORS"
      (defs.constructors.map CoreDefs.constructorLine)) := by
    apply quiet_table (c := 'C') (by decide) rfl
    apply quiet_map
    intro entry _
    exact isRelative_of_head (c := ' ') (by decide) (by simp [CoreDefs.constructorLine])
  have operators : Quiet (CoreDefs.table "OPERATORS"
      (defs.operators.flatMap CoreDefs.operatorLines)) := by
    apply quiet_table (c := 'O') (by decide) rfl
    exact quiet_flatMap fun entry _ => quiet_operatorLines entry
  have natives : Quiet (CoreDefs.table "NATIVE_STRUCTURES"
      (defs.natives.map fun n => "    " ++ n.name.literal ++ ": " ++ n.format.literal ++ ",")) := by
    apply quiet_table (c := 'N') (by decide) rfl
    apply quiet_map
    intro n _
    exact isRelative_of_head (c := ' ') (by decide) (by simp)
  simp [CoreDefs.lines, head, configuration, blank, sizes, enums, structs, mixins, constructors,
    operators, natives]

/-! ### Utility functions -/

/-- Shifted lines start with a blank, a line end or nothing. -/
theorem isRelative_indentLines (lines : List String) :
    isRelative (indentLines lines 4) = false := by
  apply isRelative_of_head_ne
  cases lines with
  | nil => decide
  | cons line rest =>
    rw [indentLines, List.map_cons, toList_join_cons]
    split
    · cases rest with
      | nil => simp
      | cons next rest => simp
    · simp [spaces, List.replicate_succ]

theorem quiet_utilityLines {f : UtilityFunction} {c : Char} (hc : c ≠ 'f')
    (h : f.handleName.toList.head? = some c) : Quiet (Utilities.functionLines f) := by
  have handle : isRelative (f.handleName ++ " = LazyBinding(" ++ f.key ++
      ", utility_function_bind)") = false :=
    isRelative_of_head hc (head?_append (head?_append (head?_append h)))
  have head : isRelative ("def " ++ f.name ++ "(" ++ f.parameters ++ ") -> " ++ f.result ++ ":") =
      false :=
    isRelative_of_head (c := 'd') (by decide) (by simp)
  have blank : isRelative "" = false := by decide
  simp [Utilities.functionLines, handle, head, blank, isRelative_indentLines]

end EngineBindings.Package
