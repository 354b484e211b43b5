import EngineBindings.Package.Render
import EngineBindings.Proofs.Package.ErasedClass

/-! What stands in a single module.

The single module holds the core definitions, the bodies of all classes and the utility functions,
line for line as a package has them, without the imports of classes (`renderSingleFile_eq`). -/
namespace EngineBindings

open Attempt EngineBindings.Code EngineBindings.Text

namespace Package

/-! ### Parts without imports -/

/-- A structure whose methods import no classes. -/
def StructDecl.withoutImports (s : StructDecl) : StructDecl :=
  { s with methods := Package.withoutImports s.methods }

/-- A mixin whose methods import no classes. -/
def MixinDecl.withoutImports (m : MixinDecl) : MixinDecl :=
  { m with methods := Package.withoutImports m.methods }

/-- Core definitions whose methods import no classes. -/
def CoreDefs.withoutImports (c : CoreDefs) : CoreDefs :=
  { c with
    structs := c.structs.map StructDecl.withoutImports
    mixins := c.mixins.map MixinDecl.withoutImports }

/-- A utility function that imports no classes. -/
def UtilityFunction.withoutImports (f : UtilityFunction) : UtilityFunction :=
  { f with body := Package.withoutImports f.body }

/-- Utility functions that import no classes. -/
def Utilities.withoutImports (u : Utilities) : Utilities :=
  { u with functions := u.functions.map UtilityFunction.withoutImports }

section Parts

variable {r : Registry} {flags : Flags} {g : Generation}

/-! ### Core definitions -/

theorem sheds_builtinMethodLines {p : BuiltinPlan}
    (h : ∀ b ∈ p.bindings, b.Planned r .builtin "_method_") :
    builtinMethodLines false p = (builtinMethodLines true p).map withoutImports ∧
      ∀ lines, builtinMethodLines true p = .ok lines → ImportsClasses ".classes." lines := by
  unfold builtinMethodLines
  cases typecode p.name with
  | error e => exact ⟨rfl, fun lines hlines => by cases hlines⟩
  | ok code =>
    have handles : Plain (p.bindings.map fun b => handleLine b.handleName
        (handleKey code b.method.name b.method.hash) "builtin_method_bind") := by
      intro line hline
      obtain ⟨b, hb, rfl⟩ := List.mem_map.mp hline
      refine isInnerImport_handleLine ?_ _ _
      rw [(h b hb).handle]
      exact startsPlainly_append (by decide) _
    have methods : Sheds ".classes." (p.bindings.flatMap (bindingLines ⟨true, ".classes.", []⟩))
        (p.bindings.flatMap (bindingLines ⟨false, ".classes.", []⟩)) :=
      .flatMap fun b hb => sheds_bindingLines [] (by decide) (h b hb)
    have sheds := (((Sheds.of_plain handles).append (.of_plain (show Plain [""] by decide))).append
      methods).dropTrailingEmpty
    refine ⟨congrArg Except.ok sheds.outer.symm, fun lines hlines => ?_⟩
    cases hlines
    exact sheds.imports

/-- A builtin that has bound methods is one that was planned. -/
theorem mem_of_boundBuiltins {entry : Name × BuiltinPlan}
    (h : entry ∈ (boundBuiltins g).entries) : entry.2 ∈ g.builtins := by
  have hvalue := (OrderedMap.mem_ofList h).2
  obtain ⟨e, he, hvalue⟩ := List.mem_map.mp hvalue
  obtain ⟨p, hp, rfl⟩ := List.mem_map.mp he
  rw [← hvalue]
  exact (List.mem_filter.mp hp).1

theorem mem_of_find?_boundBuiltins {name : Name} {p : BuiltinPlan}
    (h : (boundBuiltins g).find? name = some p) : p ∈ g.builtins := by
  obtain ⟨entry, hentry, rfl⟩ := Option.map_eq_some_iff.mp h
  exact mem_of_boundBuiltins (List.mem_of_find?_eq_some hentry)

section Builtins

variable (hg : r.generate flags = .ok g)
include hg

theorem sheds_of_mem {p : BuiltinPlan} (hp : p ∈ g.builtins) :
    builtinMethodLines false p = (builtinMethodLines true p).map withoutImports ∧
      ∀ lines, builtinMethodLines true p = .ok lines → ImportsClasses ".classes." lines :=
  sheds_builtinMethodLines fun _ hb => Registry.planned_of_builtin hg hp hb

theorem structDecl_single (layout : Layout Int) :
    structDecl g.registry (boundBuiltins g) false layout =
      (structDecl g.registry (boundBuiltins g) true layout).map StructDecl.withoutImports := by
  unfold structDecl
  cases g.registry.declarationFields layout.name with
  | error e => rfl
  | ok fields =>
    cases hfind : (boundBuiltins g).find? layout.name with
    | none => rfl
    | some p =>
      show (builtinMethodLines false p >>= _) = _
      rw [(sheds_of_mem hg (mem_of_find?_boundBuiltins hfind)).1]
      show _ = (builtinMethodLines true p >>= _).map _
      cases builtinMethodLines true p <;> rfl

theorem mixinDecl_single {p : BuiltinPlan} (hp : p ∈ g.builtins) :
    mixinDecl false p = (mixinDecl true p).map MixinDecl.withoutImports := by
  unfold mixinDecl
  rw [(sheds_of_mem hg hp).1]
  cases builtinMethodLines true p <;> rfl

/-- Core definitions are the same in a single module, without the imports of classes. -/
theorem coreDefs_single (runtimeModule : String) :
    coreDefs g runtimeModule false =
      (coreDefs g runtimeModule true).map CoreDefs.withoutImports := by
  have structs (layouts : List (Layout Int)) :
      layouts.mapM (structDecl g.registry (boundBuiltins g) false) =
        (layouts.mapM (structDecl g.registry (boundBuiltins g) true)).map
          (List.map StructDecl.withoutImports) := by
    rw [map_mapM]
    exact mapM_congr fun layout _ => structDecl_single hg layout
  have mixins : ((boundBuiltins g).values.filter (!·.builtin.isStruct)).mapM (mixinDecl false) =
      (((boundBuiltins g).values.filter (!·.builtin.isStruct)).mapM (mixinDecl true)).map
        (List.map MixinDecl.withoutImports) := by
    rw [map_mapM]
    refine mapM_congr fun p hp => mixinDecl_single hg ?_
    obtain ⟨entry, hentry, rfl⟩ := List.mem_map.mp (List.mem_filter.mp hp).1
    exact mem_of_boundBuiltins hentry
  unfold coreDefs
  dsimp only
  rw [mixins]
  cases g.registry.structLayouts with
  | error e => rfl
  | ok layouts =>
    simp only [ok_bind, structs]
    cases layouts.mapM (structDecl g.registry (boundBuiltins g) true) with
    | error e => rfl
    | ok structs =>
      cases ((boundBuiltins g).values.filter (!·.builtin.isStruct)).mapM (mixinDecl true) with
      | error e => rfl
      | ok mixins =>
        cases coreEnums g.registry with
        | error e => rfl
        | ok enums =>
          cases (g.registry.builtins.filter fun b => (g.registry.size? b.name).isSome).mapM
            builtinEntries with
          | error e => rfl
          | ok entries => cases Name.sortBy (·.1) g.registry.sizes.entries <;> rfl

theorem importsClasses_coreDefs {runtimeModule : String} {defs : CoreDefs}
    (h : coreDefs g runtimeModule true = .ok defs) :
    (∀ s ∈ defs.structs, ImportsClasses ".classes." s.methods) ∧
      ∀ m ∈ defs.mixins, ImportsClasses ".classes." m.methods := by
  have gathers := gathers_of_coreDefs h
  constructor
  · intro s hs
    obtain ⟨layouts, _, declared⟩ := gathers.structs
    obtain ⟨layout, _, hs⟩ := exists_left declared hs
    obtain ⟨fields, _, hs⟩ := bind_eq_ok.mp hs
    split at hs
    · next p hfind =>
      obtain ⟨methods, hmethods, hs⟩ := bind_eq_ok.mp hs
      cases hs
      exact (sheds_of_mem hg (mem_of_find?_boundBuiltins hfind)).2 methods hmethods
    · cases hs
      exact fun line hline => absurd hline List.not_mem_nil
  · intro m hm
    obtain ⟨p, hp, hm⟩ := exists_left gathers.mixins hm
    obtain ⟨entry, hentry, rfl⟩ := List.mem_map.mp (List.mem_filter.mp hp).1
    obtain ⟨methods, hmethods, hm⟩ := bind_eq_ok.mp hm
    cases hm
    exact (sheds_of_mem hg (mem_of_boundBuiltins hentry)).2 methods hmethods

end Builtins

/-! ### Utility functions -/

section Utility

variable (hg : r.generate flags = .ok g)
include hg

/-- Utility functions are the same in a single module, without the imports of classes. -/
theorem utilities_single (runtimeModule : String) :
    utilities g runtimeModule false = (utilities g runtimeModule true).withoutImports := by
  have functions : g.utilities.map (utilityFunction false) =
      (g.utilities.map (utilityFunction true)).map UtilityFunction.withoutImports := by
    rw [List.map_map]
    refine List.map_congr_left fun b hb => ?_
    have body := withoutImports_body [] (show startsWith ".classes." "." = true by decide)
      b.requires (plain_bodyLines (Registry.planned_of_utility hg hb).1)
    show utilityFunction false b = (utilityFunction true b).withoutImports
    unfold utilityFunction UtilityFunction.withoutImports
    dsimp only
    rw [if_pos rfl, body]
    rfl
  unfold utilities Utilities.withoutImports
  rw [functions]

theorem importsClasses_utilities {runtimeModule : String} {f : UtilityFunction}
    (hf : f ∈ (utilities g runtimeModule true).functions) : ImportsClasses ".classes." f.body := by
  obtain ⟨b, hb, rfl⟩ := List.mem_map.mp hf
  exact importsClasses_body [] (by decide) b.requires
    (plain_bodyLines (Registry.planned_of_utility hg hb).1)

end Utility

end Parts

/-! ### Texts -/

/-- The text of core definitions ends with the bracket of a table. -/
theorem text_coreDefs (defs : CoreDefs) (standalone : Bool) :
    String.ofList (dropEndWhile isBlank (textOf (defs.lines standalone)).toList) =
      join "\n" (defs.lines standalone) := by
  obtain ⟨before, hbefore⟩ : ∃ before, defs.lines standalone = before ++ ["\x7d"] := by
    unfold CoreDefs.lines
    exact ⟨_, (List.append_assoc _ _ _).symm⟩
  have ends : endsPlainly (join "\n" (defs.lines standalone)) = true :=
    endsPlainly_join "\n" (by rw [hbefore, List.getLast?_concat]) (by decide)
  have shown : textOf (defs.lines standalone) = join "\n" (defs.lines standalone) ++ "\n" := by
    rw [textOf_eq, join_append (by simp [hbefore]) (by simp)]
    exact String.append_empty
  rw [shown, String.toList_append, dropEndWhile_append_blanks ends (by simp [isBlank]),
    String.ofList_toList]

/-- A utility function's body ends with its call or its result. -/
theorem endsPlainly_bodyLines {r : Registry} {use : TypeUse} {lead : String} {b : MethodBinding}
    (h : b.Planned r use lead) : ∃ last, b.bodyLines.getLast? = some last ∧
      endsPlainly last = true := by
  unfold MethodBinding.bodyLines MethodBinding.body linesOf
  rw [List.flatMap_append]
  cases hret : b.ret with
  | none =>
    refine ⟨b.call.text, by simp [Stmt.lines], ?_⟩
    unfold MethodBinding.call
    dsimp only
    split <;> exact endsPlainly_append _ (by decide)
  | some ret =>
    obtain ⟨type, _, hplan⟩ := h.ret ret hret
    exact ⟨"return " ++ ret.unwrapped.text, by simp [Stmt.lines],
      endsPlainly_append _ (Registry.endsPlainly_unwrapped hplan)⟩

/-- A utility function starts with the name of its handle, behind two empty lines, and ends with
what its body ends with. -/
theorem edges_functionLines {r : Registry} {use : TypeUse} {b : MethodBinding}
    (h : b.Planned r use "_utility_") :
    (∃ first rest, Utilities.functionLines (utilityFunction false b) = "" :: "" :: first :: rest ∧
      first.toList.head? = some '_') ∧
      ∃ last, (Utilities.functionLines (utilityFunction false b)).getLast? = some last ∧
        endsPlainly last = true := by
  constructor
  · refine ⟨_, _, rfl, head?_append (head?_append (head?_append ?_))⟩
    show b.handleName.toList.head? = some '_'
    rw [h.handle]
    exact head?_append rfl
  · obtain ⟨last, hlast, ends⟩ := endsPlainly_bodyLines h
    refine ⟨indentLines b.bodyLines 4, rfl, ?_⟩
    obtain ⟨before, hbody⟩ := List.getLast?_eq_some_iff.mp hlast
    have shifted : (b.bodyLines.map fun line =>
        if line.isEmpty then "" else spaces 4 ++ line).getLast? = some (spaces 4 ++ last) := by
      have given : last.isEmpty = false := by
        rw [Bool.eq_false_iff]
        intro hempty
        rw [String.isEmpty_iff.mp hempty] at ends
        cases ends
      rw [hbody, List.map_append, List.map_singleton, List.getLast?_concat, given]
      rfl
    exact endsPlainly_join "\n" shifted (endsPlainly_append _ ends)

/-- A text of two empty lines and more is stripped to the lines behind the empty ones. -/
theorem strip_textOf {first last : String} {rest : List String} {c : Char}
    (hblank : isBlank c = false) (hfirst : first.toList.head? = some c)
    (hlast : (first :: rest).getLast? = some last) (ends : endsPlainly last = true) :
    strip (textOf ("" :: "" :: first :: rest)) = join "\n" (first :: rest) := by
  have shown : textOf ("" :: "" :: first :: rest) = "\n\n" ++ join "\n" (first :: rest) ++ "\n" := by
    rw [textOf_eq]
    apply String.toList_inj.mp
    simp [toList_join_cons, String.toList_append]
  have starts : (join "\n" (first :: rest)).toList.head?.any (!isBlank ·) = true := by
    rw [head?_join "\n" hfirst, Option.any_some, hblank]
    rfl
  rw [shown]
  exact strip_append (by simp [isBlank]) (by simp [isBlank]) starts (endsPlainly_join "\n" hlast ends)

/-- Utility functions stand in a single module as their lines; without any, nothing stands there. -/
theorem join_utilities {r : Registry} {flags : Flags} {g : Generation}
    (hg : r.generate flags = .ok g) (runtimeModule : String) (before behind : List String) :
    let u := utilities g runtimeModule false
    let text := strip (textOf (u.lines false))
    join "\n" (before ++ (if text.isEmpty then [] else ["", "", text]) ++ behind) =
      join "\n" (before ++ u.lines false ++ behind) := by
  have planned (b : MethodBinding) (hb : b ∈ g.utilities) :=
    edges_functionLines (Registry.planned_of_utility hg hb).1
  have lines : (utilities g runtimeModule false).lines false =
      g.utilities.flatMap fun b => Utilities.functionLines (utilityFunction false b) := by
    unfold Utilities.lines utilities
    rw [List.flatMap_map]
    rfl
  dsimp only
  rw [lines]
  rcases List.eq_nil_or_concat g.utilities with hnone | ⟨others, final, hfinal⟩
  · rw [hnone]
    rfl
  · obtain ⟨last, hlast, ends⟩ := (planned final (by simp [hfinal])).2
    obtain ⟨b, rest, hb⟩ := List.exists_cons_of_ne_nil (l := g.utilities) (by simp [hfinal])
    obtain ⟨first, tail, hfunction, hunderscore⟩ := (planned b (by simp [hb])).1
    have whole : (g.utilities.flatMap fun b => Utilities.functionLines (utilityFunction false b)) =
        "" :: "" :: first ::
          (tail ++ rest.flatMap fun b => Utilities.functionLines (utilityFunction false b)) := by
      rw [hb, List.flatMap_cons, hfunction]
      rfl
    have ending : (first :: (tail ++ rest.flatMap fun b =>
        Utilities.functionLines (utilityFunction false b))).getLast? = some last := by
      have hwhole := congrArg List.getLast? whole
      rw [hfinal, List.concat_eq_append, List.flatMap_append, List.flatMap_singleton,
        List.getLast?_append, hlast] at hwhole
      simpa using hwhole.symm
    rw [whole, strip_textOf (by decide) hunderscore ending ends]
    have given : (join "\n" (first :: (tail ++ rest.flatMap fun b =>
        Utilities.functionLines (utilityFunction false b)))).isEmpty = false := by
      rw [Bool.eq_false_iff]
      intro hempty
      have := endsPlainly_join "\n" ending ends
      rw [String.isEmpty_iff.mp hempty] at this
      cases this
    rw [given]
    have split (xs : List String) : before ++ "" :: "" :: xs ++ behind =
        (before ++ ["", ""]) ++ xs ++ behind := by simp
    simp only [Bool.false_eq_true, if_false, split]
    exact join_append_join _ (by simp) _

/-! ### The single module -/

/-- The lines of a single module, from its parts. -/
def singleLines (g : Generation) (runtimeModule : String) (core : CoreDefs)
    (classes : List (List String)) (functions : Utilities) : List String :=
  singleFileHead g runtimeModule ++ core.lines false ++
    (classes.flatMap fun body => ["", ""] ++ body) ++ functions.lines false ++ [""]

/-- A single module is the text of its lines. -/
theorem renderSingleFile_eq {r : Registry} {flags : Flags} {g : Generation}
    (hg : r.generate flags = .ok g) (options : RenderOptions) (defs : CoreDefs)
    (core : options.coreTemplate = coreTemplate) (utility : options.utilityTemplate = utilityTemplate) :
    renderSingleFile g options [] defs =
      (((parentFirstPlans g).mapM (classBody · false)).mapError valueFailure).map fun classes =>
        join "\n" (singleLines g options.runtimeModule defs classes
          (utilities g options.runtimeModule false)) := by
  unfold renderSingleFile
  rw [core, utility]
  have coreText : renderTemplate [] coreTemplate (.core defs false) =
      .ok (textOf (defs.lines false)) := rfl
  have utilityText (u : Utilities) : renderTemplate [] utilityTemplate (.utilities u false) =
      .ok (textOf (u.lines false)) := rfl
  rw [coreText, utilityText, ok_bind, mapM_mapError]
  cases (parentFirstPlans g).mapM (classBody · false) with
  | error e => rfl
  | ok classes =>
    refine congrArg Except.ok ?_
    have utilityPart := join_utilities hg options.runtimeModule
    have declares : defs.lines false ≠ [] := by simp [CoreDefs.lines]
    have corePart (behind : List String) :
        join "\n" (singleFileHead g options.runtimeModule ++ [join "\n" (defs.lines false)] ++
          behind) = join "\n" (singleFileHead g options.runtimeModule ++ defs.lines false ++ behind) :=
      join_append_join _ declares behind
    dsimp only at utilityPart ⊢
    rw [utilityPart, text_coreDefs, List.append_assoc, List.append_assoc, corePart]
    simp only [singleLines, List.append_assoc]

end Package

end EngineBindings
