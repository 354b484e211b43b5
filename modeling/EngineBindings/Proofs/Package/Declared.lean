import EngineBindings.Proofs.Layout.Placed
import EngineBindings.Proofs.Name
import EngineBindings.Proofs.Package.LocalImports

/-! Names that are imported from the core definitions.

Code refers to a shared enumeration by the host name of the reference, and the core definitions
declare it under the host name of the declaration; a structure's name is made the same way on both
sides, and each that has a size is laid out (`exists_structLayout`). So whatever a generation
requires of the core definitions is declared there (`declares_of_requires`). -/
namespace EngineBindings

open Attempt

namespace Registry

/-- A name that a global enumeration or one of a builtin goes by. -/
def NamesShared (r : Registry) (name : String) : Prop :=
  (∃ e ∈ r.globalEnums, e.name.text? = some name) ∨
    ∃ b ∈ r.builtins, ∃ e ∈ b.enums, e.ownedName b.name = name

instance (r : Registry) (name : String) : Decidable (r.NamesShared name) :=
  inferInstanceAs (Decidable (_ ∨ _))

/-- Every builtin with members has a declared size. -/
def StructsSized (r : Registry) : Prop :=
  ∀ b ∈ r.builtins, b.isStruct = true → (r.size? b.name).isSome

instance (r : Registry) : Decidable r.StructsSized :=
  inferInstanceAs (Decidable (∀ b ∈ r.builtins, _))

/-- Every enumeration in a signature that is of no class is global or of a builtin. -/
def EnumsKnown (r : Registry) : Prop :=
  ∀ m ∈ r.callables, ∀ type ∈ m.types, ∀ name ∈ type.leaf.enumeration?,
    r.enumOwner? name = none → r.NamesShared name

instance (r : Registry) : Decidable r.EnumsKnown :=
  inferInstanceAs (Decidable (∀ m ∈ r.callables, _))

end Registry

namespace Package

/-- A name that core definitions declare: the host of an enumeration or of a structure. -/
def CoreDefs.Declares (defs : CoreDefs) (symbol : String) : Prop :=
  (∃ e ∈ defs.enums, e.host = symbol) ∨ ∃ s ∈ defs.structs, s.host = (symbol : Name)

/-- What is declared has a class statement. -/
theorem line_of_declares {defs : CoreDefs} {symbol : String} (h : defs.Declares symbol)
    (standalone : Bool) :
    ∃ base, "class " ++ symbol ++ "(" ++ base ++ "):" ∈ defs.lines standalone := by
  simp only [CoreDefs.lines, List.mem_append]
  rcases h with ⟨e, he, rfl⟩ | ⟨s, hs, hhost⟩
  · have block : "class " ++ e.host ++ "(" ++ e.base ++ "):" ∈
        defs.enums.flatMap fun e => "" :: "" :: e.lines := by
      apply List.mem_flatMap.mpr
      exact ⟨e, he, by simp [EnumDecl.lines]⟩
    exact ⟨e.base, by simp [block]⟩
  · have spelled : "class " ++ symbol ++ "(" ++ "ctypes.Structure" ++ "):" =
        "class " ++ s.host.display ++ "(ctypes.Structure):" := by
      rw [hhost, ← String.toList_inj]
      simp [Name.display, Json.display]
    have block : "class " ++ symbol ++ "(" ++ "ctypes.Structure" ++ "):" ∈
        defs.structs.flatMap CoreDefs.structLines := by
      apply List.mem_flatMap.mpr
      exact ⟨s, hs, by rw [spelled]; simp [CoreDefs.structLines]⟩
    exact ⟨"ctypes.Structure", by simp [block]⟩

/-! ### References and declarations meet -/

section Meeting

variable {g : Generation} {runtimeModule : String} {inPackage : Bool} {defs : CoreDefs}

theorem host_of_enumDecl {e : EnumDef} {host : String} {decl : EnumDecl}
    (h : enumDecl e host = .ok decl) : decl.host = host := by
  obtain ⟨values, _, h⟩ := bind_eq_ok.mp h
  cases h
  rfl

/-- A global enumeration that is called by a text has a declaration. -/
theorem exists_decl_of_global (h : Gathers g runtimeModule inPackage defs) {e : EnumDef}
    {name : String} (he : e ∈ g.registry.globalEnums) (htext : e.name.text? = some name) :
    ∃ decl ∈ defs.enums, enumDecl e (g.registry.enumHostName name) = .ok decl := by
  obtain ⟨globals, hglobals, gathered⟩ := bind_eq_ok.mp h.enums
  obtain ⟨owned, _, gathered⟩ := bind_eq_ok.mp gathered
  obtain ⟨decl, hdecl, hmade⟩ := exists_right (mapM_eq_ok.mp hglobals) he
  rw [globalEnumDecl, htext] at hmade
  rw [← pure_eq_ok.mp gathered]
  exact ⟨decl, List.mem_append_left _ hdecl, hmade⟩

/-- Every enumeration of a builtin has a declaration. -/
theorem exists_decl_of_builtin (h : Gathers g runtimeModule inPackage defs) {b : BuiltinDef}
    {e : EnumDef} (hb : b ∈ g.registry.builtins) (he : e ∈ b.enums) :
    ∃ decl ∈ defs.enums,
      enumDecl e (g.registry.enumHostName (e.ownedName b.name)) = .ok decl := by
  obtain ⟨globals, _, gathered⟩ := bind_eq_ok.mp h.enums
  obtain ⟨owned, howned, gathered⟩ := bind_eq_ok.mp gathered
  obtain ⟨decls, hdecls, hmade⟩ := exists_right (mapM_eq_ok.mp howned) hb
  obtain ⟨decl, hdecl, hmade⟩ := exists_right (mapM_eq_ok.mp hmade) he
  rw [← pure_eq_ok.mp gathered]
  exact ⟨decl, List.mem_append_right _ (List.mem_flatten.mpr ⟨decls, hdecls, hdecl⟩), hmade⟩

/-- A shared enumeration is declared under the name that references to it have. -/
theorem declares_enum (h : Gathers g runtimeModule inPackage defs) {name : String}
    (hname : g.registry.NamesShared name) : defs.Declares (g.registry.enumHostName name) := by
  rcases hname with ⟨e, he, htext⟩ | ⟨b, hb, e, he, rfl⟩
  · obtain ⟨decl, hdecl, hmade⟩ := exists_decl_of_global h he htext
    exact .inl ⟨decl, hdecl, host_of_enumDecl hmade⟩
  · obtain ⟨decl, hdecl, hmade⟩ := exists_decl_of_builtin h hb he
    exact .inl ⟨decl, hdecl, host_of_enumDecl hmade⟩

theorem host_of_structDecl {r : Registry} {bound : OrderedMap Name BuiltinPlan}
    {layout : Layout Int} {s : StructDecl} (h : structDecl r bound inPackage layout = .ok s) :
    s.host = layout.host := by
  obtain ⟨fields, _, h⟩ := bind_eq_ok.mp h
  split at h
  · obtain ⟨methods, _, h⟩ := bind_eq_ok.mp h
    cases h
    rfl
  · cases h
    rfl

/-- A structure that has a size is declared under the name that references to it have. -/
theorem declares_struct (h : Gathers g runtimeModule inPackage defs)
    (sized : g.registry.StructsSized) {name : String} (hstruct : g.registry.isStruct name = true) :
    defs.Declares (builtinHostName name) := by
  obtain ⟨layouts, hlayouts, declared⟩ := h.structs
  unfold Registry.isStruct at hstruct
  split at hstruct
  · next b hb =>
    have hmem := List.mem_reverse.mp (List.mem_of_find?_eq_some hb)
    have hname : b.name = name := by
      have hfound := List.find?_some hb
      exact Name.eq_text_of_beq hfound
    have hsized : (name : Name) ∈ g.registry.sizedStructs := by
      apply List.mem_map.mpr
      refine ⟨b, List.mem_filter.mpr ⟨hmem, ?_⟩, hname⟩
      rw [hstruct, sized b hmem hstruct]
      rfl
    obtain ⟨n, hsame, layout, hlayout, hmade⟩ :=
      Registry.exists_structLayout hlayouts hsized
    obtain ⟨s, hs, hdecl⟩ := exists_right declared hlayout
    refine .inr ⟨s, hs, ?_⟩
    rw [BEq.comm] at hsame
    rw [host_of_structDecl hdecl, Registry.host_of_layout hmade, Name.eq_text_of_beq hsame]
    rfl
  · cases hstruct

/-- Whatever a generation requires of the core definitions is declared there. -/
theorem declares_of_requires {r : Registry} {flags : Flags} (hg : r.generate flags = .ok g)
    (h : Gathers g runtimeModule inPackage defs) (sized : r.StructsSized) (known : r.EnumsKnown)
    {q : Requirement} (hq : g.Requires q) (hcore : q.origin = .core) :
    defs.Declares q.symbol := by
  have hr := (Registry.generates_of_generate hg).registry
  obtain ⟨m, hm, hruntime | ⟨type, htype, needs⟩⟩ := Registry.stems_of_requires hg hq
  · rw [hcore] at hruntime
    cases hruntime
  · generalize hleaf : type.leaf = leaf at needs
    cases needs with
    | object => cases hcore
    | owner => cases hcore
    | @enumeration _ name hname howner =>
      rw [← hleaf] at hname
      have shared := known m hm type htype name hname howner
      rw [← hr] at shared ⊢
      exact declares_enum h shared
    | struct hstruct =>
      rw [← hr] at sized hstruct
      exact declares_struct h sized hstruct

end Meeting

/-- Every name that a generation requires of the core definitions, and so every name that emitted
modules import from them, is the host of an enumeration or of a structure that is declared there:
structures have to have a size, and references to enumerations that are of no class have to name
one that there is. -/
theorem core_imports_declared {r : Registry} {flags : Flags} {g : Generation}
    {options : RenderOptions} {own : Templates} {artifacts : OrderedMap Name String}
    (hg : r.generate flags = .ok g) (hrender : render g options own = .ok artifacts)
    (sized : r.StructsSized) (known : r.EnumsKnown) :
    ∃ defs, coreDefs g options.runtimeModule (!options.singleFile) = .ok defs ∧
      (∀ q, g.Requires q → q.origin = .core → defs.Declares q.symbol) ∧
      (∀ p ∈ parentFirstPlans g, ∀ symbol ∈ symbolsFrom .core p.requires,
        defs.Declares symbol) ∧
      (∀ symbol ∈ (utilities g options.runtimeModule (!options.singleFile)).coreImports,
        defs.Declares symbol) ∧
      ∀ symbol, defs.Declares symbol →
        ∃ base, "class " ++ symbol ++ "(" ++ base ++ "):" ∈ defs.lines (!options.singleFile) := by
  obtain ⟨defs, hdefs, _⟩ := bind_eq_ok.mp hrender
  have hdefs := mapError_eq_ok.mp hdefs
  have declares (q : Requirement) (hq : g.Requires q) (hcore : q.origin = .core) :
      defs.Declares q.symbol :=
    declares_of_requires hg (gathers_of_coreDefs hdefs) sized known hq hcore
  refine ⟨defs, hdefs, declares, ?_, ?_, fun symbol h => line_of_declares h _⟩
  · intro p hp symbol hsymbol
    obtain ⟨c, _, hfound⟩ := List.mem_filterMap.mp hp
    have hplan := List.mem_of_find?_eq_some hfound
    apply declares ⟨.core, symbol⟩ _ rfl
    rcases List.mem_append.mp (mem_symbolsFrom.mp hsymbol) with hq | hq
    · obtain ⟨x, hx, hq⟩ := List.mem_flatMap.mp hq
      exact .member hplan hx hq
    · obtain ⟨a, ha, hq⟩ := List.mem_flatMap.mp hq
      exact .property hplan ha hq
  · intro symbol hsymbol
    obtain ⟨b, hb, hq⟩ := List.mem_flatMap.mp (mem_symbolsFrom.mp hsymbol)
    exact declares ⟨.core, symbol⟩ (.utility hb hq) rfl

/-- A class that sorts planes, which are structures, by the side on which something lies. -/
def planes : Json :=
  documentOf [.obj [("name", .str "Plane"), ("size", .int 4)]]
    [("global_enums",
      [.obj [("name", .str "Error"),
        ("values", .arr [.obj [("name", .str "OK"), ("value", .int 0)]])]]),
     ("builtin_classes",
      [.obj [("name", .str "Plane"),
        ("members", .arr [.obj [("name", .str "d"), ("type", .str "float")]]),
        ("enums", .arr [.obj [("name", .str "Side"),
          ("values", .arr [.obj [("name", .str "ABOVE"), ("value", .int 0)]])]])]]),
     ("classes",
      [.obj [("name", .str "Sorter"),
        ("methods", .arr [.obj [("name", .str "sort"), ("hash", .int 1),
          ("arguments", .arr [
            .obj [("name", .str "side"), ("type", .str "enum::Plane.Side")],
            .obj [("name", .str "planes"), ("type", .str "typedarray::Plane")]]),
          ("return_value", .obj [("type", .str "enum::Error")])]])]])]

/-- A global enumeration, one of a builtin and a structure are declared where they are required. -/
theorem core_imports_declared_planes :
    ∃ r g artifacts defs, Registry.ofDocument "float_64" planes = .ok r ∧
      r.generate {} = .ok g ∧ render g {} [] = .ok artifacts ∧
      coreDefs g "godot.runtime" true = .ok defs ∧
      ∀ symbol ∈ ["GodotError", "PlaneSide", "Plane"],
        g.Requires ⟨.core, symbol⟩ ∧ defs.Declares symbol := by
  have returns : (packageOf planes).toOption.any (fun (r, g, _) =>
      decide (r.StructsSized ∧ r.EnumsKnown ∧ ∃ p ∈ g.plans, ∃ x ∈ p.members,
        ∀ symbol ∈ ["GodotError", "PlaneSide", "Plane"], ⟨.core, symbol⟩ ∈ x.requires)) := by
    decide +kernel
  obtain ⟨⟨r, g, modules⟩, hpackage, hfacts⟩ := exists_eq_ok_of_any returns
  obtain ⟨sized, known, p, hp, x, hx, required⟩ := of_decide_eq_true hfacts
  obtain ⟨hr, hg, hmodules⟩ := packageOf_eq_ok hpackage
  have hrender := render_of_packageModules hmodules
  obtain ⟨defs, hdefs, declares, _⟩ := core_imports_declared hg hrender sized known
  refine ⟨r, g, _, defs, hr, hg, hrender, hdefs, fun symbol hsymbol => ?_⟩
  have hrequires : g.Requires ⟨.core, symbol⟩ := .member hp hx (required symbol hsymbol)
  exact ⟨hrequires, declares _ hrequires rfl⟩

end Package

end EngineBindings
