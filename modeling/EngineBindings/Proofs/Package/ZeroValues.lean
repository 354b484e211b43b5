import EngineBindings.Proofs.Package.Declared
import EngineBindings.Proofs.Target.Stale

/-! Zero values of enumerations and what is declared of them.

An emitted enumeration refuses a number that none of its members has. So the zero value of one that
has members is zero only where zero is declared, and else its first member (`ZeroValue`). Which
enumeration that is depends on how the table of a registry is filled (`Registry.enum?_of_build`);
where everything is rendered, its declaration stands among the core definitions or in the class
that it belongs to (`EmittedEnum`). -/
namespace EngineBindings

open Attempt EngineBindings.Code EngineBindings.Text

/-! ### Look-ups -/

namespace Registry

variable {d : Declarations} {r : Registry} {name : String} {e : EnumDef}

/-- The enumerations of classes that go by a dotted name. -/
def classEnums (r : Registry) (name : String) : List EnumDef :=
  r.classes.flatMap fun c => c.enums.filter fun e => e.ownedName c.name = name

/-- The global enumerations of a name. -/
def namedEnums (r : Registry) (name : String) : List EnumDef :=
  r.globalEnums.filter fun e => e.name.text? = some name

/-- The enumerations of builtins that go by a dotted name. -/
def builtinEnums (r : Registry) (name : String) : List EnumDef :=
  r.builtins.flatMap fun b => b.enums.filter fun e => e.ownedName b.name = name

theorem map_filter_owned {α : Type} (owners : List α) (owner : α → Name)
    (enums : α → List EnumDef) (name : String) :
    ((owners.flatMap fun o => (enums o).map fun e => ((e.ownedName (owner o) : Name), e)).filter
        (·.1 == (name : Name))).map (·.2) =
      owners.flatMap fun o => (enums o).filter fun e => e.ownedName (owner o) = name := by
  simp only [List.filter_flatMap, List.map_flatMap, List.filter_map, List.map_map,
    Function.comp_def, Name.beq_text, List.map_id']

/-- A name means the last enumeration of a class that goes by it, else the last global one, else the
first one of a builtin. -/
theorem enum?_of_build (h : build d = .ok r) (name : String) :
    r.enum? name = (r.classEnums name).getLast?.or
      ((r.namedEnums name).getLast?.or (r.builtinEnums name).head?) := by
  obtain ⟨header, _, rfl⟩ := build_eq_ok.mp h
  show d.enumTable.find? name = _
  unfold Declarations.enumTable
  rw [OrderedMap.find?_foldl_insertNew, OrderedMap.find?_insertAll, OrderedMap.find?_ofList,
    ← List.getLast?_filter, ← List.getLast?_filter, ← List.head?_filter, ← List.getLast?_map,
    ← List.getLast?_map, ← List.head?_map, Option.or_assoc]
  have global : ((d.globalEnums.map fun e => (e.name, e)).filter (·.1 == (name : Name))).map (·.2) =
      d.globalEnums.filter fun e => e.name.text? = some name := by
    rw [List.filter_map, List.map_map]
    refine (List.map_id' _).trans (List.filter_congr fun e _ => ?_)
    rw [Bool.eq_iff_iff, decide_eq_true_iff]
    exact Name.beq_iff_text?_eq
  rw [global, map_filter_owned d.classes (·.name) (·.enums),
    map_filter_owned d.builtins (·.name) (·.enums)]
  rfl

end Registry

/-! ### Declarations -/

namespace Package

/-- A declaration has the members of its enumeration, with their numbers. -/
theorem numbers_of_enumDecl {e : EnumDef} {host : String} {decl : EnumDecl}
    (h : enumDecl e host = .ok decl) : decl.values.map (·.2) = e.values.map (·.value) := by
  obtain ⟨values, hvalues, h⟩ := bind_eq_ok.mp h
  cases h
  refine map_eq_map (mapM_eq_ok.mp hvalues) fun v _ member hmember => ?_
  obtain ⟨text, _, hmember⟩ := bind_eq_ok.mp hmember
  cases hmember
  rfl

/-- The member that a declaration starts with has the name of the first value. -/
theorem first_of_enumDecl {e : EnumDef} {host member : String} {decl : EnumDecl} {v : EnumValue}
    {rest : List EnumValue} (h : enumDecl e host = .ok decl) (values : e.values = v :: rest)
    (named : v.name.sanitize = .ok member) :
    ∃ others, decl.values = (member, v.value) :: others := by
  obtain ⟨entries, hentries, h⟩ := bind_eq_ok.mp h
  cases h
  have entries := mapM_eq_ok.mp hentries
  rw [values] at entries
  cases entries with
  | @cons _ first _ others hfirst _ =>
    rw [named] at hfirst
    cases hfirst
    exact ⟨others, rfl⟩

theorem enumDecl_of_nameless {e : EnumDef} {v : EnumValue} {rest : List EnumValue}
    (values : e.values = v :: rest) (nameless : v.name.sanitize = .error .notText) (host : String) :
    enumDecl e host = .error .notText := by
  rw [enumDecl, values, List.mapM_cons, nameless]
  rfl

end Package

namespace Registry

variable {r : Registry} {name : String} {e : EnumDef}

/-- The zero value of an enumeration that has members, as it is written in emitted code. -/
inductive ZeroValue (r : Registry) (name : String) (e : EnumDef) : Except Fault String → Prop
  | zero {v : EnumValue} (hv : v ∈ e.values) (isZero : v.value = 0) :
    ZeroValue r name e (.ok (r.enumHostName name ++ "(0)"))
  | first {v : EnumValue} {rest : List EnumValue} {member : String} (values : e.values = v :: rest)
    (noZero : ∀ v ∈ e.values, v.value ≠ 0) (named : v.name.sanitize = .ok member)
    (declared : ∀ host decl, Package.enumDecl e host = .ok decl →
      ∃ others, decl.values = (member, v.value) :: others) :
    ZeroValue r name e (.ok (r.enumHostName name ++ "." ++ member))
  /-- A first member whose name is no text can be neither written nor declared. -/
  | nameless {v : EnumValue} {rest : List EnumValue} (values : e.values = v :: rest)
    (noZero : ∀ v ∈ e.values, v.value ≠ 0) (given : v.name.isGiven = true)
    (noText : v.name.text? = none)
    (undeclared : ∀ host, Package.enumDecl e host = .error .notText) :
    ZeroValue r name e (.error (.value .notText))

theorem text_invoke_zero (host : String) :
    ((Expr.name host).invoke [.literal "0"]).text = host ++ "(0)" := by
  show host ++ "(" ++ "0" ++ ")" = host ++ "(0)"
  rw [String.append_assoc, String.append_assoc]
  rfl

theorem zeroValue_of_enum? (other : name ∉ enumZeroMembers.map (·.1))
    (found : r.enum? name = some e) (given : e.values ≠ []) :
    ZeroValue r name e ((r.defaultValue (.enum name)).map Expr.text) := by
  obtain ⟨v, rest, values⟩ := List.exists_cons_of_ne_nil given
  rw [defaultValue, enumDefault_of_other other, found, Option.map_some, values]
  dsimp only
  rw [← values]
  split
  · next zero =>
    obtain ⟨v, hv, isZero⟩ := List.any_eq_true.mp zero
    show ZeroValue r name e (.ok ((Expr.name (r.enumHostName name)).invoke [.literal "0"]).text)
    rw [text_invoke_zero]
    exact .zero hv (of_decide_eq_true isZero)
  · next noZero =>
    have others : ∀ v ∈ e.values, v.value ≠ 0 := fun v hv isZero =>
      noZero (List.any_eq_true.mpr ⟨v, hv, decide_eq_true isZero⟩)
    rcases sanitize_returns_or v.name with ⟨⟨member, named⟩, -⟩ | ⟨nameless, given, noText⟩
    · rw [named]
      exact .first values others named fun host decl hdecl =>
        Package.first_of_enumDecl hdecl values named
    · rw [nameless]
      exact .nameless values others given noText (Package.enumDecl_of_nameless values nameless)

end Registry

/-! ### Where enumerations are declared -/

namespace Package

variable {d : Declarations} {r : Registry} {flags : Flags} {g : Generation}
  {options : RenderOptions} {own : Templates} {artifacts : OrderedMap Name String}
  {e : EnumDef} {name : String}

/-- The declaration of an enumeration where everything is rendered: among the core definitions,
under the name that references to it have, or inside the statement of a class. -/
inductive EmittedEnum (g : Generation) (options : RenderOptions) (e : EnumDef) (name : String)
    (decl : EnumDecl) : Prop
  | core {defs : CoreDefs}
    (hdefs : coreDefs g options.runtimeModule (!options.singleFile) = .ok defs)
    (h : decl ∈ defs.enums) (host : decl.host = g.registry.enumHostName name)
  | inClass {p : ClassPlan} {lines : List String} (hp : p ∈ g.plans) (he : e ∈ p.cls.enums)
    (named : e.ownedName p.name = name)
    (hbody : classBody p (!options.singleFile) = .ok lines)
    (inside : ∀ line ∈ indent 4 decl.lines, line ∈ lines)

/-- Where everything is rendered, every planned class has a body. -/
theorem exists_classBody (hrender : render g options own = .ok artifacts) {p : ClassPlan}
    (hp : p ∈ parentFirstPlans g) : ∃ lines, classBody p (!options.singleFile) = .ok lines := by
  obtain ⟨defs, _, hrender⟩ := bind_eq_ok.mp hrender
  split at hrender
  · next single =>
    obtain ⟨text, htext, _⟩ := bind_eq_ok.mp hrender
    obtain ⟨_, _, htext⟩ := bind_eq_ok.mp htext
    obtain ⟨bodies, hbodies, _⟩ := bind_eq_ok.mp htext
    obtain ⟨lines, _, hlines⟩ := exists_right (mapM_eq_ok.mp hbodies) hp
    rw [single]
    exact ⟨lines, mapError_eq_ok.mp hlines⟩
  · next package =>
    obtain ⟨_, _, hrender⟩ := bind_eq_ok.mp hrender
    obtain ⟨_, _, hrender⟩ := bind_eq_ok.mp hrender
    obtain ⟨classes, hclasses, _⟩ := bind_eq_ok.mp hrender
    obtain ⟨_, _, hmodule⟩ := exists_right (mapM_eq_ok.mp hclasses) hp
    obtain ⟨lines, hlines, _⟩ := bind_eq_ok.mp hmodule
    obtain ⟨body, hbody, _⟩ := bind_eq_ok.mp (mapError_eq_ok.mp hlines)
    rw [Bool.eq_false_iff.mpr package]
    exact ⟨body, hbody⟩

theorem ne_empty_of_mem_lines {decl : EnumDecl} {line : String} (h : line ∈ indent 4 decl.lines) :
    line ≠ "" := by
  obtain ⟨line, _, rfl⟩ := List.mem_map.mp h
  intro empty
  have none := congrArg String.toList empty
  simp [spaces] at none

/-- A class body has the declarations of the class's enumerations. -/
theorem exists_decl_of_class {p : ClassPlan} {inPackage : Bool} {lines : List String}
    (hbody : classBody p inPackage = .ok lines) (he : e ∈ p.cls.enums) :
    ∃ decl, enumDecl e decl.host = .ok decl ∧ ∀ line ∈ indent 4 decl.lines, line ∈ lines := by
  obtain ⟨statement, hstatement, hbody⟩ := bind_eq_ok.mp hbody
  obtain ⟨head, hhead, hstatement⟩ := bind_eq_ok.mp hstatement
  obtain ⟨enums, henums, hhead⟩ := bind_eq_ok.mp hhead
  obtain ⟨constants, _, hhead⟩ := bind_eq_ok.mp hhead
  obtain ⟨block, hblock, hmade⟩ := exists_right (mapM_eq_ok.mp henums) he
  obtain ⟨host, _, hmade⟩ := bind_eq_ok.mp hmade
  obtain ⟨decl, hdecl, hmade⟩ := bind_eq_ok.mp hmade
  refine ⟨decl, by rwa [host_of_enumDecl hdecl], fun line hline => ?_⟩
  have inBlock : line ∈ block := by
    rw [← pure_eq_ok.mp hmade]
    exact List.mem_append_left _ hline
  have inHead : line ∈ head := by
    rw [← pure_eq_ok.mp hhead]
    simp only [List.mem_append]
    exact .inl (.inl (.inr (List.mem_flatten.mpr ⟨block, hblock, inBlock⟩)))
  have inStatement : line ∈ statement := by
    rw [← pure_eq_ok.mp hstatement]
    refine mem_dropTrailingEmpty ?_ (ne_empty_of_mem_lines hline)
    simp only [List.mem_append]
    exact .inl (.inl (.inl inHead))
  rw [← pure_eq_ok.mp hbody]
  exact List.mem_append_left _ inStatement

/-- Where everything is rendered, what a name means is declared. -/
theorem exists_emittedEnum (hbuild : Registry.build d = .ok r) (hg : r.generate flags = .ok g)
    (hrender : render g options own = .ok artifacts) (found : r.enum? name = some e) :
    ∃ decl, EmittedEnum g options e name decl ∧ enumDecl e decl.host = .ok decl := by
  obtain ⟨defs, hdefs, _⟩ := bind_eq_ok.mp hrender
  have hdefs := mapError_eq_ok.mp hdefs
  have gathers := gathers_of_coreDefs hdefs
  have generates := Registry.generates_of_generate hg
  rw [Registry.enum?_of_build hbuild, Option.or_eq_some_iff, Option.or_eq_some_iff] at found
  rcases found with found | ⟨-, found | ⟨-, found⟩⟩
  · obtain ⟨c, hc, hnamed⟩ := List.mem_flatMap.mp (List.mem_of_getLast? found)
    obtain ⟨he, named⟩ := List.mem_filter.mp hnamed
    obtain ⟨p, hp, hplan⟩ := exists_right generates.plans hc
    obtain rfl := Registry.cls_of_planClass hplan
    have emitted := (parentFirstPlans_perm hbuild hg).mem_iff.mpr hp
    obtain ⟨lines, hbody⟩ := exists_classBody hrender emitted
    obtain ⟨decl, made, inside⟩ := exists_decl_of_class hbody he
    exact ⟨decl, .inClass hp he (of_decide_eq_true named) hbody inside, made⟩
  · obtain ⟨he, named⟩ := List.mem_filter.mp (List.mem_of_getLast? found)
    rw [← generates.registry] at he
    obtain ⟨decl, hdecl, made⟩ := exists_decl_of_global gathers he (of_decide_eq_true named)
    have host := host_of_enumDecl made
    exact ⟨decl, .core hdefs hdecl host, by rwa [host]⟩
  · obtain ⟨b, hb, hnamed⟩ := List.mem_flatMap.mp (List.mem_of_head? found)
    obtain ⟨he, named⟩ := List.mem_filter.mp hnamed
    obtain rfl := of_decide_eq_true named
    rw [← generates.registry] at hb
    obtain ⟨decl, hdecl, made⟩ := exists_decl_of_builtin gathers hb he
    have host := host_of_enumDecl made
    exact ⟨decl, .core hdefs hdecl host, by rwa [host]⟩

end Package

/-- A lamp with a mode that is never zero, and an enumeration of the whole engine under the same
dotted name. -/
def dimmers : Declarations :=
  let mode : EnumDef := ⟨"Mode", [⟨"DIM", 1⟩, ⟨"BRIGHT", 2⟩], false⟩
  { Declarations.ofClasses [{ ClassDef.declaring "Lamp" none [] [] with enums := [mode] }] with
    globalEnums := [⟨"Lamp.Mode", [⟨"OFF", 0⟩], false⟩] }

/-- An enumeration with one member, whose name is a number. -/
def numberedMember : Declarations :=
  { Declarations.ofClasses [] with globalEnums := [⟨"Mode", [⟨⟨.int 7⟩, 1⟩], false⟩] }

end EngineBindings
