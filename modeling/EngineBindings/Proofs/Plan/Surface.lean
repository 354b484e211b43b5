import EngineBindings.Proofs.Plan.Accessor
import EngineBindings.Proofs.Plan.ResizedGeneration
import EngineBindings.Proofs.Schema.Resized

/-! The surface of a generation.

The surface is what users of the emitted classes and the engine rely on: members and their
signatures, properties, dispatch tables and diagnostics. It holds no width and no size, and is the
same in all build configurations that give sizes to the same names (`surface_eq_of_sameSized`). -/
namespace EngineBindings

open Code

/-! ### What is seen -/

/-- What tells the engine which method is bound: the owner, the name and the hash, zero without
one. -/
def MethodBinding.bindKey (b : MethodBinding) : Name × Name × Int :=
  (b.owner, b.method.name, b.method.hash.getD 0)

/-- What is seen of how a member meets the engine. -/
inductive MemberSurface.Crossing where
  /-- The member calls the engine. -/
  | bound (handleName : String) (isPrivate : Bool) (bindKey : Name × Name × Int)
      (coverKey : String) (passings : List Passing)
  /-- The engine calls the member, through a proxy. -/
  | overridable (proxyName : String) (default : Option Expr)

/-- What is seen of a member. -/
structure MemberSurface where
  method : MethodDef
  exposedName : String
  parameterList : String
  returnAnnotation : String
  requires : List Requirement
  crossing : MemberSurface.Crossing

def Member.crossing : Member → MemberSurface.Crossing
  | bound b => .bound b.handleName b.isPrivate b.bindKey b.coverKey b.passings
  | overridable t => .overridable t.proxyName t.default

def Member.surface (x : Member) : MemberSurface :=
  { method := x.method
    exposedName := x.exposedName
    parameterList := x.parameterList
    returnAnnotation := x.returnAnnotation
    requires := x.requires
    crossing := x.crossing }

/-- What is seen of a property. -/
structure PropertySurface where
  property : PropertyDef
  exposedName : String
  annotation : String
  getterName : String
  setterName : String
  index : Option Expr
  value : Expr
  requires : List Requirement

def PropertyAccessor.surface (p : PropertyAccessor) : PropertySurface :=
  { property := p.property
    exposedName := p.exposedName
    annotation := p.target.annotation
    getterName := p.getterName
    setterName := p.setterName
    index := p.index
    value := p.value
    requires := p.requires }

/-- What is seen of a dispatch table: its owner, the owner's parent, and the names of methods and
their proxies. -/
structure DispatchSurface where
  owner : Name
  parent : Option Name
  entries : List (Name × String)

def DispatchTable.surface (t : DispatchTable) : DispatchSurface :=
  { owner := t.owner
    parent := t.parent
    entries := t.entries.entries.map fun entry => (entry.1, entry.2.proxyName) }

/-- What is seen of a class. -/
structure ClassSurface where
  cls : ClassDef
  members : List MemberSurface
  properties : List PropertySurface
  dispatch : DispatchSurface
  diagnostics : List Diagnostic

def ClassPlan.surface (p : ClassPlan) : ClassSurface :=
  { cls := p.cls
    members := p.members.map Member.surface
    properties := p.properties.map PropertyAccessor.surface
    dispatch := p.dispatch.surface
    diagnostics := p.diagnostics }

/-- What is seen of a generation. -/
structure Surface where
  classes : List ClassSurface
  diagnostics : List Diagnostic

def Generation.surface (g : Generation) : Surface :=
  { classes := g.plans.map ClassPlan.surface
    diagnostics := g.diagnostics }

/-! ### Widths are not seen -/

theorem MethodBinding.Resized.bindKey {b b' : MethodBinding} (h : b.Resized b') :
    b'.bindKey = b.bindKey := by
  rw [MethodBinding.bindKey, MethodBinding.bindKey, h.owner, h.method]

theorem Member.Resized.surface {x x' : Member} (h : x.Resized x') : x'.surface = x.surface := by
  cases h with
  | bound hb =>
    simp only [Member.surface, Member.method, Member.exposedName, Member.parameterList,
      Member.returnAnnotation, Member.requires, Member.crossing, hb.method, hb.exposedName,
      hb.parameterList, hb.returnAnnotation, hb.requires, hb.handleName, hb.isPrivate, hb.bindKey,
      hb.coverKey, hb.passings]
  | overridable ht =>
    simp only [Member.surface, Member.method, Member.exposedName, Member.parameterList,
      Member.returnAnnotation, Member.requires, Member.crossing, ht.method, ht.exposedName,
      ht.parameterList, ht.returnAnnotation, ht.requires, ht.proxyName, ht.default]

theorem PropertyAccessor.Resized.surface {p p' : PropertyAccessor} (h : p.Resized p') :
    p'.surface = p.surface := by
  rw [h.others]
  unfold PropertyAccessor.surface
  rw [h.target.annotation]

theorem DispatchTable.Resized.surface {t t' : DispatchTable} (h : t.Resized t') :
    t'.surface = t.surface := by
  rw [DispatchTable.surface, DispatchTable.surface, h.owner, h.parent,
    Attempt.map_eq_map h.entries fun _ _ _ he => by rw [he.1, he.2.proxyName]]

theorem ClassPlan.Resized.surface {p p' : ClassPlan} (h : p.Resized p') :
    p'.surface = p.surface := by
  rw [ClassPlan.surface, ClassPlan.surface, h.cls, h.dispatch.surface, h.diagnostics,
    Attempt.map_eq_map h.members fun _ _ _ hx => hx.surface,
    Attempt.map_eq_map h.properties fun _ _ _ hp => hp.surface]

theorem Generation.Resized.surface {g g' : Generation} (h : g.Resized g') :
    g'.surface = g.surface := by
  rw [Generation.surface, Generation.surface, h.diagnostics,
    Attempt.map_eq_map h.plans fun _ _ _ hp => hp.surface]

/-! ### Build configurations -/

namespace Generation

/-- The surface does not depend on the build configuration, as long as the tables of sizes list the
same names. The bindings of utility functions and of builtins' methods differ in widths alone. -/
theorem surface_eq_of_sameSized {document : Json} {configuration configuration' : String}
    {r r' : Registry} (hr : Registry.ofDocument configuration document = .ok r)
    (hr' : Registry.ofDocument configuration' document = .ok r')
    (sized : SameSized r.sizes r'.sizes)
    (flags : Flags) {g g' : Generation} (hg : r.generate flags = .ok g)
    (hg' : r'.generate flags = .ok g') :
    g'.surface = g.surface ∧
      List.Forall₂ MethodBinding.Resized g.utilities g'.utilities ∧
      List.Forall₂ BuiltinPlan.Resized g.builtins g'.builtins := by
  have resized := (Registry.resized_of_ofDocument hr hr' sized).generate flags g g' hg hg'
  exact ⟨resized.surface, resized.utilities, resized.builtins⟩

/-- A table of sizes for one build configuration. -/
def sizeTable (configuration : String) (sizes : List (String × Int)) : Json :=
  .obj [("build_configuration", .str configuration),
    ("sizes", .arr (sizes.map fun s => .obj [("name", .str s.1), ("size", .int s.2)]))]

/-- A door with an angle, a list of notches and a place that it is moved to, in a configuration of
narrow numbers and in one of wide numbers. -/
def doors : Json :=
  .obj [("header", .obj []),
    ("builtin_class_sizes", .arr [sizeTable "float_32" [("Vector2", 8), ("Array", 8)],
      sizeTable "double_64" [("Array", 16), ("Vector2", 16)]]),
    ("builtin_classes", .arr [.obj [("name", .str "Vector2"),
      ("members", .arr [.obj [("name", .str "x"), ("type", .str "float")]]),
      ("methods", .arr [.obj [("name", .str "length"), ("hash", .int 3),
        ("return_type", .str "float")]])]]),
    ("utility_functions", .arr [.obj [("name", .str "sin"), ("hash", .int 4),
      ("arguments", .arr [.obj [("name", .str "angle"), ("type", .str "float")]]),
      ("return_type", .str "float")]]),
    ("classes", .arr [.obj [("name", .str "Door"),
      ("methods", .arr [
        .obj [("name", .str "get_angle"), ("hash", .int 1),
          ("return_value", .obj [("type", .str "float")])],
        .obj [("name", .str "set_angle"), ("hash", .int 2),
          ("arguments", .arr [.obj [("name", .str "angle"), ("type", .str "float")]])],
        .obj [("name", .str "notches"), ("hash", .int 5),
          ("return_value", .obj [("type", .str "typedarray::int")])],
        .obj [("name", .str "_moved"), ("is_virtual", .bool true),
          ("arguments", .arr [.obj [("name", .str "to"), ("type", .str "Vector2")]])]]),
      ("properties", .arr [.obj [("name", .str "angle"), ("type", .str "float"),
        ("getter", .str "get_angle"), ("setter", .str "set_angle")]])]])]

theorem surface_eq_of_sameSized_doors :
    ∃ r r' g g', Registry.ofDocument "float_32" doors = .ok r ∧
      Registry.ofDocument "double_64" doors = .ok r' ∧ SameSized r.sizes r'.sizes ∧
      r.generate {} = .ok g ∧ r'.generate {} = .ok g' ∧
      g'.surface = g.surface ∧
      List.Forall₂ MethodBinding.Resized g.utilities g'.utilities ∧
      List.Forall₂ BuiltinPlan.Resized g.builtins g'.builtins := by
  have returns : (Registry.ofDocument "float_32" doors).toOption.any fun r =>
      (Registry.ofDocument "double_64" doors).toOption.any fun r' =>
        decide (SameSized r.sizes r'.sizes) &&
          ((r.generate {}).toOption.isSome && (r'.generate {}).toOption.isSome) := by
    decide +kernel
  obtain ⟨r, hr, returns⟩ := Attempt.exists_eq_ok_of_any returns
  obtain ⟨r', hr', returns⟩ := Attempt.exists_eq_ok_of_any returns
  obtain ⟨sized, generated⟩ := Bool.and_eq_true_iff.mp returns
  obtain ⟨generated, generated'⟩ := Bool.and_eq_true_iff.mp generated
  obtain ⟨g, hg⟩ := Attempt.exists_eq_ok generated
  obtain ⟨g', hg'⟩ := Attempt.exists_eq_ok generated'
  have sized : SameSized r.sizes r'.sizes := of_decide_eq_true sized
  exact ⟨r, r', g, g', hr, hr', sized, hg, hg',
    surface_eq_of_sameSized hr hr' sized {} hg hg'⟩

end Generation

end EngineBindings
