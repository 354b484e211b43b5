import EngineBindings.Proofs.Plan.Proxy
import EngineBindings.Proofs.Plan.Requirements
import EngineBindings.Proofs.Text.Segment

/-! How arguments are handed to the engine.

A bound callable hands an argument over in one of a few ways (`Handing`), and the statements that
are planned for an argument are those of its way (`handed_of_argSlots`). `MethodBinding.Planned`
says so of all parts of a binding, for the bindings of classes, utility functions and builtins. -/
namespace EngineBindings

open EngineBindings.Code Attempt

/-- A way of handing an argument to the engine. -/
inductive Handing where
  /-- A copy of the number that an enumeration's member stands for. -/
  | number
  | scalar (type : Scalar)
  /-- A copy of a value of fixed layout. -/
  | struct (host : String)
  /-- A cell that holds an object's handle. -/
  | object
  /-- The value's own content. -/
  | content

namespace Handing

/-- What the engine is pointed to. -/
def passing : Handing → Passing
  | object => .handle
  | content => .contentPointer
  | _ => .copy

/-- The cell that the engine is pointed to, if the value itself is not. -/
def cell? (name : String) : Handing → Option String
  | object => some ("handle_" ++ name)
  | content => none
  | _ => some ("copy_" ++ name)

/-- What the cell holds. -/
def box (name : String) : Handing → Expr
  | number => .invoke (.native "c_int64") [.apply "int" [.name name]]
  | scalar type => .invoke (.native type.name) [.name name]
  | struct host => .invoke (.attr (.name host) "from_buffer_copy") [.name name]
  | object =>
    .invoke (.native "c_void_p")
      [.choose .none (.isNone (.name name)) (.attr (.name name) "handle")]
  | content => .attr (.name name) "content"

/-- The statements before the call. -/
def setup (name : String) (handing : Handing) : List Stmt :=
  (handing.cell? name).toList.map fun cell => .assign cell (handing.box name)

/-- The address that the engine is given. -/
def native (name : String) (handing : Handing) : Expr :=
  .invoke (.native "addressof")
    [match handing.cell? name with
      | some cell => .name cell
      | none => handing.box name]

theorem notMem_of_cell? {handing : Handing} {name cell : String} (h : '.' ∉ name.toList)
    (hcell : handing.cell? name = some cell) : '.' ∉ cell.toList := by
  cases handing with
  | content => cases hcell
  | number | scalar _ | struct _ | object =>
    cases hcell
    simp [h]

end Handing

/-- An argument's slot holds the statements of some way of handing it over. -/
structure ArgSlot.Handed (slot : ArgSlot) (handing : Handing) : Prop where
  name : '.' ∉ slot.name.toList
  setup : slot.setup = handing.setup slot.name
  native : slot.native = handing.native slot.name

namespace Registry

variable {r : Registry} {use : TypeUse}

/-- How an argument of a type is handed over. -/
def handing (r : Registry) (type : TypeRef) (target : Target) : Handing :=
  if r.needsCopy type then
    match target.scalar? with
    | some scalar => if target.isEnumeration then .number else .scalar scalar
    | none => .struct target.host
  else if target.isObject then .object
  else .content

/-- A slot is planned from the argument's name, its target and the way of handing it over. -/
theorem argSlot_eq (a : ArgumentDef) :
    r.argSlot use a = (do
      let name ← a.name.sanitize.mapError .value
      let target ← r.argumentTarget a use
      let handing := r.handing a.type target
      return ⟨name, a.type.spelling, target, handing.passing, handing.setup name,
        handing.native name, none⟩) := by
  unfold argSlot handing
  refine bind_congr fun name => bind_congr fun target => ?_
  by_cases copied : r.needsCopy a.type = true
  · rw [if_pos copied, if_pos copied]
    cases target.scalar? with
    | none => rfl
    | some scalar => cases target.isEnumeration <;> rfl
  · rw [if_neg copied, if_neg copied]
    by_cases object : target.isObject = true
    · rw [if_pos object, if_pos object]
      rfl
    · rw [if_neg object, if_neg object]
      rfl

theorem handed_of_argSlot {a : ArgumentDef} {slot : ArgSlot} (h : r.argSlot use a = .ok slot) :
    slot.Handed (r.handing a.type slot.target) := by
  rw [argSlot_eq] at h
  obtain ⟨name, hname, h⟩ := bind_eq_ok.mp h
  obtain ⟨target, _, h⟩ := bind_eq_ok.mp h
  cases h
  exact ⟨notMem_of_sanitize (mapError_eq_ok.mp hname), rfl, rfl⟩

end Registry

/-! ### Bindings -/

/-- The parts of a binding are those that its method's signature is planned with. The name of its
handle starts with `lead`. -/
structure MethodBinding.Planned (r : Registry) (use : TypeUse) (lead : String) (b : MethodBinding) :
    Prop where
  args : ∀ slot ∈ b.args, ∃ a ∈ b.method.arguments, r.argumentTarget a use = .ok slot.target ∧
    slot.Handed (r.handing a.type slot.target)
  ret : ∀ ret, b.ret = some ret → ∃ type, b.method.result? = some type ∧
    r.returnPlan use b.method type = .ok ret
  requires : b.requires = r.callRequirements b.owner b.args b.ret
  handle : b.handleName = lead ++ b.method.name.display

namespace Registry

variable {r : Registry} {flags : Flags} {use : TypeUse}

/-- The slots of a method's arguments are handed over as their types are. -/
theorem handed_of_argSlots {args : List ArgumentDef} {slots : List ArgSlot}
    (h : r.argSlots use args = .ok slots) :
    ∀ slot ∈ slots, ∃ a ∈ args, r.argumentTarget a use = .ok slot.target ∧
      slot.Handed (r.handing a.type slot.target) := by
  intro slot hslot
  obtain ⟨a, ha, fresh, hfresh, default, rfl⟩ := exists_argSlot_of_argSlots h slot hslot
  have handed := handed_of_argSlot hfresh
  exact ⟨a, ha, (fresh_of_argSlot hfresh).target, handed.name, handed.setup, handed.native⟩

theorem planned_of_planCall {owner : Name} {m : MethodDef} {exposedName lead : String}
    {isPrivate : Bool} {kind : BindingKind} {b : MethodBinding}
    (h : r.planCall owner m exposedName (lead ++ m.name.display) isPrivate kind use = .ok b) :
    b.Planned r use lead ∧ b.owner = owner ∧ b.method = m ∧ b.kind = kind := by
  rw [planCall_eq] at h
  cases hs : signatureObstacle m with
  | some reason =>
    rw [hs] at h
    cases h
    refine ⟨⟨fun slot hslot => ?_, fun ret hret => ?_, rfl, rfl⟩, rfl, rfl, rfl⟩
    · cases hslot
    · cases hret
  | none =>
    rw [hs] at h
    obtain ⟨args, hargs, h⟩ := bind_eq_ok.mp h
    obtain ⟨ret, hret, h⟩ := bind_eq_ok.mp h
    cases h
    refine ⟨⟨handed_of_argSlots hargs, fun found hfound => ?_, rfl, rfl⟩, rfl, rfl, rfl⟩
    cases hfound
    cases hm : m.result? with
    | none =>
      rw [resultPlan, hm] at hret
      cases hret
    | some type =>
      rw [resultPlan, hm] at hret
      obtain ⟨plan, hplan, hret⟩ := map_eq_ok.mp hret
      cases hret
      exact ⟨type, rfl, hplan⟩

/-- A bound method of a class is planned as its signature is. -/
theorem planned_of_binding {c : ClassDef} {p : ClassPlan} {b : MethodBinding}
    (h : r.planClass flags c = .ok p) (hb : b ∈ p.bindings) :
    b.Planned r .member "_method_" ∧ b.owner = c.name ∧ b.method ∈ c.methods ∧
      b.kind = .method := by
  obtain ⟨x, hx, hbinding⟩ := List.mem_filterMap.mp hb
  obtain ⟨m, hm, ⟨bound, _, hbind, rfl⟩ | ⟨t, _, rfl⟩⟩ := member_of_planClass h hx
  · cases hbinding
    obtain ⟨exposed, _, hcall⟩ := bind_eq_ok.mp hbind
    obtain ⟨hplanned, howner, hmethod, hkind⟩ := planned_of_planCall hcall
    exact ⟨hplanned, howner, hmethod ▸ hm, hkind⟩
  · cases hbinding

/-- The expression that unwraps a result ends with a bracket or a word. -/
theorem endsPlainly_unwrapped {m : MethodDef} {type : TypeRef} {ret : ReturnPlan}
    (h : r.returnPlan use m type = .ok ret) : Text.endsPlainly ret.unwrapped.text = true := by
  have call (callee : Expr) (arguments : Arguments) :
      Text.endsPlainly (Expr.call callee arguments).text = true :=
    Text.endsPlainly_append _ (by decide)
  have value : Text.endsPlainly (Expr.attr (.name resultName) "value").text = true := by decide
  have cell : Text.endsPlainly (Expr.name resultName).text = true := by decide
  obtain ⟨target, _, h⟩ := bind_eq_ok.mp h
  obtain ⟨zero, _, h⟩ := bind_eq_ok.mp h
  dsimp only at h
  split at h
  · cases h
    exact call _ _
  · cases h
    exact call _ _
  · obtain ⟨storage, _, h⟩ := bind_eq_ok.mp h
    cases h
    exact call _ _
  · cases h
    exact Text.endsPlainly_append _ (by decide)
  · split at h
    · cases h
      exact value
    · split at h <;>
        (cases h
         exact cell)

/-- A utility function is planned as its signature is. -/
theorem planned_of_utility {g : Generation} {b : MethodBinding} (h : r.generate flags = .ok g)
    (hb : b ∈ g.utilities) : b.Planned r .builtin "_utility_" ∧ b.kind = .utility := by
  obtain ⟨u, _, hbind⟩ := (generates_of_generate h).utilities b hb
  obtain ⟨exposed, _, hcall⟩ := bind_eq_ok.mp hbind
  obtain ⟨hplanned, _, _, hkind⟩ := planned_of_planCall hcall
  exact ⟨hplanned, hkind⟩

/-- A method of a builtin is planned as its signature is. -/
theorem planned_of_builtin {g : Generation} {p : BuiltinPlan} {b : MethodBinding}
    (h : r.generate flags = .ok g) (hp : p ∈ g.builtins) (hb : b ∈ p.bindings) :
    b.Planned r .builtin "_method_" := by
  obtain ⟨v, _, hplan⟩ := exists_left (generates_of_generate h).builtins hp
  obtain ⟨m, _, hbind⟩ := bindBuiltin_of_mem hplan b hb
  obtain ⟨exposed, _, hcall⟩ := bind_eq_ok.mp hbind
  exact (planned_of_planCall hcall).1

end Registry

end EngineBindings
