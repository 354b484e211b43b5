import EngineBindings.Plan.Generation
import EngineBindings.Proofs.OrderedMap
import EngineBindings.Proofs.Plan.Planned
import EngineBindings.Proofs.Target.Resized

/-! Bindings in two build configurations.

A width shows in two places of a binding: in the scalar that a value is boxed in, and in the raw
storage of a collection. Everything that a caller sees is the same, and so is the call itself. The
relations follow the parts of a binding from expressions up; the lemmas follow the planning
functions from slots up to bound methods, utility functions and methods of builtins. -/
namespace EngineBindings

open Attempt Code

/-! ### What differs in widths alone -/

/-- Storage that the engine writes a builtin into, by the builtin's size. -/
inductive Code.Expr.IsStorage : Expr → Prop
  | word : IsStorage (.invoke (.native "c_int32") [.literal "0"])
  | doubleWord : IsStorage (.invoke (.native "c_int64") [.literal "0"])
  | pair : IsStorage (.invoke (.cells (.native "c_int64") 2) [])

/-- Two expressions that differ in widths alone: scalars made from the same values, and storage. -/
inductive Code.Expr.Resized : Expr → Expr → Prop
  | same (e : Expr) : Resized e e
  | scalar {s s' : Scalar} (h : s.Resized s') (values : List Expr) :
    Resized (.invoke (.native s.name) values) (.invoke (.native s'.name) values)
  | storage {e e' : Expr} (h : e.IsStorage) (h' : e'.IsStorage) : Resized e e'

/-- Two statements that differ in the width of an assigned value alone. -/
inductive Code.Stmt.Resized : Stmt → Stmt → Prop
  | same (s : Stmt) : Resized s s
  | assign (name : String) {value value' : Expr} (h : value.Resized value') :
    Resized (.assign name value) (.assign name value')

/-- Two slots that differ in widths alone. -/
structure ArgSlot.Resized (a a' : ArgSlot) : Prop where
  name : a'.name = a.name
  schemaType : a'.schemaType = a.schemaType
  target : a.target.Resized a'.target
  passing : a'.passing = a.passing
  setup : List.Forall₂ Stmt.Resized a.setup a'.setup
  native : a'.native = a.native
  default : a'.default = a.default

/-- Two ways back of a result that differ in widths alone. -/
structure ReturnPlan.Resized (p p' : ReturnPlan) : Prop where
  target : p.target.Resized p'.target
  storage : p.storage.Resized p'.storage
  pointer : p'.pointer = p.pointer
  unwrapped : p'.unwrapped = p.unwrapped

/-- Two bindings that differ in widths alone. -/
structure MethodBinding.Resized (b b' : MethodBinding) : Prop where
  owner : b'.owner = b.owner
  method : b'.method = b.method
  exposedName : b'.exposedName = b.exposedName
  handleName : b'.handleName = b.handleName
  isPrivate : b'.isPrivate = b.isPrivate
  kind : b'.kind = b.kind
  args : List.Forall₂ ArgSlot.Resized b.args b'.args
  ret : Option.Rel ReturnPlan.Resized b.ret b'.ret
  unsupported : b'.unsupported = b.unsupported
  requires : b'.requires = b.requires

/-! ### What a caller sees -/

/-- How the arguments of a binding reach the engine, in order. -/
def MethodBinding.passings (b : MethodBinding) : List Passing :=
  b.args.map (·.passing)

theorem ArgSlot.Resized.signature {a a' : ArgSlot} (h : a.Resized a') :
    a'.signature = a.signature := by
  rw [ArgSlot.signature, ArgSlot.signature, h.name, h.target.annotation, h.default]

namespace MethodBinding.Resized

variable {b b' : MethodBinding} (h : b.Resized b')
include h

/-- What is the same of every argument is the same of all of them. -/
theorem map_args {α : Type} {f : ArgSlot → α} (hf : ∀ {a a'}, ArgSlot.Resized a a' → f a' = f a) :
    b'.args.map f = b.args.map f :=
  Attempt.map_eq_map h.args fun _ _ _ ha => hf ha

theorem passings : b'.passings = b.passings :=
  h.map_args (·.passing)

theorem coverKey : b'.coverKey = b.coverKey := by
  rw [MethodBinding.coverKey, MethodBinding.coverKey, h.owner, h.method]

theorem hasReceiver : b'.hasReceiver = b.hasReceiver := by
  rw [MethodBinding.hasReceiver, MethodBinding.hasReceiver, h.method, h.kind]

theorem parameterList : b'.parameterList = b.parameterList := by
  rw [MethodBinding.parameterList, MethodBinding.parameterList, h.hasReceiver,
    h.map_args ArgSlot.Resized.signature]

theorem returnAnnotation : b'.returnAnnotation = b.returnAnnotation := by
  have hret := h.ret
  unfold MethodBinding.returnAnnotation
  generalize b.ret = ret, b'.ret = ret' at hret ⊢
  cases hret with
  | none => rfl
  | some hret => exact hret.target.annotation

/-! ### The emitted body -/

theorem length_args : b'.args.length = b.args.length :=
  h.args.length_eq.symm

theorem isEmpty_args : b'.args.isEmpty = b.args.isEmpty := by
  rw [Bool.eq_iff_iff, List.isEmpty_iff_length_eq_zero, List.isEmpty_iff_length_eq_zero,
    h.length_args]

theorem receiver : b'.receiver = b.receiver := by
  rw [MethodBinding.receiver, MethodBinding.receiver, h.kind]

theorem pointerArray : b'.pointerArray = b.pointerArray := by
  rw [MethodBinding.pointerArray, MethodBinding.pointerArray, h.length_args,
    h.map_args (·.native)]

theorem call : b'.call = b.call := by
  have hret := h.ret
  unfold MethodBinding.call
  rw [h.isEmpty_args, h.length_args, h.receiver, h.method, h.kind, h.owner, h.handleName]
  generalize b.ret = ret, b'.ret = ret' at hret ⊢
  cases hret with
  | none => rfl
  | some hret =>
    dsimp only
    rw [hret.pointer]

/-- The bodies do the same but for the widths of what they make. -/
theorem body : List.Forall₂ Stmt.Resized b.body b'.body := by
  have hret := h.ret
  have same (body : List Stmt) : List.Forall₂ Stmt.Resized body body :=
    List.forall₂_same.mpr fun s _ => .same s
  unfold MethodBinding.body
  rw [h.isEmpty_args, h.pointerArray, h.call]
  have setup : List.Forall₂ Stmt.Resized (b.args.flatMap (·.setup)) (b'.args.flatMap (·.setup)) :=
    List.rel_flatMap h.args fun _ _ ha => ha.setup
  generalize b.ret = ret, b'.ret = ret' at hret ⊢
  refine List.rel_append (List.rel_append (List.rel_append (List.rel_append setup (same _)) ?_)
    (same _)) ?_
  case refine_1 =>
    cases hret with
    | none => exact .nil
    | some hret => exact .cons (.assign _ hret.storage) .nil
  case refine_2 =>
    cases hret with
    | none => exact .nil
    | some hret =>
      dsimp only
      rw [hret.unwrapped]
      exact same _

end MethodBinding.Resized

/-! ### Defaults -/

theorem defaultLiteral_resized {t t' : Target} (h : t.Resized t') (a : ArgumentDef) :
    defaultLiteral a t' = defaultLiteral a t := by
  unfold defaultLiteral
  rw [h.isObject, h.isScalar, h.isEnumeration]

/-- Slots of the same arguments get the same defaults. -/
theorem attachDefaults_resized {slots slots' : List (ArgumentDef × ArgSlot)}
    (h : List.Forall₂ (fun x y => y.1 = x.1 ∧ x.2.Resized y.2) slots slots') :
    Paired (List.Forall₂ ArgSlot.Resized) (attachDefaults slots) (attachDefaults slots') := by
  induction h with
  | nil => exact .ok .nil
  | @cons x y rest rest' hxy hrest ih =>
    obtain ⟨a, slot⟩ := x
    obtain ⟨_, slot'⟩ := y
    obtain ⟨rfl, hslot⟩ := hxy
    rw [attachDefaults, attachDefaults, defaultLiteral_resized hslot.target]
    refine Paired.bind_same fun literal _ => ?_
    cases literal with
    | none => exact .ok (.cons hslot (List.rel_map (fun _ _ h => h.2) hrest))
    | some literal => exact ih.bind fun _ _ h => .ok (.cons { hslot with default := rfl } h)

/-- Arguments beside their slots. -/
theorem zip_resized (args : List ArgumentDef) {slots slots' : List ArgSlot}
    (h : List.Forall₂ ArgSlot.Resized slots slots') :
    List.Forall₂ (fun x y => y.1 = x.1 ∧ x.2.Resized y.2) (args.zip slots) (args.zip slots') := by
  induction h generalizing args with
  | nil =>
    rw [List.zip_nil_right]
    exact .nil
  | cons hslot _ ih =>
    cases args with
    | nil => exact .nil
    | cons a rest => exact .cons ⟨rfl, hslot⟩ (ih rest)

namespace Registry

theorem storage_isStorage {r : Registry} {name : Name} {e : Expr} (h : r.storage name = .ok e) :
    e.IsStorage := by
  obtain ⟨size, _, h⟩ := Attempt.bind_eq_ok.mp h
  split at h
  · cases h
    exact .word
  · split at h
    · cases h
      exact .doubleWord
    · split at h
      · cases h
        exact .pair
      · cases h

namespace Resized

variable {r r' : Registry} (h : Resized r r')
include h

/-! ### Slots and results -/

theorem argSlot (use : TypeUse) (a : ArgumentDef) :
    Paired ArgSlot.Resized (r.argSlot use a) (r'.argSlot use a) := by
  unfold Registry.argSlot
  rw [h.sameNames.needsCopy]
  refine Paired.bind_same fun name _ => (h.argumentTarget a use).bind fun t t' ht => ?_
  dsimp only
  rw [ht.isEnumeration, ht.isObject, ht.host]
  split
  · rcases ht.scalar? with ⟨hs, hs'⟩ | ⟨s, s', hs, hs', scalars⟩
    · rw [hs, hs']
      exact .ok ⟨rfl, rfl, ht, rfl, .cons (.same _) .nil, rfl, rfl⟩
    · rw [hs, hs']
      dsimp only
      split
      · exact .ok ⟨rfl, rfl, ht, rfl, .cons (.same _) .nil, rfl, rfl⟩
      · exact .ok ⟨rfl, rfl, ht, rfl, .cons (.assign _ (.scalar scalars _)) .nil, rfl, rfl⟩
  · split
    · exact .ok ⟨rfl, rfl, ht, rfl, .cons (.same _) .nil, rfl, rfl⟩
    · exact .ok ⟨rfl, rfl, ht, rfl, .nil, rfl, rfl⟩

theorem argSlots (use : TypeUse) (args : List ArgumentDef) :
    Paired (List.Forall₂ ArgSlot.Resized) (r.argSlots use args) (r'.argSlots use args) := by
  refine (Paired.mapM_same fun a _ => h.argSlot use a).bind fun slots slots' hslots => ?_
  have entries := List.rel_reverse (zip_resized args hslots)
  exact (attachDefaults_resized entries).bind fun _ _ hs => .ok (List.rel_reverse hs)

omit h in
theorem storage (name : Name) : Paired Expr.Resized (r.storage name) (r'.storage name) :=
  fun _ _ he he' => .storage (storage_isStorage he) (storage_isStorage he')

theorem returnPlan (use : TypeUse) (m : MethodDef) (type : TypeRef) :
    Paired ReturnPlan.Resized (r.returnPlan use m type) (r'.returnPlan use m type) := by
  unfold Registry.returnPlan
  rw [h.hasSubclasses]
  refine (h.target type m.returnTag use).bind fun t t' ht => ?_
  refine (h.defaultValue type).bind fun zero _ hzero => ?_
  obtain rfl := hzero
  dsimp only
  cases ht with
  | same t =>
    cases t with
    | typedArray element spelling =>
      exact (storage "Array").bind fun _ _ he => .ok ⟨.same _, he, rfl, rfl⟩
    | coreValue name isStruct =>
      cases isStruct <;> exact .ok ⟨.same _, .same _, rfl, rfl⟩
    | _ => exact .ok ⟨.same _, .same _, rfl, rfl⟩
  | int w w' signed =>
    exact .ok ⟨.int w w' signed, .scalar (.int w w' signed) _, rfl, rfl⟩
  | float spelling w w' =>
    refine .ok ⟨.float spelling w w', .scalar ?_ _, rfl, rfl⟩
    split <;> split <;> constructor
  | object name w w' => exact .ok ⟨.object name w w', .same _, rfl, rfl⟩
  | pointer spelling w w' => exact .ok ⟨.pointer spelling w w', .same _, rfl, rfl⟩
  | @typedArray e e' he spelling =>
    refine (storage "Array").bind fun _ _ hs => .ok ⟨.typedArray he spelling, hs, rfl, ?_⟩
    rw [he.host]

theorem resultPlan (use : TypeUse) (m : MethodDef) :
    Paired (Option.Rel ReturnPlan.Resized) (r.resultPlan use m) (r'.resultPlan use m) := by
  unfold Registry.resultPlan
  split
  · exact (h.returnPlan use m _).map fun _ _ hret => .some hret
  · exact .ok .none

/-! ### Calls into the engine -/

theorem callRequirements (owner : Name) {args args' : List ArgSlot} {ret ret' : Option ReturnPlan}
    (hargs : List.Forall₂ ArgSlot.Resized args args')
    (hret : Option.Rel ReturnPlan.Resized ret ret') :
    r'.callRequirements owner args' ret' = r.callRequirements owner args ret := by
  have ofArgs : args'.flatMap (·.target.requirements) = args.flatMap (·.target.requirements) := by
    rw [List.flatMap_def, List.flatMap_def,
      Attempt.map_eq_map hargs fun _ _ _ ha => ha.target.requirements]
  unfold Registry.callRequirements
  rw [ofArgs, h.hasSubclasses]
  cases hret with
  | none => rfl
  | @some p p' hp =>
    dsimp only
    have ht := hp.target
    rw [ht.requirements]
    generalize p.target = t, p'.target = t' at ht ⊢
    cases ht <;> rfl

theorem planCall (owner : Name) (m : MethodDef) (exposedName handleName : String)
    (isPrivate : Bool) (kind : BindingKind) (use : TypeUse) :
    Paired MethodBinding.Resized
      (r.planCall owner m exposedName handleName isPrivate kind use)
      (r'.planCall owner m exposedName handleName isPrivate kind use) := by
  rw [planCall_eq, planCall_eq]
  split
  · exact .ok ⟨rfl, rfl, rfl, rfl, rfl, rfl, .nil, .none, rfl, rfl⟩
  · refine (h.argSlots use m.arguments).bind fun args args' hargs => ?_
    refine (h.resultPlan use m).bind fun ret ret' hret => ?_
    exact .ok ⟨rfl, rfl, rfl, rfl, rfl, rfl, hargs, hret, rfl, h.callRequirements owner hargs hret⟩

theorem bindMethod (c : ClassDef) (m : MethodDef) (referenced : List Name) :
    Paired MethodBinding.Resized (r.bindMethod c m referenced) (r'.bindMethod c m referenced) :=
  Paired.bind_same fun _ _ => h.planCall _ _ _ _ _ _ _

theorem bindUtility (u : UtilityDef) :
    Paired MethodBinding.Resized (r.bindUtility u) (r'.bindUtility u) :=
  Paired.bind_same fun _ _ => h.planCall _ _ _ _ _ _ _

theorem bindBuiltin (b : BuiltinDef) (m : MethodDef) :
    Paired MethodBinding.Resized (r.bindBuiltin b m) (r'.bindBuiltin b m) :=
  Paired.bind_same fun _ _ => h.planCall _ _ _ _ _ _ _

end Resized

end Registry

/-! ### Trampolines

A proxy reads its slots by their sizes and stores its result into a slot of the result's size, so
that two proxies of one method may differ there. The method that an extension overrides does not: a
virtual method is left out for the same reason or taken with the same name, parameters, result and
zero value, and it stands in the dispatch table under the same name. -/

/-- Two arguments of proxies that are read from slots of their sizes. -/
structure TrampolineArg.Resized (a a' : TrampolineArg) : Prop where
  name : a'.name = a.name
  target : a.target.Resized a'.target

/-- Two trampolines that differ in widths and in the sizes of slots alone. -/
structure Trampoline.Resized (t t' : Trampoline) : Prop where
  owner : t'.owner = t.owner
  method : t'.method = t.method
  exposedName : t'.exposedName = t.exposedName
  proxyName : t'.proxyName = t.proxyName
  args : List.Forall₂ TrampolineArg.Resized t.args t'.args
  ret : Option.Rel Target.Resized t.ret t'.ret
  default : t'.default = t.default
  requires : t'.requires = t.requires

namespace Trampoline.Resized

variable {t t' : Trampoline} (h : t.Resized t')
include h

theorem parameterList : t'.parameterList = t.parameterList := by
  rw [Trampoline.parameterList, Trampoline.parameterList,
    map_eq_map h.args fun _ _ _ ha => by rw [ha.name, ha.target.annotation]]

theorem returnAnnotation : t'.returnAnnotation = t.returnAnnotation := by
  have hret := h.ret
  unfold Trampoline.returnAnnotation
  generalize t.ret = ret, t'.ret = ret' at hret ⊢
  cases hret with
  | none => rfl
  | some ht => exact ht.annotation

end Trampoline.Resized

/-! ### Obstacles -/

theorem argumentObstacle_resized {t t' : Target} (h : t.Resized t') (a : ArgumentDef) :
    argumentObstacle a t' = argumentObstacle a t := by
  cases h <;> rfl

namespace Registry.Resized

variable {r r' : Registry} (h : Resized r r')
include h

theorem argumentsObstacle (args : List ArgumentDef) :
    Paired Eq (r.argumentsObstacle args) (r'.argumentsObstacle args) := by
  induction args with
  | nil => exact .ok rfl
  | cons a rest ih =>
    rw [Registry.argumentsObstacle, Registry.argumentsObstacle]
    refine (h.argumentTarget a .member).bind fun t t' ht => ?_
    rw [argumentObstacle_resized ht]
    split
    · exact .ok rfl
    · exact ih

theorem rejection (m : MethodDef) : Paired Eq (r.rejection m) (r'.rejection m) := by
  unfold Registry.rejection
  split
  · exact .ok rfl
  · exact h.argumentsObstacle m.arguments

/-! ### Virtual methods -/

theorem trampolineArg (a : ArgumentDef) (index : Nat) :
    Paired TrampolineArg.Resized (r.trampolineArg a index) (r'.trampolineArg a index) := by
  refine (h.argumentTarget a .member).bind fun t t' ht => Paired.bind_same fun name _ => ?_
  exact Paired.bind_any fun _ _ => .ok ⟨rfl, ht⟩

/-- The result of a trampoline, with the zero value that stands in for it. -/
theorem trampolineSlots (m : MethodDef) :
    Paired
      (fun slots slots' => List.Forall₂ TrampolineArg.Resized slots.1 slots'.1 ∧
        Option.Rel (fun x y => x.1.Resized y.1 ∧ y.2.2 = x.2.2) slots.2 slots'.2)
      (r.trampolineSlots m) (r'.trampolineSlots m) := by
  unfold Registry.trampolineSlots
  refine (Paired.mapM_same fun entry _ => h.trampolineArg entry.1 entry.2).bind
    fun args args' hargs => ?_
  split
  · exact .ok ⟨hargs, .none⟩
  · refine (h.target _ m.returnTag .member).bind fun t t' ht => ?_
    refine Paired.bind_any fun store store' => ?_
    exact (h.defaultValue _).bind fun zero zero' hzero => .ok ⟨hargs, .some ⟨ht, hzero.symm⟩⟩

theorem trampoline (c : ClassDef) (m : MethodDef) :
    Paired Trampoline.Resized (r.trampoline c m) (r'.trampoline c m) := by
  unfold Registry.trampoline
  refine (h.trampolineSlots m).bind ?_
  rintro ⟨args, ret⟩ ⟨args', ret'⟩ ⟨hargs, hret⟩
  refine Paired.bind_same fun exposedName _ => .ok ?_
  have live : args'.flatMap (fun a => a.target.requirements ++
        if a.target.isObject then [⟨.runtime, "lookup_live_object"⟩] else []) =
      args.flatMap fun a => a.target.requirements ++
        if a.target.isObject then [⟨.runtime, "lookup_live_object"⟩] else [] := by
    rw [List.flatMap_def, List.flatMap_def,
      map_eq_map hargs fun _ _ _ ha => by rw [ha.target.requirements, ha.target.isObject]]
  dsimp only at hargs hret ⊢
  rw [live]
  cases hret with
  | none => exact ⟨rfl, rfl, rfl, rfl, hargs, .none, rfl, rfl⟩
  | some hret =>
    obtain ⟨ht, hzero⟩ := hret
    refine ⟨rfl, rfl, rfl, rfl, hargs, .some ht, ?_, ?_⟩
    · exact congrArg some hzero
    · dsimp only
      rw [ht.requirements]

theorem acceptVirtual (c : ClassDef) (m : MethodDef) :
    Paired (ResultRel Trampoline.Resized) (r.acceptVirtual c m) (r'.acceptVirtual c m) := by
  refine (h.rejection m).bind fun reason _ hreason => ?_
  obtain rfl := hreason
  cases reason with
  | some reason => exact .ok (.error _)
  | none => exact (h.trampoline c m).map fun _ _ ht => .ok ht

end Registry.Resized

/-! ### Dispatch tables -/

/-- Two dispatch tables that list the same names for trampolines which differ in widths alone. -/
structure DispatchTable.Resized (t t' : DispatchTable) : Prop where
  owner : t'.owner = t.owner
  parent : t'.parent = t.parent
  entries : List.Forall₂ (OrderedMap.EntryRel Trampoline.Resized) t.entries.entries
    t'.entries.entries

theorem ofTrampolines_resized (c : ClassDef) {virtuals virtuals' : List Trampoline}
    (h : List.Forall₂ Trampoline.Resized virtuals virtuals') :
    Paired DispatchTable.Resized (DispatchTable.ofTrampolines c virtuals)
      (DispatchTable.ofTrampolines c virtuals') := by
  have entry (t t' : Trampoline) (ht : t.Resized t') :
      Paired (OrderedMap.EntryRel Trampoline.Resized)
        (do return (← t.method.name.keyed, t)) (do return (← t'.method.name.keyed, t')) := by
    rw [ht.method]
    exact Paired.bind_same fun _ _ => .ok ⟨rfl, ht⟩
  refine (Paired.mapM h entry).bind fun entries entries' hentries => .ok ?_
  exact ⟨rfl, rfl, OrderedMap.forall₂_ofList hentries⟩

end EngineBindings
