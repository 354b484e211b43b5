import EngineBindings.Proofs.Plan.BoundReads

/-! What a bound callable is meant to do.

`MethodBinding.callEngine` says it without names: hold what is there of every argument, point the
engine to it in the order of the arguments, make storage for the result, call the engine and unwrap
what it has written. The statements of a binding are those of the ways in which its arguments are
handed over and its result comes back (`settled_of_binds`). -/
namespace EngineBindings

open EngineBindings.Code Attempt

variable {M : Type → Type} [Monad M] {V : Type}

/-! ### Arguments -/

namespace Handing

/-- What is there of an argument during the call: the cell that it is boxed in, or the value. -/
def hold (handing : Handing) (w : World M V) (v : V) : M V :=
  match handing with
  | number => w.invoke (w.native "c_int64") [w.invoke (w.named "int") [pure v]]
  | scalar type => w.invoke (w.native type.name) [pure v]
  | struct host => w.invoke (do w.attr (← w.named host) "from_buffer_copy") [pure v]
  | object =>
    w.invoke (w.native "c_void_p")
      [if w.isNone v then pure (w.literal "None") else w.attr v "handle"]
  | content => pure v

/-- The address that the engine is given: of the cell, or of the value's content. -/
def point (handing : Handing) (w : World M V) (held : V) : M V :=
  w.invoke (w.native "addressof")
    [match handing with
      | content => w.attr held "content"
      | _ => pure held]

/-- The name under which it is there: that of the cell, or of the argument. -/
def kept (handing : Handing) (name : String) : String :=
  (handing.cell? name).getD name

/-- The names of the module that handing an argument over reads. -/
def moduleNames : Handing → List String
  | number => ["ctypes", "int"]
  | struct host => ["ctypes", root host]
  | _ => ["ctypes"]

variable {handing : Handing} {name : String}

theorem ctypes_mem_moduleNames : "ctypes" ∈ handing.moduleNames := by
  cases handing <;> exact List.mem_cons_self

theorem notMem_kept (h : '.' ∉ name.toList) : '.' ∉ (handing.kept name).toList := by
  unfold kept
  cases hcell : handing.cell? name with
  | none => exact h
  | some cell => exact notMem_of_cell? h hcell

theorem hold_of_no_cell {w : World M V} (h : handing.cell? name = none) (v : V) :
    handing.hold w v = pure v := by
  cases handing with
  | content => rfl
  | number | scalar _ | struct _ | object => cases h

theorem kept_of_cell {cell : String} (h : handing.cell? name = some cell) :
    handing.kept name = cell := by
  rw [kept, h, Option.getD_some]

theorem kept_of_no_cell (h : handing.cell? name = none) : handing.kept name = name := by
  rw [kept, h, Option.getD_none]

theorem setup_of_no_cell (h : handing.cell? name = none) : handing.setup name = [] := by
  rw [setup, h, Option.toList_none, List.map_nil]

variable [LawfulMonad M] {w : World M V} {locals : List String} {env : String → Option V}

/-- The statement in front of the call puts into the cell what is there of the argument. -/
theorem execute_setup {cell : String} {v : V} (rest : List Stmt) (plain : '.' ∉ name.toList)
    (hfree : ∀ n ∈ handing.moduleNames, spelled n ∉ locals) (hlocal : spelled name ∈ locals)
    (hv : env (spelled name) = some v) (hcell : handing.cell? name = some cell) :
    execute w locals (handing.setup name ++ rest) env = handing.hold w v >>= fun held =>
      execute w locals rest (bindName env cell held) := by
  have argument : w.follow (w.read locals env) name = pure v :=
    (follow_of_root (root_eq_self plain)).trans (read_of_bound hlocal hv)
  have native := hfree "ctypes" ctypes_mem_moduleNames
  rw [setup, hcell]
  cases handing with
  | number =>
    have int : w.follow (w.read locals env) "int" = w.named "int" :=
      follow_of_free (hfree "int" (by simp [moduleNames]))
    simp [box, hold, execute, Expr.apply, eval_invoke, Expr.eval, eval_native _ native, int,
      argument]
  | scalar type =>
    simp [box, hold, execute, eval_invoke, Expr.eval, eval_native _ native, argument]
  | struct host =>
    have struct : w.follow (w.read locals env) host = w.named host :=
      follow_of_free (hfree (root host) (by simp [moduleNames]))
    simp [box, hold, execute, eval_invoke, Expr.eval, struct, argument]
  | object =>
    simp [box, hold, execute, eval_invoke, Expr.eval, Expr.none, eval_native _ native, argument,
      w.isTrue_truth]
  | content => cases hcell

/-- The address is that of what is there under the name. -/
theorem eval_pointer {held : V} (plain : '.' ∉ name.toList) (native : spelled "ctypes" ∉ locals)
    (hlocal : spelled (handing.kept name) ∈ locals)
    (hheld : env (spelled (handing.kept name)) = some held) :
    (handing.native name).eval w (w.read locals env) = handing.point w held := by
  have there : w.follow (w.read locals env) (handing.kept name) = pure held :=
    (follow_of_root (root_eq_self (notMem_kept plain))).trans (read_of_bound hlocal hheld)
  cases handing with
  | content =>
    have there : w.follow (w.read locals env) name = pure held := there
    simp [Handing.native, cell?, box, point, eval_invoke, Expr.eval, eval_native _ native, there]
  | number | scalar _ | struct _ | object =>
    simp only [kept, cell?, Option.getD_some] at there
    simp [Handing.native, cell?, point, eval_invoke, Expr.eval, eval_native _ native, there]

end Handing

/-! ### Results -/

/-- How a result is made of its storage. -/
inductive Unwrapping where
  /-- The number in the storage. -/
  | number
  /-- The storage itself: a structure, or another value with its content. -/
  | whole (isStruct : Bool)
  /-- The member of an enumeration. -/
  | member (host : String)
  /-- A typed array of the given elements. -/
  | collection (host : String)
  /-- The object that is looked up by its handle. -/
  | found
  /-- An object of a class, made of its handle. -/
  | made (host : String)

namespace Unwrapping

/-- The address that the engine is given. -/
def pointer : Unwrapping → Expr
  | whole false => .invoke (.native "byref") [.attr (.name resultName) "content"]
  | _ => .invoke (.native "byref") [.name resultName]

/-- The result. -/
def expr : Unwrapping → Expr
  | number => .attr (.name resultName) "value"
  | whole _ => .name resultName
  | member host => .apply host [.attr (.name resultName) "value"]
  | collection host =>
    .call (.name "GodotCollection")
      (.cons none (.name host) (.cons (some "content") (.name resultName) .nil))
  | found =>
    .choose (.apply "lookup_object" [.attr (.name resultName) "value"])
      (.attr (.name resultName) "value") .none
  | made host =>
    .choose
      (.call (.name host) (.cons (some "native_handle") (.attr (.name resultName) "value") .nil))
      (.attr (.name resultName) "value") .none

/-- The names of the module that the result is made with. -/
def moduleNames : Unwrapping → List String
  | number | whole _ => []
  | member host | made host => [root host]
  | collection host => ["GodotCollection", root host]
  | found => ["lookup_object"]

/-- What the engine is meant to be pointed to. -/
def point (unwrapping : Unwrapping) (w : World M V) (cell : V) : M V :=
  w.invoke (w.native "byref")
    [match unwrapping with
      | whole false => w.attr cell "content"
      | _ => pure cell]

/-- What the result is meant to be. -/
def unwrap (unwrapping : Unwrapping) (w : World M V) (cell : V) : M V :=
  match unwrapping with
  | number => w.attr cell "value"
  | whole _ => pure cell
  | member host => w.invoke (w.named host) [w.attr cell "value"]
  | collection host => do
    let collection ← w.named "GodotCollection"
    let element ← w.named host
    w.call collection [(none, element), (some "content", cell)]
  | found => do
    if ← w.isTrue (← w.attr cell "value") then
      w.invoke (w.named "lookup_object") [w.attr cell "value"]
    else return w.literal "None"
  | made host => do
    if ← w.isTrue (← w.attr cell "value") then
      let object ← w.named host
      w.call object [(some "native_handle", ← w.attr cell "value")]
    else return w.literal "None"

section Eval

variable [LawfulMonad M] {w : World M V} {locals : List String} {env : String → Option V}
  {unwrapping : Unwrapping} {cell : V}

theorem follow_result (hlocal : spelled resultName ∈ locals)
    (hcell : env (spelled resultName) = some cell) :
    w.follow (w.read locals env) resultName = pure cell :=
  (follow_of_root (by decide)).trans (read_of_bound hlocal hcell)

theorem eval_pointer (native : spelled "ctypes" ∉ locals) (hlocal : spelled resultName ∈ locals)
    (hcell : env (spelled resultName) = some cell) :
    unwrapping.pointer.eval w (w.read locals env) = unwrapping.point w cell := by
  have storage := follow_result (w := w) hlocal hcell
  unfold pointer point
  split <;> simp [eval_invoke, Expr.eval, eval_native _ native, storage]

theorem eval_expr (hfree : ∀ n ∈ unwrapping.moduleNames, spelled n ∉ locals)
    (hlocal : spelled resultName ∈ locals) (hcell : env (spelled resultName) = some cell) :
    unwrapping.expr.eval w (w.read locals env) = unwrapping.unwrap w cell := by
  have storage := follow_result (w := w) hlocal hcell
  have meant (path : String) (h : root path ∈ unwrapping.moduleNames) :
      w.follow (w.read locals env) path = w.named path := follow_of_free (hfree _ h)
  cases unwrapping with
  | number | whole isStruct => simp [expr, unwrap, Expr.eval, storage]
  | member host =>
    have host_read := meant host (by simp [moduleNames])
    simp [expr, unwrap, Expr.apply, eval_invoke, Expr.eval, storage, host_read]
  | collection host =>
    have collection_read := meant "GodotCollection" (by simp [moduleNames, root])
    have host_read := meant host (by simp [moduleNames])
    simp [expr, unwrap, Expr.eval, Arguments.eval, storage, collection_read, host_read]
  | found =>
    have lookup_read := meant "lookup_object" (by simp [moduleNames, root])
    simp [expr, unwrap, Expr.apply, eval_invoke, Expr.eval, Expr.none, storage, lookup_read]
  | made host =>
    have host_read := meant host (by simp [moduleNames])
    simp [expr, unwrap, Expr.eval, Arguments.eval, Expr.none, storage, host_read]

end Eval

end Unwrapping

namespace Code

mutual

/-- Whether all parts of an expression are worked out, whatever they are worth. -/
def Expr.isStraight : Expr → Bool
  | .name _ | .literal _ => true
  | .attr target _ | .item target _ | .cells target _ | .isNone target => target.isStraight
  | .call callee arguments => callee.isStraight && arguments.areStraight
  | .orElse _ _ | .choose _ _ _ => false

def Arguments.areStraight : Arguments → Bool
  | .nil => true
  | .cons _ value rest => value.isStraight && rest.areStraight

end

end Code

/-- The parts of a result are those of a way to unwrap it. -/
structure ReturnPlan.Settled (ret : ReturnPlan) (unwrapping : Unwrapping) : Prop where
  storage : ret.storage.isStraight = true
  pointer : ret.pointer = unwrapping.pointer
  unwrapped : ret.unwrapped = unwrapping.expr

namespace Registry

variable {r : Registry}

/-- How a result of a type is made of its storage. -/
def unwrapping (r : Registry) (target : Target) : Unwrapping :=
  match target with
  | .enum _ host _ | .bitfield _ host _ => .member host
  | .typedArray element _ => .collection element.host
  | .object name _ => if r.hasSubclasses name then .found else .made name
  | target => if target.scalar?.isSome then .number else .whole target.isStruct

theorem isStraight_defaultValue {type : TypeRef} {zero : Expr}
    (h : r.defaultValue type = .ok zero) : zero.isStraight = true := by
  cases type with
  | primitive p =>
    cases p <;>
      (cases h
       rfl)
  | enum name =>
    have h := mapError_eq_ok.mp h
    unfold enumDefault at h
    split at h
    · cases h
      rfl
    · split at h
      · split at h
        · cases h
          rfl
        · obtain ⟨member, _, rfl⟩ := map_eq_ok.mp h
          rfl
      · cases h
        rfl
  | typedArray element =>
    obtain ⟨target, _, h⟩ := bind_eq_ok.mp h
    cases h
    rfl
  | value name =>
    unfold defaultValue at h
    dsimp only at h
    split at h <;>
      (cases h
       rfl)
  | bitfield | object | pointer | bare =>
    cases h
    rfl

theorem isStraight_storage {name : Name} {e : Expr} (h : r.storage name = .ok e) :
    e.isStraight = true := by
  obtain ⟨size, _, h⟩ := bind_eq_ok.mp h
  split at h
  · cases h
    rfl
  · split at h
    · cases h
      rfl
    · split at h
      · cases h
        rfl
      · cases h

/-- A result is planned with the parts of its way to be unwrapped. -/
theorem settled_of_returnPlan {use : TypeUse} {m : MethodDef} {type : TypeRef} {ret : ReturnPlan}
    (h : r.returnPlan use m type = .ok ret) : ret.Settled (r.unwrapping ret.target) := by
  unfold returnPlan at h
  obtain ⟨target, _, h⟩ := bind_eq_ok.mp h
  obtain ⟨zero, hzero, h⟩ := bind_eq_ok.mp h
  have straight := isStraight_defaultValue hzero
  have converted (field : String) :
      (Expr.invoke (.native field) [zero]).isStraight = true := by
    simp [Expr.invoke, Expr.native, Expr.isStraight, Arguments.ofList, Arguments.areStraight,
      straight]
  have numbered :
      (Expr.invoke (.native "c_int64") [.apply "int" [zero]]).isStraight = true := by
    simp [Expr.invoke, Expr.apply, Expr.native, Expr.isStraight, Arguments.ofList,
      Arguments.areStraight, straight]
  cases target with
  | enum | bitfield =>
    cases h
    exact ⟨numbered, rfl, rfl⟩
  | typedArray element spelling =>
    obtain ⟨storage, hstorage, h⟩ := bind_eq_ok.mp h
    cases h
    exact ⟨isStraight_storage hstorage, rfl, rfl⟩
  | object name width =>
    cases h
    dsimp only [unwrapping]
    split <;> exact ⟨rfl, rfl, rfl⟩
  | bool | int | float | pointer =>
    cases h
    exact ⟨converted _, rfl, rfl⟩
  | coreValue name isStruct =>
    cases isStruct <;>
      (cases h
       exact ⟨straight, rfl, rfl⟩)
  | void | string | variant =>
    cases h
    exact ⟨straight, rfl, rfl⟩

/-! ### What is planned for arguments -/

/-- A slot hands an argument over under the argument's name, the way its type is handed over. -/
structure Enters (r : Registry) (a : ArgumentDef) (slot : ArgSlot) : Prop where
  name : a.name.sanitize = .ok slot.name
  handed : slot.Handed (r.handing a.type slot.target)

/-- The slots hand over the arguments, one each and in their order. -/
theorem enters_of_argSlots {use : TypeUse} {args : List ArgumentDef} {slots : List ArgSlot}
    (h : r.argSlots use args = .ok slots) : List.Forall₂ r.Enters args slots := by
  refine (planned_of_argSlots h).imp ?_
  rintro a slot ⟨fresh, hfresh, default, rfl⟩
  have handed := handed_of_argSlot hfresh
  refine ⟨?_, handed.name, handed.setup, handed.native⟩
  rw [argSlot_eq] at hfresh
  obtain ⟨name, hname, hfresh⟩ := bind_eq_ok.mp hfresh
  obtain ⟨target, _, hfresh⟩ := bind_eq_ok.mp hfresh
  cases hfresh
  exact mapError_eq_ok.mp hname

end Registry

namespace ArgSlot

/-- Preparing the argument gives a name another value. -/
def Rebinds (slot : ArgSlot) (name : String) : Prop :=
  spelled name ∈ (bindsOf slot.setup).map spelled

/-- The name under which the argument is there when the engine is pointed to it. -/
def kept (slot : ArgSlot) : String :=
  (bindsOf slot.setup).head?.getD slot.name

variable {slot : ArgSlot} {handing : Handing}

theorem Handed.kept_eq (h : slot.Handed handing) : slot.kept = handing.kept slot.name := by
  rw [ArgSlot.kept, h.setup, Handing.bindsOf_setup, Handing.kept, Option.head?_toList]

theorem Handed.rebinds_iff (h : slot.Handed handing) {name : String} :
    slot.Rebinds name ↔ ∃ cell, handing.cell? slot.name = some cell ∧
      spelled cell = spelled name := by
  rw [Rebinds, h.setup, Handing.bindsOf_setup, List.mem_map]
  simp only [Option.mem_toList]

/-- What is bound is what the engine is pointed to. -/
theorem Handed.spelled_of_rebinds (h : slot.Handed handing) {name : String}
    (hname : slot.Rebinds name) : spelled slot.kept = spelled name := by
  obtain ⟨cell, hcell, hspelled⟩ := h.rebinds_iff.mp hname
  rw [h.kept_eq, Handing.kept_of_cell hcell, hspelled]

end ArgSlot

/-! ### Bindings -/

namespace MethodBinding

/-- How the arguments are handed over, in order. -/
def handings (r : Registry) (b : MethodBinding) : List Handing :=
  List.zipWith (fun a slot => r.handing a.type slot.target) b.method.arguments b.args

/-- The path that leads to the engine's handle of the callable. -/
def handlePath (b : MethodBinding) : String :=
  match b.kind with
  | .method => b.owner.display
  | .utility => b.handleName
  | .builtin holder _ => holder.display

/-- The names of the module that the address of the object is taken with. -/
def receiverNames (b : MethodBinding) : List String :=
  match b.kind with
  | .builtin _ _ => if b.method.isStatic then [] else ["ctypes"]
  | _ => []

/-- The names of the module that a body is meant to read. -/
def moduleNames (r : Registry) (b : MethodBinding) : List String :=
  "gi" :: root b.handlePath :: b.receiverNames ++ (b.handings r).flatMap (·.moduleNames) ++
    match b.ret with
    | some ret => "ctypes" :: ret.storage.reads ++ (r.unwrapping ret.target).moduleNames
    | none => []

theorem forall_moduleNames {r : Registry} {b : MethodBinding} {p : String → Prop} :
    (∀ name ∈ b.moduleNames r, p name) ↔
      p "gi" ∧ p (root b.handlePath) ∧ (∀ name ∈ b.receiverNames, p name) ∧
        (∀ handing ∈ b.handings r, ∀ name ∈ handing.moduleNames, p name) ∧
        ∀ ret, b.ret = some ret → p "ctypes" ∧ (∀ name ∈ ret.storage.reads, p name) ∧
          ∀ name ∈ (r.unwrapping ret.target).moduleNames, p name := by
  have results : (∀ name ∈ (match b.ret with
      | some ret => "ctypes" :: ret.storage.reads ++ (r.unwrapping ret.target).moduleNames
      | none => []), p name) ↔
      ∀ ret, b.ret = some ret → p "ctypes" ∧ (∀ name ∈ ret.storage.reads, p name) ∧
        ∀ name ∈ (r.unwrapping ret.target).moduleNames, p name := by
    cases b.ret with
    | none => simp
    | some ret =>
      simp only [List.cons_append, List.forall_mem_cons, List.forall_mem_append, Option.some.injEq,
        forall_eq']
  have handed : (∀ name ∈ (b.handings r).flatMap (·.moduleNames), p name) ↔
      ∀ handing ∈ b.handings r, ∀ name ∈ handing.moduleNames, p name := by
    simp only [List.mem_flatMap, forall_exists_index, and_imp]
    exact ⟨fun h handing hh n hn => h n handing hh hn, fun h n handing hh hn => h handing hh n hn⟩
  rw [moduleNames, List.cons_append, List.cons_append, List.cons_append, List.cons_append,
    List.forall_mem_cons, List.forall_mem_cons, List.append_assoc, List.forall_mem_append,
    List.forall_mem_append, handed, results]

/-! ### What is meant -/

section Meant

variable (b : MethodBinding) (w : World M V)

/-- The engine's handle of the callable. -/
def resolve : M V :=
  let found : M V := match b.kind with
    | .utility => w.named b.handleName
    | _ => do w.attr (← w.named b.handlePath) b.handleName
  w.invoke (do w.attr (← found) "resolve") []

/-- The address of the object that the callable is called on. -/
def address (receiver : V) : M V :=
  if b.method.isStatic then pure (w.literal "None")
  else match b.kind with
    | .builtin _ true => w.invoke (w.native "addressof") [pure receiver]
    | .builtin _ false => w.invoke (w.native "addressof") [w.attr receiver "content"]
    | _ => w.attr receiver "handle"

/-- The call of the engine, given the array of addresses and the address for the result. -/
def enter (receiver arguments : V) (result : M V) : M V :=
  let function (name : String) : M V := do w.attr (← w.named "gi") name
  let count : M V := pure (w.literal (Number.decimal b.args.length))
  match b.kind with
  | .method =>
    w.invoke (function "object_method_bind_ptrcall")
      [b.resolve w, b.address w receiver, pure arguments, result]
  | .utility =>
    w.invoke (function "call_utility_function") [b.resolve w, result, pure arguments, count]
  | .builtin _ _ =>
    w.invoke (function "call_builtin_method_ptr")
      [b.resolve w, b.address w receiver, pure arguments, result, count]

/-- Makes storage for the result, calls the engine and unwraps what it has written. -/
def finish (r : Registry) (receiver arguments : V) : M (Option V) :=
  match b.ret with
  | some ret => do
    let unwrapping := r.unwrapping ret.target
    let cell ← ret.storage.eval w fun name => w.global (spelled name)
    let _ ← b.enter w receiver arguments (unwrapping.point w cell)
    some <$> unwrapping.unwrap w cell
  | none => do
    let _ ← b.enter w receiver arguments (pure (w.literal "None"))
    return none

/-- Points the engine to what is held of the arguments, in their order. -/
def callHeld (r : Registry) (receiver : V) (held : List V) : M (Option V) := do
  if b.args.isEmpty then b.finish w r receiver (w.literal "None")
  else
    let array ← w.invoke (do w.cells (← w.native "c_void_p") b.args.length)
      (List.zipWith (fun handing v => handing.point w v) (b.handings r) held)
    b.finish w r receiver array

/-- What a call is meant to do, given the object, if there is one, and a value for every
argument. -/
def callEngine (r : Registry) (receiver : V) (values : List V) : M (Option V) := do
  let held ← (List.zipWith (fun handing v => handing.hold w v) (b.handings r) values).mapM id
  b.callHeld w r receiver held

end Meant

/-! ### What is done -/

/-- The parameters of an emitted callable with their values. -/
def arguments (b : MethodBinding) (receiver : V) (values : List V) : List (String × V) :=
  (if b.hasReceiver then [("self", receiver)] else []) ++ (b.args.map (·.name)).zip values

/-- What a call does. -/
def run (b : MethodBinding) (w : World M V) (receiver : V) (values : List V) : M (Option V) :=
  runFunction w (b.arguments receiver values) b.body

/-- The names that a body has of its own. -/
def locals (b : MethodBinding) : List String :=
  localNames b.parameters b.body

/-- The address that the engine is given for the result. -/
def resultPointer (b : MethodBinding) : Expr :=
  match b.ret with
  | some ret => ret.pointer
  | none => .none

/-- What is left of a body when the array of addresses has been made. -/
def closing (b : MethodBinding) : List Stmt :=
  match b.ret with
  | some ret => [ret.store, .exec b.call, .result ret.unwrapped]
  | none => [.exec b.call]

/-- What is left of a body when the arguments have been prepared. -/
def ending (b : MethodBinding) : List Stmt :=
  (if b.args.isEmpty then [] else [.assign arrayName b.pointerArray]) ++ b.closing

/-- The parts of a binding are those of the ways in which its arguments are handed over and its
result is unwrapped. -/
structure Settled (r : Registry) (b : MethodBinding) : Prop where
  args : List.Forall₂ ArgSlot.Handed b.args (b.handings r)
  ret : ∀ ret, b.ret = some ret → ret.Settled (r.unwrapping ret.target)

theorem settled_of_supports {r : Registry} {use : TypeUse} {b : MethodBinding}
    (h : r.Supports use b) : b.Settled r := by
  refine ⟨?_, fun ret hret => ?_⟩
  · have enters := r.enters_of_argSlots h.args
    unfold handings
    generalize b.method.arguments = declared at enters
    generalize b.args = slots at enters
    induction enters with
    | nil => exact .nil
    | cons first _ ih => exact .cons first.handed ih
  · have plan := h.ret
    unfold Registry.resultPlan at plan
    split at plan
    · obtain ⟨found, hfound, heq⟩ := map_eq_ok.mp plan
      rw [hret] at heq
      cases heq
      exact Registry.settled_of_returnPlan hfound
    · rw [hret] at plan
      cases plan

section Run

variable {r : Registry} {b : MethodBinding}

theorem body_eq : b.body = b.args.flatMap (·.setup) ++ b.ending := by
  unfold body ending closing
  cases b.ret <;> simp

theorem mem_locals_of_parameter {name : String} (h : name ∈ b.parameters) :
    spelled name ∈ b.locals :=
  List.mem_map_of_mem (List.mem_append_left _ h)

theorem mem_locals_of_binds {name : String} (h : name ∈ bindsOf b.body) :
    spelled name ∈ b.locals :=
  List.mem_map_of_mem (List.mem_append_right _ h)

theorem mem_locals_name {slot : ArgSlot} (h : slot ∈ b.args) : spelled slot.name ∈ b.locals :=
  mem_locals_of_parameter (List.mem_append_right _ (List.mem_map_of_mem h))

theorem mem_locals_of_rebinds {slot : ArgSlot} (h : slot ∈ b.args) {name : String}
    (hname : slot.Rebinds name) : spelled name ∈ b.locals := by
  obtain ⟨bound, hbound, heq⟩ := List.mem_map.mp hname
  rw [← heq]
  refine mem_locals_of_binds ?_
  rw [bindsOf_body]
  exact List.mem_append_left _ (List.mem_append_left _ (List.mem_flatMap.mpr ⟨slot, h, hbound⟩))

theorem mem_locals_kept {slot : ArgSlot} (h : slot ∈ b.args) : spelled slot.kept ∈ b.locals := by
  unfold ArgSlot.kept
  cases hbound : (bindsOf slot.setup).head? with
  | none => exact mem_locals_name h
  | some cell =>
    exact mem_locals_of_rebinds h (List.mem_map_of_mem (List.mem_of_mem_head? hbound))

theorem mem_locals_array (h : b.args.isEmpty = false) : spelled arrayName ∈ b.locals :=
  mem_locals_of_binds (by simp [bindsOf_body, h])

theorem mem_locals_result {ret : ReturnPlan} (h : b.ret = some ret) :
    spelled resultName ∈ b.locals :=
  mem_locals_of_binds (by simp [bindsOf_body, h])

theorem spelled_own {name : String} (h : name ∈ ["self", arrayName, resultName]) :
    spelled name = name := by
  have plain : ∀ name ∈ ["self", arrayName, resultName], name.toList.all Text.isPlain := by
    decide +kernel
  exact spelled_of_plain (plain name h)

variable [LawfulMonad M] {w : World M V} {env : String → Option V} {receiver arguments : V}

/-- The addresses are those of what is there of the arguments. -/
theorem eval_natives {locals : List String} {slots : List ArgSlot} {handings : List Handing}
    (handed : List.Forall₂ ArgSlot.Handed slots handings)
    (hfree : ∀ handing ∈ handings, ∀ n ∈ handing.moduleNames, spelled n ∉ locals)
    (hlocal : ∀ slot ∈ slots, spelled slot.kept ∈ locals) {held : List V}
    (hheld : List.Forall₂ (fun slot v => env (spelled (ArgSlot.kept slot)) = some v) slots held) :
    slots.map (fun slot => slot.native.eval w (w.read locals env)) =
      List.zipWith (fun handing v => handing.point w v) handings held := by
  induction handed generalizing held with
  | nil => rfl
  | @cons slot handing slots handings first _ ih =>
    obtain ⟨v, rest, hv, hrest, rfl⟩ := List.forall₂_cons_left_iff.mp hheld
    rw [List.forall_mem_cons] at hfree hlocal
    rw [List.map_cons, List.zipWith_cons_cons, ih hfree.2 hlocal.2 hrest, first.native]
    have kept := first.kept_eq
    congr 1
    exact Handing.eval_pointer first.name (hfree.1 "ctypes" Handing.ctypes_mem_moduleNames)
      (kept ▸ hlocal.1) (kept ▸ hv)

theorem follow_self (hdynamic : b.hasReceiver = true)
    (hself : env (spelled "self") = some receiver) :
    w.follow (w.read b.locals env) "self" = pure receiver := by
  have parameter : "self" ∈ b.parameters := by simp [parameters, hdynamic]
  exact (follow_of_root (by decide)).trans (read_of_bound (mem_locals_of_parameter parameter) hself)

/-- The address of the object is taken from the first parameter. -/
theorem eval_address (hfree : ∀ name ∈ b.receiverNames, spelled name ∉ b.locals)
    (hself : b.hasReceiver = true → env (spelled "self") = some receiver)
    (outside : b.kind.isUtility = false) :
    (if b.method.isStatic then Expr.none else b.receiver).eval w (w.read b.locals env) =
      b.address w receiver := by
  unfold address
  cases dynamic : b.method.isStatic with
  | true => rfl
  | false =>
    have self_read : w.follow (w.read b.locals env) "self" = pure receiver := by
      have has : b.hasReceiver = true := by simp [hasReceiver, dynamic, outside]
      exact follow_self has (hself has)
    rw [if_neg Bool.false_ne_true, if_neg Bool.false_ne_true]
    unfold MethodBinding.receiver
    cases hkind : b.kind with
    | method | utility => simp [Expr.eval, self_read]
    | builtin holder isStruct =>
      have native : spelled "ctypes" ∉ b.locals :=
        hfree "ctypes" (by simp [receiverNames, hkind, dynamic])
      cases isStruct <;> simp [eval_invoke, Expr.eval, eval_native _ native, self_read]

/-- The engine is called on the object with the array and with the address for the result. -/
theorem eval_call (hfree : ∀ name ∈ b.moduleNames r, spelled name ∉ b.locals)
    (hself : b.hasReceiver = true → env (spelled "self") = some receiver)
    (harray : b.args.isEmpty = false → env (spelled arrayName) = some arguments)
    (hnone : b.args.isEmpty = true → arguments = w.literal "None") {result : M V}
    (hresult : b.resultPointer.eval w (w.read b.locals env) = result) :
    b.call.eval w (w.read b.locals env) = b.enter w receiver arguments result := by
  obtain ⟨hgi, hhandle, hreceiver, _, _⟩ := forall_moduleNames.mp hfree
  have gi_read : w.follow (w.read b.locals env) "gi" = w.named "gi" := follow_of_free hgi
  have handle_read : w.follow (w.read b.locals env) b.handlePath = w.named b.handlePath :=
    follow_of_free hhandle
  have array_read : (if b.args.isEmpty then Expr.none else .name arrayName).eval w
      (w.read b.locals env) = pure arguments := by
    cases hempty : b.args.isEmpty with
    | true =>
      rw [if_pos rfl, hnone hempty]
      rfl
    | false =>
      rw [if_neg Bool.false_ne_true]
      exact (follow_of_root (by decide)).trans
        (read_of_bound (mem_locals_array hempty) (harray hempty))
  have object_read := eval_address (w := w) hreceiver hself
  subst hresult
  unfold call enter resolve resultPointer
  cases hkind : b.kind with
  | method =>
    have object := object_read (by rw [hkind]; rfl)
    simp only [handlePath, hkind] at handle_read ⊢
    cases b.ret <;>
      simp only [eval_invoke, Expr.eval, List.map_cons, List.map_nil, gi_read, handle_read,
        array_read, object]
  | utility =>
    simp only [handlePath, hkind] at handle_read ⊢
    cases b.ret <;>
      simp only [eval_invoke, Expr.eval, List.map_cons, List.map_nil, gi_read, handle_read,
        array_read]
  | builtin holder isStruct =>
    have object := object_read (by rw [hkind]; rfl)
    simp only [handlePath, hkind] at handle_read ⊢
    cases b.ret <;>
      simp only [eval_invoke, Expr.eval, List.map_cons, List.map_nil, gi_read, handle_read,
        array_read, object]

/-- Behind the array of addresses a body does what is meant. -/
theorem execute_closing (hs : b.Settled r)
    (hfree : ∀ name ∈ b.moduleNames r, spelled name ∉ b.locals)
    (hself : b.hasReceiver = true → env (spelled "self") = some receiver)
    (harray : b.args.isEmpty = false → env (spelled arrayName) = some arguments)
    (hnone : b.args.isEmpty = true → arguments = w.literal "None") :
    execute w b.locals b.closing env = b.finish w r receiver arguments := by
  obtain ⟨_, _, _, _, hresult⟩ := forall_moduleNames.mp hfree
  unfold closing finish
  cases hret : b.ret with
  | none =>
    have called : b.call.eval w (w.read b.locals env) =
        b.enter w receiver arguments (pure (w.literal "None")) :=
      eval_call hfree hself harray hnone (by rw [resultPointer, hret]; rfl)
    simp [execute, called]
  | some ret =>
    obtain ⟨native, storage, made⟩ := hresult ret hret
    have settled := hs.ret ret hret
    have stored : ret.storage.eval w (w.read b.locals env) =
        ret.storage.eval w fun name => w.global (spelled name) :=
      eval_congr _ fun name hname => read_of_free (storage name hname)
    simp only [ReturnPlan.store, execute, stored]
    refine bind_congr fun cell => ?_
    have hcell : bindName env resultName cell (spelled resultName) = some cell := bindName_self ..
    have called : b.call.eval w (w.read b.locals (bindName env resultName cell)) =
        b.enter w receiver arguments ((r.unwrapping ret.target).point w cell) := by
      refine eval_call hfree (fun has => ?_) (fun given => ?_) hnone ?_
      · rw [bindName_of_ne, hself has]
        rw [spelled_own (by simp), spelled_own (by simp)]
        decide
      · rw [bindName_of_ne, harray given]
        rw [spelled_own (by simp), spelled_own (by simp)]
        decide
      · have pointer : b.resultPointer = (r.unwrapping ret.target).pointer := by
          rw [resultPointer, hret]
          exact settled.pointer
        rw [pointer, Unwrapping.eval_pointer native (mem_locals_result hret) hcell]
    rw [called, settled.unwrapped, Unwrapping.eval_expr made (mem_locals_result hret) hcell]

/-- When the arguments have been prepared, a body does what is meant with what is held of them. -/
theorem execute_ending (hs : b.Settled r)
    (hfree : ∀ name ∈ b.moduleNames r, spelled name ∉ b.locals)
    (hself : b.hasReceiver = true → env (spelled "self") = some receiver) {held : List V}
    (hheld : List.Forall₂ (fun slot v => env (spelled (ArgSlot.kept slot)) = some v) b.args held) :
    execute w b.locals b.ending env = b.callHeld w r receiver held := by
  obtain ⟨_, _, _, handed, _⟩ := forall_moduleNames.mp hfree
  unfold ending callHeld
  cases hempty : b.args.isEmpty with
  | true =>
    rw [if_pos rfl, if_pos rfl, List.nil_append]
    refine execute_closing hs hfree hself (fun given => ?_) fun _ => rfl
    rw [hempty] at given
    cases given
  | false =>
    rw [if_neg Bool.false_ne_true, if_neg Bool.false_ne_true, List.singleton_append]
    have native : spelled "ctypes" ∉ b.locals := by
      obtain ⟨slot, rest, hargs⟩ := List.exists_cons_of_ne_nil (List.isEmpty_eq_false_iff.mp hempty)
      have first := hs.args
      rw [hargs] at first
      obtain ⟨handing, _, _, _, heq⟩ := List.forall₂_cons_left_iff.mp first
      exact handed handing (heq ▸ List.mem_cons_self) "ctypes" Handing.ctypes_mem_moduleNames
    have array : b.pointerArray.eval w (w.read b.locals env) =
        w.invoke (do w.cells (← w.native "c_void_p") b.args.length)
          (List.zipWith (fun handing v => handing.point w v) (b.handings r) held) := by
      rw [pointerArray, eval_invoke, List.map_map, Expr.eval, eval_native _ native]
      congr 1
      exact eval_natives hs.args handed (fun slot hslot => mem_locals_kept hslot) hheld
    simp only [execute, array]
    refine bind_congr fun made => ?_
    refine execute_closing hs hfree (fun has => ?_) (fun _ => bindName_self ..) fun given => ?_
    · rw [bindName_of_ne, hself has]
      rw [spelled_own (by simp), spelled_own (by simp)]
      decide
    · rw [hempty] at given
      cases given

end Run

end MethodBinding

end EngineBindings
