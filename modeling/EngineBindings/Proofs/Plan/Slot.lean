import EngineBindings.Proofs.Code.Execution
import EngineBindings.Proofs.Plan.Planned

/-! Slots of arguments and of results.

A proxy reads an argument from its slot in one of a few ways (`SlotKind`), and the statements that
are planned for an argument are those of its kind. They do what the kind says wherever the module's
names that they read are not names of the proxy's own (`SlotKind.execute_load`). -/
namespace EngineBindings

open EngineBindings.Code Attempt

variable {M : Type → Type} [Monad M] {V : Type}

/-! ### Native memory -/

namespace Code.World

/-- The value of a path that starts from a name of the module. -/
def named (w : World M V) (path : String) : M V :=
  w.follow (fun name => w.global (spelled name)) path

/-- A native type, or a function on them. -/
def native (w : World M V) (field : String) : M V := do
  w.attr (← w.named "ctypes") field

/-- The slot at an address, of a capacity in bytes. -/
def slotAt (w : World M V) (address capacity : M V) : M V :=
  w.invoke (do w.attr (← w.named "SlotBuffer") "at") [address, capacity]

/-- Calls a method of a slot. -/
def slotCall (w : World M V) (slot : M V) (method : String) (arguments : List (M V)) : M V :=
  w.invoke (do w.attr (← slot) method) arguments

/-- The capacity of a scalar's slot. -/
def scalarCapacity (w : World M V) (type : Scalar) : M V :=
  w.invoke (w.native "sizeof") [w.native type.name]

end Code.World

section Native

variable {w : World M V} {locals : List String} {env : String → Option V}

/-- A path that starts from a name that the function does not have is the module's. -/
theorem follow_of_free {path : String} (h : spelled (root path) ∉ locals) :
    w.follow (w.read locals env) path = w.named path := by
  simp only [World.named, World.follow, read_of_free h]

theorem eval_native (field : String) (h : spelled "ctypes" ∉ locals) :
    (Expr.native field).eval w (w.read locals env) = w.native field := by
  have free : w.follow (w.read locals env) "ctypes" = w.named "ctypes" := follow_of_free h
  simp only [Expr.native, Expr.eval, World.native, free]

variable [LawfulMonad M]

theorem eval_slotAt {address capacity : Expr} (h : spelled "SlotBuffer" ∉ locals) :
    (slotAt address capacity).eval w (w.read locals env) =
      w.slotAt (address.eval w (w.read locals env)) (capacity.eval w (w.read locals env)) := by
  have free : w.follow (w.read locals env) "SlotBuffer" = w.named "SlotBuffer" := follow_of_free h
  simp only [slotAt, eval_invoke, Expr.eval, World.slotAt, free, List.map_cons, List.map_nil]

theorem eval_slotCall {slot : Expr} {method : String} {arguments : List Expr} :
    (slotCall slot method arguments).eval w (w.read locals env) =
      w.slotCall (slot.eval w (w.read locals env)) method
        (arguments.map (·.eval w (w.read locals env))) := by
  simp only [slotCall, eval_invoke, Expr.eval, World.slotCall]

theorem eval_scalarCapacity (type : Scalar) (h : spelled "ctypes" ∉ locals) :
    (scalarCapacity type).eval w (w.read locals env) = w.scalarCapacity type := by
  simp only [scalarCapacity, eval_invoke, eval_native _ h, World.scalarCapacity, List.map_cons,
    List.map_nil]

end Native

/-! ### Argument slots -/

/-- How a value is kept in an argument slot. -/
inductive SlotKind where
  | scalar (type : Scalar)
  /-- The handle of an object of a class. -/
  | object (host : String)
  /-- The bytes of a value of fixed layout. -/
  | struct (size : Int) (host : String)
  /-- The content of any other value. -/
  | content (size : Int) (host : String)

/-- The name that a proxy has for the handle of an argument that is an object. -/
def handleName (name : String) : String :=
  "_handle_" ++ name

namespace SlotKind

/-- The object for the handle that a name holds. -/
def objectFrom (host handle : String) : Expr :=
  .choose
    (.orElse (.apply "lookup_live_object" [.name handle])
      (.call (.name host) (.cons (some "native_handle") (.name handle) .nil)))
    (.name handle) .none

/-- The statements that read the argument `name` from the slot of the given index. -/
def load (kind : SlotKind) (name : String) (index : Nat) : List Stmt :=
  let address := Expr.item (.name "_slots") index
  let sized (size : Int) := EngineBindings.slotAt address (.literal (Number.decimal size))
  match kind with
  | scalar type =>
    [.assign name (EngineBindings.slotCall
      (EngineBindings.slotAt address (EngineBindings.scalarCapacity type)) "load"
        [.native type.name])]
  | object host =>
    [.assign (handleName name) (EngineBindings.slotCall
      (EngineBindings.slotAt address (.name "POINTER_SIZE")) "load" [.native "c_void_p"]),
     .assign name (objectFrom host (handleName name))]
  | struct size host =>
    [.assign name (EngineBindings.slotCall (sized size) "load" [.name host])]
  | content size host =>
    [.assign name (.invoke (.attr (.name host) "from_content")
      [EngineBindings.slotCall (sized size) "read" []])]

/-- The names of the module that those statements read. -/
def moduleNames : SlotKind → List String
  | scalar _ => ["SlotBuffer", "ctypes"]
  | object host => ["SlotBuffer", "POINTER_SIZE", "ctypes", "lookup_live_object", root host]
  | struct _ host => ["SlotBuffer", root host]
  | content _ host => [root host, "SlotBuffer"]

/-- The names that they bind. -/
def binds (kind : SlotKind) (name : String) : List String :=
  match kind with
  | object _ => [handleName name, name]
  | _ => [name]

theorem binds_load (kind : SlotKind) (name : String) (index : Nat) :
    (kind.load name index).filterMap Stmt.binds? = kind.binds name := by
  cases kind <;> rfl

/-- The object of a handle: the live one, else one made for the handle, none without a handle. -/
def objectOf (w : World M V) (host : String) (handle : V) : M V := do
  if ← w.isTrue handle then
    let found ← w.invoke (w.named "lookup_live_object") [pure handle]
    if ← w.isTrue found then return found
    else w.call (← w.named host) [(some "native_handle", handle)]
  else return w.literal "None"

/-- Reads a slot: the handle, where there is one, and the value. -/
def fetch (kind : SlotKind) (w : World M V) (slots : V) (index : Nat) : M (V × V) :=
  let sized (size : Int) := w.slotAt (w.item slots index) (pure (w.literal (Number.decimal size)))
  match kind with
  | scalar type => do
    let v ← w.slotCall (w.slotAt (w.item slots index) (w.scalarCapacity type)) "load"
      [w.native type.name]
    return (v, v)
  | object host => do
    let handle ← w.slotCall (w.slotAt (w.item slots index) (w.named "POINTER_SIZE")) "load"
      [w.native "c_void_p"]
    return (handle, ← objectOf w host handle)
  | struct size host => do
    let v ← w.slotCall (sized size) "load" [w.named host]
    return (v, v)
  | content size host => do
    let v ← w.invoke (do w.attr (← w.named host) "from_content") [w.slotCall (sized size) "read" []]
    return (v, v)

/-- Gives the names of an argument the values that its slot is read for. -/
def bind (kind : SlotKind) (name : String) (env : String → Option V) (found : V × V) :
    String → Option V :=
  match kind with
  | object _ => bindName (bindName env (handleName name) found.1) name found.2
  | _ => bindName env name found.2

theorem bind_name (kind : SlotKind) (name : String) (env : String → Option V) (found : V × V) :
    kind.bind name env found (spelled name) = some found.2 := by
  cases kind <;> exact bindName_self ..

/-- Names that an argument does not bind keep their values. -/
theorem bind_of_notMem {kind : SlotKind} {name : String} {env : String → Option V} {found : V × V}
    {other : String} (h : other ∉ (kind.binds name).map spelled) :
    kind.bind name env found other = env other := by
  cases kind with
  | object host =>
    have hne : other ≠ spelled (handleName name) ∧ other ≠ spelled name := by
      simpa [binds] using h
    exact (bindName_of_ne hne.2).trans (bindName_of_ne hne.1)
  | _ =>
    have hne : other ≠ spelled name := by simpa [binds] using h
    exact bindName_of_ne hne

/-- Where a name holds a handle, the object is the one of the handle. -/
theorem eval_objectFrom [LawfulMonad M] {w : World M V} {locals : List String}
    {env : String → Option V} {name : String} (host : String) (handle : V)
    (hread : w.follow (w.read locals env) name = pure handle)
    (hlookup : spelled (root "lookup_live_object") ∉ locals)
    (hhost : spelled (root host) ∉ locals) :
    (objectFrom host name).eval w (w.read locals env) = objectOf w host handle := by
  simp [objectFrom, Expr.eval, Arguments.eval, Expr.apply, Expr.none, eval_invoke, hread,
    follow_of_free hlookup, follow_of_free hhost, objectOf]

/-- Names that an argument binds have what its slot holds. -/
theorem bind_of_mem {kind : SlotKind} {name : String} {env : String → Option V} {v : V}
    {other : String} (h : other ∈ (kind.binds name).map spelled) :
    kind.bind name env (v, v) other = some v := by
  cases kind with
  | object host =>
    by_cases hname : other = spelled name
    · rw [hname, bind_name]
    · have hhandle : other = spelled (handleName name) := by simpa [binds, hname] using h
      rw [SlotKind.bind, bindName_of_ne hname, hhandle, bindName_self]
  | _ =>
    have hname : other = spelled name := by simpa [binds] using h
    rw [hname, bind_name]

/-- The statements of an argument read its slot, where the names of the module are not names of
the function. -/
theorem execute_load [LawfulMonad M] {w : World M V} {locals : List String}
    {env : String → Option V} {kind : SlotKind} {name : String} {slots : V} (index : Nat)
    (rest : List Stmt) (hname : '.' ∉ name.toList)
    (hfree : ∀ n ∈ kind.moduleNames, spelled n ∉ locals)
    (hbinds : ∀ n ∈ kind.binds name, spelled n ∈ locals)
    (hlocal : spelled "_slots" ∈ locals) (hslots : env (spelled "_slots") = some slots) :
    execute w locals (kind.load name index ++ rest) env =
      kind.fetch w slots index >>= fun found =>
        execute w locals rest (kind.bind name env found) := by
  have slots_read : w.follow (w.read locals env) "_slots" = pure slots :=
    (follow_of_root rfl).trans (read_of_bound hlocal hslots)
  cases kind with
  | scalar type =>
    have hslot := hfree "SlotBuffer" (by simp [moduleNames])
    have hnative := hfree "ctypes" (by simp [moduleNames])
    simp [load, fetch, bind, execute, eval_slotCall, eval_slotAt hslot,
      eval_scalarCapacity _ hnative, eval_native _ hnative, Expr.eval, slots_read]
  | object host =>
    have hslot := hfree "SlotBuffer" (by simp [moduleNames])
    have hsize := hfree "POINTER_SIZE" (by simp [moduleNames])
    have hnative := hfree "ctypes" (by simp [moduleNames])
    have hlookup := hfree "lookup_live_object" (by simp [moduleNames])
    have hhost := hfree (root host) (by simp [moduleNames])
    have size_read : w.follow (w.read locals env) "POINTER_SIZE" = w.named "POINTER_SIZE" :=
      follow_of_free hsize
    simp only [load, fetch, bind, execute, List.cons_append, List.nil_append, eval_slotCall,
      eval_slotAt hslot, eval_native _ hnative, Expr.eval, slots_read, size_read, pure_bind,
      List.map_cons, List.map_nil, bind_assoc]
    refine bind_congr fun handle => ?_
    have handle_read : w.follow (w.read locals (bindName env (handleName name) handle))
        (handleName name) = pure handle :=
      (follow_of_root (root_eq_self (by simpa [handleName] using hname))).trans
        (read_of_bound (hbinds (handleName name) (by simp [binds])) (bindName_self ..))
    rw [eval_objectFrom host handle handle_read hlookup hhost]
  | struct size host =>
    have hslot := hfree "SlotBuffer" (by simp [moduleNames])
    have hhost := hfree (root host) (by simp [moduleNames])
    simp [load, fetch, bind, execute, eval_slotCall, eval_slotAt hslot, Expr.eval, slots_read,
      follow_of_free hhost]
  | content size host =>
    have hslot := hfree "SlotBuffer" (by simp [moduleNames])
    have hhost := hfree (root host) (by simp [moduleNames])
    simp [load, fetch, bind, execute, eval_invoke, eval_slotCall, eval_slotAt hslot, Expr.eval,
      slots_read, follow_of_free hhost]

end SlotKind

namespace Registry

variable {r : Registry}

/-- How an argument of a type is kept in its slot. -/
def slotKind (r : Registry) (target : Target) : SlotKind :=
  if target.isObject then .object target.host
  else
    match if target.isScalar then target.scalar? else none with
    | some type => .scalar type
    | none =>
      let size := (r.size? target.source).getD 0
      if target.isStruct then .struct size target.host else .content size target.host

theorem size_of_requireSize {name : Name} {size : Int} (h : r.requireSize name = .ok size) :
    (r.size? name).getD 0 = size := by
  unfold requireSize at h
  split at h
  · next found hfound =>
    cases h
    rw [hfound, Option.getD_some]
  · cases h

/-- The statements that are planned for an argument are those of its kind. -/
theorem load_of_loadArgument {name : String} {index : Nat} {target : Target} {load : List Stmt}
    (h : r.loadArgument name index target = .ok load) :
    load = (r.slotKind target).load name index := by
  unfold loadArgument at h
  unfold slotKind
  split at h
  · cases h
    rfl
  · next hother =>
    have hobject : ¬target.isObject := by
      cases target with
      | object host width => exact (hother host width rfl).elim
      | _ => exact Bool.false_ne_true
    rw [if_neg hobject]
    cases hscalar : if target.isScalar then target.scalar? else none with
    | some type =>
      simp only [hscalar] at h ⊢
      cases h
      rfl
    | none =>
      simp only [hscalar] at h ⊢
      obtain ⟨size, hsize, h⟩ := bind_eq_ok.mp h
      obtain rfl := size_of_requireSize hsize
      cases hstruct : target.isStruct with
      | true =>
        rw [hstruct] at h
        cases h
        rfl
      | false =>
        rw [hstruct] at h
        cases h
        rfl

end Registry

/-! ### The slot of a result

A proxy stores a result in one of a few ways (`StoreKind`), by a single statement that does what
the kind says wherever the module's names that it reads are not names of the proxy's own
(`StoreKind.execute_statement`). -/

/-- How a result is kept in its slot. -/
inductive StoreKind where
  /-- A number, whatever its own type. -/
  | number
  /-- The handle of an object. -/
  | object
  | scalar (type : Scalar)
  /-- The bytes of a value of fixed layout. -/
  | struct (size : Int)
  /-- The content of any other value. -/
  | content (size : Int)

namespace StoreKind

/-- The statement that puts a result into its slot. -/
def statement (kind : StoreKind) : Stmt :=
  let address := Expr.name "ret_ptr"
  let result := Expr.name "result"
  let sized (size : Int) := EngineBindings.slotAt address (.literal (Number.decimal size))
  .exec <| match kind with
  | number =>
    EngineBindings.slotCall (EngineBindings.slotAt address (.literal "8")) "store"
      [.apply "int" [result], .native "c_int64"]
  | object =>
    EngineBindings.slotCall (EngineBindings.slotAt address (.name "POINTER_SIZE")) "store"
      [.choose .none (.isNone result) (.attr result "handle"), .native "c_void_p"]
  | scalar type =>
    EngineBindings.slotCall
      (EngineBindings.slotAt address (EngineBindings.scalarCapacity type)) "store"
        [result, .native type.name]
  | struct size => EngineBindings.slotCall (sized size) "store" [result]
  | content size =>
    EngineBindings.slotCall (sized size) "write" [.apply "bytes" [.attr result "content"]]

/-- The names of the module that it reads. -/
def moduleNames : StoreKind → List String
  | number => ["SlotBuffer", "int", "ctypes"]
  | object => ["SlotBuffer", "POINTER_SIZE", "ctypes"]
  | scalar _ => ["SlotBuffer", "ctypes"]
  | struct _ => ["SlotBuffer"]
  | content _ => ["SlotBuffer", "bytes"]

/-- Puts a result into a slot. -/
def write (kind : StoreKind) (w : World M V) (slot result : V) : M V :=
  let sized (size : String) := w.slotAt (pure slot) (pure (w.literal size))
  match kind with
  | number =>
    w.slotCall (sized "8") "store" [w.invoke (w.named "int") [pure result], w.native "c_int64"]
  | object =>
    w.slotCall (w.slotAt (pure slot) (w.named "POINTER_SIZE")) "store"
      [if w.isNone result then pure (w.literal "None") else w.attr result "handle",
       w.native "c_void_p"]
  | scalar type =>
    w.slotCall (w.slotAt (pure slot) (w.scalarCapacity type)) "store"
      [pure result, w.native type.name]
  | struct size => w.slotCall (sized (Number.decimal size)) "store" [pure result]
  | content size =>
    w.slotCall (sized (Number.decimal size)) "write"
      [w.invoke (w.named "bytes") [w.attr result "content"]]

/-- The statement of a result puts it into its slot, where the names of the module are not names
of the function. -/
theorem execute_statement [LawfulMonad M] {w : World M V} {locals : List String}
    {env : String → Option V} {kind : StoreKind} {slot result : V}
    (hfree : ∀ n ∈ kind.moduleNames, spelled n ∉ locals)
    (hslot : w.read locals env "ret_ptr" = pure slot)
    (hresult : w.read locals env "result" = pure result) :
    execute w locals [kind.statement] env = do let _ ← kind.write w slot result; return none := by
  have slot_read : w.follow (w.read locals env) "ret_ptr" = pure slot :=
    (follow_of_root rfl).trans hslot
  have result_read : w.follow (w.read locals env) "result" = pure result :=
    (follow_of_root rfl).trans hresult
  have hbuffer : spelled "SlotBuffer" ∉ locals :=
    hfree "SlotBuffer" (by cases kind <;> simp [moduleNames])
  cases kind with
  | number =>
    have hnative := hfree "ctypes" (by simp [moduleNames])
    have hint : w.follow (w.read locals env) "int" = w.named "int" :=
      follow_of_free (hfree "int" (by simp [moduleNames]))
    simp [statement, write, execute, eval_slotCall, eval_slotAt hbuffer, eval_native _ hnative,
      Expr.apply, eval_invoke, Expr.eval, slot_read, result_read, hint]
  | object =>
    have hnative := hfree "ctypes" (by simp [moduleNames])
    have hsize : w.follow (w.read locals env) "POINTER_SIZE" = w.named "POINTER_SIZE" :=
      follow_of_free (hfree "POINTER_SIZE" (by simp [moduleNames]))
    simp [statement, write, execute, eval_slotCall, eval_slotAt hbuffer, eval_native _ hnative,
      Expr.none, Expr.eval, slot_read, result_read, hsize, w.isTrue_truth]
  | scalar type =>
    have hnative := hfree "ctypes" (by simp [moduleNames])
    simp [statement, write, execute, eval_slotCall, eval_slotAt hbuffer,
      eval_scalarCapacity _ hnative, eval_native _ hnative, Expr.eval, slot_read, result_read]
  | struct size =>
    simp [statement, write, execute, eval_slotCall, eval_slotAt hbuffer, Expr.eval, slot_read,
      result_read]
  | content size =>
    have hbytes : w.follow (w.read locals env) "bytes" = w.named "bytes" :=
      follow_of_free (hfree "bytes" (by simp [moduleNames]))
    simp [statement, write, execute, eval_slotCall, eval_slotAt hbuffer, Expr.apply, eval_invoke,
      Expr.eval, slot_read, result_read, hbytes]

end StoreKind

namespace Registry

variable {r : Registry}

/-- How a result of a type is kept in its slot. -/
def storeKind (r : Registry) (target : Target) : StoreKind :=
  match target with
  | .enum _ _ _ | .bitfield _ _ _ => .number
  | .object _ _ => .object
  | .typedArray _ _ => .content ((r.size? "Array").getD 0)
  | _ =>
    match if target.isScalar then target.scalar? else none with
    | some type => .scalar type
    | none =>
      let size := (r.size? target.source).getD 0
      if target.isStruct then .struct size else .content size

/-- The statements that are planned for a result are the one of its kind. -/
theorem store_of_storeResult {target : Target} {store : List Stmt}
    (h : r.storeResult target = .ok store) : store = [(r.storeKind target).statement] := by
  cases target with
  | enum _ _ _ | bitfield _ _ _ | object _ _ | bool | int _ _ | float _ _ =>
    cases h
    rfl
  | typedArray _ _ | void | string | variant _ | pointer _ _ =>
    obtain ⟨size, hsize, h⟩ := bind_eq_ok.mp h
    obtain rfl := size_of_requireSize hsize
    cases h
    rfl
  | coreValue name isStruct =>
    obtain ⟨size, hsize, h⟩ := bind_eq_ok.mp h
    obtain rfl := size_of_requireSize hsize
    cases isStruct <;>
      (cases h
       rfl)

end Registry

end EngineBindings
