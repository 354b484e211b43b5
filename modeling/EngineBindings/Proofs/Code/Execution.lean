import EngineBindings.Code.Basic
import EngineBindings.Proofs.Text.Normal
import Mathlib.Data.List.Nodup
import Mathlib.Data.List.TakeWhile
import Mathlib.Logic.Function.Basic

/-! Running emitted code.

A `World` is everything that emitted code finds outside itself: the module's names, and what
attributes, items and calls of values do. Effects stay abstract, in a monad. Inside a function,
names follow the rule of the emitted language: a name that the function binds anywhere is its own
everywhere, so it has no value until the function gives it one, whatever the module has under that
name. Spellings with the same normal form are one name. That the text of a name is an identifier is
taken for granted. -/
namespace EngineBindings.Code

/-- A name as it is told apart from others. -/
@[irreducible]
def spelled (name : String) : String :=
  String.ofList (Text.normal name.toList)

theorem spelled_of_plain {name : String} (h : name.toList.all Text.isPlain) :
    spelled name = name := by
  rw [spelled, Text.normal_of_plain (List.all_eq_true.mp h), String.ofList_toList]

/-- What emitted code finds outside itself. -/
structure World (M : Type → Type) [Monad M] (V : Type) where
  literal : String → V
  /-- Reads a name of the module, or of the language. -/
  global : String → M V
  /-- Reads a function's own name that has no value yet. -/
  unbound : String → M V
  /-- Follows a dotted path from the value of its first part. -/
  along : V → String → M V
  attr : V → String → M V
  item : V → Nat → M V
  cells : V → Nat → M V
  /-- Calls a value with arguments, each with an optional keyword. -/
  call : V → List (Option String × V) → M V
  isTrue : V → M Bool
  isNone : V → Bool
  truth : Bool → V
  isTrue_truth : ∀ b, isTrue (truth b) = pure b

variable {M : Type → Type} [Monad M] {V : Type}

/-! ### Expressions -/

/-- Reads a path. -/
def World.follow (w : World M V) (read : String → M V) (path : String) : M V := do
  let v ← read (root path)
  if root path = path then return v else w.along v path

mutual

/-- The value of an expression. -/
def Expr.eval (w : World M V) (read : String → M V) : Expr → M V
  | .name path => w.follow read path
  | .literal text => pure (w.literal text)
  | .attr target field => do w.attr (← target.eval w read) field
  | .call callee arguments => do
    let f ← callee.eval w read
    w.call f (← arguments.eval w read)
  | .item target index => do w.item (← target.eval w read) index
  | .cells type count => do w.cells (← type.eval w read) count
  | .isNone subject => do return w.truth (w.isNone (← subject.eval w read))
  | .orElse first second => do
    let v ← first.eval w read
    if ← w.isTrue v then return v else second.eval w read
  | .choose value condition otherwise => do
    let v ← condition.eval w read
    if ← w.isTrue v then value.eval w read else otherwise.eval w read

/-- The values of arguments, in order. -/
def Arguments.eval (w : World M V) (read : String → M V) :
    Arguments → M (List (Option String × V))
  | .nil => pure []
  | .cons keyword value rest => do
    let v ← value.eval w read
    return (keyword, v) :: (← rest.eval w read)

end

mutual

/-- The value of an expression hangs on the names that it reads alone. -/
theorem eval_congr {w : World M V} {read read' : String → M V} :
    ∀ e : Expr, (∀ name ∈ e.reads, read name = read' name) → e.eval w read = e.eval w read'
  | .name path, h => by
    simp only [Expr.eval, World.follow, h (root path) List.mem_cons_self]
  | .literal _, _ => rfl
  | .attr target _, h | .item target _, h | .cells target _, h | .isNone target, h => by
    simp only [Expr.eval, eval_congr target h]
  | .call callee arguments, h => by
    have parts := List.forall_mem_append.mp h
    simp only [Expr.eval, eval_congr callee parts.1, evalArguments_congr arguments parts.2]
  | .orElse first second, h => by
    have parts := List.forall_mem_append.mp h
    simp only [Expr.eval, eval_congr first parts.1, eval_congr second parts.2]
  | .choose value condition otherwise, h => by
    have parts := List.forall_mem_append.mp h
    have condition_value := List.forall_mem_append.mp parts.1
    simp only [Expr.eval, eval_congr condition condition_value.1,
      eval_congr value condition_value.2, eval_congr otherwise parts.2]

/-- The values of arguments hang on the names that they read alone. -/
theorem evalArguments_congr {w : World M V} {read read' : String → M V} :
    ∀ arguments : Arguments, (∀ name ∈ arguments.reads, read name = read' name) →
      arguments.eval w read = arguments.eval w read'
  | .nil, _ => rfl
  | .cons _ value rest, h => by
    have parts := List.forall_mem_append.mp h
    simp only [Arguments.eval, eval_congr value parts.1, evalArguments_congr rest parts.2]

end

/-- Calls a function with positional arguments, everything being worked out in order. -/
def World.invoke (w : World M V) (callee : M V) (arguments : List (M V)) : M V := do
  let f ← callee
  let values ← arguments.mapM id
  w.call f (values.map (none, ·))

section Eval

variable [LawfulMonad M] {w : World M V} {read : String → M V}

theorem eval_ofList (arguments : List Expr) :
    (Arguments.ofList arguments).eval w read =
      (·.map (none, ·)) <$> (arguments.map (·.eval w read)).mapM id := by
  induction arguments with
  | nil => simp [Arguments.ofList, Arguments.eval]
  | cons e rest ih => simp [Arguments.ofList, Arguments.eval, ih]

theorem eval_invoke (callee : Expr) (arguments : List Expr) :
    (Expr.invoke callee arguments).eval w read =
      w.invoke (callee.eval w read) (arguments.map (·.eval w read)) := by
  simp only [Expr.invoke, Expr.eval, eval_ofList, World.invoke, bind_map_left]

theorem follow_of_root {path : String} (h : root path = path) :
    w.follow read path = read path := by
  simp [World.follow, h]

/-- A call whose arguments have been worked out. -/
theorem invoke_pure (callee : M V) (values : List V) :
    w.invoke callee (values.map pure) = callee >>= (w.call · (values.map (none, ·))) := by
  have worked : (values.map (pure : V → M V)).mapM id = pure values := by
    induction values with
    | nil => simp
    | cons v rest ih => simp [ih]
  simp [World.invoke, worked]

end Eval

/-! ### Functions -/

/-- Reads a name inside a function that has the given names of its own. -/
def World.read (w : World M V) (locals : List String) (env : String → Option V)
    (name : String) : M V :=
  if spelled name ∈ locals then
    match env (spelled name) with
    | some v => pure v
    | none => w.unbound (spelled name)
  else w.global (spelled name)

/-- Gives a name a value. -/
def bindName (env : String → Option V) (name : String) (v : V) : String → Option V :=
  Function.update env (spelled name) (some v)

@[simp]
theorem bindName_self (env : String → Option V) (name : String) (v : V) :
    bindName env name v (spelled name) = some v :=
  Function.update_self ..

theorem bindName_of_ne {env : String → Option V} {name other : String} {v : V}
    (h : other ≠ spelled name) : bindName env name v other = env other :=
  Function.update_of_ne h ..

/-- Runs statements in a function: what they return, if anything. -/
def execute (w : World M V) (locals : List String) :
    List Stmt → (String → Option V) → M (Option V)
  | [], _ => pure none
  | .assign target value :: rest, env => do
    let v ← value.eval w (w.read locals env)
    execute w locals rest (bindName env target v)
  | .exec value :: rest, env => do
    let _ ← value.eval w (w.read locals env)
    execute w locals rest env
  | .result value :: _, env => some <$> value.eval w (w.read locals env)
  | .pass :: rest, env => execute w locals rest env
  | .stopUnless value :: rest, env => do
    let v ← value.eval w (w.read locals env)
    if ← w.isTrue v then execute w locals rest env else return none
  | .stopIfNone value :: rest, env => do
    let v ← value.eval w (w.read locals env)
    if w.isNone v then return none else execute w locals rest env

/-- The names that a function has of its own. -/
def localNames (parameters : List String) (body : List Stmt) : List String :=
  (parameters ++ body.filterMap Stmt.binds?).map spelled

/-- The values that parameters start with. -/
def entering (arguments : List (String × V)) (name : String) : Option V :=
  (arguments.find? fun a => spelled a.1 = name).map (·.2)

section Entering

variable {arguments : List (String × V)}

theorem entering_cons (a : String × V) (name : String) :
    entering (a :: arguments) name =
      if spelled a.1 = name then some a.2 else entering arguments name := by
  unfold entering
  rw [List.find?_cons]
  by_cases h : spelled a.1 = name <;> simp [h]

/-- Parameters whose names are told apart start with their values. -/
theorem entering_of_nodup (h : (arguments.map fun a => spelled a.1).Nodup) :
    ∀ a ∈ arguments, entering arguments (spelled a.1) = some a.2 := by
  induction arguments with
  | nil => exact List.forall_mem_nil _
  | cons first rest ih =>
    rw [List.map_cons, List.nodup_cons] at h
    rw [List.forall_mem_cons]
    refine ⟨by rw [entering_cons, if_pos rfl], fun a ha => ?_⟩
    have apart : spelled first.1 ≠ spelled a.1 := fun heq =>
      h.1 (heq ▸ List.mem_map_of_mem (f := fun a : String × V => spelled a.1) ha)
    rw [entering_cons, if_neg apart, ih h.2 a ha]

/-- Parameters that start with different values have names that are told apart. -/
theorem nodup_of_entering (h : ∀ a ∈ arguments, entering arguments (spelled a.1) = some a.2)
    (distinct : (arguments.map (·.2)).Nodup) : (arguments.map fun a => spelled a.1).Nodup := by
  refine List.Nodup.of_map (entering arguments) ?_
  have values : (arguments.map fun a => spelled a.1).map (entering arguments) =
      (arguments.map (·.2)).map some := by
    rw [List.map_map, List.map_map]
    exact List.map_congr_left fun a ha => h a ha
  rw [values]
  exact distinct.map fun _ _ => Option.some.inj

theorem exists_entering {name : String} (h : name ∈ arguments.map (·.1)) :
    ∃ a ∈ arguments, entering arguments (spelled name) = some a.2 := by
  induction arguments with
  | nil => cases h
  | cons first rest ih =>
    rw [entering_cons]
    by_cases same : spelled first.1 = spelled name
    · exact ⟨first, List.mem_cons_self, if_pos same⟩
    · have other : name ≠ first.1 := fun heq => same (heq ▸ rfl)
      obtain ⟨a, ha, hvalue⟩ := ih ((List.mem_cons.mp h).resolve_left other)
      exact ⟨a, List.mem_cons_of_mem first ha, by rw [if_neg same, hvalue]⟩

end Entering

/-- Calls a function of given parameters and body. -/
def runFunction (w : World M V) (arguments : List (String × V)) (body : List Stmt) :
    M (Option V) :=
  execute w (localNames (arguments.map (·.1)) body) body (entering arguments)

section Read

variable {w : World M V} {locals : List String} {env : String → Option V} {name : String}

theorem read_of_bound {v : V} (hn : spelled name ∈ locals) (hv : env (spelled name) = some v) :
    w.read locals env name = pure v := by
  simp [World.read, hn, hv]

theorem read_of_free (hn : spelled name ∉ locals) :
    w.read locals env name = w.global (spelled name) := by
  simp [World.read, hn]

end Read

theorem root_eq_self {path : String} (h : '.' ∉ path.toList) : root path = path := by
  have whole : path.toList.takeWhile (· ≠ '.') = path.toList := by
    refine List.takeWhile_eq_self_iff.mpr fun c hc => ?_
    have hne : c ≠ '.' := fun heq => h (heq ▸ hc)
    simpa using hne
  rw [root, whole, String.ofList_toList]

end EngineBindings.Code
