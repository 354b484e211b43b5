import EngineBindings.Proofs.Plan.Slot
import EngineBindings.Proofs.Text.Identifier

/-! What a proxy is meant to do.

`Registry.callVirtual` says it without names: find the object, read every argument from its slot,
call the override with the values and store what it returns. The statements of an accepted method's
proxy are those of the kinds of its arguments and its result (`settled_of_acceptVirtual`). -/
namespace EngineBindings

open EngineBindings.Code Attempt

variable {M : Type → Type} [Monad M] {V : Type}

/-! ### Proxies -/

namespace Registry

/-- The values of argument slots, from one of a given index on. -/
def slotValues (r : Registry) (w : World M V) (slots : V) (args : List TrampolineArg)
    (start : Nat) : M (List V) :=
  (args.zipIdx start).mapM fun entry =>
    Prod.snd <$> (r.slotKind entry.1.target).fetch w slots entry.2

/-- The values that a virtual method is called with. -/
def argumentValues (r : Registry) (w : World M V) (t : Trampoline) (args : V) : M (List V) := do
  if t.args.isEmpty then return []
  else
    let slots ← w.invoke (w.named "slot_addresses")
      [pure args, pure (w.literal (Number.decimal t.args.length))]
    r.slotValues w slots t.args 0

/-- Stores what an override has returned, if the method returns anything. -/
def keepResult (r : Registry) (w : World M V) (t : Trampoline) (slot result : V) :
    M (Option V) :=
  match t.ret with
  | some ret => do
    let _ ← (r.storeKind ret).write w slot result
    return none
  | none => return none

/-- What the engine's call of a virtual method is meant to do, given the object's address, the
array of argument slots and the slot for the result. -/
def callVirtual (r : Registry) (w : World M V) (t : Trampoline) (object args slot : V) :
    M (Option V) := do
  if ← w.isTrue object then
    let target ← w.invoke (w.named "instance_from_handle") [pure object]
    if w.isNone target then return none
    else
      let values ← r.argumentValues w t args
      let result ← w.invoke (w.attr target t.exposedName) (values.map pure)
      r.keepResult w t slot result
  else return none

end Registry

namespace Trampoline

/-- The parameters of a proxy with their values. -/
def arguments (object args slot : V) : List (String × V) :=
  [("instance", object), ("args", args), ("ret_ptr", slot)]

/-- What the engine's call of a virtual method does. -/
def runProxy (t : Trampoline) (w : World M V) (object args slot : V) : M (Option V) :=
  runFunction w (arguments object args slot) t.proxyBody

/-- The names that a proxy has of its own. -/
def locals (t : Trampoline) : List String :=
  localNames ["instance", "args", "ret_ptr"] t.proxyBody

/-- What is left of a proxy when the arguments have been read. -/
def ending (t : Trampoline) : List Stmt :=
  match t.ret with
  | some _ => .assign "result" t.call :: t.store
  | none => [.exec t.call]

/-- The statements of a proxy are those of the kinds of its arguments and its result. -/
structure Settled (r : Registry) (t : Trampoline) : Prop where
  args : ∀ entry ∈ t.args.zipIdx, '.' ∉ entry.1.name.toList ∧
    entry.1.load = (r.slotKind entry.1.target).load entry.1.name entry.2
  store : ∀ ret, t.ret = some ret → t.store = [(r.storeKind ret).statement]

end Trampoline

/-! ### Accepted methods -/

theorem notMem_of_sanitize {n : Name} {text : String} (h : n.sanitize = .ok text) :
    '.' ∉ text.toList := by
  unfold Name.sanitize at h
  split at h
  · cases h
    exact Text.notMem_sanitize _
  · split at h
    · cases h
    · cases h
      exact Text.notMem_sanitize _

namespace Registry

variable {r : Registry}

theorem arg_of_trampolineArg {a : ArgumentDef} {index : Nat} {arg : TrampolineArg}
    (h : r.trampolineArg a index = .ok arg) :
    '.' ∉ arg.name.toList ∧ arg.load = (r.slotKind arg.target).load arg.name index := by
  obtain ⟨target, _, h⟩ := bind_eq_ok.mp h
  obtain ⟨name, hname, h⟩ := bind_eq_ok.mp h
  obtain ⟨load, hload, h⟩ := bind_eq_ok.mp h
  cases h
  exact ⟨notMem_of_sanitize (mapError_eq_ok.mp hname), load_of_loadArgument hload⟩

theorem args_of_trampolineSlots {arguments : List ArgumentDef} {args : List TrampolineArg}
    {start : Nat}
    (h : List.Forall₂ (fun entry arg => r.trampolineArg entry.1 entry.2 = .ok arg)
      (arguments.zipIdx start) args) :
    ∀ entry ∈ args.zipIdx start, '.' ∉ entry.1.name.toList ∧
      entry.1.load = (r.slotKind entry.1.target).load entry.1.name entry.2 := by
  induction arguments generalizing args start with
  | nil =>
    cases h
    simp
  | cons a rest ih =>
    cases h with
    | cons ha hrest =>
      rw [List.zipIdx_cons, List.forall_mem_cons]
      exact ⟨arg_of_trampolineArg ha, ih hrest⟩

/-- An accepted method is planned by the kinds of its arguments and its result. -/
theorem settled_of_acceptVirtual {c : ClassDef} {m : MethodDef} {t : Trampoline}
    (h : r.acceptVirtual c m = .ok (.ok t)) : t.Settled r := by
  rcases acceptVirtual_eq_ok.mp h with ⟨_, _, hx⟩ | ⟨_, t', ht, hx⟩
  · cases hx
  cases hx
  obtain ⟨⟨args, ret⟩, hslots, ht⟩ := bind_eq_ok.mp ht
  obtain ⟨exposedName, _, ht⟩ := bind_eq_ok.mp ht
  cases ht
  obtain ⟨args', hargs, hslots⟩ := bind_eq_ok.mp hslots
  have settled := args_of_trampolineSlots (mapM_eq_ok.mp hargs)
  split at hslots
  · cases hslots
    exact ⟨settled, fun ret hret => nomatch hret⟩
  · obtain ⟨target, _, hslots⟩ := bind_eq_ok.mp hslots
    obtain ⟨store, hstore, hslots⟩ := bind_eq_ok.mp hslots
    obtain ⟨value, _, hslots⟩ := bind_eq_ok.mp hslots
    cases hslots
    refine ⟨settled, fun ret hret => ?_⟩
    cases hret
    exact store_of_storeResult hstore

end Registry

end EngineBindings
