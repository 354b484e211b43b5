import EngineBindings.Proofs.OrderedMap
import EngineBindings.Proofs.Plan.Planned
import EngineBindings.Proofs.Registry.Lineage

/-! What the engine gets for a virtual method.

`acceptedVirtuals` are the trampolines of a class, read off the registry. The dispatch table of a
planned class holds them by their methods' names, the last of a name counting, so that resolving
a method along the chain of parents finds the last one of the nearest class that has any
(`resolveDispatch_eq`). -/
namespace EngineBindings

open Attempt

/-- The last of several trampolines for a method of a given name. -/
def lastNamed (m : Name) (virtuals : List Trampoline) : Option Trampoline :=
  virtuals.reverse.find? (·.method.name == m)

theorem lastNamed_eq_none {m : Name} {virtuals : List Trampoline} :
    lastNamed m virtuals = none ↔ ∀ t ∈ virtuals, (t.method.name == m) = false := by
  simp [lastNamed]

/-- A dispatch table finds the last trampoline of a name. -/
theorem find?_of_ofTrampolines {c : ClassDef} {virtuals : List Trampoline} {table : DispatchTable}
    (h : DispatchTable.ofTrampolines c virtuals = .ok table) :
    table.owner = c.name ∧ ∀ m, table.entries.find? m = lastNamed m virtuals := by
  obtain ⟨entries, hentries, h⟩ := bind_eq_ok.mp h
  cases h
  have pairs : entries.map id = virtuals.map fun t => (t.method.name, t) := by
    refine map_eq_map (mapM_eq_ok.mp hentries) fun t _ entry hentry => ?_
    obtain ⟨name, hname, hentry⟩ := bind_eq_ok.mp hentry
    cases hentry
    rw [(Name.keyed_eq_ok.mp hname).2]
    rfl
  rw [List.map_id] at pairs
  refine ⟨rfl, fun m => ?_⟩
  dsimp only
  rw [OrderedMap.find?_ofList, pairs, ← List.map_reverse, List.find?_map, Option.map_map]
  exact congrFun Option.map_id _

/-- A dispatch table holds nothing but the trampolines that it was made from. -/
theorem mem_of_ofTrampolines {c : ClassDef} {virtuals : List Trampoline} {table : DispatchTable}
    (h : DispatchTable.ofTrampolines c virtuals = .ok table) :
    ∀ entry ∈ table.entries.entries, entry.2 ∈ virtuals := by
  obtain ⟨entries, hentries, h⟩ := bind_eq_ok.mp h
  cases h
  intro entry hentry
  obtain ⟨made, hmade, hvalue⟩ := List.mem_map.mp (OrderedMap.mem_ofList hentry).2
  obtain ⟨t, ht, hmade⟩ := exists_left (mapM_eq_ok.mp hentries) hmade
  obtain ⟨name, _, hmade⟩ := bind_eq_ok.mp hmade
  cases hmade
  exact hvalue ▸ ht

namespace Registry

variable {r : Registry} {flags : Flags} {c : ClassDef}

/-! ### The trampolines of a class -/

/-- The trampoline of a method of a class, if it is virtual, planned and accepted. -/
def accepted? (r : Registry) (flags : Flags) (c : ClassDef) (m : MethodDef) : Option Trampoline :=
  if m.hash.isSome || !flags.virtuals then none
  else
    match r.acceptVirtual c m with
    | .ok (.ok t) => some t
    | _ => none

/-- The trampolines of a class, in the order of its methods. -/
def acceptedVirtuals (r : Registry) (flags : Flags) (c : ClassDef) : List Trampoline :=
  c.methods.filterMap (r.accepted? flags c)

theorem trampoline?_of_planMethod {referenced : List Name} {m : MethodDef} {o : Outcome}
    (h : r.planMethod flags c referenced m = .ok o) :
    o.member?.bind Member.trampoline? = r.accepted? flags c m := by
  unfold accepted?
  by_cases hb : m.hash.isSome
  · rw [planMethod_of_bound hb] at h
    obtain ⟨b, _, rfl⟩ := map_eq_ok.mp h
    rw [hb, MethodBinding.settled]
    cases b.outcome <;> rfl
  · have hn : m.hash = none := by simpa using hb
    cases hv : flags.virtuals with
    | false =>
      rw [planMethod_of_disabled hn hv] at h
      cases h
      simp [Outcome.member?]
    | true =>
      rw [planMethod_of_virtual hn hv] at h
      obtain ⟨x, hx, h⟩ := bind_eq_ok.mp h
      rw [hn, hx]
      cases x <;> (cases h; rfl)

/-- The plan of a class has the class's trampolines, and its table finds the last of a name. -/
structure Dispatches (r : Registry) (flags : Flags) (c : ClassDef) (p : ClassPlan) : Prop where
  cls : p.cls = c
  virtuals : p.virtuals = r.acceptedVirtuals flags c
  owner : p.dispatch.owner = c.name
  table : DispatchTable.ofTrampolines c p.virtuals = .ok p.dispatch

theorem dispatches_of_planClass {p : ClassPlan} (h : r.planClass flags c = .ok p) :
    Dispatches r flags c p := by
  obtain ⟨s, outcomes, dispatch, _, houtcomes, hdispatch, rfl⟩ := planClass_eq_ok.mp h
  refine ⟨rfl, ?_, (find?_of_ofTrampolines hdispatch).1, hdispatch⟩
  show (outcomes.filterMap Outcome.member?).filterMap Member.trampoline? = _
  rw [List.filterMap_filterMap]
  exact filterMap_eq_filterMap (mapM_eq_ok.mp houtcomes) fun _ _ _ ho =>
    trampoline?_of_planMethod ho

theorem Dispatches.find? {p : ClassPlan} (h : Dispatches r flags c p) (m : Name) :
    p.dispatch.entries.find? m = lastNamed m (r.acceptedVirtuals flags c) := by
  rw [← h.virtuals]
  exact (find?_of_ofTrampolines h.table).2 m

/-! ### Along the chain of parents -/

/-- The last accepted trampoline of a name in the class of a given name, if there is one. -/
def lastAccepted (r : Registry) (flags : Flags) (m : Name) (className : Name) :
    Option Trampoline :=
  (r.class? className).bind fun c => lastNamed m (r.acceptedVirtuals flags c)

end Registry

theorem firstEntry_eq (tables : List DispatchTable) (m : Name) (line : List Name) :
    firstEntry tables m line =
      line.findSome? fun name => (tables.find? (·.owner == name)).bind (·.entries.find? m) := by
  induction line with
  | nil => rfl
  | cons name rest ih =>
    rw [firstEntry, List.findSome?_cons, ih]
    cases (tables.find? (·.owner == name)).bind (·.entries.find? m) <;> rfl

namespace Registry

variable {r : Registry} {flags : Flags} {g : Generation}

/-- The table of a class that was planned is found under the class's name. -/
theorem find?_dispatchTables (h : r.generate flags = .ok g) (m name : Name) :
    (g.dispatchTables.find? (·.owner == name)).bind (·.entries.find? m) =
      r.lastAccepted flags m name := by
  have dispatches := (generates_of_generate h).plans.imp fun _ _ => dispatches_of_planClass
  unfold Generation.dispatchTables lastAccepted class?
  generalize r.classes = classes, g.plans = plans at dispatches ⊢
  induction dispatches with
  | nil => rfl
  | @cons c p classes plans hp _ ih =>
    rw [List.map_cons, List.find?_cons, List.find?_cons, hp.owner]
    cases c.name == name with
    | true => exact hp.find? m
    | false => exact ih

theorem resolveDispatch_eq (h : r.generate flags = .ok g) {m : Name} (hm : m.isComposite = false)
    {className : Name} {line : List Name} (hline : r.ancestors className = .ok line) :
    r.resolveDispatch g.dispatchTables className m =
      .ok ((className :: line).findSome? (r.lastAccepted flags m)) := by
  have entries : firstEntry g.dispatchTables m (className :: line) =
      (className :: line).findSome? (r.lastAccepted flags m) := by
    rw [firstEntry_eq]
    exact congrArg (List.findSome? · _) (funext fun name => find?_dispatchTables h m name)
  unfold resolveDispatch
  rw [hline, show m.keyed = .ok m from Name.keyed_eq_ok.mpr ⟨hm, rfl⟩, ← entries]
  show (if (className :: line).any fun name => g.dispatchTables.any (·.owner == name) then
      Except.ok (firstEntry g.dispatchTables m (className :: line)) else .ok none) = _
  split
  · rfl
  · next hnone =>
    -- No class of the chain has a table, so none is found.
    rw [firstEntry_eq, List.findSome?_eq_none_iff.mpr]
    intro name hname
    have hany : g.dispatchTables.any (·.owner == name) = false := by
      rw [Bool.eq_false_iff]
      exact fun h => hnone (List.any_eq_true.mpr ⟨name, hname, h⟩)
    rw [List.find?_eq_none.mpr fun t ht h => List.any_eq_false.mp hany t ht h]
    rfl

end Registry

end EngineBindings
