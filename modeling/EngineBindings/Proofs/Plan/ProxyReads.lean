import EngineBindings.Proofs.Plan.Proxy
import EngineBindings.Proofs.Plan.Requirements
import EngineBindings.Proofs.Plan.Supplied

/-! The names that virtual methods and their proxies read.

A virtual method that is not overridden reads the names of its result, and a proxy those of its
arguments (`Trampoline.mayRead_proxyBody`), besides names of its own, native types, the runtime's
objects and the slot interface. -/
namespace EngineBindings

open Attempt EngineBindings.Code EngineBindings.Text

/-! ### Virtual methods -/

namespace Trampoline

/-- The names of an overridable method's parameters. -/
def parameters (t : Trampoline) : List String :=
  "self" :: t.args.map (·.name)

/-- The names of a proxy's parameters. -/
def proxyParameters : List String :=
  ["instance", "args", "ret_ptr"]

/-- What a proxy reads: names of its own, the slot interface, native types, the runtime's objects
and names that are supplied. -/
def MayRead (t : Trampoline) (name : String) : Prop :=
  name ∈ proxyParameters ++ bindsOf t.proxyBody ∨ name ∈ ["SlotBuffer", "POINTER_SIZE"] ∨
    (name = "slot_addresses" ∧ t.args ≠ []) ∨ name ∈ ["ctypes", "instance_from_handle"] ∨
    SuppliedBy t.requires t.owner name

/-- What the parts of an accepted method's trampoline were planned from. -/
structure Planned (r : Registry) (t : Trampoline) : Prop where
  settled : t.Settled r
  targets : ∀ arg ∈ t.args, ∃ a ∈ t.method.arguments, r.argumentTarget a .member = .ok arg.target
  ret : ∀ target, t.ret = some target → ∃ type, t.method.result? = some type ∧
    r.target type t.method.returnTag .member = .ok target
  default : ∀ value, t.default = some value → ∃ type target, t.method.result? = some type ∧
    t.ret = some target ∧ r.target type t.method.returnTag .member = .ok target ∧
    r.defaultValue type = .ok value
  requires : ∃ needs : List Requirement, t.requires = needs.filter (!·.isClass t.owner) ∧
    (∀ arg ∈ t.args, arg.target.requirements ⊆ needs) ∧
    (∀ arg ∈ t.args, arg.target.isObject → ⟨.runtime, "lookup_live_object"⟩ ∈ needs) ∧
    ∀ target, t.ret = some target → target.requirements ⊆ needs

end Trampoline

theorem Registry.planned_of_acceptVirtual {r : Registry} {c : ClassDef} {m : MethodDef}
    {t : Trampoline} (h : r.acceptVirtual c m = .ok (.ok t)) : t.Planned r := by
  have settled := settled_of_acceptVirtual h
  rcases acceptVirtual_eq_ok.mp h with ⟨_, _, hx⟩ | ⟨_, t', ht, hx⟩
  · cases hx
  cases hx
  obtain ⟨⟨args, ret⟩, hslots, ht⟩ := bind_eq_ok.mp ht
  obtain ⟨exposed, _, ht⟩ := bind_eq_ok.mp ht
  obtain ⟨targets, returned⟩ := targets_of_trampolineSlots hslots
  cases ht
  constructor
  case settled => exact settled
  case targets => exact targets
  case ret =>
    intro target htarget
    obtain ⟨found, hfound, rfl⟩ := Option.map_eq_some_iff.mp htarget
    obtain ⟨type, hresult, htype, _⟩ := returned found hfound
    exact ⟨type, hresult, htype⟩
  case default =>
    intro value hvalue
    obtain ⟨found, hfound, rfl⟩ := Option.map_eq_some_iff.mp hvalue
    obtain ⟨type, hresult, htype, hdefault⟩ := returned found hfound
    exact ⟨type, found.1, hresult, Option.map_eq_some_iff.mpr ⟨found, hfound, rfl⟩, htype, hdefault⟩
  case requires =>
    refine ⟨_, rfl, fun arg harg q hq => ?_, fun arg harg object => ?_, fun target htarget q hq => ?_⟩
    · refine List.mem_append_left _ (List.mem_flatMap.mpr ⟨arg, harg, ?_⟩)
      exact List.mem_append_left _ hq
    · refine List.mem_append_left _ (List.mem_flatMap.mpr ⟨arg, harg, ?_⟩)
      exact List.mem_append_right _ (by simp [object])
    · obtain ⟨found, hfound, rfl⟩ := Option.map_eq_some_iff.mp htarget
      rw [hfound]
      exact List.mem_append_right _ hq

/-- What an argument's statements read: names of the module, the array of slots, and its handle. -/
theorem SlotKind.reads_load {kind : SlotKind} {name : String} (h : '.' ∉ name.toList)
    (index : Nat) : ∀ n ∈ readsOf (kind.load name index),
      n ∈ kind.moduleNames ∨ n = "_slots" ∨ n ∈ kind.binds name := by
  have slots : root "_slots" = "_slots" := by decide
  have buffer : root "SlotBuffer" = "SlotBuffer" := by decide
  intro n hn
  cases kind with
  | scalar type =>
    have hn : n ∈ [root "SlotBuffer", root "_slots", "ctypes", "ctypes", "ctypes"] := hn
    rw [slots, buffer] at hn
    simp only [List.mem_cons, List.not_mem_nil, or_false] at hn
    simp only [moduleNames, List.mem_cons, List.not_mem_nil, or_false]
    grind
  | struct size host =>
    have hn : n ∈ [root "SlotBuffer", root "_slots", root host] := hn
    rw [slots, buffer] at hn
    simp only [List.mem_cons, List.not_mem_nil, or_false] at hn
    simp only [moduleNames, List.mem_cons, List.not_mem_nil, or_false]
    grind
  | content size host =>
    have hn : n ∈ [root host, root "SlotBuffer", root "_slots"] := hn
    rw [slots, buffer] at hn
    simp only [List.mem_cons, List.not_mem_nil, or_false] at hn
    simp only [moduleNames, List.mem_cons, List.not_mem_nil, or_false]
    grind
  | object host =>
    have handle : root (handleName name) = handleName name :=
      root_eq_self (by simpa [handleName] using h)
    have size : root "POINTER_SIZE" = "POINTER_SIZE" := by decide
    have lookup : root "lookup_live_object" = "lookup_live_object" := by decide
    have hn : n ∈ [root "SlotBuffer", root "_slots", root "POINTER_SIZE", "ctypes",
        root (handleName name), root "lookup_live_object", root (handleName name), root host,
        root (handleName name)] := hn
    rw [slots, buffer, handle, size, lookup] at hn
    simp only [List.mem_cons, List.not_mem_nil, or_false] at hn
    simp only [moduleNames, binds, List.mem_cons, List.not_mem_nil, or_false]
    grind

/-- What the statement of a result reads: names of the module, the result and its slot. -/
theorem StoreKind.reads_statement (kind : StoreKind) : ∀ n ∈ kind.statement.reads,
    n ∈ ["SlotBuffer", "POINTER_SIZE", "ctypes", "int", "bytes", "ret_ptr", "result"] := by
  cases kind with
  | number =>
    show ∀ n ∈ [root "SlotBuffer", root "ret_ptr", root "int", root "result", "ctypes"], _
    decide
  | object =>
    show ∀ n ∈ [root "SlotBuffer", root "ret_ptr", root "POINTER_SIZE", root "result",
      root "result", "ctypes"], _
    decide
  | scalar type =>
    show ∀ n ∈ [root "SlotBuffer", root "ret_ptr", "ctypes", "ctypes", root "result", "ctypes"], _
    decide
  | struct size =>
    show ∀ n ∈ [root "SlotBuffer", root "ret_ptr", root "result"], _
    decide
  | content size =>
    show ∀ n ∈ [root "SlotBuffer", root "ret_ptr", root "bytes", root "result"], _
    decide

/-- The names of the module that reading an argument takes: fixed ones, and that of its type. -/
theorem Registry.moduleNames_slotKind {r : Registry} {target : Target} :
    ∀ n ∈ (r.slotKind target).moduleNames, n ∈ ["SlotBuffer", "POINTER_SIZE", "ctypes"] ∨
      n = "lookup_live_object" ∧ target.isObject = true ∨ n = root target.host := by
  unfold slotKind
  intro n hn
  split at hn
  · next object =>
    simp only [SlotKind.moduleNames, List.mem_cons, List.not_mem_nil, or_false] at hn ⊢
    grind
  · split at hn
    · simp only [SlotKind.moduleNames, List.mem_cons, List.not_mem_nil, or_false] at hn ⊢
      grind
    · dsimp only at hn
      split at hn <;>
        (simp only [SlotKind.moduleNames, List.mem_cons, List.not_mem_nil, or_false] at hn ⊢
         grind)

namespace Trampoline

section Virtual

variable {r : Registry} {t : Trampoline} (planned : t.Planned r)
  (variant : r.class? ("Variant" : String) = none) (plain : ∀ type ∈ t.method.types, type.IsPlain)
include planned variant plain

/-- What names the type of an argument is supplied. -/
theorem suppliedBy_argument {arg : TrampolineArg} (harg : arg ∈ t.args) :
    ∀ name ∈ arg.target.names, SuppliedBy t.requires t.owner name := by
  obtain ⟨needs, hrequires, arguments, _, _⟩ := planned.requires
  obtain ⟨a, ha, htarget⟩ := planned.targets arg harg
  have declared : a.type ∈ t.method.types :=
    List.mem_append_left _ (List.mem_map.mpr ⟨a, ha, rfl⟩)
  rw [hrequires]
  exact Registry.suppliedBy_of_names variant (plain _ declared) htarget (arguments arg harg)

/-- A method that is not overridden returns what the names of its type make. -/
theorem suppliedBy_baseBody : ∀ name ∈ readsOf t.baseBody,
    t.default.isSome = true ∧ SuppliedBy t.requires t.owner name := by
  intro name hname
  unfold baseBody at hname
  cases hdefault : t.default with
  | none =>
    rw [hdefault] at hname
    cases hname
  | some value =>
    rw [hdefault] at hname
    rw [readsOf_cons, readsOf_nil, List.append_nil] at hname
    obtain ⟨type, target, hresult, hret, htarget, hvalue⟩ := planned.default value hdefault
    obtain ⟨needs, hrequires, _, _, returned⟩ := planned.requires
    have declared : type ∈ t.method.types :=
      List.mem_append_right _ (Option.mem_toList.mpr hresult)
    refine ⟨rfl, ?_⟩
    rw [hrequires]
    exact Registry.suppliedBy_of_names variant (plain _ declared) htarget (returned target hret) name
      (Registry.reads_defaultValue hvalue htarget hname)

omit variant plain in
theorem exists_load {arg : TrampolineArg} (harg : arg ∈ t.args) : ∃ index,
    '.' ∉ arg.name.toList ∧ arg.load = (r.slotKind arg.target).load arg.name index := by
  obtain ⟨index, hindex, hfound⟩ := List.mem_iff_getElem.mp harg
  have entry : (arg, index) ∈ t.args.zipIdx := by
    rw [List.mk_mem_zipIdx_iff_getElem?, List.getElem?_eq_getElem hindex, hfound]
  exact ⟨index, planned.settled.args _ entry⟩

/-- What a proxy has of its own: its parameters, its object, the array of slots, its arguments, and
its result. -/
inductive Own (t : Trampoline) : String → Prop
  | parameter {name : String} (h : name ∈ proxyParameters) : Own t name
  | object : Own t "target"
  | slots (h : t.args.isEmpty = false) : Own t "_slots"
  | argument {arg : TrampolineArg} {name : String} (harg : arg ∈ t.args)
      (h : name ∈ bindsOf arg.load) : Own t name
  | result (h : t.ret.isSome = true) : Own t "result"

omit planned variant plain in
theorem mayRead_own {name : String} (h : Own t name) : t.MayRead name := by
  left
  unfold proxyBody
  simp only [bindsOf_append, List.mem_append]
  cases h with
  | parameter h => exact .inl h
  | object => exact .inr (.inl (.inl (.inl (by decide))))
  | slots h =>
    right; left; left; right
    rw [h]
    exact List.mem_singleton_self _
  | @argument arg _ harg h =>
    right; left; right
    rw [bindsOf, List.filterMap_flatMap]
    exact List.mem_flatMap.mpr ⟨arg, harg, h⟩
  | result h =>
    right; right
    obtain ⟨target, hret⟩ := Option.isSome_iff_exists.mp h
    rw [hret]
    exact List.mem_cons_self

omit planned variant plain in
theorem mayRead_fixed {name : String} (h : name ∈ ["SlotBuffer", "POINTER_SIZE", "ctypes"]) :
    t.MayRead name := by
  simp only [List.mem_cons, List.not_mem_nil, or_false] at h
  rcases h with rfl | rfl | rfl
  · exact .inr (.inl (by decide))
  · exact .inr (.inl (by decide))
  · exact .inr (.inr (.inr (.inl (by decide))))

theorem mayRead_load {arg : TrampolineArg} (harg : arg ∈ t.args) :
    ∀ name ∈ readsOf arg.load, t.MayRead name := by
  intro name hname
  obtain ⟨index, hdot, hload⟩ := exists_load planned harg
  rw [hload] at hname
  rcases SlotKind.reads_load hdot index name hname with hmodule | rfl | hown
  · rcases Registry.moduleNames_slotKind name hmodule with fixed | ⟨rfl, object⟩ | rfl
    · exact mayRead_fixed fixed
    · obtain ⟨needs, hrequires, _, live, _⟩ := planned.requires
      right; right; right; right
      rw [hrequires]
      exact suppliedBy_filter (live arg harg object) (.symbol rfl)
    · exact .inr (.inr (.inr (.inr (suppliedBy_argument planned variant plain harg _
        List.mem_cons_self))))
  · refine mayRead_own (.slots ?_)
    cases hargs : t.args with
    | nil =>
      rw [hargs] at harg
      cases harg
    | cons => rfl
  · refine mayRead_own (.argument harg ?_)
    rw [hload, bindsOf, SlotKind.binds_load]
    exact hown

omit planned variant plain in
/-- A proxy finds its object first. -/
theorem mayRead_finder : ∀ name ∈ readsOf [.stopUnless (.name "instance"),
    .assign "target" (.apply "instance_from_handle" [.name "instance"]),
    .stopIfNone (.name "target")], t.MayRead name := by
  intro name hname
  have hname : name ∈ [root "instance", root "instance_from_handle", root "instance",
    root "target"] := hname
  have roots : [root "instance", root "instance_from_handle", root "instance", root "target"] =
      ["instance", "instance_from_handle", "instance", "target"] := by decide
  rw [roots] at hname
  simp only [List.mem_cons, List.not_mem_nil, or_false] at hname
  rcases hname with rfl | rfl | rfl | rfl
  · exact mayRead_own (.parameter (by decide))
  · exact .inr (.inr (.inr (.inl (by decide))))
  · exact mayRead_own (.parameter (by decide))
  · exact mayRead_own .object

omit planned variant plain in
theorem mayRead_slots (given : t.args.isEmpty = false) : ∀ name ∈ readsOf [.assign "_slots"
    (.apply "slot_addresses" [.name "args", .literal (Number.decimal t.args.length)])],
    t.MayRead name := by
  intro name hname
  have hname : name ∈ [root "slot_addresses", root "args"] := hname
  have roots : [root "slot_addresses", root "args"] = ["slot_addresses", "args"] := by decide
  rw [roots] at hname
  rcases List.mem_pair.mp hname with rfl | rfl
  · exact .inr (.inr (.inl ⟨rfl, List.isEmpty_eq_false_iff.mp given⟩))
  · exact mayRead_own (.parameter (by decide))

omit variant plain in
/-- The override is called with the arguments that were read. -/
theorem mayRead_override : ∀ name ∈ t.call.reads, t.MayRead name := by
  intro name hname
  unfold Trampoline.call at hname
  rw [reads_invoke] at hname
  rcases List.mem_append.mp hname with hname | hname
  · have target : root "target" = "target" := by decide
    rw [show name = root "target" from List.mem_singleton.mp hname, target]
    exact mayRead_own .object
  · obtain ⟨e, he, hname⟩ := List.mem_flatMap.mp hname
    obtain ⟨arg, harg, rfl⟩ := List.mem_map.mp he
    obtain ⟨index, hdot, hload⟩ := exists_load planned harg
    rw [show name = root arg.name from List.mem_singleton.mp hname, root_eq_self hdot]
    refine mayRead_own (.argument harg ?_)
    rw [hload, bindsOf, SlotKind.binds_load]
    cases r.slotKind arg.target <;> simp [SlotKind.binds]

omit variant plain in
theorem mayRead_store {target : Target} (hret : t.ret = some target) :
    ∀ name ∈ readsOf t.store, t.MayRead name := by
  intro name hname
  rw [planned.settled.store target hret, readsOf_cons, readsOf_nil, List.append_nil] at hname
  have hname := StoreKind.reads_statement _ name hname
  simp only [List.mem_cons, List.not_mem_nil, or_false] at hname
  rcases hname with rfl | rfl | rfl | rfl | rfl | rfl | rfl
  · exact mayRead_fixed (by decide)
  · exact mayRead_fixed (by decide)
  · exact mayRead_fixed (by decide)
  · exact .inr (.inr (.inr (.inr (.inl (by decide)))))
  · exact .inr (.inr (.inr (.inr (.inl (by decide)))))
  · exact mayRead_own (.parameter (by decide))
  · exact mayRead_own (.result (by rw [hret]; rfl))

/-- Whatever a proxy reads is its own, fixed or supplied. -/
theorem mayRead_proxyBody : ∀ name ∈ readsOf t.proxyBody, t.MayRead name := by
  unfold proxyBody
  simp only [readsOf_append, List.forall_mem_append]
  refine ⟨⟨⟨mayRead_finder, ?_⟩, ?_⟩, ?_⟩
  · split
    · exact List.forall_mem_nil _
    · next given => exact mayRead_slots (by simpa using given)
  · intro name hname
    obtain ⟨s, hs, hname⟩ := List.mem_flatMap.mp hname
    obtain ⟨arg, harg, hs⟩ := List.mem_flatMap.mp hs
    exact mayRead_load planned variant plain harg name (List.mem_flatMap.mpr ⟨s, hs, hname⟩)
  · cases hret : t.ret with
    | none =>
      rw [readsOf_cons, readsOf_nil, List.append_nil]
      exact mayRead_override planned
    | some target =>
      rw [readsOf_cons, List.forall_mem_append]
      exact ⟨mayRead_override planned, mayRead_store planned hret⟩

end Virtual

end Trampoline

end EngineBindings
