import EngineBindings.Proofs.Plan.Handing
import EngineBindings.Proofs.Plan.Supplied

/-! The names that bound methods read.

A bound method reads its own parameters and variables, the native types, the engine's interface,
its class and the names of its types (`MethodBinding.mayRead_body`). What names a type is supplied
by what the method requires, or by the class that it is emitted in. -/
namespace EngineBindings

open Attempt EngineBindings.Code EngineBindings.Text

/-! ### Results -/

namespace Registry

variable {r : Registry} {m : MethodDef}

/-- The storage of a result is a native number, or the zero value of its type. -/
theorem reads_storage {name : Name} {e : Expr} (h : r.storage name = .ok e) :
    e.reads ⊆ ["ctypes"] := by
  obtain ⟨size, _, h⟩ := bind_eq_ok.mp h
  split at h
  · cases h
    exact List.Subset.refl _
  · split at h
    · cases h
      exact List.Subset.refl _
    · split at h
      · cases h
        exact List.Subset.refl _
      · cases h

/-- What the parts of a result read. -/
structure ReadsResult (r : Registry) (ret : ReturnPlan) : Prop where
  storage : ret.storage.reads ⊆ ["ctypes", "int"] ++ ret.target.names
  pointer : ret.pointer.reads ⊆ ["ctypes", resultName]
  unwrapped : ∀ name ∈ ret.unwrapped.reads, name = resultName ∨ name ∈ ret.target.names ∨
    name = "lookup_object" ∧
      ∃ host width, ret.target = .object host width ∧ r.hasSubclasses host = true

/-- The storage of a native number holds the zero value of the type. -/
theorem reads_cell {field : String} {zero : Expr} {t : Target} (h : zero.reads ⊆ t.names) :
    (Expr.invoke (.native field) [zero]).reads ⊆ ["ctypes", "int"] ++ t.names := by
  intro name hname
  rw [reads_invoke, reads_native, List.flatMap_singleton] at hname
  rcases List.mem_append.mp hname with hname | hname
  · exact List.mem_append_left _ (List.mem_cons.mpr (.inl (List.mem_singleton.mp hname)))
  · exact List.mem_append_right _ (h hname)

/-- The engine is given the address of the storage. -/
theorem reads_reference : (Expr.invoke (.native "byref") [.name resultName]).reads ⊆
    ["ctypes", resultName] :=
  List.Subset.refl ["ctypes", root resultName]

/-- A number stands for the member of an enumeration, which is made from it again. -/
theorem readsResult_of_enumeration {target : Target} {zero : Expr}
    (h : zero.reads ⊆ target.names) : r.ReadsResult
      { target
        storage := .invoke (.native "c_int64") [.apply "int" [zero]]
        pointer := .invoke (.native "byref") [.name resultName]
        unwrapped := .apply target.host [.attr (.name resultName) "value"] } := by
  refine ⟨fun name hname => ?_, reads_reference, fun name hname => ?_⟩
  · rw [reads_invoke, reads_native, List.flatMap_singleton, reads_apply, List.flatMap_singleton]
      at hname
    rcases List.mem_append.mp hname with hname | hname
    · exact List.mem_append_left _ (List.mem_cons.mpr (.inl (List.mem_singleton.mp hname)))
    · rcases List.mem_cons.mp hname with rfl | hname
      · exact List.mem_append_left _ (by decide)
      · exact List.mem_append_right _ (h hname)
  · rw [reads_apply] at hname
    rcases List.mem_cons.mp hname with rfl | hname
    · exact .inr (.inl List.mem_cons_self)
    · exact .inl (List.mem_singleton.mp hname)

/-- A typed array is made of its raw storage and the type inside it. -/
theorem readsResult_of_typedArray {element : Target} {spelling : String} {storage : Expr}
    (h : r.storage "Array" = .ok storage) : r.ReadsResult
      { target := .typedArray element spelling
        storage
        pointer := .invoke (.native "byref") [.name resultName]
        unwrapped := .call (.name "GodotCollection")
          (.cons none (.name element.host) (.cons (some "content") (.name resultName) .nil)) } := by
  refine ⟨List.Subset.trans (reads_storage h) (List.subset_append_left ["ctypes"] _),
    reads_reference, fun name hname => ?_⟩
  have parts : name ∈ [root "GodotCollection", root element.host, root resultName] := hname
  have result : root resultName = resultName := by decide
  rw [result] at parts
  simp only [List.mem_cons, List.not_mem_nil, or_false] at parts
  rcases parts with rfl | rfl | rfl
  · exact .inr (.inl List.mem_cons_self)
  · exact .inr (.inl (List.mem_cons_of_mem _ List.mem_cons_self))
  · exact .inl rfl

/-- An object is made of its handle, or looked up where its class has subclasses. -/
theorem readsResult_of_object {host : String} {width : Width} : r.ReadsResult
    { target := .object host width
      storage := .invoke (.native "c_void_p") []
      pointer := .invoke (.native "byref") [.name resultName]
      unwrapped :=
        let value := Expr.attr (.name resultName) "value"
        .choose
          (if r.hasSubclasses host then .apply "lookup_object" [value]
           else .call (.name host) (.cons (some "native_handle") value .nil)) value .none } := by
  refine ⟨List.subset_append_left ["ctypes"] _, reads_reference, fun name hname => ?_⟩
  rcases List.mem_append.mp (List.mem_append.mp hname |>.resolve_right List.not_mem_nil) with
    hname | hname
  · exact .inl (List.mem_singleton.mp hname)
  · split at hname
    · next subclasses =>
      rcases List.mem_cons.mp hname with rfl | hname
      · exact .inr (.inr ⟨by decide, host, width, rfl, subclasses⟩)
      · exact .inl (List.mem_singleton.mp hname)
    · rcases List.mem_cons.mp hname with rfl | hname
      · exact .inr (.inl List.mem_cons_self)
      · exact .inl (List.mem_singleton.mp hname)

theorem readsResult_of_returnPlan {type : TypeRef} {ret : ReturnPlan}
    (h : r.returnPlan .member m type = .ok ret) : r.ReadsResult ret := by
  unfold returnPlan at h
  obtain ⟨target, ht, h⟩ := bind_eq_ok.mp h
  obtain ⟨zero, hzero, h⟩ := bind_eq_ok.mp h
  have zeroReads := reads_defaultValue hzero ht
  dsimp only at h
  split at h
  · cases h
    exact readsResult_of_enumeration zeroReads
  · cases h
    exact readsResult_of_enumeration zeroReads
  · obtain ⟨storage, hstorage, h⟩ := bind_eq_ok.mp h
    cases h
    exact readsResult_of_typedArray hstorage
  · cases h
    exact readsResult_of_object
  · split at h
    · cases h
      exact ⟨reads_cell zeroReads, reads_reference, fun name hname =>
        .inl (List.mem_singleton.mp hname)⟩
    · have zeroStorage : zero.reads ⊆ ["ctypes", "int"] ++ target.names :=
        List.Subset.trans zeroReads (List.subset_append_right _ _)
      split at h
      · cases h
        exact ⟨zeroStorage, reads_reference, fun name hname => .inl (List.mem_singleton.mp hname)⟩
      · cases h
        exact ⟨zeroStorage, reads_reference, fun name hname => .inl (List.mem_singleton.mp hname)⟩

end Registry

/-! ### Arguments -/

namespace Handing

variable {handing : Handing} {name : String}

theorem bindsOf_setup : bindsOf (handing.setup name) = (handing.cell? name).toList := by
  unfold setup
  cases handing.cell? name <;> rfl

/-- What is put into a cell is made of the argument, with its type if it is a structure. -/
theorem reads_box (h : '.' ∉ name.toList) : ∀ n ∈ (handing.box name).reads,
    n = name ∨ n ∈ ["ctypes", "int"] ∨ ∃ host, handing = .struct host ∧ n = root host := by
  have self : root name = name := root_eq_self h
  have int : root "int" = "int" := by decide
  intro n hn
  cases handing with
  | number =>
    have hn : n ∈ ["ctypes", root "int", root name] := hn
    rw [self, int] at hn
    simp only [List.mem_cons, List.not_mem_nil, or_false] at hn ⊢
    tauto
  | scalar type =>
    have hn : n ∈ ["ctypes", root name] := hn
    rw [self] at hn
    simp only [List.mem_cons, List.not_mem_nil, or_false] at hn ⊢
    tauto
  | struct host =>
    have hn : n ∈ [root host, root name] := hn
    rw [self] at hn
    rcases List.mem_pair.mp hn with rfl | rfl
    · exact .inr (.inr ⟨host, rfl, rfl⟩)
    · exact .inl rfl
  | object =>
    have hn : n ∈ ["ctypes", root name, root name] := hn
    rw [self] at hn
    simp only [List.mem_cons, List.not_mem_nil, or_false] at hn ⊢
    tauto
  | content =>
    have hn : n ∈ [root name] := hn
    rw [self] at hn
    exact .inl (List.mem_singleton.mp hn)

theorem reads_setup (h : '.' ∉ name.toList) : ∀ n ∈ readsOf (handing.setup name),
    n = name ∨ n ∈ ["ctypes", "int"] ∨ ∃ host, handing = .struct host ∧ n = root host := by
  intro n hn
  obtain ⟨s, hs, hn⟩ := List.mem_flatMap.mp hn
  obtain ⟨cell, _, rfl⟩ := List.mem_map.mp hs
  exact reads_box h n hn

/-- An argument's address is that of its cell, or of its content. -/
theorem reads_native (h : '.' ∉ name.toList) : ∀ n ∈ (handing.native name).reads,
    n = "ctypes" ∨ n = name ∨ n ∈ handing.cell? name := by
  intro n hn
  unfold native at hn
  rw [reads_invoke, List.flatMap_singleton] at hn
  rcases List.mem_append.mp hn with hn | hn
  · exact .inl (List.mem_singleton.mp hn)
  · cases hcell : handing.cell? name with
    | some cell =>
      rw [hcell] at hn
      have hn := List.mem_singleton.mp hn
      rw [root_eq_self (notMem_of_cell? h hcell)] at hn
      exact .inr (.inr (congrArg some hn.symm))
    | none =>
      cases handing with
      | content =>
        have hn : n ∈ [root name] := hn
        rw [root_eq_self h] at hn
        exact .inr (.inl (List.mem_singleton.mp hn))
      | number | scalar | struct | object => cases hcell

end Handing

theorem Registry.host_of_handing {r : Registry} {type : TypeRef} {t : Target} {host : String}
    (h : r.handing type t = .struct host) : host = t.host := by
  unfold Registry.handing at h
  split at h
  · split at h
    · split at h <;> cases h
    · cases h
      rfl
  · split at h <;> cases h

/-! ### Bound methods -/

namespace MethodBinding

/-- The names of a bound method's parameters. -/
def parameters (b : MethodBinding) : List String :=
  (if b.hasReceiver then ["self"] else []) ++ b.args.map (·.name)

/-- What a bound method reads: names of its own, native types, the engine's interface, the class,
and names that are supplied. -/
def MayRead (b : MethodBinding) (name : String) : Prop :=
  name ∈ b.parameters ++ bindsOf b.body ∨ name ∈ ["ctypes", "gi"] ∨
    name = root b.owner.display ∨ SuppliedBy b.requires b.owner name

section Bound

variable {r : Registry} {b : MethodBinding} {lead : String}

theorem mayRead_own {name : String} (h : name ∈ b.parameters ++ bindsOf b.body) : b.MayRead name :=
  .inl h

theorem mayRead_language {name : String} (h : name ∈ languageNames) : b.MayRead name :=
  .inr (.inr (.inr (.inl h)))

theorem mayRead_ctypes : b.MayRead "ctypes" :=
  .inr (.inl List.mem_cons_self)

theorem mayRead_argument {slot : ArgSlot} (h : slot ∈ b.args) : b.MayRead slot.name :=
  mayRead_own (List.mem_append_left _ (List.mem_append_right _ (List.mem_map.mpr ⟨slot, h, rfl⟩)))

/-- The body binds what its parts bind. -/
theorem bindsOf_body : bindsOf b.body = b.args.flatMap (bindsOf ·.setup) ++
    (if b.args.isEmpty then [] else [arrayName]) ++ (b.ret.map fun _ => resultName).toList := by
  unfold body
  simp only [bindsOf_append]
  have setups : bindsOf (b.args.flatMap (·.setup)) = b.args.flatMap (bindsOf ·.setup) :=
    List.filterMap_flatMap
  rw [setups]
  cases b.args.isEmpty <;> cases b.ret <;> simp [bindsOf, Stmt.binds?, ReturnPlan.store]

theorem mayRead_array (h : b.args.isEmpty = false) : b.MayRead arrayName := by
  refine mayRead_own (List.mem_append_right _ ?_)
  rw [bindsOf_body, h]
  simp

theorem mayRead_result {ret : ReturnPlan} (h : b.ret = some ret) : b.MayRead resultName := by
  refine mayRead_own (List.mem_append_right _ ?_)
  rw [bindsOf_body, h]
  simp

/-- What names the type of an argument or of the result is supplied. -/
theorem mayRead_of_names (planned : b.Planned r .member lead)
    (variant : r.class? ("Variant" : String) = none) {type : TypeRef} (plain : type.IsPlain)
    {tag : Json} {t : Target} (h : r.target type tag .member = .ok t)
    (part : (∃ slot ∈ b.args, slot.target = t) ∨ ∃ ret, b.ret = some ret ∧ ret.target = t) :
    ∀ name ∈ t.names, b.MayRead name := by
  intro name hname
  right; right; right
  rw [planned.requires]
  refine Registry.suppliedBy_of_names variant plain h (fun q hq => ?_) name hname
  rcases part with ⟨slot, hslot, rfl⟩ | ⟨ret, hret, rfl⟩
  · exact List.mem_append_left _ (List.mem_flatMap.mpr ⟨slot, hslot, hq⟩)
  · rw [hret]
    exact List.mem_append_right _ (List.mem_append_left _ hq)

/-- A class with subclasses is looked up by a function that is required. -/
theorem mayRead_lookup (planned : b.Planned r .member lead) {ret : ReturnPlan}
    (hret : b.ret = some ret) {host : String} {width : Width}
    (object : ret.target = .object host width) (subclasses : r.hasSubclasses host = true) :
    b.MayRead "lookup_object" := by
  right; right; right
  rw [planned.requires]
  refine suppliedBy_filter ?_ (.symbol rfl : (⟨.runtime, "lookup_object"⟩ : Requirement).Supplies _)
  rw [hret]
  refine List.mem_append_right _ (List.mem_append_right _ ?_)
  rw [object]
  simp [subclasses]

variable (planned : b.Planned r .member lead) (variant : r.class? ("Variant" : String) = none)
  (plain : ∀ type ∈ b.method.types, type.IsPlain)
include planned variant plain

theorem mayRead_setup : ∀ name ∈ readsOf (b.args.flatMap (·.setup)), b.MayRead name := by
  intro name hname
  obtain ⟨s, hs, hname⟩ := List.mem_flatMap.mp hname
  obtain ⟨slot, hslot, hs⟩ := List.mem_flatMap.mp hs
  obtain ⟨a, ha, htarget, handed⟩ := planned.args slot hslot
  have hname : name ∈ readsOf slot.setup := List.mem_flatMap.mpr ⟨s, hs, hname⟩
  rw [handed.setup] at hname
  rcases Handing.reads_setup handed.name name hname with rfl | fixed | ⟨host, struct, rfl⟩
  · exact mayRead_argument hslot
  · rcases List.mem_pair.mp fixed with rfl | rfl
    · exact mayRead_ctypes
    · exact mayRead_language (by decide)
  · have argument : a.type ∈ b.method.types :=
      List.mem_append_left _ (List.mem_map.mpr ⟨a, ha, rfl⟩)
    rw [Registry.host_of_handing struct]
    exact mayRead_of_names planned variant (plain _ argument) htarget (.inl ⟨slot, hslot, rfl⟩) _
      List.mem_cons_self

omit variant plain in
theorem mayRead_pointerArray : ∀ name ∈ b.pointerArray.reads, b.MayRead name := by
  intro name hname
  unfold pointerArray at hname
  rw [reads_invoke] at hname
  rcases List.mem_append.mp hname with hname | hname
  · rw [show name = "ctypes" from List.mem_singleton.mp hname]
    exact mayRead_ctypes
  · obtain ⟨e, he, hname⟩ := List.mem_flatMap.mp hname
    obtain ⟨slot, hslot, rfl⟩ := List.mem_map.mp he
    obtain ⟨a, ha, htarget, handed⟩ := planned.args slot hslot
    rw [handed.native] at hname
    rcases Handing.reads_native handed.name name hname with rfl | rfl | hcell
    · exact mayRead_ctypes
    · exact mayRead_argument hslot
    · refine mayRead_own (List.mem_append_right _ ?_)
      rw [bindsOf_body]
      refine List.mem_append_left _ (List.mem_append_left _ ?_)
      refine List.mem_flatMap.mpr ⟨slot, hslot, ?_⟩
      rw [handed.setup, Handing.bindsOf_setup]
      exact Option.mem_toList.mpr hcell

omit variant plain in
theorem mayRead_pointer {ret : ReturnPlan} (hret : b.ret = some ret) :
    ∀ name ∈ ret.pointer.reads, b.MayRead name := by
  intro name hname
  obtain ⟨type, _, hplan⟩ := planned.ret ret hret
  rcases List.mem_pair.mp ((Registry.readsResult_of_returnPlan hplan).pointer hname) with rfl | rfl
  · exact mayRead_ctypes
  · exact mayRead_result hret

omit variant plain in
theorem mayRead_call (kind : b.kind = .method) : ∀ name ∈ b.call.reads, b.MayRead name := by
  unfold call receiver
  rw [kind]
  dsimp only
  rw [reads_invoke]
  simp only [List.flatMap_cons, List.flatMap_nil, List.forall_mem_append]
  refine ⟨?_, ?_, ?_, ?_, ?_, List.forall_mem_nil _⟩
  · intro name hname
    rw [show name = "gi" from List.mem_singleton.mp hname]
    exact .inr (.inl (by decide))
  · intro name hname
    exact .inr (.inr (.inl (List.mem_singleton.mp hname)))
  · intro name hname
    split at hname
    · cases hname
    · next dynamic =>
      rw [show name = "self" from List.mem_singleton.mp hname]
      refine mayRead_own (List.mem_append_left _ (List.mem_append_left _ ?_))
      rw [hasReceiver, kind]
      simp [dynamic, BindingKind.isUtility]
  · intro name hname
    split at hname
    · cases hname
    · next given =>
      rw [show name = arrayName from List.mem_singleton.mp hname]
      exact mayRead_array (by simpa using given)
  · cases hret : b.ret with
    | none => exact List.forall_mem_nil _
    | some ret => exact mayRead_pointer planned hret

omit variant plain in
theorem mayRead_array_store : ∀ name ∈ readsOf
    (if b.args.isEmpty then [] else [.assign arrayName b.pointerArray]), b.MayRead name := by
  split
  · exact List.forall_mem_nil _
  · rw [readsOf_cons, readsOf_nil, List.append_nil]
    exact mayRead_pointerArray planned

theorem mayRead_ret {ret : ReturnPlan} (hret : b.ret = some ret) :
    (∀ name ∈ ret.storage.reads, b.MayRead name) ∧ ∀ name ∈ ret.unwrapped.reads, b.MayRead name := by
  obtain ⟨type, hresult, hplan⟩ := planned.ret ret hret
  have reads := Registry.readsResult_of_returnPlan hplan
  have result : type ∈ b.method.types :=
    List.mem_append_right _ (Option.mem_toList.mpr hresult)
  have names := mayRead_of_names planned variant (plain type result)
    (Registry.target_of_returnPlan hplan) (.inr ⟨ret, hret, rfl⟩)
  constructor
  · intro name hname
    rcases List.mem_append.mp (reads.storage hname) with fixed | hname
    · rcases List.mem_pair.mp fixed with rfl | rfl
      · exact mayRead_ctypes
      · exact mayRead_language (by decide)
    · exact names name hname
  · intro name hname
    rcases reads.unwrapped name hname with rfl | hname | ⟨rfl, host, width, object, subclasses⟩
    · exact mayRead_result hret
    · exact names name hname
    · exact mayRead_lookup planned hret object subclasses

/-- Whatever a bound method reads is its own, fixed, its class or supplied. -/
theorem mayRead_body (kind : b.kind = .method) : ∀ name ∈ readsOf b.body, b.MayRead name := by
  unfold body
  simp only [readsOf_append, List.forall_mem_append]
  refine ⟨⟨⟨⟨mayRead_setup planned variant plain, mayRead_array_store planned⟩, ?_⟩, ?_⟩, ?_⟩
  · cases hret : b.ret with
    | none => exact List.forall_mem_nil _
    | some ret =>
      rw [readsOf_cons, readsOf_nil, List.append_nil]
      exact (mayRead_ret planned variant plain hret).1
  · rw [readsOf_cons, readsOf_nil, List.append_nil]
    exact mayRead_call planned kind
  · cases hret : b.ret with
    | none => exact List.forall_mem_nil _
    | some ret =>
      rw [readsOf_cons, readsOf_nil, List.append_nil]
      exact (mayRead_ret planned variant plain hret).2

end Bound

end MethodBinding

end EngineBindings
