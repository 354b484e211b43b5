import EngineBindings.Proofs.Plan.Proxy

/-! Names that a proxy's arguments capture.

A proxy is one scope for its arguments, whose names the document chooses, and for the names that
every proxy has: the object it found, the array of slots, the slot for the result, the parts of the
runtime it calls. `CaptureFree` says that no argument takes a name that is still read. Such a proxy
does what it is meant to do (`runProxy_of_captureFree`). -/
namespace EngineBindings

open EngineBindings.Code

/-- Reading the argument gives a name another value. -/
def TrampolineArg.Rebinds (a : TrampolineArg) (name : String) : Prop :=
  spelled name ∈ (a.load.filterMap Stmt.binds?).map spelled

instance (a : TrampolineArg) (name : String) : Decidable (a.Rebinds name) :=
  inferInstanceAs (Decidable (_ ∈ _))

namespace Trampoline

/-- The names of the module that a proxy is meant to read. -/
def moduleNames (r : Registry) (t : Trampoline) : List String :=
  "instance_from_handle" :: (if t.args.isEmpty then [] else ["slot_addresses"]) ++
    t.args.flatMap (fun a => (r.slotKind a.target).moduleNames) ++
    match t.ret with
    | some ret => (r.storeKind ret).moduleNames
    | none => []

theorem forall_moduleNames {r : Registry} {t : Trampoline} {p : String → Prop} :
    (∀ name ∈ t.moduleNames r, p name) ↔
      p "instance_from_handle" ∧ (t.args ≠ [] → p "slot_addresses") ∧
        (∀ a ∈ t.args, ∀ name ∈ (r.slotKind a.target).moduleNames, p name) ∧
        ∀ ret, t.ret = some ret → ∀ name ∈ (r.storeKind ret).moduleNames, p name := by
  have locators : (∀ name ∈ if t.args.isEmpty then [] else ["slot_addresses"], p name) ↔
      (t.args ≠ [] → p "slot_addresses") := by
    cases t.args <;> simp
  have stores : (∀ name ∈ (match t.ret with
      | some ret => (r.storeKind ret).moduleNames
      | none => []), p name) ↔
      ∀ ret, t.ret = some ret → ∀ name ∈ (r.storeKind ret).moduleNames, p name := by
    cases t.ret <;> simp
  rw [moduleNames, List.cons_append, List.cons_append, List.forall_mem_cons, List.forall_mem_append,
    List.forall_mem_append, locators, stores, and_assoc]
  refine and_congr Iff.rfl (and_congr Iff.rfl (and_congr ?_ Iff.rfl))
  simp only [List.mem_flatMap, forall_exists_index, and_imp]
  exact ⟨fun h a ha n hn => h n a ha hn, fun h n a ha hn => h a ha n hn⟩

/-- No argument takes a name that the proxy still reads. -/
structure CaptureFree (r : Registry) (t : Trampoline) : Prop where
  module : ∀ name ∈ t.moduleNames r, spelled name ∉ t.locals
  target : ∀ a ∈ t.args, ¬a.Rebinds "target"
  result : t.ret.isSome → ∀ a ∈ t.args, ¬a.Rebinds "ret_ptr"
  slots : ∀ a ∈ t.args.dropLast, ¬a.Rebinds "_slots"
  earlier : t.args.Pairwise fun a b => ¬b.Rebinds a.name

instance (r : Registry) (t : Trampoline) : Decidable (t.CaptureFree r) :=
  decidable_of_iff
    ((∀ name ∈ t.moduleNames r, spelled name ∉ t.locals) ∧
      (∀ a ∈ t.args, ¬a.Rebinds "target") ∧
      (t.ret.isSome → ∀ a ∈ t.args, ¬a.Rebinds "ret_ptr") ∧
      (∀ a ∈ t.args.dropLast, ¬a.Rebinds "_slots") ∧
      t.args.Pairwise fun a b => ¬b.Rebinds a.name)
    ⟨fun ⟨h₁, h₂, h₃, h₄, h₅⟩ => ⟨h₁, h₂, h₃, h₄, h₅⟩,
      fun ⟨h₁, h₂, h₃, h₄, h₅⟩ => ⟨h₁, h₂, h₃, h₄, h₅⟩⟩

end Trampoline

/-! ### The names of every proxy -/

/-- The names that proxies have whatever their arguments are called, or that they find in the
runtime and the language. -/
def fixedNames : List String :=
  ["instance", "args", "ret_ptr", "target", "_slots", "result", "instance_from_handle",
   "slot_addresses", "lookup_live_object", "SlotBuffer", "POINTER_SIZE", "ctypes", "bytes", "int"]

theorem spelled_fixed {name : String} (h : name ∈ fixedNames) : spelled name = name := by
  have plain : ∀ name ∈ fixedNames, name.toList.all Text.isPlain := by decide +kernel
  exact spelled_of_plain (plain name h)

variable {M : Type → Type} [Monad M] {V : Type} {w : World M V}

section Arguments

variable {r : Registry} {a : TrampolineArg} {index : Nat}

theorem rebinds_iff (h : a.load = (r.slotKind a.target).load a.name index) {name : String} :
    a.Rebinds name ↔ spelled name ∈ ((r.slotKind a.target).binds a.name).map spelled := by
  rw [TrampolineArg.Rebinds, h, SlotKind.binds_load]

/-- What names hold when an argument has been read. -/
theorem bind_of_not_rebinds (h : a.load = (r.slotKind a.target).load a.name index)
    {env : String → Option V} {found : V × V} {name : String} (hname : ¬a.Rebinds name) :
    (r.slotKind a.target).bind a.name env found (spelled name) = env (spelled name) :=
  SlotKind.bind_of_notMem fun hmem => hname ((rebinds_iff h).mpr hmem)

/-- Reading an argument gives its names what its slot holds. -/
theorem execute_arg [LawfulMonad M] {locals : List String} {env : String → Option V} {slots : V}
    (hroot : '.' ∉ a.name.toList) (hload : a.load = (r.slotKind a.target).load a.name index)
    (hfree : ∀ n ∈ (r.slotKind a.target).moduleNames, spelled n ∉ locals)
    (hbinds : ∀ n, a.Rebinds n → spelled n ∈ locals) (hlocal : spelled "_slots" ∈ locals)
    (hslots : env (spelled "_slots") = some slots) (rest : List Stmt) :
    execute w locals (a.load ++ rest) env =
      (r.slotKind a.target).fetch w slots index >>= fun found =>
        execute w locals rest ((r.slotKind a.target).bind a.name env found) := by
  have binds_local : ∀ n ∈ (r.slotKind a.target).binds a.name, spelled n ∈ locals :=
    fun n hn => hbinds n ((rebinds_iff hload).mpr (List.mem_map_of_mem hn))
  rw [hload, SlotKind.execute_load index rest hroot hfree binds_local hlocal hslots]

/-- Reading arguments one after another gives each name its slot's value, where no name that is
still read is bound again. -/
theorem execute_loads [LawfulMonad M] {locals : List String} {rest : List Stmt} {slots : V}
    (hlocal : spelled "_slots" ∈ locals) {args : List TrampolineArg} {start : Nat}
    {env : String → Option V}
    (hsettled : ∀ entry ∈ args.zipIdx start, '.' ∉ entry.1.name.toList ∧
      entry.1.load = (r.slotKind entry.1.target).load entry.1.name entry.2)
    (hfree : ∀ a ∈ args, ∀ n ∈ (r.slotKind a.target).moduleNames, spelled n ∉ locals)
    (hbinds : ∀ a ∈ args, ∀ n, a.Rebinds n → spelled n ∈ locals)
    (hslots : args ≠ [] → env (spelled "_slots") = some slots)
    (hkept : ∀ a ∈ args.dropLast, ¬a.Rebinds "_slots")
    (hearlier : args.Pairwise fun a b => ¬b.Rebinds a.name)
    {next : List V → M (Option V)}
    (hnext : ∀ env' values,
      (∀ n, (∀ a ∈ args, ¬a.Rebinds n) → env' (spelled n) = env (spelled n)) →
      List.Forall₂ (fun a v => env' (spelled a.name) = some v) args values →
      execute w locals rest env' = next values) :
    execute w locals (args.flatMap (·.load) ++ rest) env =
      r.slotValues w slots args start >>= next := by
  induction args generalizing start env next with
  | nil =>
    simpa [Registry.slotValues] using hnext env [] (fun _ _ => rfl) .nil
  | cons a args ih =>
    rw [List.zipIdx_cons, List.forall_mem_cons] at hsettled
    obtain ⟨⟨hroot, hload⟩, hrest⟩ := hsettled
    obtain ⟨hafter, hearlier⟩ := List.pairwise_cons.mp hearlier
    -- Every argument but the last has others behind it, which still read the array of slots.
    have before_last : ∀ b, args ≠ [] → b = a ∨ b ∈ args.dropLast → b ∈ (a :: args).dropLast := by
      intro b hne hb
      rw [List.dropLast_cons_of_ne_nil hne]
      exact List.mem_cons.mpr hb
    have values_cons : r.slotValues w slots (a :: args) start = do
        let found ← (r.slotKind a.target).fetch w slots start
        let values ← r.slotValues w slots args (start + 1)
        return found.2 :: values := by
      simp [Registry.slotValues, List.zipIdx_cons]
    rw [List.flatMap_cons, List.append_assoc,
      execute_arg hroot hload (hfree a List.mem_cons_self) (hbinds a List.mem_cons_self) hlocal
        (hslots (List.cons_ne_nil a args)), values_cons, bind_assoc]
    refine bind_congr fun found => ?_
    rw [bind_assoc]
    simp only [pure_bind]
    refine ih hrest (fun b hb => hfree b (List.mem_cons_of_mem a hb))
      (fun b hb => hbinds b (List.mem_cons_of_mem a hb)) ?_ ?_ hearlier ?_
    · intro hne
      rw [bind_of_not_rebinds hload (hkept a (before_last a hne (.inl rfl)))]
      exact hslots (List.cons_ne_nil a args)
    · intro b hb
      have hne : args ≠ [] := fun h => by simp [h] at hb
      exact hkept b (before_last b hne (.inr hb))
    · intro env' values hkeeps hvalues
      refine hnext env' (found.2 :: values) (fun n hn => ?_) (.cons ?_ hvalues)
      · rw [List.forall_mem_cons] at hn
        rw [hkeeps n hn.2, bind_of_not_rebinds hload hn.1]
      · rw [hkeeps a.name hafter, SlotKind.bind_name]

end Arguments

namespace Trampoline

variable {r : Registry} {t : Trampoline}

/-! ### The parts of a proxy -/

theorem mem_locals_of_parameter {name : String} (h : name ∈ ["instance", "args", "ret_ptr"]) :
    spelled name ∈ t.locals :=
  List.mem_map_of_mem (List.mem_append_left _ h)

theorem mem_locals_of_binds {s : Stmt} {name : String} (hs : s ∈ t.proxyBody)
    (hname : s.binds? = some name) : spelled name ∈ t.locals :=
  List.mem_map_of_mem (List.mem_append_right _ (List.mem_filterMap.mpr ⟨s, hs, hname⟩))

theorem mem_locals_target : spelled "target" ∈ t.locals :=
  mem_locals_of_binds
    (s := .assign "target" (.apply "instance_from_handle" [.name "instance"]))
    (by simp [proxyBody]) rfl

theorem mem_locals_slots (h : t.args ≠ []) : spelled "_slots" ∈ t.locals :=
  mem_locals_of_binds
    (s := .assign "_slots"
      (.apply "slot_addresses" [.name "args", .literal (Number.decimal t.args.length)]))
    (by simp [proxyBody, h]) rfl

theorem mem_locals_result {ret : Target} (h : t.ret = some ret) : spelled "result" ∈ t.locals :=
  mem_locals_of_binds (s := .assign "result" t.call) (by simp [proxyBody, h]) rfl

theorem mem_locals_of_rebinds {a : TrampolineArg} {name : String} (ha : a ∈ t.args)
    (h : a.Rebinds name) : spelled name ∈ t.locals := by
  obtain ⟨bound, hbound, heq⟩ := List.mem_map.mp h
  obtain ⟨s, hs, hname⟩ := List.mem_filterMap.mp hbound
  have hbody : s ∈ t.proxyBody := by
    have hload : s ∈ t.args.flatMap (·.load) := List.mem_flatMap.mpr ⟨a, ha, hs⟩
    simp [proxyBody, hload]
  rw [← heq]
  exact mem_locals_of_binds hbody hname

/-- What the parameters of a proxy start with. -/
theorem entering_arguments (object args slot : V) :
    entering (arguments object args slot) (spelled "instance") = some object ∧
      entering (arguments object args slot) (spelled "args") = some args ∧
      entering (arguments object args slot) (spelled "ret_ptr") = some slot := by
  simp (disch := decide) [entering, arguments, spelled_fixed]

/-- A proxy finds the object and the slots, if there are any, and goes on with its arguments. -/
theorem runProxy_eq [LawfulMonad M] (hfinder : spelled "instance_from_handle" ∉ t.locals)
    (hlocator : t.args ≠ [] → spelled "slot_addresses" ∉ t.locals) (object args slot : V) :
    t.runProxy w object args slot = do
      if ← w.isTrue object then
        let target ← w.invoke (w.named "instance_from_handle") [pure object]
        if w.isNone target then return none
        else
          let env := bindName (entering (arguments object args slot)) "target" target
          if t.args.isEmpty then execute w t.locals t.ending env
          else
            let slots ← w.invoke (w.named "slot_addresses")
              [pure args, pure (w.literal (Number.decimal t.args.length))]
            execute w t.locals (t.args.flatMap (·.load) ++ t.ending) (bindName env "_slots" slots)
      else return none := by
  obtain ⟨hobject, hargs, _⟩ := entering_arguments object args slot
  set env := entering (arguments object args slot) with henv
  have object_read : w.follow (w.read t.locals env) "instance" = pure object :=
    (follow_of_root rfl).trans (read_of_bound (mem_locals_of_parameter (by decide)) hobject)
  have finder : w.follow (w.read t.locals env) "instance_from_handle" =
      w.named "instance_from_handle" := follow_of_free hfinder
  have target_read (target : V) :
      w.follow (w.read t.locals (bindName env "target" target)) "target" = pure target :=
    (follow_of_root rfl).trans (read_of_bound mem_locals_target (bindName_self ..))
  have args_read (target : V) :
      w.follow (w.read t.locals (bindName env "target" target)) "args" = pure args := by
    refine (follow_of_root rfl).trans (read_of_bound (mem_locals_of_parameter (by decide)) ?_)
    rw [bindName_of_ne, hargs]
    simp (disch := decide) [spelled_fixed]
  have body : t.proxyBody = .stopUnless (.name "instance") ::
      .assign "target" (.apply "instance_from_handle" [.name "instance"]) ::
      .stopIfNone (.name "target") ::
      ((if t.args.isEmpty then [] else [.assign "_slots"
        (.apply "slot_addresses" [.name "args", .literal (Number.decimal t.args.length)])]) ++
        (t.args.flatMap (·.load) ++ t.ending)) := by
    simp only [proxyBody, List.append_assoc, List.cons_append, List.nil_append]
    rfl
  show execute w t.locals t.proxyBody env = _
  rw [body]
  simp only [execute, Expr.apply, eval_invoke, Expr.eval, object_read, finder, target_read,
    pure_bind, List.map_cons, List.map_nil]
  refine bind_congr fun alive => if_congr Iff.rfl (bind_congr fun target => ?_) rfl
  refine if_congr Iff.rfl rfl ?_
  cases hempty : t.args.isEmpty with
  | true =>
    have hnil : t.args = [] := List.isEmpty_iff.mp hempty
    simp [hnil]
  | false =>
    have hne : t.args ≠ [] := fun h => by simp [h] at hempty
    have locator : w.follow (w.read t.locals (bindName env "target" target)) "slot_addresses" =
        w.named "slot_addresses" := follow_of_free (hlocator hne)
    simp [execute, eval_invoke, Expr.eval, args_read, locator]

theorem Settled.plain (hs : t.Settled r) {a : TrampolineArg} (ha : a ∈ t.args) :
    '.' ∉ a.name.toList := by
  rw [← List.zipIdx_map_fst 0 t.args] at ha
  obtain ⟨entry, hentry, rfl⟩ := List.mem_map.mp ha
  exact (hs.args entry hentry).1

theorem Settled.rebinds_name (hs : t.Settled r) {a : TrampolineArg} (ha : a ∈ t.args) :
    a.Rebinds a.name := by
  rw [← List.zipIdx_map_fst 0 t.args] at ha
  obtain ⟨entry, hentry, rfl⟩ := List.mem_map.mp ha
  refine (rebinds_iff (hs.args entry hentry).2).mpr (List.mem_map_of_mem ?_)
  cases r.slotKind entry.1.target <;> simp [SlotKind.binds]

/-- A proxy calls what it has under `target` with what it has under the names of its arguments. -/
theorem eval_call [LawfulMonad M] (hs : t.Settled r) {env : String → Option V} {target : V}
    {values : List V} (htarget : env (spelled "target") = some target)
    (hvalues : List.Forall₂ (fun a v => env (spelled a.name) = some v) t.args values) :
    t.call.eval w (w.read t.locals env) =
      w.invoke (w.attr target t.exposedName) (values.map pure) := by
  have target_read : w.follow (w.read t.locals env) "target" = pure target :=
    (follow_of_root rfl).trans (read_of_bound mem_locals_target htarget)
  have values_read : t.args.map (fun a => (Expr.name a.name).eval w (w.read t.locals env)) =
      values.map pure := by
    refine (Attempt.map_eq_map hvalues fun a ha v hv => Eq.symm ?_).symm
    exact (follow_of_root (root_eq_self (hs.plain ha))).trans
      (read_of_bound (mem_locals_of_rebinds ha (hs.rebinds_name ha)) hv)
  simp only [call, eval_invoke, Expr.eval, target_read, pure_bind, List.map_map]
  exact congrArg _ values_read

/-- When the arguments have been read, a proxy calls the override and stores what it returns. -/
theorem execute_ending [LawfulMonad M] (hs : t.Settled r)
    (hfree : ∀ ret, t.ret = some ret → ∀ n ∈ (r.storeKind ret).moduleNames, spelled n ∉ t.locals)
    {env : String → Option V} {target slot : V} {values : List V}
    (htarget : env (spelled "target") = some target)
    (hslot : t.ret.isSome → env (spelled "ret_ptr") = some slot)
    (hvalues : List.Forall₂ (fun a v => env (spelled a.name) = some v) t.args values) :
    execute w t.locals t.ending env =
      w.invoke (w.attr target t.exposedName) (values.map pure) >>= r.keepResult w t slot := by
  unfold Registry.keepResult
  cases hret : t.ret with
  | none => simp [ending, hret, execute, eval_call hs htarget hvalues]
  | some ret =>
    simp only [ending, hret, execute, eval_call hs htarget hvalues, hs.store ret hret]
    refine bind_congr fun result => ?_
    refine StoreKind.execute_statement (hfree ret hret) ?_
      (read_of_bound (mem_locals_result hret) (bindName_self ..))
    refine read_of_bound (mem_locals_of_parameter (by decide)) ?_
    rw [bindName_of_ne, hslot (by simp [hret])]
    simp (disch := decide) [spelled_fixed]

/-! ### Proxies without captures -/

/-- A proxy whose arguments capture nothing does what it is meant to do. -/
theorem runProxy_of_captureFree [LawfulMonad M] (hs : t.Settled r) (hc : t.CaptureFree r)
    (object args slot : V) :
    t.runProxy w object args slot = r.callVirtual w t object args slot := by
  obtain ⟨hfinder, hlocator, hload, hstore⟩ := forall_moduleNames.mp hc.module
  obtain ⟨_, _, hslot⟩ := entering_arguments object args slot
  rw [runProxy_eq hfinder hlocator, Registry.callVirtual]
  refine bind_congr fun alive => if_congr Iff.rfl (bind_congr fun target => ?_) rfl
  refine if_congr Iff.rfl rfl ?_
  have slot_kept : bindName (entering (arguments object args slot)) "target" target
      (spelled "ret_ptr") = some slot := by
    rw [bindName_of_ne, hslot]
    simp (disch := decide) [spelled_fixed]
  cases hempty : t.args.isEmpty with
  | true =>
    have hnil : t.args = [] := List.isEmpty_iff.mp hempty
    have hvalues : List.Forall₂ (fun (a : TrampolineArg) (v : V) =>
        bindName (entering (arguments object args slot)) "target" target (spelled a.name) = some v)
        t.args [] := by
      rw [hnil]
      exact .nil
    dsimp only
    rw [if_pos rfl, execute_ending hs hstore (bindName_self ..) (fun _ => slot_kept) hvalues,
      Registry.argumentValues, hempty, if_pos rfl, pure_bind]
  | false =>
    have hne : t.args ≠ [] := fun h => by simp [h] at hempty
    dsimp only
    rw [if_neg Bool.false_ne_true, Registry.argumentValues, hempty, if_neg Bool.false_ne_true,
      bind_assoc]
    refine bind_congr fun slots => ?_
    refine execute_loads (mem_locals_slots hne) hs.args hload
      (fun a ha n hn => mem_locals_of_rebinds ha hn) (fun _ => bindName_self ..) hc.slots hc.earlier
      fun env values hkept hvalues => ?_
    refine execute_ending hs hstore ?_ (fun hret => ?_) hvalues
    · rw [hkept "target" hc.target, bindName_of_ne, bindName_self]
      simp (disch := decide) [spelled_fixed]
    · rw [hkept "ret_ptr" (hc.result hret), bindName_of_ne, slot_kept]
      simp (disch := decide) [spelled_fixed]

end Trampoline

end EngineBindings
