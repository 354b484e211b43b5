import EngineBindings.Proofs.Plan.ProbedProxy
import EngineBindings.Proofs.Registry.Built

/-! Proxies that do what they are meant to do.

A proxy is faithful if it does so in every world. Besides the proxies without captures no other one
is (`Trampoline.captureFree_of_faithful`): the probe tells each capture apart from what is meant. -/
namespace EngineBindings

open EngineBindings.Code Attempt

namespace Trampoline

/-- A proxy calls the override and stores what it returns the way it is meant to, whatever the
engine, the runtime and the override do. -/
def Faithful (r : Registry) (t : Trampoline) : Prop :=
  ∀ (M : Type → Type) [Monad M] [LawfulMonad M] (V : Type) (w : World M V) (object args slot : V),
    t.runProxy w object args slot = r.callVirtual w t object args slot

variable {r : Registry} {t : Trampoline}

/-! ### Captures that a probe tells -/

/-- A faithful proxy has no name of its own in place of one of the module that it is meant to
read. -/
theorem module_of_faithful (h : t.Faithful r) :
    ∀ name ∈ t.moduleNames r, spelled name ∉ t.locals := by
  intro name hname hlocal
  have patient : WatchesReads (· == .read (spelled name)) := ⟨fun _ => rfl, rfl⟩
  obtain ⟨o, ho⟩ := exists_execute patient (exists_read_of_local hlocal) t.proxyBody
    (entering (arguments Token.plain Token.plain Token.place))
  have meant := h _ _ (probe (· == .read (spelled name))) .plain .plain .place
  have unwatched := unwatched_of_callVirtual (meant.symm.trans ho) name hname
  simp at unwatched

/-- The values that a proxy has under the names of its arguments. -/
theorem Holds.exists_values (hs : t.Settled r) {env : String → Option Token} (h : t.Holds env) :
    ∃ value : TrampolineArg → Token, (∀ a ∈ t.args, ∃ found, value a = .slot found) ∧
      (∀ a ∈ t.args, env (spelled a.name) = some (value a)) ∧
      List.Forall₂ (fun a v => env (spelled a.name) = some v) t.args (t.args.map value) := by
  have found_at : ∀ a ∈ t.args, ∃ found, env (spelled a.name) = some (.slot found) :=
    fun a ha => h.slot a ha a.name (hs.rebinds_name ha)
  have held : ∀ a ∈ t.args, env (spelled a.name) = some ((env (spelled a.name)).getD .plain) := by
    intro a ha
    obtain ⟨found, hfound⟩ := found_at a ha
    rw [hfound, Option.getD_some]
  refine ⟨fun a => (env (spelled a.name)).getD .plain, fun a ha => ?_, held,
    List.forall₂_map_right_iff.mpr (List.forall₂_same.mpr held)⟩
  obtain ⟨found, hfound⟩ := found_at a ha
  exact ⟨found, by simp [hfound]⟩

/-- The result's slot, or the value of an argument in its place. -/
theorem Holds.exists_place {env : String → Option Token} (h : t.Holds env) :
    ∃ slot, env (spelled "ret_ptr") = some slot ∧
      (slot = .place ∨ ∃ index, slot = .slot index) := by
  by_cases taken : ∃ a ∈ t.args, a.Rebinds "ret_ptr"
  · obtain ⟨a, ha, hn⟩ := taken
    obtain ⟨found, hfound⟩ := h.slot a ha _ hn
    exact ⟨_, hfound, .inr ⟨found, rfl⟩⟩
  · exact ⟨_, h.place fun a ha hn => taken ⟨a, ha, hn⟩, .inl rfl⟩

/-- A value of a slot is called like the object, but the call is not one of the override. -/
theorem valued_of_taken (index : Nat) {values : List Token}
    (h : ∀ v ∈ values, ∃ found, v = .slot found) (exposedName : String) :
    Valued ((probe watchesCall).invoke ((probe watchesCall).attr (.slot index) exposedName)
      (values.map pure)) := by
  refine valued_invoke (valued_attr (.inr ⟨index, rfl⟩)) fun x hx => ?_
  obtain ⟨v, hv, rfl⟩ := List.mem_map.mp hx
  exact valued_ok (.inr (h v hv))

/-- A faithful proxy has what is meant under its names when it calls the override. -/
theorem values_of_faithful (hs : t.Settled r) (h : t.Faithful r) {env : String → Option Token}
    (hrun : t.runProxy (probe watchesCall) .plain .plain .place =
      execute (probe watchesCall) t.locals t.ending env)
    (holds : t.Holds env) :
    env (spelled "target") = some .object ∧
      ∀ entry ∈ t.args.zipIdx, env (spelled entry.1.name) = some (.slot entry.2) := by
  have quiet (name : String) : watchesCall (.read name) = false := rfl
  obtain ⟨_, _, _, hstore⟩ := forall_moduleNames.mp (module_of_faithful h)
  obtain ⟨value, from_slot, held, hvalues⟩ := holds.exists_values hs
  obtain ⟨slot, hslot, hcase⟩ := holds.exists_place
  -- What is meant stops at the call of the override, with the values of all slots.
  have stops : execute (probe watchesCall) t.locals t.ending env =
      .error (.called ((List.range t.args.length).map .slot)) := by
    rw [← hrun, h, callVirtual_probe fun name _ => quiet _]
    rfl
  by_cases taken : ∃ a ∈ t.args, a.Rebinds "target"
  · -- A value takes the place of the object, so the override is not called at all.
    exfalso
    obtain ⟨a, ha, hn⟩ := taken
    obtain ⟨found, hfound⟩ := holds.slot a ha _ hn
    obtain ⟨result, hresult, hvalue⟩ :=
      valued_of_taken found (List.forall_mem_map.mpr from_slot) t.exposedName
    rw [execute_ending hs hstore hfound (fun _ => hslot) hvalues, hresult, ok_bind,
      keepResult_probe (fun _ _ _ _ => quiet _) (quiet _) hvalue
        (hcase.imp_left fun place => ⟨place, rfl⟩)] at stops
    cases stops
  · have object := holds.target fun a ha hn => taken ⟨a, ha, hn⟩
    refine ⟨object, fun entry hentry => ?_⟩
    rw [execute_ending hs hstore object (fun _ => hslot) hvalues, override_probe] at stops
    have values : t.args.map value = (List.range t.args.length).map .slot :=
      Event.called.inj (Except.error.inj stops)
    have hindex : t.args[entry.2]? = some entry.1 := List.mem_zipIdx_iff_getElem?.mp hentry
    have hvalue : value entry.1 = .slot entry.2 := by
      have hget := congrArg (·[entry.2]?) values
      obtain ⟨hlt, hentry⟩ := List.getElem?_eq_some_iff.mp hindex
      simpa [hlt, hentry] using hget
    rw [held entry.1 (List.mem_of_getElem? hindex), hvalue]

/-- No argument of a faithful proxy takes the name of the object. -/
theorem target_of_faithful (hs : t.Settled r) (h : t.Faithful r) :
    ∀ a ∈ t.args, ¬a.Rebinds "target" := by
  intro a ha hn
  obtain ⟨env, hrun, holds, _⟩ :=
    runProxy_probe watchesCall hs (module_of_faithful h) (fun _ => rfl) (List.nil_append _).symm
  obtain ⟨object, _⟩ := values_of_faithful hs h hrun holds
  obtain ⟨found, hfound⟩ := holds.slot a ha _ hn
  rw [object] at hfound
  cases hfound

/-- Behind an argument of a faithful proxy that takes the name of the array of slots no other
one is read. -/
theorem slots_of_faithful (hs : t.Settled r) (h : t.Faithful r) :
    ∀ a ∈ t.args.dropLast, ¬a.Rebinds "_slots" := by
  intro a ha hn
  have hne : t.args ≠ [] := fun hnil => by simp [hnil] at ha
  obtain ⟨before, after, hsplit⟩ := List.append_of_mem ha
  set last := t.args.getLast hne with hlast
  have hargs : t.args = (before ++ [a]) ++ (after ++ [last]) := by
    rw [← List.dropLast_append_getLast hne, hsplit, hlast]
    simp
  obtain ⟨env, hrun, holds, hback⟩ :=
    runProxy_probe watchesCall hs (module_of_faithful h) (fun _ => rfl) hargs
  obtain ⟨_, hvalues⟩ := values_of_faithful hs h hrun holds
  have hmem : last ∈ t.args := List.getLast_mem hne
  have hindex : t.args[t.args.length - 1]? = some last := by
    rw [← List.getLast?_eq_getElem?, List.getLast?_eq_some_getLast hne]
  have hlength : t.args.length = before.length + 1 + (after.length + 1) := by
    rw [hargs, List.length_append, List.length_append, List.length_append]
    rfl
  obtain ⟨found, hfound, htaken, _⟩ :=
    hback last (by simp) last.name (hs.rebinds_name hmem)
  have hlt := htaken ⟨a, by simp, hn⟩
  rw [hvalues (last, t.args.length - 1) (List.mem_zipIdx_iff_getElem?.mpr hindex)] at hfound
  cases hfound
  rw [List.length_append, List.length_singleton] at hlt
  omega

/-- No argument of a faithful proxy takes the name of an earlier one. -/
theorem earlier_of_faithful (hs : t.Settled r) (h : t.Faithful r) :
    t.args.Pairwise fun a b => ¬b.Rebinds a.name := by
  rw [List.pairwise_iff_getElem]
  intro i j hi hj hlt hn
  obtain ⟨env, hrun, holds, hback⟩ :=
    runProxy_probe watchesCall hs (module_of_faithful h) (fun _ => rfl)
      (List.take_append_drop j t.args).symm
  obtain ⟨_, hvalues⟩ := values_of_faithful hs h hrun holds
  have hb : t.args[j] ∈ t.args.drop j := by
    rw [List.mem_drop_iff_getElem]
    exact ⟨0, by omega, by simp⟩
  obtain ⟨found, hfound, _, hafter⟩ := hback _ hb _ hn
  have hfirst := hvalues (t.args[i], i) (List.mem_zipIdx_iff_getElem?.mpr (by simp [hi]))
  have hge := hafter (slots_of_faithful hs h)
  rw [hfirst] at hfound
  cases hfound
  rw [List.length_take] at hge
  omega

/-- No argument of a faithful proxy takes the name of the result's slot, if there is a result. -/
theorem result_of_faithful (hs : t.Settled r) (h : t.Faithful r) :
    t.ret.isSome → ∀ a ∈ t.args, ¬a.Rebinds "ret_ptr" := by
  intro hret a ha hn
  obtain ⟨ret, hret⟩ := Option.isSome_iff_exists.mp hret
  have quiet (name : String) : (Event.read name == Event.stored) = false := rfl
  obtain ⟨_, _, _, hstore⟩ := forall_moduleNames.mp (module_of_faithful h)
  obtain ⟨env, hrun, holds, _⟩ :=
    runProxy_probe (· == .stored) hs (module_of_faithful h) quiet (List.nil_append _).symm
  obtain ⟨value, _, _, hvalues⟩ := holds.exists_values hs
  obtain ⟨taken, htaken⟩ := holds.slot a ha _ hn
  -- What is meant stops when the result is stored, but the proxy stores it somewhere else.
  have meant := h _ _ (probe (· == .stored)) .plain .plain .place
  rw [hrun, execute_ending hs hstore (holds.target (target_of_faithful hs h)) (fun _ => htaken)
    hvalues, override_probe, note_of_unwatched rfl, ok_bind,
    keepResult_probe (fun _ _ _ _ => quiet _) (quiet _) (.inl rfl) (.inr ⟨taken, rfl⟩),
    callVirtual_probe fun name _ => quiet _, note_of_unwatched rfl, ok_bind, Registry.keepResult,
    hret] at meant
  have stored : (r.storeKind ret).write (probe (· == .stored)) .place .plain = .error .stored :=
    write_place (fun _ _ => quiet _) rfl
  simp only [stored] at meant
  cases meant

/-- No other proxy than one without captures is faithful. -/
theorem captureFree_of_faithful (hs : t.Settled r) (h : t.Faithful r) : t.CaptureFree r where
  module := module_of_faithful h
  target := target_of_faithful hs h
  result := result_of_faithful hs h
  slots := slots_of_faithful hs h
  earlier := earlier_of_faithful hs h

end Trampoline

/-! ### Accepted methods -/

namespace Registry

/-- The proxy of an accepted virtual method does what it is meant to do exactly where no argument
takes a name that the proxy still reads. -/
theorem proxy_faithful_iff {r : Registry} {c : ClassDef} {m : MethodDef} {t : Trampoline}
    (h : r.acceptVirtual c m = .ok (.ok t)) : t.Faithful r ↔ t.CaptureFree r := by
  have settled : t.Settled r := settled_of_acceptVirtual h
  constructor
  · intro faithful
    exact Trampoline.captureFree_of_faithful settled faithful
  · intro free M _ _ V w object args slot
    exact Trampoline.runProxy_of_captureFree settled free object args slot

/-- A virtual method that picks something by whole numbers of given names. -/
def picking (arguments : List Name) : MethodDef :=
  { name := "_pick", isVirtual := true, returnType := some (.primitive .bool),
    arguments := arguments.map fun name => { name, type := .primitive .int } }

/-- A class whose methods are called by the engine. -/
def area : ClassDef :=
  .declaring "Area" none [picking ["index"]] []

/-- A proxy without captures is faithful. -/
theorem proxy_faithful_iff_area : ∃ t,
    (ofClasses [area]).acceptVirtual area (picking ["index"]) = .ok (.ok t) ∧
      t.Faithful (ofClasses [area]) := by
  have index : spelled "index" = "index" := spelled_of_plain (by decide +kernel)
  have apart : ∀ name ∈ fixedNames, spelled name ∉ ["index"].map spelled := by
    intro name hname
    have hne : ∀ name ∈ fixedNames, name ≠ "index" := by decide
    simpa [spelled_fixed hname, index] using hne name hname
  refine ⟨_, rfl, (proxy_faithful_iff (c := area) (m := picking ["index"]) rfl).mpr ?_⟩
  constructor
  · intro name hname
    change name ∈ ["instance_from_handle", "slot_addresses", "SlotBuffer", "ctypes", "SlotBuffer",
      "ctypes"] at hname
    change spelled name ∉
      ["instance", "args", "ret_ptr", "target", "_slots", "index", "result"].map spelled
    have fixed : name ∈ fixedNames := by
      revert name
      decide
    have other : name ∉ ["instance", "args", "ret_ptr", "target", "_slots", "index", "result"] := by
      revert name
      decide
    simpa (disch := decide) [spelled_fixed, spelled_fixed fixed, index] using other
  · intro a ha
    obtain rfl := List.mem_singleton.mp ha
    exact apart "target" (by decide)
  · intro _ a ha
    obtain rfl := List.mem_singleton.mp ha
    exact apart "ret_ptr" (by decide)
  · exact nofun
  · exact List.pairwise_singleton _ _

theorem rebinds_of_mem {a : TrampolineArg} {name : String}
    (h : name ∈ a.load.filterMap Stmt.binds?) : a.Rebinds name :=
  List.mem_map_of_mem h

/-- Arguments of these names are accepted, but the proxy does something else than it is meant to. -/
def Captured (names : List Name) : Prop :=
  ∃ t, (ofClasses [area]).acceptVirtual area (picking names) = .ok (.ok t) ∧
    ¬t.Faithful (ofClasses [area])

theorem captured_of_not_captureFree {names : List Name} {t : Trampoline}
    (h : (ofClasses [area]).acceptVirtual area (picking names) = .ok (.ok t))
    (hc : ¬t.CaptureFree (ofClasses [area])) : Captured names :=
  ⟨t, h, fun faithful =>
    hc (Trampoline.captureFree_of_faithful (settled_of_acceptVirtual h) faithful)⟩

/-- An argument may take the name of the object, of the result's slot, of the array of slots, of an
earlier argument or of a module. -/
theorem proxy_captured :
    Captured ["target"] ∧ Captured ["ret_ptr"] ∧ Captured ["_slots", "index"] ∧
      Captured ["index", "index"] ∧ Captured ["ctypes"] := by
  refine ⟨captured_of_not_captureFree rfl fun hc => ?_,
    captured_of_not_captureFree rfl fun hc => ?_, captured_of_not_captureFree rfl fun hc => ?_,
    captured_of_not_captureFree rfl fun hc => ?_, captured_of_not_captureFree rfl fun hc => ?_⟩
  · exact hc.target _ List.mem_cons_self (rebinds_of_mem List.mem_cons_self)
  · exact hc.result rfl _ List.mem_cons_self (rebinds_of_mem List.mem_cons_self)
  · exact hc.slots _ List.mem_cons_self (rebinds_of_mem List.mem_cons_self)
  · exact (List.pairwise_cons.mp hc.earlier).1 _ List.mem_cons_self
      (rebinds_of_mem List.mem_cons_self)
  · exact hc.module "ctypes" (by decide +kernel)
      (Trampoline.mem_locals_of_rebinds List.mem_cons_self (rebinds_of_mem List.mem_cons_self))

end Registry

end EngineBindings
