import EngineBindings.Proofs.Plan.Probe

/-! Proxies in a probe.

In a probe, what a proxy is meant to do comes down to calling the override with the values of the
slots in order and storing the result (`callVirtual_probe`). What the proxy itself does there is
followed statement by statement, captures included. -/
namespace EngineBindings

open EngineBindings.Code Attempt

namespace Trampoline

variable {r : Registry} {t : Trampoline} {watched : Event → Bool}

/-! ### What is meant, in a probe -/

theorem finder_probe (h : watched (.read (spelled "instance_from_handle")) = false) (v : Token) :
    (probe watched).invoke ((probe watched).named "instance_from_handle") [pure v] =
      .ok .object := by
  simp [World.invoke, named_fixed (by decide) h, ok_bind, answer, Token.ofName]

theorem locator_probe (h : watched (.read (spelled "slot_addresses")) = false) (v count : Token) :
    (probe watched).invoke ((probe watched).named "slot_addresses") [pure v, pure count] =
      .ok .slots := by
  simp [World.invoke, named_fixed (by decide) h, ok_bind, answer, Token.ofName]

theorem override_probe (values : List Token) (exposedName : String) :
    (probe watched).invoke ((probe watched).attr .object exposedName) (values.map pure) =
      note watched (.called values) .plain := by
  rw [invoke_pure, probe_attr, ok_bind, probe_call, answer_positional]
  rfl

/-- Where the arguments have been read, so have the names of the module that read them. -/
theorem unwatched_of_argumentValues {values : List Token}
    (h : r.argumentValues (probe watched) t .plain = .ok values) (hne : t.args ≠ []) :
    watched (.read (spelled "slot_addresses")) = false ∧
      ∀ a ∈ t.args, Unwatched watched (r.slotKind a.target).moduleNames := by
  rw [Registry.argumentValues, if_neg (by simpa using hne)] at h
  obtain ⟨array, harray, h⟩ := bind_eq_ok.mp h
  have hlocator : watched (.read (spelled "slot_addresses")) = false :=
    unwatched_of_fixed (by decide) (ok_of_invoke harray).1
  rw [probe_literal, locator_probe hlocator] at harray
  cases harray
  refine ⟨hlocator, fun a ha => ?_⟩
  rw [← List.zipIdx_map_fst 0 t.args] at ha
  obtain ⟨entry, hentry, rfl⟩ := List.mem_map.mp ha
  obtain ⟨v, hv⟩ := exists_mapM_eq_ok.mp ⟨values, h⟩ entry hentry
  obtain ⟨found, hfound, _⟩ := map_eq_ok.mp hv
  exact unwatched_of_fetch hfound

/-- Where what is meant is done to the end, the names of the module have been read. -/
theorem unwatched_of_callVirtual {o : Option Token}
    (h : r.callVirtual (probe watched) t .plain .plain .place = .ok o) :
    Unwatched watched (t.moduleNames r) := by
  obtain ⟨alive, halive, h⟩ := bind_eq_ok.mp h
  cases halive
  obtain ⟨target, htarget, h⟩ := bind_eq_ok.mp h
  have hfinder : watched (.read (spelled "instance_from_handle")) = false :=
    unwatched_of_fixed (by decide) (ok_of_invoke htarget).1
  rw [finder_probe hfinder] at htarget
  cases htarget
  obtain ⟨values, hvalues, h⟩ := bind_eq_ok.mp h
  obtain ⟨result, _, h⟩ := bind_eq_ok.mp h
  refine forall_moduleNames.mpr ⟨hfinder, fun hne => (unwatched_of_argumentValues hvalues hne).1,
    fun a ha => (unwatched_of_argumentValues hvalues (List.ne_nil_of_mem ha)).2 a ha,
    fun ret hret => ?_⟩
  rw [Registry.keepResult, hret] at h
  obtain ⟨stored, hwrite, _⟩ := bind_eq_ok.mp h
  exact unwatched_of_write hwrite

/-- What is meant, up to the call of the override and from there. -/
theorem callVirtual_probe (h : Unwatched watched (t.moduleNames r)) :
    r.callVirtual (probe watched) t .plain .plain .place =
      note watched (.called ((List.range t.args.length).map .slot)) .plain >>=
        r.keepResult (probe watched) t .place := by
  obtain ⟨hfinder, hlocator, hload, _⟩ := forall_moduleNames.mp h
  have values : r.argumentValues (probe watched) t .plain =
      .ok ((List.range t.args.length).map .slot) := by
    rw [Registry.argumentValues]
    cases hempty : t.args.isEmpty with
    | true =>
      have hnil : t.args = [] := List.isEmpty_iff.mp hempty
      rw [if_pos rfl, hnil]
      rfl
    | false =>
      have hne : t.args ≠ [] := fun hnil => by simp [hnil] at hempty
      rw [if_neg Bool.false_ne_true, probe_literal, locator_probe (hlocator hne), ok_bind,
        slotValues_probe hload, List.range_eq_range']
  rw [Registry.callVirtual, probe_isTrue, ok_bind, if_pos (by decide), finder_probe hfinder,
    ok_bind, probe_isNone, if_neg Bool.false_ne_true, values, ok_bind, override_probe]

/-! ### What names hold behind arguments -/

/-- What may stand under the name of the array of slots before an index is read: the array, or the
value of an earlier slot. -/
def ArrayBefore (index : Nat) (array : Token) : Prop :=
  array = .slots ∨ ∃ found < index, array = .slot found

/-- What stands under the name of the array of slots when arguments have been read from an index
on. -/
structure ArrayAfter (args : List TrampolineArg) (index : Nat) (array array' : Token) : Prop where
  before : ArrayBefore (index + args.length) array'
  taken : ∀ found, array = .slot found → array' = .slot found
  rebound : (∃ a ∈ args, a.Rebinds "_slots") → ∃ found < index + args.length, array' = .slot found
  free : (∀ a ∈ args, ¬a.Rebinds "_slots") → array' = array

/-- What names hold before and after arguments are read from an index on. A name that is bound has
what one of the slots holds, or what has taken the place of the array. -/
structure Loaded (args : List TrampolineArg) (index : Nat) (array : Token)
    (env env' : String → Option Token) : Prop where
  kept : ∀ n, (∀ a ∈ args, ¬a.Rebinds n) → env' (spelled n) = env (spelled n)
  bound : ∀ a ∈ args, ∀ n, a.Rebinds n → ∃ found < index + args.length,
    env' (spelled n) = some (.slot found) ∧ (∀ taken, array = .slot taken → found = taken) ∧
      (array = .slots → (∀ b ∈ args.dropLast, ¬b.Rebinds "_slots") → index ≤ found)

section Loads

variable {args front back : List TrampolineArg} {index : Nat} {array array' : Token}
  {env env' env'' : String → Option Token}

theorem Loaded.nil (index : Nat) (array : Token) (env : String → Option Token) :
    Loaded [] index array env env :=
  ⟨fun _ _ => rfl, fun _ ha => nomatch ha⟩

/-- Reading an index gives the value of its slot, or of an earlier one where the array is gone. -/
theorem ArrayBefore.item (h : ArrayBefore index array) :
    ∃ found < index + 1, array.item index = .slot found ∧
      (∀ taken, array = .slot taken → found = taken) ∧ (array = .slots → index ≤ found) := by
  rcases h with rfl | ⟨found, hfound, rfl⟩
  · exact ⟨index, Nat.lt_succ_self index, rfl, nofun, fun _ => Nat.le_refl index⟩
  · exact ⟨found, Nat.lt_succ_of_lt hfound, rfl, fun _ h => Token.slot.inj h, nofun⟩

theorem loaded_single {a : TrampolineArg} {found : Nat} (env : String → Option Token)
    (hload : a.load = (r.slotKind a.target).load a.name index) (hlt : found < index + 1)
    (htaken : ∀ taken, array = .slot taken → found = taken)
    (hslots : array = .slots → index ≤ found) :
    Loaded [a] index array env
      ((r.slotKind a.target).bind a.name env (.slot found, .slot found)) := by
  constructor
  case kept => exact fun n hn => bind_of_not_rebinds hload (hn a List.mem_cons_self)
  case bound =>
    intro b hb n hn
    obtain rfl := List.mem_singleton.mp hb
    exact ⟨found, hlt, SlotKind.bind_of_mem ((rebinds_iff hload).mp hn), htaken,
      fun h _ => hslots h⟩

theorem Loaded.exists_array (h : Loaded args index array env env')
    (henv : env (spelled "_slots") = some array) (harray : ArrayBefore index array) :
    ∃ array', env' (spelled "_slots") = some array' ∧ ArrayAfter args index array array' := by
  by_cases hrebound : ∃ a ∈ args, a.Rebinds "_slots"
  · obtain ⟨a, ha, hn⟩ := hrebound
    obtain ⟨found, hlt, hvalue, htaken, _⟩ := h.bound a ha _ hn
    refine ⟨.slot found, hvalue, .inr ⟨found, hlt, rfl⟩, fun taken htake => ?_,
      fun _ => ⟨found, hlt, rfl⟩, fun hfree => (hfree a ha hn).elim⟩
    rw [htaken taken htake]
  · have hfree : ∀ a ∈ args, ¬a.Rebinds "_slots" := fun a ha hn => hrebound ⟨a, ha, hn⟩
    refine ⟨array, (h.kept _ hfree).trans henv, harray.imp_right fun ⟨found, hlt, htake⟩ => ?_,
      fun _ htake => htake, fun h => (hrebound h).elim, fun _ => rfl⟩
    exact ⟨found, Nat.lt_add_right _ hlt, htake⟩

/-- The last argument that binds a name decides what the name holds. -/
theorem Loaded.append (hfront : Loaded front index array env env')
    (hafter : ArrayAfter front index array array')
    (hback : Loaded back (index + front.length) array' env' env'') :
    Loaded (front ++ back) index array env env'' := by
  constructor
  case kept =>
    intro n hn
    rw [List.forall_mem_append] at hn
    rw [hback.kept n hn.2, hfront.kept n hn.1]
  case bound =>
    intro a ha n hn
    by_cases later : ∃ b ∈ back, b.Rebinds n
    · obtain ⟨b, hb, hbn⟩ := later
      obtain ⟨found, hlt, hvalue, htaken, hslots⟩ := hback.bound b hb n hbn
      refine ⟨found, by rw [List.length_append]; omega, hvalue,
        fun taken htake => htaken taken (hafter.taken taken htake), fun harray hlast => ?_⟩
      rw [List.dropLast_append_of_ne_nil (List.ne_nil_of_mem hb), List.forall_mem_append] at hlast
      exact Nat.le_of_add_right_le (hslots ((hafter.free hlast.1).trans harray) hlast.2)
    · have hnone : ∀ b ∈ back, ¬b.Rebinds n := fun b hb hbn => later ⟨b, hb, hbn⟩
      have ha : a ∈ front := (List.mem_append.mp ha).resolve_right fun hb => hnone a hb hn
      obtain ⟨found, hlt, hvalue, htaken, hslots⟩ := hfront.bound a ha n hn
      refine ⟨found, by rw [List.length_append]; omega, (hback.kept n hnone).trans hvalue, htaken,
        fun harray hlast => hslots harray fun b hb => hlast b ?_⟩
      cases back with
      | nil => rwa [List.append_nil]
      | cons c rest =>
        rw [List.dropLast_append_cons]
        exact List.mem_append_left _ (List.dropLast_subset _ hb)

/-- Where nothing watches for names of the module, reading arguments goes on with what their slots
hold, or with what has taken the place of the array of slots. -/
theorem execute_loads_probe {locals : List String} (rest : List Stmt)
    (hquiet : ∀ name, watched (.read name) = false) (hlocal : spelled "_slots" ∈ locals)
    (hsettled : ∀ entry ∈ args.zipIdx index, '.' ∉ entry.1.name.toList ∧
      entry.1.load = (r.slotKind entry.1.target).load entry.1.name entry.2)
    (hfree : ∀ a ∈ args, ∀ n ∈ (r.slotKind a.target).moduleNames, spelled n ∉ locals)
    (hbinds : ∀ a ∈ args, ∀ n, a.Rebinds n → spelled n ∈ locals)
    (henv : env (spelled "_slots") = some array) (harray : ArrayBefore index array) :
    ∃ env', execute (probe watched) locals (args.flatMap (·.load) ++ rest) env =
        execute (probe watched) locals rest env' ∧ Loaded args index array env env' := by
  induction args generalizing index env array with
  | nil => exact ⟨env, rfl, .nil index array env⟩
  | cons a args ih =>
    rw [List.zipIdx_cons, List.forall_mem_cons] at hsettled
    obtain ⟨⟨hroot, hload⟩, hrest⟩ := hsettled
    obtain ⟨found, hlt, hitem, htaken, hslots⟩ := harray.item
    have hfetch : (r.slotKind a.target).fetch (probe watched) array index =
        .ok (.slot found, .slot found) := fetch_probe (fun name _ => hquiet _) hitem
    have first := loaded_single env hload hlt htaken hslots
    obtain ⟨array', henv', hafter⟩ := first.exists_array henv harray
    obtain ⟨env', hrun, hloaded⟩ := ih hrest (fun b hb => hfree b (List.mem_cons_of_mem a hb))
      (fun b hb => hbinds b (List.mem_cons_of_mem a hb)) henv' hafter.before
    refine ⟨env', ?_, first.append hafter hloaded⟩
    rw [List.flatMap_cons, List.append_assoc,
      execute_arg hroot hload (hfree a List.mem_cons_self) (hbinds a List.mem_cons_self) hlocal
        henv,
      hfetch, ok_bind, hrun]

end Loads

/-! ### What a proxy does, in a probe -/

/-- What a proxy has under its names when all arguments have been read. -/
structure Holds (t : Trampoline) (env : String → Option Token) : Prop where
  target : (∀ a ∈ t.args, ¬a.Rebinds "target") → env (spelled "target") = some .object
  place : (∀ a ∈ t.args, ¬a.Rebinds "ret_ptr") → env (spelled "ret_ptr") = some .place
  slot : ∀ a ∈ t.args, ∀ n, a.Rebinds n → ∃ found, env (spelled n) = some (.slot found)

theorem Loaded.holds {array : Token} {env env' : String → Option Token}
    (h : Loaded t.args 0 array env env') (target : env (spelled "target") = some .object)
    (place : env (spelled "ret_ptr") = some .place) : t.Holds env' where
  target hn := (h.kept _ hn).trans target
  place hn := (h.kept _ hn).trans place
  slot a ha n hn :=
    have ⟨found, _, hvalue, _⟩ := h.bound a ha n hn
    ⟨found, hvalue⟩

/-- A proxy finds the object and the array of slots, and reads its arguments. -/
theorem exists_start (hquiet : ∀ name, watched (.read name) = false)
    (hmodule : ∀ name ∈ t.moduleNames r, spelled name ∉ t.locals) :
    ∃ env, t.runProxy (probe watched) .plain .plain .place =
        execute (probe watched) t.locals (t.args.flatMap (·.load) ++ t.ending) env ∧
      env (spelled "target") = some .object ∧ env (spelled "ret_ptr") = some .place ∧
      (t.args ≠ [] → env (spelled "_slots") = some .slots) := by
  obtain ⟨hfinder, hlocator, _⟩ := forall_moduleNames.mp hmodule
  obtain ⟨_, _, hplace⟩ := entering_arguments Token.plain Token.plain Token.place
  rw [runProxy_eq hfinder hlocator, probe_isTrue, ok_bind, if_pos (by decide),
    finder_probe (hquiet _), ok_bind, probe_isNone, if_neg Bool.false_ne_true]
  dsimp only
  set env := bindName (entering (arguments Token.plain Token.plain Token.place)) "target"
    Token.object with henv
  have target : env (spelled "target") = some .object := bindName_self ..
  have place : env (spelled "ret_ptr") = some .place := by
    rw [henv, bindName_of_ne, hplace]
    simp (disch := decide) [spelled_fixed]
  cases hempty : t.args.isEmpty with
  | true =>
    have hnil : t.args = [] := List.isEmpty_iff.mp hempty
    exact ⟨env, by rw [if_pos rfl, hnil]; rfl, target, place, fun hne => (hne hnil).elim⟩
  | false =>
    rw [if_neg Bool.false_ne_true, probe_literal, locator_probe (hquiet _), ok_bind]
    refine ⟨_, rfl, ?_, ?_, fun _ => bindName_self ..⟩
    · rw [bindName_of_ne, target]
      simp (disch := decide) [spelled_fixed]
    · rw [bindName_of_ne, place]
      simp (disch := decide) [spelled_fixed]

/-- What a proxy has under its names when all arguments have been read, those in front of some
place and those behind it. -/
theorem runProxy_probe (watched : Event → Bool) (hs : t.Settled r)
    (hmodule : ∀ name ∈ t.moduleNames r, spelled name ∉ t.locals)
    (hquiet : ∀ name, watched (.read name) = false) {front back : List TrampolineArg}
    (hargs : t.args = front ++ back) :
    ∃ env, t.runProxy (probe watched) .plain .plain .place =
        execute (probe watched) t.locals t.ending env ∧ t.Holds env ∧
      ∀ b ∈ back, ∀ n, b.Rebinds n → ∃ found, env (spelled n) = some (.slot found) ∧
        ((∃ a ∈ front, a.Rebinds "_slots") → found < front.length) ∧
        ((∀ a ∈ t.args.dropLast, ¬a.Rebinds "_slots") → front.length ≤ found) := by
  obtain ⟨env₀, hstart, target, place, slots⟩ := exists_start hquiet hmodule
  by_cases hne : t.args = []
  · have hback : back = [] := (List.append_eq_nil_iff.mp (hargs.symm.trans hne)).2
    have hnone : Loaded t.args 0 .slots env₀ env₀ := hne ▸ .nil 0 .slots env₀
    refine ⟨env₀, by rw [hstart, hne]; rfl, hnone.holds target place, ?_⟩
    simp [hback]
  · obtain ⟨_, _, hload, _⟩ := forall_moduleNames.mp hmodule
    have settled := hs.args
    rw [hargs, List.zipIdx_append, List.forall_mem_append] at settled
    have in_front {a : TrampolineArg} (ha : a ∈ front) : a ∈ t.args :=
      hargs ▸ List.mem_append_left back ha
    have in_back {a : TrampolineArg} (ha : a ∈ back) : a ∈ t.args :=
      hargs ▸ List.mem_append_right front ha
    obtain ⟨env₁, hrun₁, hfront⟩ := execute_loads_probe
      (back.flatMap (·.load) ++ t.ending) hquiet (mem_locals_slots hne) settled.1
      (fun a ha => hload a (in_front ha))
      (fun a ha n => mem_locals_of_rebinds (in_front ha)) (slots hne) (.inl rfl)
    obtain ⟨array, hslots, hafter⟩ := hfront.exists_array (slots hne) (.inl rfl)
    obtain ⟨env₂, hrun₂, hback⟩ := execute_loads_probe
      t.ending hquiet (mem_locals_slots hne) settled.2
      (fun a ha => hload a (in_back ha))
      (fun a ha n => mem_locals_of_rebinds (in_back ha)) hslots hafter.before
    have parts : t.args.flatMap (·.load) ++ t.ending =
        front.flatMap (·.load) ++ (back.flatMap (·.load) ++ t.ending) := by
      rw [hargs, List.flatMap_append, List.append_assoc]
    have hall : Loaded t.args 0 .slots env₀ env₂ := hargs ▸ hfront.append hafter hback
    refine ⟨env₂, ?_, hall.holds target place, fun b hb n hn => ?_⟩
    · rw [hstart, parts, hrun₁, hrun₂]
    · obtain ⟨found, _, hvalue, htaken, hlast⟩ := hback.bound b hb n hn
      refine ⟨found, hvalue, fun h => ?_, fun hkept => ?_⟩
      · obtain ⟨taken, hlt, harray⟩ := hafter.rebound h
        rw [htaken taken harray]
        omega
      · rw [hargs, List.dropLast_append_of_ne_nil (List.ne_nil_of_mem hb),
          List.forall_mem_append] at hkept
        have := hlast (hafter.free hkept.1) hkept.2
        omega

/-- A result is kept where its slot can be used. -/
theorem keepResult_probe {slot result : Token}
    (h : ∀ ret, t.ret = some ret → Unwatched watched (r.storeKind ret).moduleNames)
    (hbuffer : watched (.read (spelled "SlotBuffer")) = false) (hresult : result.IsValue)
    (hslot : slot = .place ∧ watched .stored = false ∨ ∃ index, slot = .slot index) :
    r.keepResult (probe watched) t slot result = .ok none := by
  have usable : Valued ((probe watched).slotAt (pure slot) (.ok .plain)) := by
    rcases hslot with ⟨rfl, hstored⟩ | ⟨index, rfl⟩
    · rw [slotAt_place hbuffer, note_of_unwatched hstored]
      exact valued_ok (.inl rfl)
    · rw [pure_ok, slotAt_probe hbuffer rfl]
      exact valued_ok (.inr ⟨index, rfl⟩)
  unfold Registry.keepResult
  cases hret : t.ret with
  | none => rfl
  | some ret =>
    obtain ⟨stored, hwrite, _⟩ := valued_write (h ret hret) hresult usable
    simp only [hwrite]
    rfl

end Trampoline

end EngineBindings
