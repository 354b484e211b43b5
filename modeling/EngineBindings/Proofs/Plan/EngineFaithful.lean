import EngineBindings.Proofs.Plan.EngineCapture
import EngineBindings.Proofs.Plan.Probe
import EngineBindings.Proofs.Registry.Built

/-! Bound callables that do what they are meant to do.

In a probe, what a callable is meant to do stops at the array of addresses, which shows what the
engine is pointed to (`callEngine_probe`). So the probe tells a value that has come to the wrong
place, and besides the callables without captures no other one is faithful
(`Registry.call_faithful_iff`). -/
namespace EngineBindings

open EngineBindings.Code Attempt

namespace MethodBinding

variable {r : Registry} {b : MethodBinding}

/-! ### What is meant, in a probe -/

section Probed

variable {watched : Event → Bool}

/-- What has been held and pointed to has read the names of the module that it is meant to. -/
theorem unwatched_of_hold {handing : Handing} {v held : Token}
    (hhold : ∃ u, handing.hold (probe watched) v = .ok u)
    (hpoint : ∃ u, handing.point (probe watched) held = .ok u) :
    Unwatched watched handing.moduleNames := by
  obtain ⟨u, hhold⟩ := hhold
  obtain ⟨address, hpoint⟩ := hpoint
  have native := unwatched_of_native (ok_of_invoke hpoint).1
  cases handing with
  | number =>
    obtain ⟨converted, hcall⟩ := (ok_of_invoke hhold).2 _ List.mem_cons_self
    have int := unwatched_of_fixed (by decide) (ok_of_invoke hcall).1
    simp [Unwatched, Handing.moduleNames, native, int]
  | struct host =>
    obtain ⟨f, hf⟩ := (ok_of_invoke hhold).1
    obtain ⟨type, htype, _⟩ := bind_eq_ok.mp hf
    have struct := unwatched_of_named ⟨type, htype⟩
    simp [Unwatched, Handing.moduleNames, native, struct]
  | scalar _ | object | content => simp [Unwatched, Handing.moduleNames, native]

mutual

/-- An expression whose parts are all worked out has read all of its names. -/
theorem unwatched_of_eval {v : Token} : ∀ e : Expr, e.isStraight = true →
    e.eval (probe watched) (fun name => (probe watched).global (spelled name)) = .ok v →
      Unwatched watched e.reads
  | .name path, _, h => by
    intro name hname
    rw [List.mem_singleton.mp hname]
    exact unwatched_of_named ⟨v, h⟩
  | .literal _, _, _ => List.forall_mem_nil _
  | .attr target _, straight, h | .item target _, straight, h | .cells target _, straight, h
  | .isNone target, straight, h => by
    obtain ⟨u, hu, _⟩ := bind_eq_ok.mp h
    exact unwatched_of_eval target straight hu
  | .call callee arguments, straight, h => by
    rw [Expr.isStraight, Bool.and_eq_true] at straight
    obtain ⟨f, hf, h⟩ := bind_eq_ok.mp h
    obtain ⟨values, hvalues, _⟩ := bind_eq_ok.mp h
    exact List.forall_mem_append.mpr ⟨unwatched_of_eval callee straight.1 hf,
      unwatched_of_evalArguments arguments straight.2 hvalues⟩
  | .orElse _ _, straight, _ | .choose _ _ _, straight, _ => nomatch straight

theorem unwatched_of_evalArguments {values : List (Option String × Token)} :
    ∀ arguments : Arguments, arguments.areStraight = true →
      arguments.eval (probe watched) (fun name => (probe watched).global (spelled name)) =
        .ok values → Unwatched watched arguments.reads
  | .nil, _, _ => List.forall_mem_nil _
  | .cons _ value rest, straight, h => by
    rw [Arguments.areStraight, Bool.and_eq_true] at straight
    obtain ⟨v, hv, h⟩ := bind_eq_ok.mp h
    obtain ⟨others, hothers, _⟩ := bind_eq_ok.mp h
    exact List.forall_mem_append.mpr ⟨unwatched_of_eval value straight.1 hv,
      unwatched_of_evalArguments rest straight.2 hothers⟩

end

/-- A result that has been unwrapped has read the names of the module that it is meant to. -/
theorem unwatched_of_unwrap {unwrapping : Unwrapping} {cell v : Token}
    (h : unwrapping.unwrap (probe watched) cell = .ok v) :
    Unwatched watched unwrapping.moduleNames := by
  have full : cell.attr ≠ .absent := by cases cell <;> nofun
  cases unwrapping with
  | number | whole _ => exact List.forall_mem_nil _
  | member host =>
    have made := unwatched_of_named (ok_of_invoke h).1
    simpa [Unwatched, Unwrapping.moduleNames] using made
  | collection host =>
    obtain ⟨f, hf, h⟩ := bind_eq_ok.mp h
    obtain ⟨element, helement, _⟩ := bind_eq_ok.mp h
    have made : watched (.read (spelled (root "GodotCollection"))) = false :=
      unwatched_of_named ⟨f, hf⟩
    have elements := unwatched_of_named ⟨element, helement⟩
    rw [show root "GodotCollection" = "GodotCollection" by decide] at made
    simp [Unwatched, Unwrapping.moduleNames, made, elements]
  | found =>
    simp only [Unwrapping.unwrap, probe_attr, ok_bind, probe_isTrue, full, ne_eq,
      not_false_eq_true, decide_true, if_true] at h
    have looked : watched (.read (spelled (root "lookup_object"))) = false :=
      unwatched_of_named (ok_of_invoke h).1
    rw [show root "lookup_object" = "lookup_object" by decide] at looked
    simpa [Unwatched, Unwrapping.moduleNames] using looked
  | made host =>
    simp only [Unwrapping.unwrap, probe_attr, ok_bind, probe_isTrue, full, ne_eq,
      not_false_eq_true, decide_true, if_true] at h
    obtain ⟨f, hf, _⟩ := bind_eq_ok.mp h
    have made := unwatched_of_named ⟨f, hf⟩
    simpa [Unwatched, Unwrapping.moduleNames] using made

theorem unwatched_of_address {receiver v : Token}
    (h : b.address (probe watched) receiver = .ok v) : Unwatched watched b.receiverNames := by
  unfold receiverNames
  unfold address at h
  cases hkind : b.kind with
  | method | utility => exact List.forall_mem_nil _
  | builtin holder isStruct =>
    cases dynamic : b.method.isStatic with
    | true => exact List.forall_mem_nil _
    | false =>
      rw [dynamic, if_neg Bool.false_ne_true, hkind] at h
      have native : watched (.read (spelled "ctypes")) = false := by
        cases isStruct <;> exact unwatched_of_native (ok_of_invoke h).1
      simpa [Unwatched] using native

theorem unwatched_of_resolve {v : Token} (h : b.resolve (probe watched) = .ok v) :
    watched (.read (spelled (root b.handlePath))) = false := by
  obtain ⟨f, hf⟩ := (ok_of_invoke h).1
  obtain ⟨handle, hhandle, _⟩ := bind_eq_ok.mp hf
  unfold handlePath
  cases hkind : b.kind with
  | utility =>
    rw [hkind] at hhandle
    exact unwatched_of_named ⟨handle, hhandle⟩
  | method | builtin =>
    rw [hkind] at hhandle
    obtain ⟨holder, hholder, _⟩ := bind_eq_ok.mp hhandle
    rw [handlePath, hkind] at hholder
    exact unwatched_of_named ⟨holder, hholder⟩

/-- A call of the engine has read the names of the module that it is meant to, and has been given
an address for the result. -/
theorem unwatched_of_enter {receiver arguments v : Token} {result : Except Event Token}
    (h : b.enter (probe watched) receiver arguments result = .ok v) :
    watched (.read (spelled "gi")) = false ∧
      watched (.read (spelled (root b.handlePath))) = false ∧
      Unwatched watched b.receiverNames ∧ ∃ u, result = .ok u := by
  have engine {function : String}
      (h : ∃ f, (do (probe watched).attr (← (probe watched).named "gi") function) = .ok f) :
      watched (.read (spelled "gi")) = false := by
    obtain ⟨f, hf⟩ := h
    obtain ⟨gi, hgi, _⟩ := bind_eq_ok.mp hf
    have read := unwatched_of_named ⟨gi, hgi⟩
    rwa [show root "gi" = "gi" by decide] at read
  unfold enter at h
  unfold receiverNames
  cases hkind : b.kind with
  | method =>
    rw [hkind] at h
    obtain ⟨callee, given⟩ := ok_of_invoke h
    simp only [List.forall_mem_cons] at given
    obtain ⟨⟨_, resolved⟩, _, _, result, _⟩ := given
    exact ⟨engine callee, unwatched_of_resolve resolved, List.forall_mem_nil _, result⟩
  | utility =>
    rw [hkind] at h
    obtain ⟨callee, given⟩ := ok_of_invoke h
    simp only [List.forall_mem_cons] at given
    obtain ⟨⟨_, resolved⟩, result, _⟩ := given
    exact ⟨engine callee, unwatched_of_resolve resolved, List.forall_mem_nil _, result⟩
  | builtin holder isStruct =>
    rw [hkind] at h
    obtain ⟨callee, given⟩ := ok_of_invoke h
    simp only [List.forall_mem_cons] at given
    obtain ⟨⟨_, resolved⟩, ⟨_, object⟩, _, result, _⟩ := given
    have receiver := unwatched_of_address object
    rw [receiverNames, hkind] at receiver
    exact ⟨engine callee, unwatched_of_resolve resolved, receiver, result⟩

/-- Where what is meant is done to the end, the names of the module have been read. -/
theorem unwatched_of_finish {receiver arguments : Token} {o : Option Token}
    (hs : b.Settled r) (h : b.finish (probe watched) r receiver arguments = .ok o) :
    watched (.read (spelled "gi")) = false ∧
      watched (.read (spelled (root b.handlePath))) = false ∧
      Unwatched watched b.receiverNames ∧
      ∀ ret, b.ret = some ret → watched (.read (spelled "ctypes")) = false ∧
        Unwatched watched ret.storage.reads ∧
        Unwatched watched (r.unwrapping ret.target).moduleNames := by
  unfold finish at h
  cases hret : b.ret with
  | none =>
    rw [hret] at h
    obtain ⟨v, hcall, _⟩ := bind_eq_ok.mp h
    obtain ⟨gi, handle, receiver, _⟩ := unwatched_of_enter hcall
    exact ⟨gi, handle, receiver, fun ret hnone => nomatch hnone⟩
  | some ret =>
    rw [hret] at h
    obtain ⟨cell, hcell, h⟩ := bind_eq_ok.mp h
    obtain ⟨v, hcall, h⟩ := bind_eq_ok.mp h
    obtain ⟨result, hresult, _⟩ := map_eq_ok.mp h
    obtain ⟨gi, handle, receiver, pointer, hpointer⟩ := unwatched_of_enter hcall
    refine ⟨gi, handle, receiver, fun found hfound => ?_⟩
    cases hfound
    exact ⟨unwatched_of_native (ok_of_invoke hpointer).1,
      unwatched_of_eval _ (hs.ret ret hret).storage hcell, unwatched_of_unwrap hresult⟩

theorem unwatched_of_callEngine {receiver : Token} {values : List Token} {o : Option Token}
    (hs : b.Settled r) (hlen : values.length = b.args.length)
    (h : b.callEngine (probe watched) r receiver values = .ok o) :
    Unwatched watched (b.moduleNames r) := by
  obtain ⟨held, hheld, h⟩ := bind_eq_ok.mp h
  have lengths : (b.handings r).length = values.length :=
    hs.args.length_eq.symm.trans hlen.symm
  have heldAll := mapM_eq_ok.mp hheld
  have held_length : held.length = values.length := by
    rw [← heldAll.length_eq, List.length_zipWith, lengths, Nat.min_self]
  have holds : ∀ handing ∈ b.handings r, ∃ v u, handing.hold (probe watched) v = .ok u := by
    intro handing hhanding
    obtain ⟨v, hmem⟩ := exists_mem_zipWith (f := fun (handing : Handing) v =>
      handing.hold (probe watched) v) (Nat.le_of_eq lengths) hhanding
    obtain ⟨u, _, hu⟩ := exists_right heldAll hmem
    exact ⟨v, u, hu⟩
  unfold callHeld at h
  cases hempty : b.args.isEmpty with
  | true =>
    rw [hempty, if_pos rfl] at h
    obtain ⟨gi, handle, receiver, result⟩ := unwatched_of_finish hs h
    refine forall_moduleNames.mpr ⟨gi, handle, receiver, fun handing hhanding => ?_, result⟩
    rw [List.isEmpty_iff.mp hempty, List.length_nil] at hlen
    rw [List.length_eq_zero_iff.mp (lengths.trans hlen)] at hhanding
    cases hhanding
  | false =>
    rw [hempty, if_neg Bool.false_ne_true] at h
    obtain ⟨array, harray, h⟩ := bind_eq_ok.mp h
    obtain ⟨gi, handle, receiver, result⟩ := unwatched_of_finish hs h
    refine forall_moduleNames.mpr ⟨gi, handle, receiver, fun handing hhanding => ?_, result⟩
    obtain ⟨v, hhold⟩ := holds handing hhanding
    obtain ⟨v, hmem⟩ := exists_mem_zipWith (f := fun (handing : Handing) v =>
      handing.point (probe watched) v) (Nat.le_of_eq (lengths.trans held_length.symm)) hhanding
    exact unwatched_of_hold hhold ((ok_of_invoke harray).2 _ hmem)

/-- A faithful callable has no name of its own in place of one of the module that it is meant to
read. -/
theorem module_of_faithful (hs : b.Settled r) (h : b.Faithful r) :
    ∀ name ∈ b.moduleNames r, spelled name ∉ b.locals := by
  intro name hname hlocal
  have patient : WatchesReads (· == .read (spelled name)) := ⟨fun _ => rfl, rfl⟩
  have hlen : (List.replicate b.args.length Token.plain).length = b.args.length :=
    List.length_replicate
  obtain ⟨o, ho⟩ := exists_execute patient (exists_read_of_local hlocal)
    (b.args.flatMap (·.setup) ++ b.ending)
    (entering (b.arguments .plain (List.replicate b.args.length Token.plain)))
  have meant := h _ _ (probe (· == .read (spelled name))) .plain _ hlen
  rw [run_eq hlen, ho] at meant
  have unwatched := unwatched_of_callEngine hs hlen meant.symm name hname
  simp at unwatched

theorem hold_probe {handing : Handing} (h : Unwatched watched handing.moduleNames) (index : Nat) :
    handing.hold (probe watched) (.slot index) = .ok (.slot index) := by
  have native := h "ctypes" Handing.ctypes_mem_moduleNames
  cases handing with
  | number =>
    have int : (probe watched).named "int" = .ok .plain :=
      named_fixed (by decide) (h "int" (by simp [Handing.moduleNames]))
    simp [Handing.hold, World.invoke, native_probe _ native, int, ok_bind, answer, Token.carried]
  | struct host =>
    obtain ⟨type, htype, inert⟩ := named_probe (h (root host) (by simp [Handing.moduleNames]))
    simp [Handing.hold, World.invoke, htype, inert.attr, ok_bind, answer, Token.carried]
  | scalar type =>
    simp [Handing.hold, World.invoke, native_probe _ native, ok_bind, answer, Token.carried]
  | object =>
    simp [Handing.hold, World.invoke, native_probe _ native, ok_bind, answer, Token.carried,
      Token.attr]
  | content => rfl

theorem point_probe {handing : Handing} (h : Unwatched watched handing.moduleNames) (index : Nat) :
    handing.point (probe watched) (.slot index) = .ok (.slot index) := by
  have native := h "ctypes" Handing.ctypes_mem_moduleNames
  cases handing <;>
    simp [Handing.point, World.invoke, native_probe _ native, ok_bind, answer, Token.carried,
      Token.attr]

/-- The engine is pointed to what is held of the arguments. -/
theorem callHeld_probe (hs : b.Settled r) (hne : b.args.isEmpty = false) (receiver : Token)
    {held : List Token} (hlen : held.length = b.args.length)
    (hheld : ∀ v ∈ held, ∃ index, v = .slot index) :
    b.callHeld (probe watchesCall) r receiver held = .error (.called held) := by
  have points : List.zipWith (fun (handing : Handing) v => handing.point (probe watchesCall) v)
      (b.handings r) held = held.map pure := by
    refine zipWith_eq_map (hlen.trans hs.args.length_eq).le fun handing _ v hv => ?_
    obtain ⟨index, rfl⟩ := hheld v hv
    exact point_probe (fun _ _ => rfl) index
  have array : ((probe watchesCall).native "c_void_p" >>= fun type =>
      (probe watchesCall).cells type b.args.length) = .ok .override := by
    rw [native_probe _ rfl, ok_bind, probe_cells]
  rw [callHeld, hne, if_neg Bool.false_ne_true, points, array, invoke_pure, ok_bind, probe_call,
    answer_positional]
  rfl

theorem callEngine_probe (hs : b.Settled r) (hne : b.args.isEmpty = false) (receiver : Token)
    {values : List Token} (hlen : values.length = b.args.length)
    (hvalues : ∀ v ∈ values, ∃ index, v = .slot index) :
    b.callEngine (probe watchesCall) r receiver values = .error (.called values) := by
  have holds : List.zipWith (fun (handing : Handing) v => handing.hold (probe watchesCall) v)
      (b.handings r) values = values.map Except.ok := by
    refine zipWith_eq_map (hlen.trans hs.args.length_eq).le fun handing _ v hv => ?_
    obtain ⟨index, rfl⟩ := hvalues v hv
    exact hold_probe (fun _ _ => rfl) index
  have worked : (values.map (Except.ok (ε := Event))).mapM id = .ok values :=
    mapM_eq_ok.mpr (List.forall₂_map_left_iff.mpr (List.forall₂_same.mpr fun _ _ => rfl))
  rw [callEngine, holds, worked, ok_bind, callHeld_probe hs hne receiver hlen hvalues]

end Probed

end MethodBinding

/-! ### What is done, in a probe -/

namespace ArgSlot

variable {V : Type} {slot : ArgSlot} {handing : Handing} {env : String → Option V}

/-- What names have when an argument has been prepared: its cell has what stands under its name. -/
def move (slot : ArgSlot) (env : String → Option V) : String → Option V :=
  match (bindsOf slot.setup).head? with
  | some cell => Function.update env (spelled cell) (env (spelled slot.name))
  | none => env

theorem move_of_not_rebinds {name : String} (h : ¬slot.Rebinds name) :
    slot.move env (spelled name) = env (spelled name) := by
  unfold move
  cases hbound : (bindsOf slot.setup).head? with
  | none => rfl
  | some cell =>
    refine Function.update_of_ne (fun heq => h ?_) ..
    rw [Rebinds, heq]
    exact List.mem_map_of_mem (List.mem_of_mem_head? hbound)

theorem move_kept : slot.move env (spelled slot.kept) = env (spelled slot.name) := by
  unfold move kept
  cases (bindsOf slot.setup).head? with
  | none => rfl
  | some cell => exact Function.update_self ..

/-- What names have when arguments have been prepared one after another. -/
def moveAll : List ArgSlot → (String → Option V) → String → Option V
  | [], env => env
  | slot :: slots, env => moveAll slots (slot.move env)

theorem moveAll_of_not_rebinds {slots : List ArgSlot} {name : String}
    (h : ∀ slot ∈ slots, ¬slot.Rebinds name) :
    moveAll slots env (spelled name) = env (spelled name) := by
  induction slots generalizing env with
  | nil => rfl
  | cons slot slots ih =>
    rw [List.forall_mem_cons] at h
    rw [moveAll, ih h.2, move_of_not_rebinds h.1]

end ArgSlot

namespace MethodBinding

variable {r : Registry} {b : MethodBinding}

section Moved

variable {V : Type} {slots : List ArgSlot} {handings : List Handing} {values : List V}
  {env : String → Option V}

/-- Where different values are kept, no cell takes the name under which another one is. -/
theorem kept_apart (handed : List.Forall₂ ArgSlot.Handed slots handings)
    (hkept : List.Forall₂ (fun slot v => env (spelled (ArgSlot.kept slot)) = some v) slots values)
    (distinct : values.Nodup) : slots.Pairwise fun first later => ¬later.Rebinds first.kept := by
  induction hkept generalizing handings with
  | nil => exact .nil
  | @cons slot v slots values hv hrest ih =>
    obtain ⟨handing, handings, _, later_handed, rfl⟩ := List.forall₂_cons_left_iff.mp handed
    rw [List.nodup_cons] at distinct
    refine .cons (fun later hlater hrebinds => distinct.1 ?_) (ih later_handed distinct.2)
    obtain ⟨_, _, hhanded⟩ := exists_right later_handed hlater
    obtain ⟨other, hother, hvalue⟩ := exists_right hrest hlater
    rw [hhanded.spelled_of_rebinds hrebinds, hv] at hvalue
    exact Option.some.inj hvalue ▸ hother

/-- Where different values are kept, none has come from a name that a cell has taken: every name
started with what is kept of its argument. -/
theorem unread_apart (handed : List.Forall₂ ArgSlot.Handed slots handings)
    (hkept : List.Forall₂ (fun slot v =>
      ArgSlot.moveAll slots env (spelled (ArgSlot.kept slot)) = some v)
      slots values)
    (distinct : values.Nodup)
    (apart : slots.Pairwise fun first later => ¬later.Rebinds first.kept) :
    (slots.Pairwise fun first later => ¬first.Rebinds later.name) ∧
      List.Forall₂ (fun slot v => env (spelled (ArgSlot.name slot)) = some v) slots values := by
  induction handed generalizing env values with
  | nil =>
    cases hkept
    exact ⟨.nil, .nil⟩
  | @cons slot handing slots handings first handed ih =>
    obtain ⟨v, values, hv, hrest, rfl⟩ := List.forall₂_cons_left_iff.mp hkept
    rw [List.nodup_cons] at distinct
    obtain ⟨apart_first, apart⟩ := List.pairwise_cons.mp apart
    obtain ⟨unread, names⟩ := ih hrest distinct.2 apart
    -- No later cell takes the name that this one is kept under, so it has been kept from the start.
    rw [ArgSlot.moveAll, ArgSlot.moveAll_of_not_rebinds apart_first] at hv
    have unread_first : ∀ later ∈ slots, ¬slot.Rebinds later.name := by
      intro later hlater hrebinds
      obtain ⟨other, hother, hvalue⟩ := exists_right names hlater
      rw [← first.spelled_of_rebinds hrebinds, hv] at hvalue
      exact distinct.1 (Option.some.inj hvalue ▸ hother)
    refine ⟨.cons unread_first unread, .cons ?_ ?_⟩
    · rw [← hv, ArgSlot.move_kept]
    · have later := List.forall₂_iff_zip.mp names
      refine List.forall₂_iff_zip.mpr ⟨later.1, fun {other u} hmem => ?_⟩
      rw [← later.2 hmem, ArgSlot.move_of_not_rebinds (unread_first other (List.of_mem_zip hmem).1)]

end Moved

section Probed

/-- A name has a value that shows where it comes from. -/
def Shown (env : String → Option Token) (name : String) : Prop :=
  ∃ index, env (spelled name) = some (.slot index)

theorem shown_move {slot : ArgSlot} {env : String → Option Token} {name : String}
    (own : Shown env slot.name) (h : Shown env name) : Shown (slot.move env) name := by
  unfold Shown ArgSlot.move
  cases (bindsOf slot.setup).head? with
  | none => exact h
  | some cell =>
    by_cases same : spelled name = spelled cell
    · rw [same]
      dsimp only
      rw [Function.update_self]
      exact own
    · dsimp only
      rw [Function.update_of_ne same]
      exact h

theorem shown_moveAll {slots : List ArgSlot} {env : String → Option Token}
    (hshown : ∀ slot ∈ slots, Shown env slot.name) {name : String} (h : Shown env name) :
    Shown (ArgSlot.moveAll slots env) name := by
  induction slots generalizing env with
  | nil => exact h
  | cons slot slots ih =>
    rw [List.forall_mem_cons] at hshown
    exact ih (fun later hlater => shown_move hshown.1 (hshown.2 later hlater))
      (shown_move hshown.1 h)

theorem shown_kept {slots : List ArgSlot} {env : String → Option Token}
    (hshown : ∀ slot ∈ slots, Shown env slot.name) :
    ∀ slot ∈ slots, Shown (ArgSlot.moveAll slots env) slot.kept := by
  induction slots generalizing env with
  | nil => exact List.forall_mem_nil _
  | cons slot slots ih =>
    rw [List.forall_mem_cons] at hshown
    have later : ∀ other ∈ slots, Shown (slot.move env) other.name :=
      fun other hother => shown_move hshown.1 (hshown.2 other hother)
    rw [List.forall_mem_cons]
    refine ⟨shown_moveAll later ?_, ih later⟩
    rw [Shown, ArgSlot.move_kept]
    exact hshown.1

/-- In a probe, preparing the arguments moves what stands under their names into their cells. -/
theorem execute_setups_probe {locals : List String} (rest : List Stmt) {slots : List ArgSlot}
    {handings : List Handing} {env : String → Option Token}
    (handed : List.Forall₂ ArgSlot.Handed slots handings)
    (hfree : ∀ handing ∈ handings, ∀ n ∈ handing.moduleNames, spelled n ∉ locals)
    (hlocal : ∀ slot ∈ slots, spelled slot.name ∈ locals)
    (hshown : ∀ slot ∈ slots, Shown env slot.name) :
    execute (probe watchesCall) locals (slots.flatMap (·.setup) ++ rest) env =
      execute (probe watchesCall) locals rest (ArgSlot.moveAll slots env) := by
  induction handed generalizing env with
  | nil => rfl
  | @cons slot handing slots handings first handed ih =>
    rw [List.forall_mem_cons] at hfree hlocal hshown
    obtain ⟨index, hindex⟩ := hshown.1
    have later : ∀ other ∈ slots, Shown (slot.move env) other.name :=
      fun other hother => shown_move hshown.1 (hshown.2 other hother)
    rw [List.flatMap_cons, List.append_assoc, ArgSlot.moveAll, ← ih hfree.2 hlocal.2 later,
      ArgSlot.move, first.setup, Handing.bindsOf_setup, Option.head?_toList]
    cases hcell : handing.cell? slot.name with
    | none => rw [Handing.setup_of_no_cell hcell, List.nil_append]
    | some cell =>
      have held : handing.hold (probe watchesCall) (.slot index) = .ok (.slot index) :=
        hold_probe (fun _ _ => rfl) index
      rw [Handing.execute_setup _ first.name hfree.1 hlocal.1 hindex hcell, held, ok_bind, hindex]
      rfl

/-- What a probe gives a callable for its parameters: every one a value of its own. -/
def shownValues (b : MethodBinding) : List Token :=
  (List.range' 1 b.args.length).map .slot

theorem length_shownValues : b.shownValues.length = b.args.length := by
  rw [shownValues, List.length_map, List.length_range']

theorem shown_of_mem_shownValues : ∀ v ∈ b.shownValues, ∃ index, v = .slot index :=
  List.forall_mem_map.mpr fun index _ => ⟨index, rfl⟩

theorem nodup_shownValues : b.shownValues.Nodup := by
  have indices : (List.range' 1 b.args.length).Nodup := List.nodup_range'
  exact indices.map fun _ _ => Token.slot.inj

theorem nodup_given : ((b.arguments (.slot 0) b.shownValues).map (·.2)).Nodup := by
  have values : (b.arguments (.slot 0) b.shownValues).map (·.2) =
      (if b.hasReceiver then [.slot 0] else []) ++ b.shownValues := by
    rw [arguments, List.map_append, List.map_snd_zip (by simp [length_shownValues])]
    cases b.hasReceiver <;> rfl
  rw [values]
  cases b.hasReceiver with
  | false => exact nodup_shownValues
  | true =>
    refine List.nodup_cons.mpr ⟨fun hmem => ?_, nodup_shownValues⟩
    obtain ⟨index, hindex, heq⟩ := List.mem_map.mp hmem
    cases heq
    exact absurd (List.mem_range'_1.mp hindex).1 (by decide)

/-- What a callable starts with in a probe. -/
def shownStart (b : MethodBinding) : String → Option Token :=
  entering (b.arguments (.slot 0) b.shownValues)

theorem shown_start : ∀ name ∈ b.parameters, Shown b.shownStart name := by
  intro name hname
  rw [← map_fst_arguments (Token.slot 0) length_shownValues] at hname
  obtain ⟨a, ha, hvalue⟩ := exists_entering hname
  rw [Shown, shownStart, hvalue]
  rcases List.mem_append.mp ha with ha | ha
  · split at ha
    · rw [List.mem_singleton.mp ha]
      exact ⟨0, rfl⟩
    · cases ha
  · obtain ⟨index, heq⟩ := shown_of_mem_shownValues _ (List.of_mem_zip ha).2
    exact ⟨index, by rw [heq]⟩

/-- In a probe, a callable with arguments stops at the array of addresses, which shows what is kept
of them. -/
theorem exists_run_probe (hs : b.Settled r)
    (hmodule : ∀ name ∈ b.moduleNames r, spelled name ∉ b.locals)
    (hne : b.args.isEmpty = false) :
    ∃ held, b.run (probe watchesCall) (.slot 0) b.shownValues = .error (.called held) ∧
      List.Forall₂ (fun slot v =>
        ArgSlot.moveAll b.args b.shownStart (spelled (ArgSlot.kept slot)) = some v)
        b.args held := by
  obtain ⟨_, _, _, handed, _⟩ := forall_moduleNames.mp hmodule
  have names : ∀ slot ∈ b.args, Shown b.shownStart slot.name := fun slot hslot =>
    shown_start slot.name (List.mem_append_right _ (List.mem_map_of_mem hslot))
  set env := ArgSlot.moveAll b.args b.shownStart with henv
  have kept : ∀ slot ∈ b.args, ∃ index, env (spelled slot.kept) = some (.slot index) :=
    shown_kept names
  have self : ∃ receiver, b.hasReceiver = true → env (spelled "self") = some receiver := by
    cases has : b.hasReceiver with
    | false => exact ⟨.plain, nofun⟩
    | true =>
      obtain ⟨index, hindex⟩ :=
        shown_moveAll names (shown_start "self" (by simp [parameters, has]))
      exact ⟨_, fun _ => hindex⟩
  obtain ⟨receiver, hself⟩ := self
  set held := b.args.map fun slot => (env (spelled slot.kept)).getD .plain with hheld
  have holds : List.Forall₂ (fun slot v => env (spelled (ArgSlot.kept slot)) = some v) b.args
      held := by
    refine List.forall₂_map_right_iff.mpr (List.forall₂_same.mpr fun slot hslot => ?_)
    obtain ⟨index, hindex⟩ := kept slot hslot
    rw [hindex, Option.getD_some]
  have shown : ∀ v ∈ held, ∃ index, v = .slot index := by
    refine List.forall_mem_map.mpr fun slot hslot => ?_
    obtain ⟨index, hindex⟩ := kept slot hslot
    exact ⟨index, by rw [hindex, Option.getD_some]⟩
  refine ⟨held, ?_, holds⟩
  rw [run_eq length_shownValues, ← shownStart,
    execute_setups_probe _ hs.args handed (fun slot hslot => mem_locals_name hslot) names,
    execute_ending hs hmodule hself holds,
    callHeld_probe hs hne receiver (by rw [hheld, List.length_map]) shown]

/-- Every argument of a faithful callable is kept until the engine is pointed to it. -/
theorem kept_of_faithful (hs : b.Settled r) (h : b.Faithful r) :
    List.Forall₂ (fun slot v =>
      ArgSlot.moveAll b.args b.shownStart (spelled (ArgSlot.kept slot)) = some v)
      b.args b.shownValues := by
  cases hempty : b.args.isEmpty with
  | true =>
    rw [shownValues, List.isEmpty_iff.mp hempty]
    exact .nil
  | false =>
    obtain ⟨held, hrun, holds⟩ := exists_run_probe hs (module_of_faithful hs h) hempty
    -- What is meant stops there too, and shows what was given.
    have meant := h _ _ (probe watchesCall) (.slot 0) b.shownValues length_shownValues
    rw [hrun, callEngine_probe hs hempty (.slot 0) length_shownValues shown_of_mem_shownValues]
      at meant
    rw [← Event.called.inj (Except.error.inj meant)]
    exact holds

/-- No other callable than one without captures is faithful. -/
theorem captureFree_of_faithful (hs : b.Settled r) (h : b.Faithful r) : b.CaptureFree r := by
  have hkept := kept_of_faithful hs h
  have kept := kept_apart hs.args hkept nodup_shownValues
  obtain ⟨unread, names⟩ := unread_apart hs.args hkept nodup_shownValues kept
  refine ⟨module_of_faithful hs h, ?_, unread, kept⟩
  rw [← map_fst_arguments (Token.slot 0) length_shownValues, List.map_map]
  refine nodup_of_entering (fun a ha => ?_) ?_
  · rcases List.mem_append.mp ha with ha | ha
    · cases has : b.hasReceiver with
      | false =>
        rw [has] at ha
        cases ha
      | true =>
        rw [has, if_pos rfl] at ha
        rw [List.mem_singleton.mp ha, arguments, has, if_pos rfl, List.singleton_append,
          entering_cons, if_pos rfl]
    · rw [List.zip_map_left] at ha
      obtain ⟨entry, hentry, rfl⟩ := List.mem_map.mp ha
      exact (List.forall₂_iff_zip.mp names).2 hentry
  · exact nodup_given

end Probed

end MethodBinding

/-! ### Bound callables -/

namespace Registry

/-- A supported callable points the engine to one address for every argument, in the order in which
they are declared, each made the way that the argument's type is handed over. What the engine finds
there, and the rest of the call, is what is meant exactly where no name of the callable is taken
while it is still read. -/
theorem call_faithful_iff {r : Registry} {use : TypeUse} {b : MethodBinding} (h : r.Binds use b)
    (supported : b.unsupported = none) :
    b.pointerArray = .invoke (.cells (.native "c_void_p") b.method.arguments.length)
        (b.args.map (·.native)) ∧
      List.Forall₂ r.Enters b.method.arguments b.args ∧ (b.Faithful r ↔ b.CaptureFree r) := by
  have supports := h.supports supported
  have settled : b.Settled r := MethodBinding.settled_of_supports supports
  have enters := r.enters_of_argSlots supports.args
  refine ⟨?_, enters, ?_, ?_⟩
  · rw [MethodBinding.pointerArray, enters.length_eq]
  · intro faithful
    exact MethodBinding.captureFree_of_faithful settled faithful
  · intro free M _ _ V w receiver values hlen
    exact MethodBinding.run_of_captureFree settled free receiver hlen

/-- A method that takes whole numbers of given names. -/
def stamping (arguments : List Name) : MethodDef where
  name := "stamp"
  hash := some 1
  returnType := some (.primitive .bool)
  arguments := arguments.map fun name => { name, type := .primitive .int }

def press : ClassDef :=
  .declaring "Press" none [stamping ["x", "y"]] []

/-- A callable without captures is faithful. -/
theorem call_faithful_iff_stamping : ∃ b, (ofClasses [press]).Binds .member b ∧
    b.unsupported = none ∧ b.Faithful (ofClasses [press]) := by
  have planned : ((ofClasses [press]).bindMethod press (stamping ["x", "y"]) []).toOption.any
      fun b => b.unsupported.isNone && decide (b.Apart (ofClasses [press])) &&
        (b.moduleNames (ofClasses [press]) ++ b.parameters ++ bindsOf b.body).all fun name =>
          name.toList.all Text.isPlain := by decide +kernel
  obtain ⟨b, hb, checked⟩ := exists_eq_ok_of_any planned
  obtain ⟨checked, plain⟩ := Bool.and_eq_true_iff.mp checked
  obtain ⟨supported, apart⟩ := Bool.and_eq_true_iff.mp checked
  have supported := Option.isNone_iff_eq_none.mp supported
  have free := (of_decide_eq_true apart).captureFree (List.all_eq_true.mp plain)
  exact ⟨b, .method hb, supported, (call_faithful_iff (.method hb) supported).2.2.mpr free⟩

/-- Arguments of these names are bound, but the engine is not called the way that is meant. -/
def Taken (names : List Name) : Prop :=
  ∃ b, (ofClasses [press]).bindMethod press (stamping names) [] = .ok b ∧ b.unsupported = none ∧
    ¬b.Faithful (ofClasses [press])

theorem taken_of_any {names : List Name}
    (h : ((ofClasses [press]).bindMethod press (stamping names) []).toOption.any fun b =>
      b.unsupported.isNone && !decide (b.Apart (ofClasses [press]))) : Taken names := by
  obtain ⟨b, hb, checked⟩ := exists_eq_ok_of_any h
  obtain ⟨supported, taken⟩ := Bool.and_eq_true_iff.mp checked
  have supported := Option.isNone_iff_eq_none.mp supported
  refine ⟨b, hb, supported, fun faithful => ?_⟩
  have settled : b.Settled (ofClasses [press]) :=
    MethodBinding.settled_of_supports (Binds.supports (.method hb) supported)
  have free := MethodBinding.captureFree_of_faithful settled faithful
  simp [free.apart] at taken

/-- The cell of an argument may take the name of a later one, two arguments may be called the same,
and an argument may take the name of a module or of the class. -/
theorem call_captured : Taken ["x", "copy_x"] ∧ Taken ["x", "x"] ∧ Taken ["ctypes"] ∧
    Taken ["gi"] ∧ Taken ["Press"] :=
  ⟨taken_of_any (by decide +kernel), taken_of_any (by decide +kernel),
    taken_of_any (by decide +kernel), taken_of_any (by decide +kernel),
    taken_of_any (by decide +kernel)⟩

end Registry

end EngineBindings
