import EngineBindings.Proofs.Plan.Capture

/-! A world that tells captured names from meant ones.

The values of the probe are tokens: it is visible of each which slot it comes from, and which of the
proxy's own values it is. The probe stops a run at the first event that it watches for, be it a name
of the module that is read, the call of the override or the use of the result's slot.

In it, reading a slot gives a value that shows the slot's index, and storing a result is an event.
Whatever is read or stored to the end has read its names of the module, so none of these is
watched. -/
namespace EngineBindings

open EngineBindings.Code Attempt

/-- A value of a probe. -/
inductive Token where
  | plain
  /-- A value that counts as empty. -/
  | absent
  | finder
  | locator
  | lookup
  /-- The object that the proxy finds. -/
  | object
  /-- What shows the values that it is called with: the override, or a type of arrays. -/
  | override
  | slots
  /-- Whatever comes from the argument slot of an index. -/
  | slot (index : Nat)
  /-- The slot for the result. -/
  | place
  deriving DecidableEq

/-- What a probe can stop at. -/
inductive Event where
  | read (name : String)
  | called (arguments : List Token)
  | stored
  deriving DecidableEq

namespace Token

/-- What a name of the module stands for. -/
def ofName (name : String) : Token :=
  if name = "instance_from_handle" then finder
  else if name = "slot_addresses" then locator
  else if name = "lookup_live_object" then lookup
  else plain

def attr : Token → Token
  | object => override
  | slot index => slot index
  | _ => plain

def item : Token → Nat → Token
  | slots, index => slot index
  | slot index, _ => slot index
  | _, _ => plain

/-- The slot that values come from, the first of several. -/
def carried : List Token → Token
  | [] => plain
  | slot index :: _ => slot index
  | _ :: rest => carried rest

end Token

variable {watched : Event → Bool}

/-- Stops at an event that is watched. -/
def note (watched : Event → Bool) (e : Event) (v : Token) : Except Event Token :=
  if watched e then .error e else .ok v

theorem note_of_unwatched {e : Event} (h : watched e = false) (v : Token) :
    note watched e v = .ok v := by
  rw [note, h, if_neg Bool.false_ne_true]

/-- Watches for calls that show their values. -/
def watchesCall : Event → Bool
  | .called _ => true
  | _ => false

/-- What a call gives. An argument with a keyword passes through. -/
def answer (watched : Event → Bool) (callee : Token) (arguments : List (Option String × Token)) :
    Except Event Token :=
  match arguments with
  | [(some _, v)] => .ok v
  | _ =>
    let values := arguments.map (·.2)
    match callee with
    | .finder => .ok .object
    | .locator => .ok .slots
    | .lookup => .ok .absent
    | .override => note watched (.called values) .plain
    | _ =>
      if .place ∈ values then note watched .stored .plain
      else .ok (Token.carried (callee :: values))

/-- The world that stops at watched events. -/
@[simps]
def probe (watched : Event → Bool) : World (Except Event) Token where
  literal _ := .plain
  global name := note watched (.read name) (Token.ofName name)
  unbound _ := .ok .plain
  along _ _ := .ok .plain
  attr v _ := .ok v.attr
  item v index := .ok (v.item index)
  cells _ _ := .ok .override
  call := answer watched
  isTrue v := .ok (v ≠ .absent)
  isNone _ := false
  truth b := if b then .plain else .absent
  isTrue_truth b := by cases b <;> rfl

/-- What a call with positional arguments gives. -/
theorem answer_positional (callee : Token) (values : List Token) :
    answer watched callee (values.map (none, ·)) =
      match callee with
      | .finder => .ok .object
      | .locator => .ok .slots
      | .lookup => .ok .absent
      | .override => note watched (.called values) .plain
      | _ =>
        if .place ∈ values then note watched .stored .plain
        else .ok (Token.carried (callee :: values)) := by
  have values_back : (values.map fun v => ((none : Option String), v)).map (·.2) = values := by
    simp [Function.comp_def]
  unfold answer
  split
  · next keyword v heq =>
    cases values with
    | nil => cases heq
    | cons first rest => cases heq
  · simp only [values_back]

/-! ### Runs that are not stopped -/

/-- A probe that watches for nothing but names of the module that are read. -/
structure WatchesReads (watched : Event → Bool) : Prop where
  called : ∀ values, watched (.called values) = false
  stored : watched .stored = false

theorem exists_answer (hw : WatchesReads watched) (callee : Token)
    (arguments : List (Option String × Token)) : ∃ v, answer watched callee arguments = .ok v := by
  unfold answer
  split
  · exact ⟨_, rfl⟩
  · cases callee with
    | override => exact ⟨_, note_of_unwatched (hw.called _) _⟩
    | finder | locator | lookup => exact ⟨_, rfl⟩
    | plain | absent | object | slots | slot | place =>
      dsimp only
      split
      · exact ⟨_, note_of_unwatched hw.stored _⟩
      · exact ⟨_, rfl⟩

mutual

/-- An expression whose names can all be read has a value. -/
theorem exists_eval {read : String → Except Event Token} (hw : WatchesReads watched)
    (hread : ∀ name, ∃ v, read name = .ok v) :
    ∀ e : Expr, ∃ v, e.eval (probe watched) read = .ok v
  | .name path => by
    obtain ⟨v, hv⟩ := hread (root path)
    simp only [Expr.eval, World.follow, hv, ok_bind]
    split <;> exact ⟨_, rfl⟩
  | .literal _ => ⟨_, rfl⟩
  | .attr target field => by
    obtain ⟨v, hv⟩ := exists_eval hw hread target
    exact ⟨_, by rw [Expr.eval, hv]; rfl⟩
  | .call callee arguments => by
    obtain ⟨f, hf⟩ := exists_eval hw hread callee
    obtain ⟨values, hvalues⟩ := exists_evalArguments hw hread arguments
    simp only [Expr.eval, hf, hvalues, ok_bind]
    exact exists_answer hw f values
  | .item target index => by
    obtain ⟨v, hv⟩ := exists_eval hw hread target
    exact ⟨_, by rw [Expr.eval, hv]; rfl⟩
  | .cells type count => by
    obtain ⟨v, hv⟩ := exists_eval hw hread type
    exact ⟨_, by rw [Expr.eval, hv]; rfl⟩
  | .isNone subject => by
    obtain ⟨v, hv⟩ := exists_eval hw hread subject
    exact ⟨_, by rw [Expr.eval, hv]; rfl⟩
  | .orElse first second => by
    obtain ⟨v, hv⟩ := exists_eval hw hread first
    simp only [Expr.eval, hv, ok_bind, probe_isTrue]
    split
    · exact ⟨_, rfl⟩
    · exact exists_eval hw hread second
  | .choose value condition otherwise => by
    obtain ⟨v, hv⟩ := exists_eval hw hread condition
    simp only [Expr.eval, hv, ok_bind, probe_isTrue]
    split
    · exact exists_eval hw hread value
    · exact exists_eval hw hread otherwise

/-- Arguments whose names can all be read have values. -/
theorem exists_evalArguments {read : String → Except Event Token} (hw : WatchesReads watched)
    (hread : ∀ name, ∃ v, read name = .ok v) :
    ∀ arguments : Arguments, ∃ values, arguments.eval (probe watched) read = .ok values
  | .nil => ⟨[], rfl⟩
  | .cons keyword value rest => by
    obtain ⟨v, hv⟩ := exists_eval hw hread value
    obtain ⟨values, hvalues⟩ := exists_evalArguments hw hread rest
    exact ⟨_, by rw [Arguments.eval, hv, ok_bind, hvalues]; rfl⟩

end

/-- A function whose names can all be read runs to its end. -/
theorem exists_execute {locals : List String} (hw : WatchesReads watched)
    (hread : ∀ env name, ∃ v, (probe watched).read locals env name = .ok v) :
    ∀ (body : List Stmt) (env : String → Option Token),
      ∃ o, execute (probe watched) locals body env = .ok o
  | [], _ => ⟨_, rfl⟩
  | .assign target value :: rest, env => by
    obtain ⟨v, hv⟩ := exists_eval hw (hread env) value
    simp only [execute, hv, ok_bind]
    exact exists_execute hw hread rest _
  | .exec value :: rest, env => by
    obtain ⟨v, hv⟩ := exists_eval hw (hread env) value
    simp only [execute, hv, ok_bind]
    exact exists_execute hw hread rest env
  | .result value :: _, env => by
    obtain ⟨v, hv⟩ := exists_eval hw (hread env) value
    exact ⟨_, by rw [execute, hv]; rfl⟩
  | .pass :: rest, env => exists_execute hw hread rest env
  | .stopUnless value :: rest, env => by
    obtain ⟨v, hv⟩ := exists_eval hw (hread env) value
    simp only [execute, hv, ok_bind, probe_isTrue]
    split
    · exact exists_execute hw hread rest env
    · exact ⟨_, rfl⟩
  | .stopIfNone value :: rest, env => by
    obtain ⟨v, hv⟩ := exists_eval hw (hread env) value
    simp only [execute, hv, ok_bind, probe_isNone]
    exact exists_execute hw hread rest env

/-- Inside a function that has a name of its own, the module's meaning of it is not read. -/
theorem exists_read_of_local {locals : List String} {name : String} (h : name ∈ locals)
    (env : String → Option Token) (other : String) :
    ∃ v, (probe (· == .read name)).read locals env other = .ok v := by
  unfold World.read
  split
  · split <;> exact ⟨_, rfl⟩
  · next hother =>
    have hne : spelled other ≠ name := fun heq => hother (heq ▸ h)
    rw [probe_global]
    exact ⟨_, note_of_unwatched (by simpa using hne) _⟩

/-! ### What a probe reads -/

theorem pure_ok (v : Token) : (pure v : Except Event Token) = .ok v :=
  rfl

theorem root_fixed {name : String} (h : name ∈ fixedNames) : root name = name := by
  have whole : ∀ name ∈ fixedNames, root name = name := by decide +kernel
  exact whole name h

/-- Names of the module that a probe does not watch for. -/
def Unwatched (watched : Event → Bool) (names : List String) : Prop :=
  ∀ name ∈ names, watched (.read (spelled name)) = false

/-- What a name of the module stands for carries nothing from a slot. -/
structure Token.Inert (v : Token) : Prop where
  attr : v.attr = .plain
  carried : ∀ rest, Token.carried (v :: rest) = Token.carried rest
  ne_place : v ≠ .place

theorem inert_plain : Token.Inert .plain :=
  ⟨rfl, fun _ => rfl, nofun⟩

theorem inert_ofName (name : String) : (Token.ofName name).Inert := by
  unfold Token.ofName
  split_ifs <;> exact ⟨rfl, fun _ => rfl, nofun⟩

theorem named_probe {path : String} (h : watched (.read (spelled (root path))) = false) :
    ∃ v, (probe watched).named path = .ok v ∧ v.Inert := by
  simp only [World.named, World.follow, probe_global, note_of_unwatched h, ok_bind, probe_along]
  split
  · exact ⟨_, rfl, inert_ofName _⟩
  · exact ⟨_, rfl, inert_plain⟩

theorem named_fixed {name : String} (hname : name ∈ fixedNames)
    (h : watched (.read (spelled name)) = false) :
    (probe watched).named name = .ok (Token.ofName name) := by
  rw [World.named, follow_of_root (root_fixed hname), probe_global, note_of_unwatched h,
    spelled_fixed hname]

theorem native_probe (field : String) (h : watched (.read (spelled "ctypes")) = false) :
    (probe watched).native field = .ok .plain := by
  rw [World.native, named_fixed (by decide) h]
  rfl

theorem scalarCapacity_probe (type : Scalar) (h : watched (.read (spelled "ctypes")) = false) :
    (probe watched).scalarCapacity type = .ok .plain := by
  simp [World.scalarCapacity, World.invoke, native_probe _ h, ok_bind, answer, Token.carried]

theorem named_buffer (h : watched (.read (spelled "SlotBuffer")) = false) :
    (probe watched).named "SlotBuffer" = .ok .plain :=
  named_fixed (by decide) h

/-- A slot comes from where its address does. -/
theorem slotAt_probe {address : Except Event Token} {index : Nat}
    (h : watched (.read (spelled "SlotBuffer")) = false) (haddress : address = .ok (.slot index)) :
    (probe watched).slotAt address (.ok .plain) = .ok (.slot index) := by
  simp [World.slotAt, World.invoke, named_buffer h, haddress, ok_bind, answer, Token.attr,
    Token.carried]

/-- The slot for the result is noted. -/
theorem slotAt_place (h : watched (.read (spelled "SlotBuffer")) = false) :
    (probe watched).slotAt (pure .place) (.ok .plain) = note watched .stored .plain := by
  simp [World.slotAt, World.invoke, named_buffer h, ok_bind, answer, Token.attr]

/-- What a method of a slot gives comes from the slot. -/
theorem slotCall_probe {slot : Except Event Token} {index : Nat} {method : String} {v : Token}
    (hslot : slot = .ok (.slot index)) (hv : .place ≠ v) :
    (probe watched).slotCall slot method [.ok v] = .ok (.slot index) := by
  simp [World.slotCall, World.invoke, hslot, ok_bind, answer, Token.attr, Token.carried, hv]

theorem slotCall_probe_nil {slot : Except Event Token} {index : Nat} {method : String}
    (hslot : slot = .ok (.slot index)) :
    (probe watched).slotCall slot method [] = .ok (.slot index) := by
  simp [World.slotCall, World.invoke, hslot, ok_bind, answer, Token.attr, Token.carried]

theorem objectOf_probe {host : String} {found : Nat}
    (hlookup : watched (.read (spelled "lookup_live_object")) = false)
    (hhost : watched (.read (spelled (root host))) = false) :
    SlotKind.objectOf (probe watched) host (.slot found) = .ok (.slot found) := by
  obtain ⟨v, hv, _⟩ := named_probe hhost
  simp [SlotKind.objectOf, World.invoke, named_fixed (by decide) hlookup, hv, ok_bind, answer,
    Token.ofName]

/-- Reading an argument gives what its slot holds. -/
theorem fetch_probe {kind : SlotKind} {array : Token} {index found : Nat}
    (h : Unwatched watched kind.moduleNames) (hitem : array.item index = .slot found) :
    kind.fetch (probe watched) array index = .ok (.slot found, .slot found) := by
  have address : (probe watched).item array index = .ok (.slot found) := by
    rw [probe_item, hitem]
  cases kind with
  | scalar type =>
    have hbuffer := h "SlotBuffer" (by simp [SlotKind.moduleNames])
    have hnative := h "ctypes" (by simp [SlotKind.moduleNames])
    simp only [SlotKind.fetch, scalarCapacity_probe _ hnative, native_probe _ hnative]
    rw [slotCall_probe (slotAt_probe hbuffer address) (by decide)]
    rfl
  | object host =>
    have hbuffer := h "SlotBuffer" (by simp [SlotKind.moduleNames])
    have hnative := h "ctypes" (by simp [SlotKind.moduleNames])
    have hsize : (probe watched).named "POINTER_SIZE" = .ok .plain :=
      named_fixed (by decide) (h "POINTER_SIZE" (by simp [SlotKind.moduleNames]))
    have hlookup := h "lookup_live_object" (by simp [SlotKind.moduleNames])
    have hhost := h (root host) (by simp [SlotKind.moduleNames])
    simp only [SlotKind.fetch, hsize, native_probe _ hnative]
    rw [slotCall_probe (slotAt_probe hbuffer address) (by decide), ok_bind,
      objectOf_probe hlookup hhost]
    rfl
  | struct size host =>
    have hbuffer := h "SlotBuffer" (by simp [SlotKind.moduleNames])
    obtain ⟨v, hv, hinert⟩ := named_probe (h (root host) (by simp [SlotKind.moduleNames]))
    simp only [SlotKind.fetch, hv, probe_literal, pure_ok]
    rw [slotCall_probe (slotAt_probe hbuffer address) hinert.ne_place.symm]
    rfl
  | content size host =>
    have hbuffer := h "SlotBuffer" (by simp [SlotKind.moduleNames])
    obtain ⟨v, hv, hinert⟩ := named_probe (h (root host) (by simp [SlotKind.moduleNames]))
    simp only [SlotKind.fetch, hv, probe_literal, pure_ok]
    rw [slotCall_probe_nil (slotAt_probe hbuffer address)]
    simp [World.invoke, ok_bind, hinert.attr, answer, Token.carried]

/-- Reading the arguments in order gives what their slots hold. -/
theorem slotValues_probe {r : Registry} {args : List TrampolineArg} {start : Nat}
    (h : ∀ a ∈ args, Unwatched watched (r.slotKind a.target).moduleNames) :
    r.slotValues (probe watched) .slots args start =
      .ok ((List.range' start args.length).map .slot) := by
  induction args generalizing start with
  | nil => rfl
  | cons a args ih =>
    rw [List.forall_mem_cons] at h
    have hfirst : (r.slotKind a.target).fetch (probe watched) .slots start =
        .ok (.slot start, .slot start) := fetch_probe h.1 rfl
    have hrest : r.slotValues (probe watched) .slots args (start + 1) =
        .ok ((List.range' (start + 1) args.length).map .slot) := ih h.2
    rw [Registry.slotValues] at hrest ⊢
    simp only [List.zipIdx_cons, List.mapM_cons, hfirst, hrest, List.length_cons, List.range'_succ]
    rfl

/-! ### What a probe stores -/

/-- A value that calls and attributes do nothing special with. -/
def Token.IsValue (v : Token) : Prop :=
  v = .plain ∨ ∃ index, v = .slot index

/-- A step that gives such a value. -/
def Valued (x : Except Event Token) : Prop :=
  ∃ v, x = .ok v ∧ v.IsValue

theorem isValue_carried (values : List Token) : (Token.carried values).IsValue := by
  induction values with
  | nil => exact .inl rfl
  | cons v rest ih =>
    cases v with
    | slot index => exact .inr ⟨index, rfl⟩
    | _ => exact ih

theorem valued_attr {v : Token} {field : String} (h : v.IsValue) :
    Valued ((probe watched).attr v field) := by
  rcases h with rfl | ⟨index, rfl⟩
  · exact ⟨_, rfl, .inl rfl⟩
  · exact ⟨_, rfl, .inr ⟨index, rfl⟩⟩

theorem valued_invoke {callee : Except Event Token} {arguments : List (Except Event Token)}
    (hcallee : Valued callee) (harguments : ∀ x ∈ arguments, Valued x) :
    Valued ((probe watched).invoke callee arguments) := by
  obtain ⟨f, rfl, hf⟩ := hcallee
  have worked : ∃ values : List Token, arguments.mapM id = .ok values ∧ .place ∉ values := by
    induction arguments with
    | nil => exact ⟨[], rfl, List.not_mem_nil⟩
    | cons x rest ih =>
      rw [List.forall_mem_cons] at harguments
      obtain ⟨⟨v, rfl, hv⟩, hrest⟩ := harguments
      obtain ⟨values, hvalues, hplace⟩ := ih hrest
      refine ⟨v :: values, by rw [List.mapM_cons, hvalues]; rfl, ?_⟩
      have hne : .place ≠ v := by rintro rfl; simp [Token.IsValue] at hv
      simp [hne, hplace]
  obtain ⟨values, hvalues, hplace⟩ := worked
  refine ⟨Token.carried (f :: values), ?_, isValue_carried _⟩
  rw [World.invoke, ok_bind, hvalues, ok_bind, probe_call, answer_positional]
  rcases hf with rfl | ⟨index, rfl⟩ <;> exact if_neg hplace

theorem valued_ok {v : Token} (h : v.IsValue) : Valued (.ok v) :=
  ⟨v, rfl, h⟩

theorem valued_slotCall {slot : Except Event Token} {method : String}
    {arguments : List (Except Event Token)} (hslot : Valued slot)
    (harguments : ∀ x ∈ arguments, Valued x) :
    Valued ((probe watched).slotCall slot method arguments) := by
  obtain ⟨v, rfl, hv⟩ := hslot
  have callee : Valued ((probe watched).attr v method) := valued_attr hv
  exact valued_invoke callee harguments

/-- Storing a value succeeds where the slot can be used. -/
theorem valued_write {kind : StoreKind} {slot result : Token}
    (h : Unwatched watched kind.moduleNames) (hresult : result.IsValue)
    (hslot : Valued ((probe watched).slotAt (pure slot) (.ok .plain))) :
    Valued (kind.write (probe watched) slot result) := by
  have plain : Valued (.ok .plain) := valued_ok (.inl rfl)
  have returned : Valued (pure result) := valued_ok hresult
  cases kind with
  | number =>
    have hnative := h "ctypes" (by simp [StoreKind.moduleNames])
    have hint : (probe watched).named "int" = .ok .plain :=
      named_fixed (by decide) (h "int" (by simp [StoreKind.moduleNames]))
    have converted : Valued ((probe watched).invoke (.ok .plain) [pure result]) :=
      valued_invoke plain (by simpa using returned)
    simp only [StoreKind.write, hint, native_probe _ hnative, probe_literal]
    exact valued_slotCall hslot (by simpa using ⟨converted, plain⟩)
  | object =>
    have hnative := h "ctypes" (by simp [StoreKind.moduleNames])
    have hsize : (probe watched).named "POINTER_SIZE" = .ok .plain :=
      named_fixed (by decide) (h "POINTER_SIZE" (by simp [StoreKind.moduleNames]))
    have handle : Valued ((probe watched).attr result "handle") := valued_attr hresult
    simp only [StoreKind.write, hsize, native_probe _ hnative, probe_isNone,
      if_neg Bool.false_ne_true]
    exact valued_slotCall hslot (by simpa using ⟨handle, plain⟩)
  | scalar type =>
    have hnative := h "ctypes" (by simp [StoreKind.moduleNames])
    simp only [StoreKind.write, scalarCapacity_probe _ hnative, native_probe _ hnative]
    exact valued_slotCall hslot (by simpa using ⟨returned, plain⟩)
  | struct size =>
    exact valued_slotCall hslot (by simpa using returned)
  | content size =>
    have hbytes : (probe watched).named "bytes" = .ok .plain :=
      named_fixed (by decide) (h "bytes" (by simp [StoreKind.moduleNames]))
    have content : Valued ((probe watched).attr result "content") := valued_attr hresult
    have converted : Valued ((probe watched).invoke (.ok .plain)
        [(probe watched).attr result "content"]) :=
      valued_invoke plain (by simpa using content)
    simp only [StoreKind.write, hbytes, probe_literal]
    exact valued_slotCall hslot (by simpa using converted)

/-- Storing a result stops a probe that watches for the use of its slot. -/
theorem write_place {kind : StoreKind} {result : Token}
    (h : Unwatched watched kind.moduleNames) (hstored : watched .stored = true) :
    kind.write (probe watched) .place result = .error .stored := by
  have hbuffer : watched (.read (spelled "SlotBuffer")) = false :=
    h "SlotBuffer" (by cases kind <;> simp [StoreKind.moduleNames])
  have stopped : (probe watched).slotAt (pure .place) (.ok .plain) = .error .stored := by
    rw [slotAt_place hbuffer, note, if_pos hstored]
  have call_stopped (method : String) (arguments : List (Except Event Token)) :
      (probe watched).slotCall (.error .stored) method arguments = .error .stored := rfl
  cases kind with
  | scalar type =>
    have hnative := h "ctypes" (by simp [StoreKind.moduleNames])
    simp only [StoreKind.write, scalarCapacity_probe _ hnative, stopped, call_stopped]
  | object =>
    have hsize : (probe watched).named "POINTER_SIZE" = .ok .plain :=
      named_fixed (by decide) (h "POINTER_SIZE" (by simp [StoreKind.moduleNames]))
    simp only [StoreKind.write, hsize, stopped, call_stopped]
  | number | struct _ | content _ =>
    simp only [StoreKind.write, probe_literal, pure_ok] at stopped ⊢
    simp only [stopped, call_stopped]

/-! ### Reads that do not stop a probe -/

theorem unwatched_of_named {path : String} (h : ∃ v, (probe watched).named path = .ok v) :
    watched (.read (spelled (root path))) = false := by
  obtain ⟨v, h⟩ := h
  obtain ⟨u, hu, _⟩ := bind_eq_ok.mp h
  dsimp only at hu
  rw [probe_global, note] at hu
  split at hu
  · cases hu
  · next hnot => simpa using hnot

theorem unwatched_of_fixed {name : String} (hname : name ∈ fixedNames)
    (h : ∃ v, (probe watched).named name = .ok v) : watched (.read (spelled name)) = false := by
  have hroot := unwatched_of_named h
  rwa [root_fixed hname] at hroot

theorem ok_of_invoke {callee : Except Event Token} {arguments : List (Except Event Token)}
    {v : Token} (h : (probe watched).invoke callee arguments = .ok v) :
    (∃ f, callee = .ok f) ∧ ∀ x ∈ arguments, ∃ u, x = .ok u := by
  obtain ⟨f, hf, h⟩ := bind_eq_ok.mp h
  obtain ⟨values, hvalues, _⟩ := bind_eq_ok.mp h
  exact ⟨⟨f, hf⟩, exists_mapM_eq_ok.mp ⟨values, hvalues⟩⟩

theorem unwatched_of_native {field : String} (h : ∃ v, (probe watched).native field = .ok v) :
    watched (.read (spelled "ctypes")) = false := by
  obtain ⟨v, h⟩ := h
  obtain ⟨u, hu, _⟩ := bind_eq_ok.mp h
  exact unwatched_of_fixed (by decide) ⟨u, hu⟩

theorem unwatched_of_slotAt {address capacity : Except Event Token}
    (h : ∃ v, (probe watched).slotAt address capacity = .ok v) :
    watched (.read (spelled "SlotBuffer")) = false ∧ ∃ u, capacity = .ok u := by
  obtain ⟨v, h⟩ := h
  obtain ⟨⟨f, hf⟩, harguments⟩ := ok_of_invoke h
  obtain ⟨u, hu, _⟩ := bind_eq_ok.mp hf
  exact ⟨unwatched_of_fixed (by decide) ⟨u, hu⟩, harguments capacity (by simp)⟩

theorem ok_of_slotCall {slot : Except Event Token} {method : String}
    {arguments : List (Except Event Token)}
    {v : Token} (h : (probe watched).slotCall slot method arguments = .ok v) :
    (∃ u, slot = .ok u) ∧ ∀ x ∈ arguments, ∃ u, x = .ok u := by
  obtain ⟨⟨f, hf⟩, harguments⟩ := ok_of_invoke h
  obtain ⟨u, hu, _⟩ := bind_eq_ok.mp hf
  exact ⟨⟨u, hu⟩, harguments⟩

theorem unwatched_of_objectOf {host : String} {index : Nat} {made : Token}
    (h : SlotKind.objectOf (probe watched) host (.slot index) = .ok made) :
    watched (.read (spelled "lookup_live_object")) = false ∧
      watched (.read (spelled (root host))) = false := by
  simp only [SlotKind.objectOf, probe_isTrue, ok_bind, ne_eq, reduceCtorEq, not_false_eq_true,
    decide_true, if_true] at h
  obtain ⟨found, hfound, h⟩ := bind_eq_ok.mp h
  have hlookup : watched (.read (spelled "lookup_live_object")) = false :=
    unwatched_of_fixed (by decide) (ok_of_invoke hfound).1
  have missing : found = .absent := by
    simpa [World.invoke, named_fixed (by decide) hlookup, ok_bind, answer, Token.ofName]
      using hfound.symm
  rw [missing] at h
  simp only [not_true_eq_false, decide_false] at h
  obtain ⟨f, hf, _⟩ := bind_eq_ok.mp h
  exact ⟨hlookup, unwatched_of_named ⟨f, hf⟩⟩

/-- An argument that has been read has read the names of the module that it is meant to. -/
theorem unwatched_of_fetch {kind : SlotKind} {index : Nat} {found : Token × Token}
    (h : kind.fetch (probe watched) .slots index = .ok found) :
    Unwatched watched kind.moduleNames := by
  have address : (probe watched).item .slots index = .ok (.slot index) := rfl
  cases kind with
  | scalar type =>
    obtain ⟨v, hcall, _⟩ := bind_eq_ok.mp h
    obtain ⟨hslot, harguments⟩ := ok_of_slotCall hcall
    have hbuffer := (unwatched_of_slotAt hslot).1
    have hnative := unwatched_of_native (harguments _ List.mem_cons_self)
    simp [Unwatched, SlotKind.moduleNames, hbuffer, hnative]
  | object host =>
    obtain ⟨handle, hcall, h⟩ := bind_eq_ok.mp h
    obtain ⟨made, hmade, _⟩ := bind_eq_ok.mp h
    obtain ⟨hslot, harguments⟩ := ok_of_slotCall hcall
    obtain ⟨hbuffer, hsize⟩ := unwatched_of_slotAt hslot
    have hnative := unwatched_of_native (harguments _ List.mem_cons_self)
    have hpointer := unwatched_of_fixed (by decide) hsize
    have plain_size : (probe watched).named "POINTER_SIZE" = .ok .plain :=
      named_fixed (by decide) hpointer
    rw [plain_size, native_probe _ hnative,
      slotCall_probe (slotAt_probe hbuffer address) (by decide)] at hcall
    cases hcall
    obtain ⟨hlookup, hhost⟩ := unwatched_of_objectOf hmade
    simp [Unwatched, SlotKind.moduleNames, hbuffer, hpointer, hnative, hlookup, hhost]
  | struct size host =>
    obtain ⟨v, hcall, _⟩ := bind_eq_ok.mp h
    obtain ⟨hslot, harguments⟩ := ok_of_slotCall hcall
    have hbuffer := (unwatched_of_slotAt hslot).1
    have hhost := unwatched_of_named (harguments _ List.mem_cons_self)
    simp [Unwatched, SlotKind.moduleNames, hbuffer, hhost]
  | content size host =>
    obtain ⟨v, hcall, _⟩ := bind_eq_ok.mp h
    obtain ⟨⟨f, hf⟩, harguments⟩ := ok_of_invoke hcall
    obtain ⟨u, hu, _⟩ := bind_eq_ok.mp hf
    have hhost := unwatched_of_named ⟨u, hu⟩
    obtain ⟨content, hcontent⟩ := harguments _ List.mem_cons_self
    have hbuffer := (unwatched_of_slotAt (ok_of_slotCall hcontent).1).1
    simp [Unwatched, SlotKind.moduleNames, hbuffer, hhost]

/-- A result that has been stored has read the names of the module that it is meant to. -/
theorem unwatched_of_write {kind : StoreKind} {slot result stored : Token}
    (h : kind.write (probe watched) slot result = .ok stored) :
    Unwatched watched kind.moduleNames := by
  cases kind with
  | number =>
    obtain ⟨hslot, harguments⟩ := ok_of_slotCall h
    have hbuffer := (unwatched_of_slotAt hslot).1
    obtain ⟨number, hcall⟩ := harguments _ List.mem_cons_self
    have hint := unwatched_of_fixed (by decide) (ok_of_invoke hcall).1
    have hnative := unwatched_of_native (harguments _ (List.mem_cons_of_mem _ List.mem_cons_self))
    simp [Unwatched, StoreKind.moduleNames, hbuffer, hint, hnative]
  | object =>
    obtain ⟨hslot, harguments⟩ := ok_of_slotCall h
    obtain ⟨hbuffer, hsize⟩ := unwatched_of_slotAt hslot
    have hpointer := unwatched_of_fixed (by decide) hsize
    have hnative := unwatched_of_native (harguments _ (List.mem_cons_of_mem _ List.mem_cons_self))
    simp [Unwatched, StoreKind.moduleNames, hbuffer, hpointer, hnative]
  | scalar type =>
    obtain ⟨hslot, harguments⟩ := ok_of_slotCall h
    have hbuffer := (unwatched_of_slotAt hslot).1
    have hnative := unwatched_of_native (harguments _ (List.mem_cons_of_mem _ List.mem_cons_self))
    simp [Unwatched, StoreKind.moduleNames, hbuffer, hnative]
  | struct size =>
    have hbuffer := (unwatched_of_slotAt (ok_of_slotCall h).1).1
    simp [Unwatched, StoreKind.moduleNames, hbuffer]
  | content size =>
    obtain ⟨hslot, harguments⟩ := ok_of_slotCall h
    have hbuffer := (unwatched_of_slotAt hslot).1
    obtain ⟨bytes, hcall⟩ := harguments _ List.mem_cons_self
    have hbytes := unwatched_of_fixed (by decide) (ok_of_invoke hcall).1
    simp [Unwatched, StoreKind.moduleNames, hbuffer, hbytes]

end EngineBindings
