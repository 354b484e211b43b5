import EngineBindings.Proofs.Memory.Bytes

/-! What a sequence of slot accesses does to memory.

A session is memory and the window that is open on it: the slot over all of it, which grants writes
as memory does, or a slot at an address, which always grants them. Windows are opened and used in
any order (`SlotAccess`), an access that is refused leaves the session as it was.

`Session.guards_run`: after any accesses, the next one keeps to the open window. It never moves or
resizes memory, changes nothing outside the window and nothing at all unless it is a granted write
or store; writes and reads are granted exactly within bounds, a write changes the bytes it names to
what it writes, and a read returns the bytes last put where it reads (`lastPut`), or those that
memory started with. -/
namespace EngineBindings

open Attempt

/-- One use of slots. -/
inductive SlotAccess where
  /-- Opens the slot over all of memory. -/
  | openWhole
  /-- Opens the slot of a capacity at an address. -/
  | openAt (address : Option Nat) (capacity : Int)
  | read (size : Option Int) (offset : Int)
  | write (payload : Slot.Payload) (offset : Int)
  | load (type : SlotType)
  | store (type : Option SlotType) (value : SlotValue)

/-- What an access returns. -/
inductive SlotAnswer where
  | done
  | bytes (bytes : List UInt8)
  | loaded (value : Loaded)

/-- Memory and the window that is open on it. -/
structure Session where
  memory : Memory
  /-- Whether memory may be written to. -/
  isWritable : Bool
  /-- The slot that was opened at an address, none for the slot over all of memory. -/
  opened : Option Slot

/-- Bytes that are put at an address. -/
structure Put where
  address : Nat
  bytes : List UInt8

namespace Put

/-- The byte that a put leaves at an address. -/
def byte? (p : Put) (address : Nat) : Option UInt8 :=
  if p.address ≤ address then p.bytes[address - p.address]? else none

theorem byte?_eq (p : Put) (address : Nat) :
    p.byte? address =
      if p.address ≤ address ∧ address < p.address + p.bytes.length then
        p.bytes[address - p.address]?
      else none := by
  unfold byte?
  by_cases low : p.address ≤ address
  · rw [if_pos low]
    split
    · rfl
    · exact List.getElem?_eq_none (by omega)
  · rw [if_neg low, if_neg fun h => low h.1]

end Put

/-- The byte last put at an address, by puts given in order. -/
def lastPut (puts : List Put) (address : Nat) : Option UInt8 :=
  puts.reverse.findSome? fun p => p.byte? address

@[simp]
theorem lastPut_nil (address : Nat) : lastPut [] address = none :=
  rfl

theorem lastPut_append (puts more : List Put) (address : Nat) :
    lastPut (puts ++ more) address = (lastPut more address).or (lastPut puts address) := by
  rw [lastPut, List.reverse_append, List.findSome?_append]
  rfl

theorem lastPut_singleton (p : Put) (address : Nat) : lastPut [p] address = p.byte? address := by
  cases h : p.byte? address <;> simp [lastPut, h]

theorem Slot.isWritable_of_at? {address : Option Nat} {capacity : Int} {w : Slot}
    (h : Slot.at? address capacity = .ok w) : w.isWritable = true := by
  unfold Slot.at? at h
  split at h
  · cases h
  · cases h
  · split at h
    · cases h
    · split at h <;> cases h
      rfl

namespace SlotAccess

/-- Whether a window that an access opens lies in memory. -/
def StaysIn (m : Memory) : SlotAccess → Prop
  | openAt address capacity => ∀ s, Slot.at? address capacity = .ok s → s.IsInside m
  | _ => True

/-- Whether an access may change memory. -/
def isWrite : SlotAccess → Bool
  | write .. | store .. => true
  | _ => false

/-- Where in its window an access writes, and what. -/
def content? : SlotAccess → Option (Int × Slot.Payload)
  | write payload offset => some (offset, payload)
  | store type value => (Slot.stored type value).toOption.map fun payload => (0, payload)
  | _ => none

theorem content?_of_reading {access : SlotAccess} (quiet : access.isWrite = false) :
    access.content? = none := by
  cases access <;> first | rfl | cases quiet

end SlotAccess

namespace Session

/-- The session that begins with the slot over all of memory. -/
def start (m : Memory) (isWritable : Bool) : Session :=
  ⟨m, isWritable, none⟩

/-- The window that is open. -/
def slot (s : Session) : Slot :=
  s.opened.getD (.whole s.memory s.isWritable)

/-- An access, if it is granted: the session behind it and what it returns. -/
def attempt (s : Session) : SlotAccess → Except Fault (Session × SlotAnswer)
  | .openWhole => return ({ s with opened := none }, .done)
  | .openAt address capacity => do
    return ({ s with opened := some (← Slot.at? address capacity) }, .done)
  | .read size offset => do
    return (s, .bytes (← (s.slot.read s.memory size offset).mapError .ofSlot))
  | .write payload offset => do
    return ({ s with memory := ← (s.slot.write s.memory payload offset).mapError .ofSlot }, .done)
  | .load type => do
    return (s, .loaded (← s.slot.load s.memory type))
  | .store type value => do
    return ({ s with memory := ← s.slot.store s.memory type value }, .done)

/-- What an access returns, or why it is refused. -/
def answer (s : Session) (access : SlotAccess) : Except Fault SlotAnswer :=
  (s.attempt access).map Prod.snd

/-- The session behind an access, the same one if the access is refused. -/
def after (s : Session) (access : SlotAccess) : Session :=
  match s.attempt access with
  | .ok (next, _) => next
  | .error _ => s

/-- The session behind accesses one after another. -/
def run (s : Session) : List SlotAccess → Session
  | [] => s
  | access :: rest => (s.after access).run rest

/-- What an access puts into memory, if it is granted. -/
def put? (s : Session) (access : SlotAccess) : Option Put :=
  match s.attempt access with
  | .ok _ => access.content?.map fun c => ⟨s.slot.address + c.1.toNat, c.2.toList⟩
  | .error _ => none

/-- What accesses one after another put into memory. -/
def puts (s : Session) : List SlotAccess → List Put
  | [] => []
  | access :: rest => (s.put? access).toList ++ (s.after access).puts rest

/-! ### A single access -/

variable {s next : Session} {access : SlotAccess} {answer : SlotAnswer} {cause : Fault}

theorem after_of_ok (h : s.attempt access = .ok (next, answer)) : s.after access = next := by
  rw [after, h]

theorem after_of_error (h : s.attempt access = .error cause) : s.after access = s := by
  rw [after, h]

theorem put?_of_ok (h : s.attempt access = .ok (next, answer)) :
    s.put? access = access.content?.map fun c => ⟨s.slot.address + c.1.toNat, c.2.toList⟩ := by
  rw [put?, h]

theorem put?_of_error (h : s.attempt access = .error cause) : s.put? access = none := by
  rw [put?, h]

/-- What a granted access does: it opens a window, it returns something, or it writes what it holds
into the open window. -/
theorem attempt_eq_ok (h : s.attempt access = .ok (next, answer)) :
    (access.content? = none ∧ next.memory = s.memory ∧ next.isWritable = s.isWritable ∧
        ∀ w, next.opened = some w →
          s.opened = some w ∨
            ∃ address capacity, access = .openAt address capacity ∧
              Slot.at? address capacity = .ok w) ∨
      ∃ offset payload m', access.content? = some (offset, payload) ∧
        s.slot.write s.memory payload offset = .ok m' ∧ next = { s with memory := m' } := by
  cases access with
  | openWhole =>
    cases h
    exact .inl ⟨rfl, rfl, rfl, fun w hw => by cases hw⟩
  | openAt address capacity =>
    obtain ⟨w, hw, h⟩ := bind_eq_ok.mp h
    cases h
    exact .inl ⟨rfl, rfl, rfl, fun v hv => .inr ⟨address, capacity, rfl, by cases hv; exact hw⟩⟩
  | read size offset =>
    obtain ⟨bytes, -, h⟩ := bind_eq_ok.mp h
    cases h
    exact .inl ⟨rfl, rfl, rfl, fun w hw => .inl hw⟩
  | load type =>
    obtain ⟨value, -, h⟩ := bind_eq_ok.mp h
    cases h
    exact .inl ⟨rfl, rfl, rfl, fun w hw => .inl hw⟩
  | write payload offset =>
    obtain ⟨m', hm, h⟩ := bind_eq_ok.mp h
    cases h
    exact .inr ⟨offset, payload, m', rfl, mapError_eq_ok.mp hm, rfl⟩
  | store type value =>
    obtain ⟨m', hm, h⟩ := bind_eq_ok.mp h
    obtain ⟨payload, hp, hm⟩ := Slot.store_eq_ok.mp hm
    cases h
    refine .inr ⟨0, payload, m', ?_, hm, rfl⟩
    simp [SlotAccess.content?, hp, Except.toOption]

/-! ### A whole session -/

/-- What holds of every session that has begun with a memory: memory lies where it lay, windows
lie in it, and each of its bytes is the one last put there. -/
structure Reaches (first : Memory) (isWritable : Bool) (puts : List Put) (s : Session) : Prop where
  address_eq : s.memory.address = first.address
  length_eq : s.memory.bytes.length = first.bytes.length
  isWritable_eq : s.isWritable = isWritable
  opened_inside : ∀ w, s.opened = some w → w.IsInside first
  opened_isWritable : ∀ w, s.opened = some w → w.isWritable = true
  byte?_eq : ∀ address,
    s.memory.byte? address = (lastPut puts address).or (first.byte? address)

variable {first : Memory} {isWritable : Bool} {earlier : List Put}

theorem reaches_start (m : Memory) (isWritable : Bool) :
    Reaches m isWritable [] (start m isWritable) where
  address_eq := rfl
  length_eq := rfl
  isWritable_eq := rfl
  opened_inside := fun w hw => by cases hw
  opened_isWritable := fun w hw => by cases hw
  byte?_eq := fun address => rfl

namespace Reaches

theorem slot_isInside (h : Reaches first isWritable earlier s) : s.slot.IsInside s.memory := by
  cases hw : s.opened with
  | none =>
    rw [slot, hw]
    exact Slot.whole_isInside s.memory s.isWritable
  | some w =>
    have inside := h.opened_inside w hw
    rw [slot, hw, Slot.IsInside, Memory.Holds, h.address_eq, h.length_eq]
    exact inside

/-- The slot over all of memory grants writes as memory does, a slot at an address always does. -/
theorem slot_isWritable (h : Reaches first isWritable earlier s) :
    s.slot.isWritable = true ↔ (s.opened = none → isWritable = true) := by
  cases hw : s.opened with
  | none => simp [slot, hw, Slot.whole, h.isWritable_eq]
  | some w => simp [slot, hw, h.opened_isWritable w hw]

/-- One access keeps it: only a granted write or store touches memory, inside the window. -/
theorem after (h : Reaches first isWritable earlier s) (stays : access.StaysIn first) :
    Reaches first isWritable (earlier ++ (s.put? access).toList) (s.after access) := by
  cases attempted : s.attempt access with
  | error cause =>
    rw [after_of_error attempted, put?_of_error attempted]
    simpa using h
  | ok granted =>
    obtain ⟨next, answer⟩ := granted
    rw [after_of_ok attempted, put?_of_ok attempted]
    obtain ⟨nothing, sameMemory, sameFlag, windows⟩ |
      ⟨offset, payload, m', content, written, rfl⟩ := attempt_eq_ok attempted
    · rw [nothing]
      refine ⟨by rw [sameMemory, h.address_eq], by rw [sameMemory, h.length_eq],
        by rw [sameFlag, h.isWritable_eq], fun w hw => ?_, fun w hw => ?_, fun address => ?_⟩
      · rcases windows w hw with before | ⟨address, capacity, rfl, opens⟩
        · exact h.opened_inside w before
        · exact stays w opens
      · rcases windows w hw with before | ⟨address, capacity, rfl, opens⟩
        · exact h.opened_isWritable w before
        · exact Slot.isWritable_of_at? opens
      · rw [sameMemory, h.byte?_eq]
        simp
    · obtain ⟨sameAddress, sameLength⟩ := Slot.extent_of_write h.slot_isInside written
      refine ⟨by rw [sameAddress, h.address_eq], by rw [sameLength, h.length_eq],
        h.isWritable_eq, h.opened_inside, h.opened_isWritable, fun address => ?_⟩
      rw [Slot.byte?_of_write h.slot_isInside written, content, Option.map_some,
        Option.toList_some, lastPut_append, lastPut_singleton, Put.byte?_eq,
        Slot.Payload.length_toList, h.byte?_eq]
      split
      · rename_i named
        obtain ⟨byte, found⟩ : ∃ byte, payload.toList[address - (s.slot.address + offset.toNat)]? =
            some byte := ⟨_, List.getElem?_eq_getElem (by rw [Slot.Payload.length_toList]; omega)⟩
        rw [found]
        rfl
      · rfl

theorem run (h : Reaches first isWritable earlier s) {accesses : List SlotAccess}
    (stay : ∀ a ∈ accesses, a.StaysIn first) :
    Reaches first isWritable (earlier ++ s.puts accesses) (s.run accesses) := by
  induction accesses generalizing s earlier with
  | nil => simpa [Session.run, puts] using h
  | cons access rest ih =>
    obtain ⟨stays, stay⟩ := List.forall_mem_cons.mp stay
    rw [Session.run, puts, ← List.append_assoc]
    exact ih (h.after stays) stay

end Reaches

/-! ### What the next access may do -/

/-- Where the access at an offset of the open window starts. -/
def place (s : Session) (offset : Int) : Nat :=
  s.slot.address + offset.toNat

/-- How many bytes a read asks for, by default as many as follow. -/
def count (s : Session) (size : Option Int) (offset : Int) : Int :=
  size.getD (s.slot.capacity - offset)

/-- What a session that has begun with a memory holds an access to. -/
structure Guards (first : Memory) (isWritable : Bool) (earlier : List Put) (s : Session)
    (access : SlotAccess) : Prop where
  /-- Memory stays where it is and keeps its length. -/
  extent : (s.after access).memory.address = first.address ∧
    (s.after access).memory.bytes.length = first.bytes.length
  /-- No byte outside the open window changes. -/
  outside : ∀ address,
    ¬(s.slot.address ≤ address ∧ address < s.slot.address + s.slot.capacity) →
      (s.after access).memory.byte? address = s.memory.byte? address
  /-- What is refused changes nothing. -/
  refused : ∀ cause, s.answer access = .error cause → s.after access = s
  /-- Only writes and stores change memory. -/
  reading : access.isWrite = false → (s.after access).memory = s.memory
  /-- A write is granted within bounds, through a slot that grants writes. -/
  write_granted : ∀ payload offset, access = .write payload offset →
    ((∃ x, s.answer access = .ok x) ↔
      0 ≤ offset ∧ offset + payload.size ≤ s.slot.capacity ∧
        (s.opened = none → isWritable = true))
  /-- A granted write changes the bytes that it names and no others. -/
  written : ∀ payload offset x, access = .write payload offset → s.answer access = .ok x →
    ∀ address, (s.after access).memory.byte? address =
      if s.place offset ≤ address ∧ address < s.place offset + payload.size then
        payload.toList[address - s.place offset]?
      else s.memory.byte? address
  /-- A read is granted within bounds. -/
  read_granted : ∀ size offset, access = .read size offset →
    ((∃ x, s.answer access = .ok x) ↔
      0 ≤ offset ∧ 0 ≤ s.count size offset ∧ offset + s.count size offset ≤ s.slot.capacity)
  /-- A granted read returns the bytes last put where it reads. -/
  returned : ∀ size offset x, access = .read size offset → s.answer access = .ok x →
    ∃ bytes, x = .bytes bytes ∧ (bytes.length : Int) = s.count size offset ∧
      ∀ k < bytes.length, bytes[k]? =
        (lastPut earlier (s.place offset + k)).or (first.byte? (s.place offset + k))

/-- No access reaches bytes outside its window. -/
theorem byte?_after_of_outside (h : Reaches first isWritable earlier s) (access : SlotAccess)
    {address : Nat}
    (away : ¬(s.slot.address ≤ address ∧ address < s.slot.address + s.slot.capacity)) :
    (s.after access).memory.byte? address = s.memory.byte? address := by
  cases attempted : s.attempt access with
  | error cause => rw [after_of_error attempted]
  | ok granted =>
    obtain ⟨next, answer⟩ := granted
    rw [after_of_ok attempted]
    obtain ⟨-, sameMemory, -⟩ | ⟨offset, payload, m', -, written, rfl⟩ := attempt_eq_ok attempted
    · rw [sameMemory]
    · obtain ⟨low, high, -⟩ := Slot.write_eq_ok.mp written
      rw [Slot.byte?_of_write h.slot_isInside written, if_neg (by omega)]

theorem memory_after_of_reading (quiet : access.isWrite = false) :
    (s.after access).memory = s.memory := by
  cases attempted : s.attempt access with
  | error cause => rw [after_of_error attempted]
  | ok granted =>
    obtain ⟨next, answer⟩ := granted
    rw [after_of_ok attempted]
    obtain ⟨-, sameMemory, -⟩ | ⟨offset, payload, m', content, -⟩ := attempt_eq_ok attempted
    · exact sameMemory
    · rw [SlotAccess.content?_of_reading quiet] at content
      cases content

theorem answer_write_eq_ok {payload : Slot.Payload} {offset : Int} {x : SlotAnswer} :
    s.answer (.write payload offset) = .ok x ↔
      ∃ m', s.slot.write s.memory payload offset = .ok m' ∧ x = .done := by
  constructor
  · intro h
    obtain ⟨⟨next, answer⟩, attempted, rfl⟩ := map_eq_ok.mp h
    obtain ⟨m', written, attempted⟩ := bind_eq_ok.mp attempted
    cases attempted
    exact ⟨m', mapError_eq_ok.mp written, rfl⟩
  · rintro ⟨m', written, rfl⟩
    rw [answer, attempt, written]
    rfl

theorem after_write {payload : Slot.Payload} {offset : Int} {m' : Memory}
    (h : s.slot.write s.memory payload offset = .ok m') :
    s.after (.write payload offset) = { s with memory := m' } := by
  rw [after, attempt, h]
  rfl

theorem answer_read_eq_ok {size : Option Int} {offset : Int} {x : SlotAnswer} :
    s.answer (.read size offset) = .ok x ↔
      ∃ bytes, s.slot.read s.memory size offset = .ok bytes ∧ x = .bytes bytes := by
  constructor
  · intro h
    obtain ⟨⟨next, answer⟩, attempted, rfl⟩ := map_eq_ok.mp h
    obtain ⟨bytes, returned, attempted⟩ := bind_eq_ok.mp attempted
    cases attempted
    exact ⟨bytes, mapError_eq_ok.mp returned, rfl⟩
  · rintro ⟨bytes, returned, rfl⟩
    rw [answer, attempt, returned]
    rfl

theorem guards_of_reaches (h : Reaches first isWritable earlier s) (access : SlotAccess)
    (stays : access.StaysIn first) : Guards first isWritable earlier s access where
  extent := ⟨(h.after stays).address_eq, (h.after stays).length_eq⟩
  outside := fun _ away => byte?_after_of_outside h access away
  refused := fun cause refused => by
    cases attempted : s.attempt access with
    | error cause => exact after_of_error attempted
    | ok granted =>
      rw [answer, attempted] at refused
      cases refused
  reading := memory_after_of_reading
  write_granted := by
    rintro payload offset rfl
    rw [← h.slot_isWritable]
    constructor
    · rintro ⟨x, answered⟩
      obtain ⟨m', written, rfl⟩ := answer_write_eq_ok.mp answered
      obtain ⟨low, high, writable, -⟩ := Slot.write_eq_ok.mp written
      exact ⟨low, high, writable⟩
    · rintro ⟨low, high, writable⟩
      exact ⟨.done, answer_write_eq_ok.mpr
        ⟨_, Slot.write_eq_ok.mpr ⟨low, high, writable, rfl⟩, rfl⟩⟩
  written := by
    rintro payload offset x rfl answered address
    obtain ⟨m', written, rfl⟩ := answer_write_eq_ok.mp answered
    rw [after_write written]
    exact Slot.byte?_of_write h.slot_isInside written address
  read_granted := by
    rintro size offset rfl
    constructor
    · rintro ⟨x, answered⟩
      obtain ⟨bytes, returned, -⟩ := answer_read_eq_ok.mp answered
      obtain ⟨low, positive, high, -⟩ := Slot.read_eq_ok.mp returned
      exact ⟨low, positive, high⟩
    · rintro ⟨low, positive, high⟩
      exact ⟨_, answer_read_eq_ok.mpr ⟨_, Slot.read_eq_ok.mpr ⟨low, positive, high, rfl⟩, rfl⟩⟩
  returned := by
    rintro size offset x rfl answered
    obtain ⟨bytes, returned, rfl⟩ := answer_read_eq_ok.mp answered
    obtain ⟨asked, found⟩ := Slot.getElem?_of_read h.slot_isInside returned
    refine ⟨bytes, rfl, asked, fun k inside => ?_⟩
    rw [found k inside, h.byte?_eq, place]

/-- However slots have been opened and used on a memory, as long as they lie in it, the next access
keeps to its window: memory keeps its place and length, no byte outside the window changes, what is
refused and what only reads changes nothing, a write is granted exactly within bounds through a
slot that grants writes and changes exactly the bytes it names, and a read is granted exactly
within bounds and returns the bytes last put there. -/
theorem guards_run (m : Memory) (isWritable : Bool) (accesses : List SlotAccess)
    (access : SlotAccess) (stay : ∀ a ∈ accesses ++ [access], a.StaysIn m) :
    Guards m isWritable ((start m isWritable).puts accesses) ((start m isWritable).run accesses)
      access := by
  obtain ⟨stay, stays⟩ := List.forall_mem_append.mp stay
  have reached := (reaches_start m isWritable).run stay
  rw [List.nil_append] at reached
  exact guards_of_reaches reached access (stays access (List.mem_singleton_self access))

/-- A slot of two bytes in the middle of memory, written to inside and beyond its bounds. -/
def middleAccesses : List SlotAccess :=
  [.openAt (some 4097) 2, .write (.bytes [9]) 1, .write (.bytes [8, 8]) 1]

theorem guards_run_middle :
    (∀ a ∈ middleAccesses ++ [.read none 0], a.StaysIn ⟨4096, [1, 2, 3, 4]⟩) ∧
      Guards ⟨4096, [1, 2, 3, 4]⟩ false
        ((start ⟨4096, [1, 2, 3, 4]⟩ false).puts middleAccesses)
        ((start ⟨4096, [1, 2, 3, 4]⟩ false).run middleAccesses) (.read none 0) ∧
      ((start ⟨4096, [1, 2, 3, 4]⟩ false).run middleAccesses).answer (.read none 0) =
        .ok (.bytes [2, 9]) := by
  have opens : SlotAccess.StaysIn ⟨4096, [1, 2, 3, 4]⟩ (.openAt (some 4097) 2) := by
    intro w hw
    cases hw
    exact ⟨by decide, by decide⟩
  have stay : ∀ a ∈ middleAccesses ++ [.read none 0], a.StaysIn ⟨4096, [1, 2, 3, 4]⟩ := by
    simpa [middleAccesses, SlotAccess.StaysIn] using opens
  exact ⟨stay, guards_run _ _ _ _ stay, rfl⟩

/-- A slot at an address is written to also where memory is read-only. -/
theorem write_at_address_of_rom :
    let s := (start ⟨4096, [1, 2]⟩ false).run [.openAt (some 4097) 1]
    s.slot.IsInside s.memory ∧ s.isWritable = false ∧
      s.answer (.write (.bytes [255]) 0) = .ok .done ∧
      (s.after (.write (.bytes [255]) 0)).memory.bytes = [1, 255] :=
  ⟨⟨by decide, by decide⟩, rfl, rfl, rfl⟩

end Session

end EngineBindings
