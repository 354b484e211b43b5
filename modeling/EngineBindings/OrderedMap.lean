/-! Maps that remember the order in which their keys came.

A key that is inserted again keeps its first place and spelling and takes the new value, so that
a list of entries read with `ofList` has distinct keys in order of first appearance, each with its
last value. -/
namespace EngineBindings

/-- Entries in order of the first appearance of their keys. -/
structure OrderedMap (α β : Type) where
  /-- The entries, in order. -/
  entries : List (α × β)

namespace OrderedMap
variable {α β : Type} [BEq α]

/-- No entries. -/
def empty : OrderedMap α β := ⟨[]⟩

instance : Inhabited (OrderedMap α β) := ⟨empty⟩

/-- Puts a value in the place of an entry with the same key, or at the end. -/
def insertEntry (key : α) (value : β) : List (α × β) → List (α × β)
  | [] => [(key, value)]
  | (k, v) :: rest => if k == key then (k, value) :: rest else (k, v) :: insertEntry key value rest

/-- Gives a key a value; a key that is present keeps its place. -/
def insert (m : OrderedMap α β) (key : α) (value : β) : OrderedMap α β :=
  ⟨insertEntry key value m.entries⟩

/-- Gives a key a value unless it has one. -/
def insertNew (m : OrderedMap α β) (key : α) (value : β) : OrderedMap α β :=
  if m.entries.any (·.1 == key) then m else m.insert key value

/-- Takes a key and its value away. -/
def erase (m : OrderedMap α β) (key : α) : OrderedMap α β :=
  ⟨m.entries.filter (!·.1 == key)⟩

/-- The value of a key. -/
def find? (m : OrderedMap α β) (key : α) : Option β :=
  (m.entries.find? (·.1 == key)).map (·.2)

/-- Whether a key has a value. -/
def contains (m : OrderedMap α β) (key : α) : Bool :=
  m.entries.any (·.1 == key)

/-- The keys, in order. -/
def keys (m : OrderedMap α β) : List α :=
  m.entries.map (·.1)

/-- The values, in the order of their keys. -/
def values (m : OrderedMap α β) : List β :=
  m.entries.map (·.2)

/-- Inserts entries one after another. -/
def insertAll (m : OrderedMap α β) (entries : List (α × β)) : OrderedMap α β :=
  entries.foldl (fun m entry => m.insert entry.1 entry.2) m

/-- The map of a list of entries, the last value of a key counting. -/
def ofList (entries : List (α × β)) : OrderedMap α β :=
  empty.insertAll entries

/-! ### What an insertion does to look-ups and keys -/

theorem find?_insert [EquivBEq α] (m : OrderedMap α β) (key k : α) (value : β) :
    (m.insert key value).find? k = if key == k then some value else m.find? k := by
  obtain ⟨entries⟩ := m
  simp only [find?, insert]
  induction entries with
  | nil => by_cases h : key == k <;> simp [insertEntry, h]
  | cons entry rest ih =>
    obtain ⟨k', v⟩ := entry
    simp only [insertEntry]
    by_cases hk : k' == key
    · by_cases h : key == k
      · simp [hk, h, BEq.trans hk h]
      · have h' : (k' == k) = false := by
          simpa using fun g => h (BEq.trans (BEq.symm hk) g)
        simp [hk, h, h']
    · by_cases h : k' == k
      · have h' : (key == k) = false := by
          simpa using fun g => hk (BEq.trans h (BEq.symm g))
        simp [hk, h, h']
      · simpa [hk, h] using ih

theorem keys_insert (m : OrderedMap α β) (key : α) (value : β) :
    (m.insert key value).keys = if m.contains key then m.keys else m.keys ++ [key] := by
  obtain ⟨entries⟩ := m
  simp only [keys, insert, contains]
  induction entries with
  | nil => simp [insertEntry]
  | cons entry rest ih =>
    obtain ⟨k', v⟩ := entry
    simp only [insertEntry]
    by_cases hk : k' == key
    · simp [hk]
    · simp only [hk, List.map_cons, ih, List.any_cons, Bool.false_or, Bool.false_eq_true, if_false]
      split <;> simp [*]

end OrderedMap

end EngineBindings
