import EngineBindings.OrderedMap
import Mathlib.Data.List.Forall2
import Mathlib.Data.List.Perm.Basic

/-! What a map read from a list of entries finds: the last entry with the key.

A look-up that at most one item answers finds the same in every order of the items
(`findSome?_perm`). -/
namespace EngineBindings

section Orders

variable {α β : Type} {xs ys : List α}

theorem findSome?_perm {f : α → Option β} (h : xs.Perm ys)
    (unique : xs.Pairwise fun a b => f a = none ∨ f b = none) :
    ys.findSome? f = xs.findSome? f := by
  induction h with
  | nil => rfl
  | cons x _ ih =>
    rw [List.findSome?_cons, List.findSome?_cons, ih (List.pairwise_cons.mp unique).2]
  | swap x y rest =>
    have alone := (List.pairwise_cons.mp unique).1 x (List.mem_cons_self ..)
    simp only [List.findSome?_cons]
    rcases alone with hy | hx
    · cases hx : f x <;> simp [hy]
    · cases hy : f y <;> simp [hx]
  | trans h _ ih ih' =>
    have carried := h.pairwise unique fun hab => hab.symm
    rw [ih' carried, ih unique]

theorem find?_perm {p : α → Bool} (h : xs.Perm ys)
    (unique : xs.Pairwise fun a b => p a = false ∨ p b = false) : ys.find? p = xs.find? p := by
  rw [List.find?_eq_findSome?_guard, List.find?_eq_findSome?_guard]
  refine findSome?_perm h (unique.imp fun hab => ?_)
  simpa [Option.guard] using hab

end Orders

namespace OrderedMap

variable {α β : Type} [BEq α] [EquivBEq α]

omit [EquivBEq α] in
theorem mem_insertEntry {key : α} {value : β} {old : List (α × β)} {entry : α × β}
    (h : entry ∈ insertEntry key value old) :
    entry.1 ∈ key :: old.map (·.1) ∧ entry.2 ∈ value :: old.map (·.2) := by
  induction old with
  | nil => simpa [insertEntry, Prod.ext_iff] using h
  | cons first rest ih =>
    rw [insertEntry] at h
    split at h
    · rcases List.mem_cons.mp h with rfl | h
      · simp
      · simp [List.mem_map_of_mem h]
    · rcases List.mem_cons.mp h with rfl | h
      · simp
      · obtain ⟨hkey, hvalue⟩ := ih h
        exact ⟨List.mem_cons.mpr ((List.mem_cons.mp hkey).imp_right (List.mem_cons_of_mem _)),
          List.mem_cons.mpr ((List.mem_cons.mp hvalue).imp_right (List.mem_cons_of_mem _))⟩

omit [EquivBEq α] in
/-- An entry of a map has its key and its value from what was inserted. -/
theorem mem_insertAll {m : OrderedMap α β} {entries : List (α × β)} {entry : α × β}
    (h : entry ∈ (m.insertAll entries).entries) :
    entry.1 ∈ (m.entries ++ entries).map (·.1) ∧ entry.2 ∈ (m.entries ++ entries).map (·.2) := by
  induction entries generalizing m with
  | nil =>
    rw [List.append_nil]
    exact ⟨List.mem_map_of_mem h, List.mem_map_of_mem h⟩
  | cons first rest ih =>
    obtain ⟨hkey, hvalue⟩ := ih (m := m.insert first.1 first.2) h
    rw [List.map_append, List.mem_append] at hkey hvalue
    rw [List.map_append, List.map_append, List.mem_append, List.mem_append, List.map_cons,
      List.map_cons, List.mem_cons, List.mem_cons]
    constructor
    · rcases hkey with hkey | hkey
      · obtain ⟨e, he, hkey⟩ := List.mem_map.mp hkey
        have old := List.mem_cons.mp (mem_insertEntry he).1
        rw [hkey] at old
        exact old.elim (fun h => .inr (.inl h)) .inl
      · exact .inr (.inr hkey)
    · rcases hvalue with hvalue | hvalue
      · obtain ⟨e, he, hvalue⟩ := List.mem_map.mp hvalue
        have old := List.mem_cons.mp (mem_insertEntry he).2
        rw [hvalue] at old
        exact old.elim (fun h => .inr (.inl h)) .inl
      · exact .inr (.inr hvalue)

omit [EquivBEq α] in
theorem mem_ofList {entries : List (α × β)} {entry : α × β}
    (h : entry ∈ (ofList entries).entries) :
    entry.1 ∈ entries.map (·.1) ∧ entry.2 ∈ entries.map (·.2) :=
  mem_insertAll h

omit [EquivBEq α] in
/-- A map has a value for a key when one of its keys is the same. -/
theorem contains_iff {m : OrderedMap α β} {key : α} :
    m.contains key = true ↔ ∃ k ∈ m.keys, (k == key) = true := by
  simp only [contains, keys, List.any_eq_true, List.mem_map, exists_exists_and_eq_and]

omit [EquivBEq α] in
theorem isSome_find? (m : OrderedMap α β) (key : α) : (m.find? key).isSome = m.contains key := by
  rw [find?, Option.isSome_map, contains, Bool.eq_iff_iff, List.find?_isSome, List.any_eq_true]

/-- A map whose keys all have a value in another has no value that the other has not. -/
theorem contains_of_keys {m m' : OrderedMap α β} (h : ∀ k ∈ m'.keys, m.contains k = true) {key : α}
    (hkey : m'.contains key = true) : m.contains key = true := by
  obtain ⟨k, hk, hsame⟩ := contains_iff.mp hkey
  obtain ⟨k', hk', hsame'⟩ := contains_iff.mp (h k hk)
  exact contains_iff.mpr ⟨k', hk', BEq.trans hsame' hsame⟩

theorem find?_of_beq (m : OrderedMap α β) {k k' : α} (h : (k == k') = true) :
    m.find? k = m.find? k' := by
  have same (key : α) : (key == k) = (key == k') := by
    rw [Bool.eq_iff_iff]
    exact ⟨fun hk => BEq.trans hk h, fun hk => BEq.trans hk (BEq.symm h)⟩
  simp only [find?, same]

theorem find?_insertAll (m : OrderedMap α β) (entries : List (α × β)) (k : α) :
    (m.insertAll entries).find? k =
      ((entries.reverse.find? (·.1 == k)).map (·.2)).or (m.find? k) := by
  unfold insertAll
  induction entries generalizing m with
  | nil => rfl
  | cons entry rest ih =>
    rw [List.foldl_cons, ih, find?_insert, List.reverse_cons, List.find?_append]
    cases rest.reverse.find? (·.1 == k) with
    | some found => rfl
    | none =>
      by_cases hk : entry.1 == k
      · simp [hk]
      · simp [hk]

theorem find?_ofList (entries : List (α × β)) (k : α) :
    (ofList entries).find? k = (entries.reverse.find? (·.1 == k)).map (·.2) := by
  rw [ofList, find?_insertAll]
  cases entries.reverse.find? (·.1 == k) <;> rfl

omit [EquivBEq α] in
theorem pairwise_keys_insert {m : OrderedMap α β} (h : m.keys.Pairwise fun a b => (a == b) = false)
    (key : α) (value : β) : (m.insert key value).keys.Pairwise fun a b => (a == b) = false := by
  rw [keys_insert]
  split
  · exact h
  · next hnew =>
    refine List.pairwise_append.mpr ⟨h, List.pairwise_singleton _ _, fun k hk _ hkey => ?_⟩
    rw [List.mem_singleton] at hkey
    subst hkey
    exact Bool.eq_false_iff.mpr fun hsame => hnew (contains_iff.mpr ⟨k, hk, hsame⟩)

omit [EquivBEq α] in
/-- No key comes twice. -/
theorem pairwise_keys_ofList (entries : List (α × β)) :
    (ofList entries).keys.Pairwise fun a b => (a == b) = false := by
  have hall (m : OrderedMap α β) (h : m.keys.Pairwise fun a b => (a == b) = false) :
      (m.insertAll entries).keys.Pairwise fun a b => (a == b) = false := by
    unfold insertAll
    induction entries generalizing m with
    | nil => exact h
    | cons entry rest ih => exact ih _ (pairwise_keys_insert h entry.1 entry.2)
  exact hall empty List.Pairwise.nil

omit [EquivBEq α] in
theorem insertEntry_of_new {key : α} {value : β} {entries : List (α × β)}
    (h : ∀ entry ∈ entries, (entry.1 == key) = false) :
    insertEntry key value entries = entries ++ [(key, value)] := by
  induction entries with
  | nil => rfl
  | cons entry rest ih =>
    rw [insertEntry, h entry (List.mem_cons_self ..), if_neg Bool.false_ne_true,
      ih fun e he => h e (List.mem_cons_of_mem _ he)]
    rfl

omit [EquivBEq α] in
/-- Entries whose keys are all different are those of their map. -/
theorem entries_ofList {entries : List (α × β)}
    (h : entries.Pairwise fun a b => (a.1 == b.1) = false) : (ofList entries).entries = entries := by
  have hall (m : OrderedMap α β)
      (hm : (m.entries ++ entries).Pairwise fun a b => (a.1 == b.1) = false) :
      (m.insertAll entries).entries = m.entries ++ entries := by
    unfold insertAll
    clear h
    induction entries generalizing m with
    | nil => exact (List.append_nil _).symm
    | cons entry rest ih =>
      have new : (m.insert entry.1 entry.2).entries = m.entries ++ [entry] :=
        insertEntry_of_new fun e he =>
          (List.pairwise_append.mp hm).2.2 e he entry (List.mem_cons_self ..)
      rw [List.append_cons, ← new] at hm
      rw [List.foldl_cons, ih _ hm, new, ← List.append_cons]
  exact hall empty h

theorem find?_erase (m : OrderedMap α β) (key k : α) :
    (m.erase key).find? k = if key == k then none else m.find? k := by
  obtain ⟨entries⟩ := m
  simp only [find?, erase]
  induction entries with
  | nil => simp
  | cons entry rest ih =>
    by_cases hk : entry.1 == k
    · by_cases h : key == k
      · simpa [BEq.trans hk (BEq.symm h), h] using ih
      · have : (entry.1 == key) = false := by
          simpa using fun same => h (BEq.trans (BEq.symm same) hk)
        simp [hk, h, this]
    · by_cases h : entry.1 == key <;> simpa [h, hk] using ih

theorem find?_insertNew (m : OrderedMap α β) (key k : α) (value : β) :
    (m.insertNew key value).find? k =
      (m.find? k).or (if key == k then some value else none) := by
  unfold insertNew
  split
  · next hany =>
    by_cases hk : key == k
    · obtain ⟨entry, hentry, hname⟩ := List.any_eq_true.mp hany
      have found : (m.entries.find? (·.1 == k)).isSome :=
        List.find?_isSome.mpr ⟨entry, hentry, BEq.trans hname hk⟩
      obtain ⟨e, he⟩ := Option.isSome_iff_exists.mp found
      simp [find?, he]
    · simp [hk]
  · next hany =>
    rw [find?_insert]
    by_cases hk : key == k
    · have absent : m.entries.find? (·.1 == k) = none := by
        rw [List.find?_eq_none]
        intro entry hentry hname
        exact hany (List.any_eq_true.mpr ⟨entry, hentry, BEq.trans hname (BEq.symm hk)⟩)
      simp [find?, hk, absent]
    · simp [hk]

/-- What is found after entries are inserted is one of theirs or was found before. -/
theorem mem_or_find?_of_insertAll {m : OrderedMap α β} {entries : List (α × β)} {k : α} {value : β}
    (h : (m.insertAll entries).find? k = some value) :
    value ∈ entries.map (·.2) ∨ m.find? k = some value := by
  rw [find?_insertAll, Option.or_eq_some_iff] at h
  rcases h with h | ⟨-, h⟩
  · obtain ⟨entry, hentry, rfl⟩ := Option.map_eq_some_iff.mp h
    exact .inl (List.mem_map_of_mem (List.mem_reverse.mp (List.mem_of_find?_eq_some hentry)))
  · exact .inr h

/-- Entries that are inserted where there are none yet: what was found before is found, and else the
first of theirs. -/
theorem find?_foldl_insertNew (m : OrderedMap α β) (entries : List (α × β)) (k : α) :
    (entries.foldl (fun m entry => m.insertNew entry.1 entry.2) m).find? k =
      (m.find? k).or ((entries.find? (·.1 == k)).map (·.2)) := by
  induction entries generalizing m with
  | nil => simp
  | cons entry rest ih =>
    rw [List.foldl_cons, ih, find?_insertNew, Option.or_assoc]
    by_cases hk : entry.1 == k <;> simp [hk]

theorem mem_or_find?_of_foldl_insertNew {m : OrderedMap α β} {entries : List (α × β)} {k : α}
    {value : β}
    (h : (entries.foldl (fun m entry => m.insertNew entry.1 entry.2) m).find? k = some value) :
    value ∈ entries.map (·.2) ∨ m.find? k = some value := by
  rw [find?_foldl_insertNew, Option.or_eq_some_iff] at h
  rcases h with h | ⟨-, h⟩
  · exact .inr h
  · obtain ⟨entry, hentry, rfl⟩ := Option.map_eq_some_iff.mp h
    exact .inl (List.mem_map_of_mem (List.mem_of_find?_eq_some hentry))

/-! ### Maps of related entries -/

section Related

variable {γ : Type} {R : β → γ → Prop}

/-- Two entries of one key whose values are related. -/
def EntryRel (R : β → γ → Prop) (x : α × β) (y : α × γ) : Prop :=
  y.1 = x.1 ∧ R x.2 y.2

omit [EquivBEq α] in
/-- An entry goes to the same place among the same keys. -/
theorem forall₂_insertEntry {key : α} {value : β} {value' : γ} (h : R value value')
    {old : List (α × β)} {old' : List (α × γ)} (hold : List.Forall₂ (EntryRel R) old old') :
    List.Forall₂ (EntryRel R) (insertEntry key value old) (insertEntry key value' old') := by
  induction hold with
  | nil => exact .cons ⟨rfl, h⟩ .nil
  | @cons first first' rest rest' hfirst hrest ih =>
    obtain ⟨k, v⟩ := first
    obtain ⟨_, v'⟩ := first'
    obtain ⟨rfl, hv⟩ := hfirst
    rw [insertEntry, insertEntry]
    split
    · exact .cons ⟨rfl, h⟩ hrest
    · exact .cons ⟨rfl, hv⟩ ih

omit [EquivBEq α] in
theorem forall₂_insertAll {m : OrderedMap α β} {m' : OrderedMap α γ} {entries : List (α × β)}
    {entries' : List (α × γ)} (hm : List.Forall₂ (EntryRel R) m.entries m'.entries)
    (h : List.Forall₂ (EntryRel R) entries entries') :
    List.Forall₂ (EntryRel R) (m.insertAll entries).entries (m'.insertAll entries').entries := by
  induction h generalizing m m' with
  | nil => exact hm
  | @cons first first' rest rest' hfirst _ ih =>
    obtain ⟨k, v⟩ := first
    obtain ⟨_, v'⟩ := first'
    obtain ⟨rfl, hv⟩ := hfirst
    exact ih (forall₂_insertEntry hv hm)

omit [EquivBEq α] in
theorem forall₂_ofList {entries : List (α × β)} {entries' : List (α × γ)}
    (h : List.Forall₂ (EntryRel R) entries entries') :
    List.Forall₂ (EntryRel R) (ofList entries).entries (ofList entries').entries :=
  forall₂_insertAll .nil h

end Related

end OrderedMap

end EngineBindings
