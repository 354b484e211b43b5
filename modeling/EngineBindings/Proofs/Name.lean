import EngineBindings.Name
import EngineBindings.Proofs.Attempt
import Mathlib.Data.List.Perm.Subperm

/-! Names that are texts.

A name that is the same as a text is that text: no other value has the key of one. -/
namespace EngineBindings.Name

/-- A name that is a text. -/
def IsText (n : Name) : Prop :=
  ∃ s : String, n = (s : Name)

theorem isText_text (s : String) : IsText (s : Name) :=
  ⟨s, rfl⟩

theorem eq_text_of_beq {n : Name} {s : String} (h : (n == (s : Name)) = true) : n = s := by
  rw [beq_iff] at h
  obtain ⟨value⟩ := n
  unfold key at h
  split at h
  · next text htext =>
    cases h
    exact congrArg Name.mk htext
  · split at h
    · cases h
    · cases h

theorem beq_iff_eq_of_isText {a b : Name} (hb : b.IsText) : (a == b) = true ↔ a = b := by
  constructor
  · obtain ⟨s, rfl⟩ := hb
    exact eq_text_of_beq
  · rintro rfl
    exact BEq.rfl

theorem contains_iff_mem_of_isText {names : List Name} {n : Name} (hn : n.IsText) :
    names.contains n = true ↔ n ∈ names := by
  rw [List.contains_iff_exists_mem_beq]
  constructor
  · rintro ⟨m, hm, hsame⟩
    rw [(beq_iff_eq_of_isText hn).mp (BEq.symm hsame)] at hm
    exact hm
  · exact fun hmem => ⟨n, hmem, BEq.rfl⟩

theorem eq_text_of_text? {n : Name} {s : String} (h : n.text? = some s) : n = s := by
  obtain ⟨value⟩ := n
  cases value with
  | str text => exact congrArg (fun text => (⟨.str text⟩ : Name)) (Option.some.inj h)
  | null | bool | int | float | arr | obj => cases h

theorem beq_iff_text?_eq {n : Name} {s : String} : (n == (s : Name)) = true ↔ n.text? = some s := by
  constructor
  · intro same
    rw [eq_text_of_beq same]
    rfl
  · intro named
    rw [eq_text_of_text? named]
    exact BEq.rfl

theorem eq_text_of_equals {n : Name} {s : String} (h : n.equals (s : Name) = true) : n = s := by
  rw [equals, Bool.and_eq_true] at h
  exact eq_text_of_beq h.1

theorem keyed_eq_ok {n k : Name} : n.keyed = .ok k ↔ n.isComposite = false ∧ k = n := by
  unfold keyed
  cases hc : n.isComposite with
  | true => simp
  | false => simp [eq_comm]

theorem keyed_of_isText {n : Name} (h : n.IsText) : n.keyed = .ok n := by
  obtain ⟨s, rfl⟩ := h
  rfl

theorem exists_sanitize_of_isText {n : Name} (h : n.IsText) : ∃ s, n.sanitize = .ok s := by
  obtain ⟨s, rfl⟩ := h
  exact ⟨_, sanitize_text s⟩

/-- An item is found by its name where no other has it. -/
theorem find?_of_distinct {α : Type} {name : α → Name} {xs : List α} {x : α}
    (distinct : xs.Pairwise fun a b => (name a == name b) = false) (hx : x ∈ xs) :
    xs.find? (name · == name x) = some x := by
  induction distinct with
  | nil => cases hx
  | @cons first rest apart _ ih =>
    rcases List.mem_cons.mp hx with rfl | hx
    · exact List.find?_cons_of_pos BEq.rfl
    · rw [List.find?_cons, apart x hx, ih hx]

/-- An item is the only one of its name where no other has it. -/
theorem filter_of_distinct {α : Type} {name : α → Name} {xs : List α} {x : α}
    (distinct : xs.Pairwise fun a b => (name a == name b) = false) (hx : x ∈ xs) :
    xs.filter (name · == name x) = [x] := by
  induction distinct with
  | nil => cases hx
  | @cons first rest apart _ ih =>
    rcases List.mem_cons.mp hx with rfl | hx
    · have others : rest.filter (name · == name x) = [] := by
        refine List.filter_eq_nil_iff.mpr fun y hy => ?_
        rw [BEq.comm, apart y hy]
        exact Bool.false_ne_true
      rw [List.filter_cons, if_pos BEq.rfl, others]
    · rw [List.filter_cons, apart x hx, if_neg Bool.false_ne_true, ih hx]

/-- Names that are all different are no more than those that they are among. -/
theorem length_le_of_distinct {names known : List Name}
    (distinct : names.Pairwise fun a b => (a == b) = false)
    (among : ∀ n ∈ names, ∃ k ∈ known, (k == n) = true) : names.length ≤ known.length := by
  have keys : (names.map Name.key).Nodup := by
    refine (List.pairwise_map.mpr (distinct.imp fun {a b} hab hkey => ?_))
    rw [(Name.beq_iff a b).mpr hkey] at hab
    cases hab
  have found : names.map Name.key ⊆ known.map Name.key := by
    intro key hkey
    obtain ⟨n, hn, rfl⟩ := List.mem_map.mp hkey
    obtain ⟨k, hk, hname⟩ := among n hn
    exact List.mem_map.mpr ⟨k, hk, (Name.beq_iff _ _).mp hname⟩
  simpa using (keys.subperm found).length_le

end EngineBindings.Name
