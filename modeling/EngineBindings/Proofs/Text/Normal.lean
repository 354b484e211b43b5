import EngineBindings.Text.Normal

/-! Texts that are their own normal form.

Nothing below the no-break space expands to anything else, is a mark or composes with what is in
front of it, so that a text of such characters is normal as it is. -/
namespace EngineBindings.Text

/-- Whether a character comes before all that have another form. -/
def isPlain (c : Char) : Bool :=
  c.toNat < 0xA0

variable {c : Char}

theorem isPlain_iff : isPlain c ↔ c.toNat < 0xA0 :=
  decide_eq_true_iff

theorem lookup_eq_none {α : Type} {bound n : Nat} {entries : List (Nat × α)}
    (hentries : ∀ entry ∈ entries, bound ≤ entry.1) (h : n < bound) : entries.lookup n = none := by
  rw [List.lookup_eq_none_iff]
  intro entry hentry
  have hbound := hentries entry hentry
  simp only [bne_iff_ne, ne_eq]
  omega

theorem expanded_of_plain (h : isPlain c) : expanded c = [c] := by
  rw [isPlain_iff] at h
  have above : ∀ run ∈ expansions, 0xA0 ≤ run.1 := by decide +kernel
  have notes : ∀ entry ∈ noteExpansions, 0xA0 ≤ entry.1 := by decide
  have unlisted : expansions.findSome? (expansionIn? c.toNat) = none := by
    rw [List.findSome?_eq_none_iff]
    intro run hrun
    exact if_pos (Nat.lt_of_lt_of_le h (above run hrun))
  have no_syllable : syllable? c = none := by
    unfold syllable? firstSyllable
    exact if_neg (by omega)
  simp [expanded, unlisted, no_syllable, lookup_eq_none notes h]

theorem markClass_of_plain (h : isPlain c) : markClass c = 0 := by
  rw [isPlain_iff] at h
  have above : ∀ range ∈ markRanges, 0xA0 ≤ range.1 := by decide +kernel
  have unmarked : markRanges.find? (fun range => range.1 ≤ c.toNat && c.toNat ≤ range.2.1) =
      none := by
    rw [List.find?_eq_none]
    intro range hrange
    have hlt : ¬range.1 ≤ c.toNat := Nat.not_le.mpr (Nat.lt_of_lt_of_le h (above range hrange))
    simp [hlt]
  rw [markClass, unmarked]

theorem composite_of_plain {first : Char} (hfirst : isPlain first) (h : isPlain c) :
    composite? first c = none := by
  have above : ∀ entry ∈ composites, 0xA0 ≤ entry.1 := by decide
  have beyond : ∀ entry ∈ highComposites, 0xA0 ≤ entry.1 := by decide
  rw [isPlain_iff] at hfirst h
  have apart : joined? first c = none := by
    have no_syllable : syllable? first = none := by
      unfold syllable? firstSyllable
      exact if_neg (by omega)
    rw [joined?, no_syllable]
    exact if_neg (by omega)
  have in_plane : (composites.findSome? fun entry =>
      if entry.1 = c.toNat then partner? first entry.2.toList else none) = none := by
    rw [List.findSome?_eq_none_iff]
    intro entry hentry
    exact if_neg (by have := above entry hentry; omega)
  have high : (highComposites.findSome? fun entry =>
      if entry.1 = first.toNat ∧ entry.2.1 = c.toNat then some (Char.ofNat entry.2.2)
      else none) = none := by
    rw [List.findSome?_eq_none_iff]
    intro entry hentry
    exact if_neg (by have := beyond entry hentry; omega)
  simp only [composite?, apart, in_plane, high]
  rfl

theorem orderMarks_of_plain {cs : List Char} (h : ∀ c ∈ cs, isPlain c) : orderMarks cs = cs := by
  induction cs with
  | nil => rfl
  | cons c cs ih =>
    rw [List.forall_mem_cons] at h
    rw [orderMarks, ih h.2]
    cases cs with
    | nil => rfl
    | cons d ds =>
      rw [insertMark, if_neg]
      rw [markClass_of_plain (h.2 d List.mem_cons_self)]
      exact fun hlt => absurd hlt.1 (Nat.lt_irrefl 0)

theorem composeBehind_of_plain {base : Char} {cs : List Char} (hbase : isPlain base)
    (h : ∀ c ∈ cs, isPlain c) : composeBehind base [] 0 cs = base :: cs := by
  induction cs generalizing base with
  | nil => rfl
  | cons c cs ih =>
    rw [List.forall_mem_cons] at h
    simp [composeBehind, markClass_of_plain h.1, composite_of_plain hbase h.1, ih h.1 h.2]

/-- Plain text is its own normal form. -/
theorem normal_of_plain {cs : List Char} (h : ∀ c ∈ cs, isPlain c) : normal cs = cs := by
  have expand : cs.flatMap expanded = cs := by
    induction cs with
    | nil => rfl
    | cons c cs ih =>
      rw [List.forall_mem_cons] at h
      rw [List.flatMap_cons, expanded_of_plain h.1, ih h.2, List.singleton_append]
  rw [normal, expand, orderMarks_of_plain h]
  cases cs with
  | nil => rfl
  | cons c cs =>
    rw [List.forall_mem_cons] at h
    exact composeBehind_of_plain h.1 h.2

/-- Nothing behind two plain characters changes the first of them. -/
theorem head?_normal {d : Char} {cs : List Char} (hc : isPlain c) (hd : isPlain d) :
    (normal (c :: d :: cs)).head? = some c := by
  have stays (e : Char) (he : isPlain e) (marks : List Char) : insertMark e marks = e :: marks := by
    cases marks with
    | nil => rfl
    | cons mark rest =>
      rw [insertMark, if_neg]
      rw [markClass_of_plain he]
      exact fun hlt => absurd hlt.2 (Nat.not_lt_zero _)
  rw [normal, List.flatMap_cons, List.flatMap_cons, expanded_of_plain hc, expanded_of_plain hd,
    List.singleton_append, List.singleton_append, orderMarks, orderMarks, stays d hd, stays c hc]
  simp [compose, composeBehind, markClass_of_plain hd, composite_of_plain hc hd]

end EngineBindings.Text
