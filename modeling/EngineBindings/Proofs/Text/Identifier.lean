import EngineBindings.Proofs.Text.Segment
import EngineBindings.Text.Identifier

/-! What names become when they are emitted.

A name is emitted as it is where it has no separators, no leading digit and is not reserved
(`sanitize_eq_self_iff`). What is emitted for any name is one of these (`isSettled_sanitize`): an
underscore in front of a digit is no digit, and one behind a reserved word makes a word that is not
reserved. So a name that passes through several hands comes out as from the first, part by part
where it has parts, and one that is written with the characters of engine names comes out as an
identifier (`sanitize_once`). An identifier is emitted as it is, unless emitted methods use it for
their own receiver (`sanitize_of_isIdentifier`). -/
namespace EngineBindings.Text

/-! ### Settled names -/

/-- Characters without separators, the first of which is no digit. -/
structure IsShaped (cs : List Char) : Prop where
  given : cs ≠ []
  undotted : '.' ∉ cs
  unslashed : '/' ∉ cs
  leading : ∀ c ∈ cs.head?, isDigitLike c = false

/-- A name that is emitted as it is. -/
structure IsSettled (name : String) : Prop where
  shaped : IsShaped name.toList
  free : isReserved name = false

theorem replaceSeparators_eq_self {cs : List Char} (undotted : '.' ∉ cs) (unslashed : '/' ∉ cs) :
    replaceSeparators cs = cs := by
  refine (List.map_congr_left (g := id) fun c hc => if_neg ?_).trans (List.map_id _)
  rintro (rfl | rfl)
  · exact undotted hc
  · exact unslashed hc

theorem guardLeadingDigit_eq_self {cs : List Char}
    (leading : ∀ c ∈ cs.head?, isDigitLike c = false) : guardLeadingDigit cs = cs := by
  cases cs with
  | nil => rfl
  | cons c cs =>
    rw [guardLeadingDigit, leading c rfl]
    rfl

theorem sanitize_of_isSettled {name : String} (h : IsSettled name) : sanitize name = name := by
  have given : name.isEmpty = false := by
    rw [Bool.eq_false_iff]
    intro hempty
    exact h.shaped.given (by rw [String.isEmpty_iff.mp hempty]; rfl)
  rw [sanitize, given, replaceSeparators_eq_self h.shaped.undotted h.shaped.unslashed,
    guardLeadingDigit_eq_self h.shaped.leading, String.ofList_toList]
  exact if_neg (Bool.eq_false_iff.mp h.free)

/-! ### Emitted names -/

theorem mem_replaceSeparators {c : Char} {cs : List Char} (h : c ∈ replaceSeparators cs) :
    c = '_' ∨ c ∈ cs ∧ c ≠ '.' ∧ c ≠ '/' := by
  obtain ⟨d, hd, rfl⟩ := List.mem_map.mp h
  split
  · exact .inl rfl
  · next hne => exact .inr ⟨hd, not_or.mp hne⟩

theorem mem_guardLeadingDigit {c : Char} {cs : List Char} (h : c ∈ guardLeadingDigit cs) :
    c = '_' ∨ c ∈ cs := by
  unfold guardLeadingDigit at h
  split at h
  · cases h
  · split at h
    · exact List.mem_cons.mp h
    · exact .inr h

theorem isShaped_guardLeadingDigit {cs : List Char} (given : cs ≠ []) (undotted : '.' ∉ cs)
    (unslashed : '/' ∉ cs) : IsShaped (guardLeadingDigit cs) := by
  obtain ⟨c, rest, rfl⟩ := List.exists_cons_of_ne_nil given
  rw [guardLeadingDigit]
  split
  · refine ⟨List.cons_ne_nil _ _, by simpa using undotted, by simpa using unslashed, ?_⟩
    rintro _ ⟨⟩
    decide
  · next hdigit =>
    refine ⟨given, undotted, unslashed, ?_⟩
    rintro _ ⟨⟩
    exact Bool.eq_false_iff.mpr hdigit

theorem isShaped_guarded {cs : List Char} (given : cs ≠ []) :
    IsShaped (guardLeadingDigit (replaceSeparators cs)) := by
  have replaced {c : Char} (hc : c ∈ replaceSeparators cs) : c ≠ '.' ∧ c ≠ '/' := by
    rcases mem_replaceSeparators hc with rfl | ⟨_, hne⟩
    · decide
    · exact hne
  exact isShaped_guardLeadingDigit (fun hnone => given (List.map_eq_nil_iff.mp hnone))
    (fun hdot => (replaced hdot).1 rfl) fun hslash => (replaced hslash).2 rfl

theorem IsShaped.marked {cs : List Char} (h : IsShaped cs) : IsShaped (cs ++ ['_']) := by
  constructor
  case given => exact List.concat_ne_nil '_' cs
  case undotted => simpa using h.undotted
  case unslashed => simpa using h.unslashed
  case leading =>
    intro c hc
    obtain ⟨first, rest, rfl⟩ := List.exists_cons_of_ne_nil h.given
    exact h.leading c hc

/-- No reserved word ends in an underscore. -/
theorem isReserved_marked (word : String) : isReserved (word ++ "_") = false := by
  have ends : ∀ reserved ∈ reservedWords ++ receiverNames,
      reserved.toList.getLast? ≠ some '_' := by decide
  rw [Bool.eq_false_iff]
  intro hreserved
  rw [isReserved, Bool.or_eq_true, List.contains_iff_mem, List.contains_iff_mem,
    ← List.mem_append] at hreserved
  exact ends _ hreserved (by simp)

/-- What holds of the characters of a name once they are replaced and guarded, and still does with
an underscore behind them, holds of what is emitted. -/
theorem sanitize_spells {P : List Char → Prop} (name : String) (unnamed : P "arg".toList)
    (guarded : name.toList ≠ [] → P (guardLeadingDigit (replaceSeparators name.toList)))
    (marked : ∀ cs, P cs → P (cs ++ ['_'])) : P (sanitize name).toList := by
  unfold sanitize
  split
  · exact unnamed
  · next hempty =>
    have shown := guarded (by simpa using hempty)
    dsimp only
    split
    · rw [String.toList_append, String.toList_ofList]
      exact marked _ shown
    · rw [String.toList_ofList]
      exact shown

theorem isReserved_sanitize (name : String) : isReserved (sanitize name) = false := by
  unfold sanitize
  split
  · decide
  · dsimp only
    split
    · exact isReserved_marked _
    · next hfree => exact Bool.eq_false_iff.mpr hfree

theorem isSettled_sanitize (name : String) : IsSettled (sanitize name) := by
  refine ⟨sanitize_spells name ?_ isShaped_guarded fun _ => .marked, isReserved_sanitize name⟩
  refine ⟨by decide, by decide, by decide, ?_⟩
  rintro _ ⟨⟩
  decide

/-- An emitted name has no parts. -/
theorem notMem_sanitize (name : String) : '.' ∉ (sanitize name).toList :=
  (isSettled_sanitize name).shaped.undotted

theorem sanitize_ne_empty (name : String) : sanitize name ≠ "" := fun hnone =>
  (isSettled_sanitize name).shaped.given (by rw [hnone]; rfl)

theorem sanitize_eq_self_iff {name : String} : sanitize name = name ↔ IsSettled name :=
  ⟨fun h => h ▸ isSettled_sanitize name, sanitize_of_isSettled⟩

theorem sanitize_sanitize (name : String) : sanitize (sanitize name) = sanitize name :=
  sanitize_of_isSettled (isSettled_sanitize name)

/-! ### Identifiers -/

/-- Letters, digits and the underscore. -/
def isIdentifierChar (c : Char) : Bool :=
  c.isAlphanum || c = '_'

/-- A name of such characters that does not start with a digit and is no reserved word. -/
def isIdentifier (name : String) : Bool :=
  name.toList.head?.any (!·.isDigit) && name.toList.all isIdentifierChar &&
    !reservedWords.contains name

theorem toNat_of_isIdentifierChar {c : Char} (h : isIdentifierChar c = true) : c.toNat < 128 := by
  have toNat (n : UInt32) : c.val ≤ n ↔ c.toNat ≤ n.toNat := UInt32.le_iff_toNat_le
  have ranges : isIdentifierChar c = (decide (c.val ≥ 'A'.val ∧ c.val ≤ 'Z'.val) ||
      (decide (c.val ≥ 'a'.val) && decide (c.val ≤ 'z'.val)) ||
      (decide (c.val ≥ '0'.val) && decide (c.val ≤ '9'.val)) || decide (c = '_')) := rfl
  simp only [ranges, Bool.or_eq_true, Bool.and_eq_true, decide_eq_true_eq, ge_iff_le, toNat] at h
  rcases h with ((⟨_, h⟩ | ⟨_, h⟩) | ⟨_, h⟩) | rfl
  · exact Nat.lt_of_le_of_lt h (by decide)
  · exact Nat.lt_of_le_of_lt h (by decide)
  · exact Nat.lt_of_le_of_lt h (by decide)
  · decide

theorem isDigitLike_of_lt {c : Char} (h : c.toNat < 128) : isDigitLike c = c.isDigit := by
  have above : ∀ range ∈ specialDigits, 128 ≤ range.1 := by decide
  have special : (specialDigits.any fun range => range.1 ≤ c.toNat && c.toNat ≤ range.2) = false := by
    rw [List.any_eq_false]
    intro range hrange
    have hlow := above range hrange
    simp only [Bool.and_eq_true, decide_eq_true_eq, not_and]
    omega
  rw [isDigitLike, special, Bool.or_false, isDecimal, if_pos h]

section Identifier

variable {name : String} (h : isIdentifier name = true)
include h

theorem ne_empty_of_isIdentifier : name ≠ "" := by
  rintro rfl
  cases h

theorem notMem_of_isIdentifier : '.' ∉ name.toList ∧ '/' ∉ name.toList := by
  simp only [isIdentifier, Bool.and_eq_true] at h
  have chars := List.all_eq_true.mp h.1.2
  exact ⟨fun hdot => absurd (chars _ hdot) (by decide),
    fun hslash => absurd (chars _ hslash) (by decide)⟩

theorem isSettled_of_isIdentifier (kept : receiverNames.contains name = false) :
    IsSettled name := by
  have given := ne_empty_of_isIdentifier h
  obtain ⟨undotted, unslashed⟩ := notMem_of_isIdentifier h
  simp only [isIdentifier, Bool.and_eq_true, Bool.not_eq_true'] at h
  obtain ⟨⟨hhead, hchars⟩, hreserved⟩ := h
  refine ⟨⟨by simpa using given, undotted, unslashed, fun c hc => ?_⟩, ?_⟩
  · have hmem := List.mem_of_mem_head? hc
    rw [isDigitLike_of_lt (toNat_of_isIdentifierChar (List.all_eq_true.mp hchars c hmem))]
    rw [Option.mem_def.mp hc] at hhead
    simpa using hhead
  · rw [isReserved, hreserved, kept]
    rfl

/-- An identifier is emitted as it is, apart from the names of receivers. -/
theorem sanitize_of_isIdentifier :
    sanitize name = if receiverNames.contains name then name ++ "_" else name := by
  split
  · next receiver =>
    have both : ∀ name ∈ receiverNames, sanitize name = name ++ "_" := by decide
    exact both name (List.contains_iff_mem.mp receiver)
  · next kept => exact sanitize_of_isSettled (isSettled_of_isIdentifier h (by simpa using kept))

end Identifier

/-! ### Names of the engine -/

/-- The characters that engine names are written with. -/
def isNameChar (c : Char) : Bool :=
  isIdentifierChar c || c = '.' || c = '/'

theorem isIdentifier_sanitize {name : String} (h : ∀ c ∈ name.toList, isNameChar c = true) :
    isIdentifier (sanitize name) = true := by
  have chars : ∀ c ∈ (sanitize name).toList, isIdentifierChar c = true := by
    have unnamed : "arg".toList.all isIdentifierChar = true := by decide
    refine sanitize_spells (P := fun cs => ∀ c ∈ cs, isIdentifierChar c = true) name
      (List.all_eq_true.mp unnamed) (fun _ c hc => ?_) fun cs hcs => ?_
    · rcases (mem_guardLeadingDigit hc).imp_right mem_replaceSeparators with
        rfl | rfl | ⟨hmem, undotted, unslashed⟩
      · decide
      · decide
      · simpa [isNameChar, undotted, unslashed] using h c hmem
    · exact List.forall_mem_append.mpr ⟨hcs, List.forall_mem_singleton.mpr (by decide)⟩
  obtain ⟨shaped, free⟩ := isSettled_sanitize name
  rw [isReserved, Bool.or_eq_false_iff] at free
  obtain ⟨c, hc⟩ := Option.isSome_iff_exists.mp (List.isSome_head?.mpr shaped.given)
  -- Among these characters the digits of all scripts are the ten that identifiers do not start with.
  have hdigit := shaped.leading c hc
  rw [isDigitLike_of_lt (toNat_of_isIdentifierChar (chars c (List.mem_of_mem_head? hc)))] at hdigit
  simp only [isIdentifier, hc, Option.any_some, hdigit, List.all_eq_true.mpr chars, free.1]
  rfl

/-! ### Names with parts -/

theorem splitFields_hostName (name : String) :
    splitFields '.' (hostName name) = (splitFields '.' name).map sanitize := by
  refine splitFields_join rfl ?_ ?_
  · exact fun hnone => splitFields_ne_nil '.' name (List.map_eq_nil_iff.mp hnone)
  · intro part hpart
    obtain ⟨own, _, rfl⟩ := List.mem_map.mp hpart
    exact notMem_sanitize own

theorem hostName_hostName (name : String) : hostName (hostName name) = hostName name := by
  rw [hostName, splitFields_hostName, List.map_map]
  exact congrArg (join ".") (List.map_congr_left fun part _ => sanitize_sanitize part)

/-- A name that is written with the characters of engine names is emitted as an identifier that is
not reserved. What is emitted for any name is a name that is emitted as it is, and no others are
left alone, so that names come out the same whether once or twice. A name with parts keeps as many
as it has. -/
theorem sanitize_once :
    (∀ name : String, (∀ c ∈ name.toList, isNameChar c = true) →
      isIdentifier (sanitize name) = true ∧ sanitize name ≠ "" ∧
        isReserved (sanitize name) = false) ∧
    (∀ name, sanitize (sanitize name) = sanitize name) ∧
    (∀ name, sanitize name = name ↔ IsSettled name) ∧
    (∀ name, hostName (hostName name) = hostName name) ∧
    ∀ name, (splitFields '.' (hostName name)).length = (splitFields '.' name).length := by
  refine ⟨fun name h => ?_, sanitize_sanitize, fun _ => sanitize_eq_self_iff, hostName_hostName,
    fun name => ?_⟩
  · exact ⟨isIdentifier_sanitize h, sanitize_ne_empty name, isReserved_sanitize name⟩
  · rw [splitFields_hostName, List.length_map]

/-- A leading digit, both separators and a reserved word at once, and a reserved word alone. -/
theorem sanitize_once_plane :
    (∀ c ∈ "2d/plane.class".toList, isNameChar c = true) ∧
      isIdentifier (sanitize "2d/plane.class") = true ∧
      (∀ c ∈ "class".toList, isNameChar c = true) ∧ isReserved (sanitize "class") = false := by
  have plane : ∀ c ∈ "2d/plane.class".toList, isNameChar c = true :=
    List.all_eq_true.mp (by decide)
  have reserved : ∀ c ∈ "class".toList, isNameChar c = true :=
    List.all_eq_true.mp (by decide)
  exact ⟨plane, (sanitize_once.1 _ plane).1, reserved, (sanitize_once.1 _ reserved).2.2⟩

example : hostName "2d/plane.class" = "_2d_plane.class_" := by decide

end EngineBindings.Text
