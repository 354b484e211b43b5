import EngineBindings.Text.Segment
import EngineBindings.Text.Word
import Mathlib.Data.List.TakeWhile

/-! Prefixes, words in a text, joined texts and their fields, empty lines at the end and blanks at
the ends of a text. -/
namespace EngineBindings.Text

theorem eq_append_of_dropPrefix? {lead cs rest : List Char} (h : dropPrefix? lead cs = some rest) :
    cs = lead ++ rest := by
  induction lead generalizing cs with
  | nil =>
    cases h
    rfl
  | cons l lead ih =>
    cases cs with
    | nil => cases h
    | cons c cs =>
      rw [dropPrefix?] at h
      split at h
      · next hl => rw [hl, ih h, List.cons_append]
      · cases h

theorem dropPrefix?_append (lead rest : List Char) :
    dropPrefix? lead (lead ++ rest) = some rest := by
  induction lead with
  | nil => rfl
  | cons l lead ih => rw [List.cons_append, dropPrefix?, if_pos rfl, ih]

/-! ### Occurrences -/

theorem occursIn_of_infix {needle cs : List Char} (h : needle <:+: cs) :
    occursIn needle cs = true := by
  obtain ⟨before, behind, rfl⟩ := h
  induction before with
  | nil =>
    rw [List.nil_append]
    cases hcs : needle ++ behind with
    | nil =>
      rw [(List.append_eq_nil_iff.mp hcs).1]
      rfl
    | cons c cs =>
      rw [occursIn, ← hcs, dropPrefix?_append]
      rfl
  | cons c before ih =>
    rw [List.cons_append, List.cons_append, occursIn, ih, Bool.or_true]

/-! ### Words in a text -/

/-- A word stands in a text, with no character of a word next to it. -/
def Mentions (text word : List Char) : Prop :=
  ∃ before behind, text = before ++ word ++ behind ∧
    (∀ c ∈ before.getLast?, isWordCharacter c = false) ∧
    ∀ c ∈ behind.head?, isWordCharacter c = false

namespace Mentions

variable {text word : List Char}

theorem self (word : List Char) : Mentions word word :=
  ⟨[], [], (List.append_nil word).symm, nofun, nofun⟩

theorem occursIn (h : Mentions text word) : occursIn word text = true := by
  obtain ⟨before, behind, rfl, _, _⟩ := h
  exact occursIn_of_infix ⟨before, behind, rfl⟩

theorem append_left (h : Mentions text word) {front : List Char}
    (apart : ∀ c ∈ front.getLast?, isWordCharacter c = false) : Mentions (front ++ text) word := by
  obtain ⟨before, behind, rfl, first, last⟩ := h
  refine ⟨front ++ before, behind, by simp, fun c hc => ?_, last⟩
  rw [List.getLast?_append] at hc
  cases hbefore : before.getLast? with
  | none => exact apart c (by simpa [hbefore] using hc)
  | some c' => exact first c (by simpa [hbefore] using hc)

theorem append_right (h : Mentions text word) {tail : List Char}
    (apart : ∀ c ∈ tail.head?, isWordCharacter c = false) : Mentions (text ++ tail) word := by
  obtain ⟨before, behind, rfl, first, last⟩ := h
  refine ⟨before, behind ++ tail, by simp, first, fun c hc => ?_⟩
  rw [List.head?_append] at hc
  cases hbehind : behind.head? with
  | none => exact apart c (by simpa [hbehind] using hc)
  | some c' => exact last c (by simpa [hbehind] using hc)

end Mentions

theorem isWordCharacter_of_isBlank {c : Char} (h : isBlank c = true) :
    isWordCharacter c = false := by
  have listed : c.toNat ∈ List.range' 9 5 ++ List.range' 28 5 ++ [0x85, 0xA0, 0x1680] ++
      List.range' 0x2000 11 ++ [0x2028, 0x2029, 0x202F, 0x205F, 0x3000] := by
    simp [isBlank, List.mem_range'_1] at h ⊢
    omega
  have separates : ∀ n ∈ List.range' 9 5 ++ List.range' 28 5 ++ [0x85, 0xA0, 0x1680] ++
      List.range' 0x2000 11 ++ [0x2028, 0x2029, 0x202F, 0x205F, 0x3000],
      isWordCharacter (Char.ofNat n) = false := by
    decide +kernel
  simpa using separates _ listed

/-- Blanks are taken off the ends, and nothing else. -/
theorem exists_stripChars (cs : List Char) :
    ∃ front behind, cs = front ++ stripChars cs ++ behind ∧ (∀ c ∈ front, isBlank c = true) ∧
      ∀ c ∈ behind, isBlank c = true := by
  refine ⟨cs.takeWhile isBlank, ((cs.dropWhile isBlank).reverse.takeWhile isBlank).reverse, ?_,
    fun c hc => List.mem_takeWhile_imp hc,
    fun c hc => List.mem_takeWhile_imp (List.mem_reverse.mp hc)⟩
  rw [stripChars, dropEndWhile, List.append_assoc, ← List.reverse_append,
    List.takeWhile_append_dropWhile, List.reverse_reverse, List.takeWhile_append_dropWhile]

/-- What is mentioned without the blanks at the ends is mentioned with them. -/
theorem Mentions.of_stripChars {cs word : List Char} (h : Mentions (stripChars cs) word) :
    Mentions cs word := by
  obtain ⟨front, behind, hcs, hfront, hbehind⟩ := exists_stripChars cs
  rw [hcs]
  exact (h.append_left fun c hc =>
      isWordCharacter_of_isBlank (hfront c (List.mem_of_getLast? hc))).append_right
    fun c hc => isWordCharacter_of_isBlank (hbehind c (List.mem_of_head? hc))

/-- A name with an owner is the owner, a dot and the last part. -/
theorem eq_append_of_splitOwner {name : String} (h : (splitOwner name).1 ≠ "") :
    name.toList = (splitOwner name).1.toList ++ '.' :: (splitOwner name).2.toList := by
  unfold splitOwner splitLast at h ⊢
  dsimp only at h ⊢
  have whole := List.takeWhile_append_dropWhile (p := (· ≠ '.')) (l := name.toList.reverse)
  cases hrest : name.toList.reverse.dropWhile (· ≠ '.') with
  | nil =>
    rw [hrest] at h
    exact absurd rfl h
  | cons c rest =>
    have dot : c = '.' := by
      have first := List.head?_dropWhile_not (· ≠ '.') name.toList.reverse
      rw [hrest] at first
      simpa using first
    subst dot
    rw [hrest] at whole
    have reversed := congrArg List.reverse whole
    rw [List.reverse_reverse] at reversed
    exact reversed.symm.trans (by simp)

/-! ### Joined texts -/

theorem toList_join_cons (separator first : String) (rest : List String) :
    (join separator (first :: rest)).toList =
      first.toList ++ rest.flatMap fun text => separator.toList ++ text.toList := by
  induction rest generalizing first with
  | nil => simp [join]
  | cons text rest ih =>
    have step : join separator (first :: text :: rest) =
        join separator ((first ++ separator ++ text) :: rest) := rfl
    rw [step, ih]
    simp

theorem head?_join (separator : String) {first : String} {c : Char}
    (h : first.toList.head? = some c) (rest : List String) :
    (join separator (first :: rest)).toList.head? = some c := by
  rw [toList_join_cons, List.head?_append, h, Option.some_or]

theorem infix_join (separator : String) {text : String} {texts : List String} (h : text ∈ texts) :
    text.toList <:+: (join separator texts).toList := by
  obtain ⟨first, rest, rfl⟩ := List.exists_cons_of_ne_nil (List.ne_nil_of_mem h)
  rw [toList_join_cons]
  rcases List.mem_cons.mp h with rfl | h
  · exact (List.prefix_append _ _).isInfix
  · obtain ⟨before, behind, rfl⟩ := List.append_of_mem h
    refine ⟨first.toList ++ (before.flatMap fun text => separator.toList ++ text.toList) ++
      separator.toList, behind.flatMap fun text => separator.toList ++ text.toList, ?_⟩
    simp

theorem join_append {separator : String} {first second : List String} (hfirst : first ≠ [])
    (hsecond : second ≠ []) :
    join separator (first ++ second) =
      join separator first ++ separator ++ join separator second := by
  obtain ⟨x, xs, rfl⟩ := List.exists_cons_of_ne_nil hfirst
  obtain ⟨y, ys, rfl⟩ := List.exists_cons_of_ne_nil hsecond
  apply String.toList_inj.mp
  simp only [List.cons_append, toList_join_cons, String.toList_append, List.flatMap_append,
    List.flatMap_cons, List.append_assoc]

/-- Joined texts stand for what they were joined of. -/
theorem join_append_join {separator : String} (before : List String) {texts : List String}
    (h : texts ≠ []) (behind : List String) :
    join separator (before ++ [join separator texts] ++ behind) =
      join separator (before ++ texts ++ behind) := by
  have single (text : String) : join separator [text] = text := rfl
  have front : join separator (before ++ [join separator texts]) =
      join separator (before ++ texts) := by
    cases before with
    | nil => exact single _
    | cons x xs => rw [join_append (by simp) (by simp), join_append (by simp) h, single]
  cases behind with
  | nil => rw [List.append_nil, List.append_nil, front]
  | cons y ys =>
    have behind : y :: ys ≠ [] := List.cons_ne_nil _ _
    rw [join_append (by simp) behind, front, join_append (by simp [h]) behind]

/-! ### Fields between separators -/

theorem fields_of_notMem {sep : Char} {cs : List Char} (h : sep ∉ cs) : fields sep cs = [cs] := by
  induction cs with
  | nil => rfl
  | cons c cs ih =>
    rw [List.mem_cons, not_or] at h
    rw [fields, if_neg (Ne.symm h.1), ih h.2]

theorem fields_append {sep : Char} {first rest : List Char} (h : sep ∉ first) :
    fields sep (first ++ sep :: rest) = first :: fields sep rest := by
  induction first with
  | nil => rw [List.nil_append, fields, if_pos rfl]
  | cons c first ih =>
    rw [List.mem_cons, not_or] at h
    rw [List.cons_append, fields, if_neg (Ne.symm h.1), ih h.2]

theorem length_fields (sep : Char) (cs : List Char) :
    (fields sep cs).length = cs.count sep + 1 := by
  induction cs with
  | nil => rfl
  | cons c cs ih =>
    rw [fields]
    split
    · next hc => rw [List.length_cons, ih, hc, List.count_cons_self]
    · next hc =>
      rw [List.count_cons_of_ne hc]
      split
      · next hnone => simp [hnone] at ih
      · next field rest hfields => rw [← ih, hfields]; rfl

theorem splitFields_ne_nil (sep : Char) (s : String) : splitFields sep s ≠ [] := by
  intro hnone
  have length := length_fields sep s.toList
  rw [List.map_eq_nil_iff.mp hnone] at length
  cases length

/-- Texts without the separator are the fields of what they are joined to. -/
theorem splitFields_join {sep : Char} {separator : String} (hsep : separator.toList = [sep])
    {texts : List String} (given : texts ≠ []) (apart : ∀ text ∈ texts, sep ∉ text.toList) :
    splitFields sep (join separator texts) = texts := by
  obtain ⟨first, rest, rfl⟩ := List.exists_cons_of_ne_nil given
  have chars : fields sep (first.toList ++ rest.flatMap fun text => [sep] ++ text.toList) =
      (first :: rest).map String.toList := by
    clear given
    -- Each text behind the first becomes the first one when the one in front has been split off.
    induction rest generalizing first with
    | nil =>
      rw [List.flatMap_nil, List.append_nil]
      exact fields_of_notMem (apart first List.mem_cons_self)
    | cons text rest ih =>
      rw [List.flatMap_cons, List.append_assoc, List.singleton_append,
        fields_append (apart first List.mem_cons_self),
        ih text fun t ht => apart t (List.mem_cons_of_mem first ht)]
      rfl
  rw [splitFields, toList_join_cons, hsep, chars, List.map_map]
  exact (List.map_congr_left fun text _ => String.ofList_toList).trans (List.map_id _)

/-! ### Empty lines at the end -/

/-- The last line that is not empty. -/
def lastLine? (lines : List String) : Option String :=
  lines.reverse.find? (!·.isEmpty)

theorem lastLine?_append (first second : List String) :
    lastLine? (first ++ second) = (lastLine? second).or (lastLine? first) := by
  rw [lastLine?, List.reverse_append, List.find?_append]
  rfl

theorem lastLine?_dropTrailingEmpty (lines : List String) :
    lastLine? (dropTrailingEmpty lines) = lastLine? lines := by
  unfold lastLine? dropTrailingEmpty
  rw [List.reverse_reverse]
  induction lines.reverse with
  | nil => rfl
  | cons line rest ih =>
    rw [List.dropWhile_cons]
    split
    · next hempty => rw [ih, List.find?_cons_of_neg (by simp [hempty])]
    · rfl

theorem mem_dropTrailingEmpty {lines : List String} {line : String} (h : line ∈ lines)
    (given : line ≠ "") : line ∈ dropTrailingEmpty lines := by
  have whole : line ∈ lines.reverse.takeWhile (·.isEmpty) ++ lines.reverse.dropWhile (·.isEmpty) := by
    rw [List.takeWhile_append_dropWhile]
    exact List.mem_reverse.mpr h
  rw [dropTrailingEmpty, List.mem_reverse]
  refine (List.mem_append.mp whole).resolve_left fun dropped => given ?_
  exact String.isEmpty_iff.mp (List.mem_takeWhile_imp dropped)

/-- Lines can be taken out before or after the empty ones at the end are dropped, if neither the
last line that is not empty nor an empty one is among them. -/
theorem dropTrailingEmpty_filter {keeps : String → Bool} {lines : List String}
    (hempty : keeps "" = true) (hlast : ∀ line, lastLine? lines = some line → keeps line = true) :
    dropTrailingEmpty (lines.filter keeps) = (dropTrailingEmpty lines).filter keeps := by
  unfold lastLine? at hlast
  rw [dropTrailingEmpty, dropTrailingEmpty, List.filter_reverse, ← List.filter_reverse]
  congr 1
  generalize lines.reverse = reversed at hlast ⊢
  induction reversed with
  | nil => rfl
  | cons line rest ih =>
    cases hline : line.isEmpty with
    | true =>
      have blank : line = "" := String.isEmpty_iff.mp hline
      subst blank
      rw [List.find?_cons_of_neg (by simp)] at hlast
      rw [List.filter_cons_of_pos hempty, List.dropWhile_cons_of_pos hline,
        List.dropWhile_cons_of_pos hline, ih hlast]
    | false =>
      have kept := hlast line (List.find?_cons_of_pos (by simp [hline]))
      rw [List.filter_cons_of_pos kept, List.dropWhile_cons_of_neg (by simp [hline]),
        List.dropWhile_cons_of_neg (by simp [hline]), List.filter_cons_of_pos kept]

/-! ### Blanks at the ends -/

/-- Whether the last character of a text is there and no blank. -/
def endsPlainly (s : String) : Bool :=
  s.toList.getLast?.any (!isBlank ·)

theorem endsPlainly_append (first : String) {second : String} (h : endsPlainly second = true) :
    endsPlainly (first ++ second) = true := by
  unfold endsPlainly at h ⊢
  rw [String.toList_append, List.getLast?_append]
  cases hlast : second.toList.getLast? with
  | none =>
    rw [hlast] at h
    cases h
  | some c =>
    rw [hlast] at h
    exact h

theorem endsPlainly_join (separator : String) {lines : List String} {last : String}
    (hlast : lines.getLast? = some last) (h : endsPlainly last = true) :
    endsPlainly (join separator lines) = true := by
  obtain ⟨before, rfl⟩ := List.getLast?_eq_some_iff.mp hlast
  cases before with
  | nil => exact h
  | cons x xs =>
    rw [join_append (by simp) (by simp)]
    exact endsPlainly_append _ h

/-- Only the blanks behind a text that does not end with one are dropped. -/
theorem dropEndWhile_append_blanks {cs blanks : List Char}
    (h : cs.getLast?.any (!isBlank ·) = true) (hblanks : ∀ c ∈ blanks, isBlank c = true) :
    dropEndWhile isBlank (cs ++ blanks) = cs := by
  have behind : blanks.reverse.dropWhile isBlank = [] :=
    List.dropWhile_eq_nil_iff.mpr fun c hc => hblanks c (List.mem_reverse.mp hc)
  rw [dropEndWhile, List.reverse_append, List.dropWhile_append, behind]
  cases hlast : cs.reverse with
  | nil =>
    rw [List.reverse_eq_nil_iff] at hlast
    rw [hlast] at h
    cases h
  | cons c rest =>
    rw [← List.head?_reverse, hlast] at h
    have kept : ¬isBlank c = true := by simpa using h
    rw [List.isEmpty_nil, if_pos rfl, List.dropWhile_cons_of_neg kept, ← hlast,
      List.reverse_reverse]

/-- Blanks before and behind a text without blanks at its ends are taken off, and nothing else. -/
theorem strip_append {front s behind : String} (hfront : ∀ c ∈ front.toList, isBlank c = true)
    (hbehind : ∀ c ∈ behind.toList, isBlank c = true)
    (starts : s.toList.head?.any (!isBlank ·) = true) (ends : endsPlainly s = true) :
    strip (front ++ s ++ behind) = s := by
  have first : (s.toList ++ behind.toList).dropWhile isBlank = s.toList ++ behind.toList := by
    cases hs : s.toList with
    | nil =>
      rw [hs] at starts
      cases starts
    | cons c rest =>
      rw [hs] at starts
      exact List.dropWhile_cons_of_neg (by simpa using starts)
  rw [strip, stripChars, String.toList_append, String.toList_append, List.append_assoc,
    List.dropWhile_append, List.dropWhile_eq_nil_iff.mpr hfront, List.isEmpty_nil, if_pos rfl,
    first, dropEndWhile_append_blanks ends hbehind, String.ofList_toList]

/-! ### Texts without blanks at their ends -/

theorem isBlank_of_head?_stripChars {cs : List Char} {c : Char}
    (h : (stripChars cs).head? = some c) : isBlank c = false := by
  have front : stripChars cs <+: cs.dropWhile isBlank := by
    rw [stripChars, dropEndWhile, ← List.reverse_suffix, List.reverse_reverse]
    exact List.dropWhile_suffix ..
  obtain ⟨rest, hrest⟩ := front
  have first := List.head?_dropWhile_not isBlank cs
  rw [← hrest, List.head?_append, h] at first
  simpa using first

theorem isBlank_of_getLast?_stripChars {cs : List Char} {c : Char}
    (h : (stripChars cs).getLast? = some c) : isBlank c = false := by
  rw [stripChars, dropEndWhile, List.getLast?_reverse] at h
  have last := List.head?_dropWhile_not isBlank (cs.dropWhile isBlank).reverse
  rw [h] at last
  simpa using last

/-- A text without blanks at its ends stays as it is. -/
theorem stripChars_eq_self {cs : List Char} (first : ∀ c ∈ cs.head?, isBlank c = false)
    (last : ∀ c ∈ cs.getLast?, isBlank c = false) : stripChars cs = cs := by
  cases cs with
  | nil => rfl
  | cons c rest =>
    have starts : (c :: rest).dropWhile isBlank = c :: rest :=
      List.dropWhile_cons_of_neg (by simpa using first c rfl)
    have ends : (c :: rest).getLast?.any (!isBlank ·) = true := by
      rw [List.getLast?_eq_some_getLast (List.cons_ne_nil c rest)] at last ⊢
      simpa using last _ rfl
    have kept := dropEndWhile_append_blanks ends (List.forall_mem_nil _)
    rw [List.append_nil] at kept
    rw [stripChars, starts, kept]

theorem stripChars_stripChars (cs : List Char) : stripChars (stripChars cs) = stripChars cs :=
  stripChars_eq_self (fun _ => isBlank_of_head?_stripChars) fun _ => isBlank_of_getLast?_stripChars

theorem strip_strip (s : String) : strip (strip s) = strip s := by
  rw [strip, strip, String.toList_ofList, stripChars_stripChars]

end EngineBindings.Text
