import EngineBindings.Proofs.Text.Segment
import EngineBindings.Text.HalfPair
import EngineBindings.Text.Literal

/-! What the spelling of a default value is to a reader of the emitted language.

`IsLiteral` is that language's grammar of words, numbers and one-line texts between double quotes.
A spelling is taken from the schema as it stands there, by two tests that are wider than the
grammar: digits of every script count as digits, a whole number may have zeros in front, and
between the quotes everything but a backslash may stand. `Misspelt` lists what comes in by that, and
a spelling is a literal exactly where it is not misspelt (`literal_reads_iff`). -/
namespace EngineBindings.Text

/-! ### The grammar -/

/-- Digits, any two of which may have one underscore between them. -/
inductive DigitPart (digit : Char → Prop) : List Char → Prop
  | single {c : Char} (first : digit c) : DigitPart digit [c]
  | next {c : Char} {cs : List Char} (first : digit c) (rest : DigitPart digit cs) :
    DigitPart digit (c :: cs)
  | spaced {c : Char} {cs : List Char} (first : digit c) (rest : DigitPart digit cs) :
    DigitPart digit (c :: '_' :: cs)

/-- A digit of base ten. -/
def IsTenth (c : Char) : Prop := c.isDigit = true

/-- A digit of the base that a letter behind a zero announces. -/
def IsDigitOf (letter c : Char) : Prop :=
  (letter ∈ ['b', 'B'] ∧ c ∈ ['0', '1']) ∨
    (letter ∈ ['o', 'O'] ∧ c ∈ ['0', '1', '2', '3', '4', '5', '6', '7']) ∨
    (letter ∈ ['x', 'X'] ∧ (IsTenth c ∨
      c ∈ ['a', 'b', 'c', 'd', 'e', 'f', 'A', 'B', 'C', 'D', 'E', 'F']))

/-- Whole numbers. Those of base ten begin with a zero only if they are zero. -/
inductive IsInteger : List Char → Prop
  | decimal {c : Char} {cs : List Char} (head : c ≠ '0') (digits : DigitPart IsTenth (c :: cs)) :
    IsInteger (c :: cs)
  | zero {cs : List Char} (digits : DigitPart (· = '0') cs) : IsInteger cs
  | radix {letter : Char} {cs : List Char} (digits : DigitPart (IsDigitOf letter) cs) :
    IsInteger ('0' :: letter :: cs)
  | radixSpaced {letter : Char} {cs : List Char} (digits : DigitPart (IsDigitOf letter) cs) :
    IsInteger ('0' :: letter :: '_' :: cs)

/-- Numbers with a point. -/
inductive IsPointFloat : List Char → Prop
  | fraction {fs : List Char} (digits : DigitPart IsTenth fs) : IsPointFloat ('.' :: fs)
  | both {ds fs : List Char} (whole : DigitPart IsTenth ds) (digits : DigitPart IsTenth fs) :
    IsPointFloat (ds ++ '.' :: fs)
  | trailing {ds : List Char} (whole : DigitPart IsTenth ds) : IsPointFloat (ds ++ ['.'])

/-- Exponents. -/
inductive IsExponent : List Char → Prop
  | plain {e : Char} {ds : List Char} (letter : e ∈ ['e', 'E']) (digits : DigitPart IsTenth ds) :
    IsExponent (e :: ds)
  | signed {e sign : Char} {ds : List Char} (letter : e ∈ ['e', 'E'])
    (plusMinus : sign ∈ ['+', '-']) (digits : DigitPart IsTenth ds) : IsExponent (e :: sign :: ds)

/-- Numbers with a point, an exponent or both. -/
inductive IsFloat : List Char → Prop
  | point {cs : List Char} (h : IsPointFloat cs) : IsFloat cs
  | whole {ds e : List Char} (digits : DigitPart IsTenth ds) (exponent : IsExponent e) :
    IsFloat (ds ++ e)
  | scaled {cs e : List Char} (h : IsPointFloat cs) (exponent : IsExponent e) : IsFloat (cs ++ e)

/-- Numbers without a sign. -/
inductive IsNumber : List Char → Prop
  | integer {cs : List Char} (h : IsInteger cs) : IsNumber cs
  | float {cs : List Char} (h : IsFloat cs) : IsNumber cs
  | imaginary {cs : List Char} {j : Char} (h : DigitPart IsTenth cs ∨ IsFloat cs)
    (letter : j ∈ ['j', 'J']) : IsNumber (cs ++ [j])

/-- What may stand between double quotes on one line: characters that neither close the text nor
end the line nor end the source, and escapes of one character. (An escape by number or by name has
no place in a default value, which holds no backslash.) -/
inductive QuotedBody : List Char → Prop
  | empty : QuotedBody []
  | plain {c : Char} {cs : List Char} (inLine : c ∉ ['"', '\\', '\n', '\r', '\x00'])
    (rest : QuotedBody cs) : QuotedBody (c :: cs)
  | escaped {c : Char} {cs : List Char}
    (known : c ∈ ['\\', '\'', '"', 'a', 'b', 'f', 'n', 'r', 't', 'v', '0'])
    (rest : QuotedBody cs) : QuotedBody ('\\' :: c :: cs)

/-- Nothing or a minus. -/
def IsSign (cs : List Char) : Prop := cs = [] ∨ cs = ['-']

/-- The literals of the emitted language: its three words, numbers with at most a minus in front,
and one-line texts between double quotes. No source holds half of a pair. -/
inductive IsLiteral (s : String) : Prop
  | word (h : s ∈ ["True", "False", "None"])
  | number {sign cs : List Char} (spelt : s.toList = sign ++ cs) (minus : IsSign sign)
    (h : IsNumber cs)
  | quoted {body : List Char} (spelt : s.toList = '"' :: (body ++ ['"'])) (h : QuotedBody body)
    (whole : holdsHalf s = false)

/-! ### What numbers are made of -/

/-- A list of characters of the basic set. -/
def IsBasic (cs : List Char) : Prop := ∀ c ∈ cs, c.toNat < 128

instance (cs : List Char) : Decidable (IsBasic cs) :=
  decidable_of_iff (cs.all fun c => decide (c.toNat < 128)) (by simp [IsBasic])

@[simp] theorem isBasic_nil : IsBasic [] := nofun

@[simp] theorem isBasic_cons {c : Char} {cs : List Char} :
    IsBasic (c :: cs) ↔ c.toNat < 128 ∧ IsBasic cs := by
  simp only [IsBasic, List.mem_cons, or_imp, forall_and, forall_eq]

@[simp] theorem isBasic_append {cs ds : List Char} :
    IsBasic (cs ++ ds) ↔ IsBasic cs ∧ IsBasic ds := by
  simp only [IsBasic, List.mem_append, or_imp, forall_and]

theorem not_isTenth_of_mem {c : Char} {letters : List Char} (h : c ∈ letters)
    (none : letters.any (·.isDigit) = false) : ¬IsTenth c :=
  List.any_eq_false.mp none c h

theorem IsTenth.toNat_lt {c : Char} (h : IsTenth c) : c.toNat < 128 := by
  simp only [IsTenth, Char.isDigit, Bool.and_eq_true, decide_eq_true_eq, ge_iff_le,
    UInt32.le_iff_toNat_le] at h
  have : c.val.toNat ≤ 57 := h.2
  exact Nat.lt_of_le_of_lt this (by decide)

theorem IsDigitOf.letter_mem {letter c : Char} (h : IsDigitOf letter c) :
    letter ∈ ['b', 'B', 'o', 'O', 'x', 'X'] := by
  rcases h with ⟨hl, -⟩ | ⟨hl, -⟩ | ⟨hl, -⟩ <;> revert hl <;> simp +contextual [or_imp]

theorem IsDigitOf.toNat_lt {letter c : Char} (h : IsDigitOf letter c) : c.toNat < 128 := by
  have basic {cs : List Char} (hc : c ∈ cs) (h : IsBasic cs) : c.toNat < 128 := h c hc
  rcases h with ⟨-, hc⟩ | ⟨-, hc⟩ | ⟨-, hc | hc⟩
  · exact basic hc (by decide)
  · exact basic hc (by decide)
  · exact hc.toNat_lt
  · exact basic hc (by decide)

namespace DigitPart

variable {digit : Char → Prop} {cs : List Char}

theorem of_mem (h : DigitPart digit cs) {c : Char} (hc : c ∈ cs) : digit c ∨ c = '_' := by
  induction h with
  | single first =>
    rw [List.mem_singleton] at hc
    exact .inl (hc ▸ first)
  | next first _ ih =>
    rcases List.mem_cons.mp hc with rfl | hc
    · exact .inl first
    · exact ih hc
  | spaced first _ ih =>
    rcases List.mem_cons.mp hc with rfl | hc
    · exact .inl first
    · rcases List.mem_cons.mp hc with rfl | hc
      · exact .inr rfl
      · exact ih hc

theorem exists_cons (h : DigitPart digit cs) : ∃ c rest, cs = c :: rest ∧ digit c := by
  cases h with
  | single first | next first | spaced first => exact ⟨_, _, rfl, first⟩

theorem isBasic (h : DigitPart digit cs) (basic : ∀ c, digit c → c.toNat < 128) : IsBasic cs := by
  intro c hc
  rcases h.of_mem hc with hd | rfl
  · exact basic c hd
  · decide

/-- Digits in a row make up a part of a number. -/
theorem of_forall (nonempty : cs ≠ []) (h : ∀ c ∈ cs, digit c) : DigitPart digit cs := by
  induction cs with
  | nil => exact absurd rfl nonempty
  | cons c cs ih =>
    rw [List.forall_mem_cons] at h
    cases cs with
    | nil => exact .single h.1
    | cons d cs => exact .next h.1 (ih (List.cons_ne_nil d cs) h.2)

end DigitPart

theorem isBasic_of_digitPart {cs : List Char} (h : DigitPart IsTenth cs) : IsBasic cs :=
  h.isBasic fun _ => IsTenth.toNat_lt

theorem IsInteger.isBasic {cs : List Char} (h : IsInteger cs) : IsBasic cs := by
  cases h with
  | decimal _ digits => exact isBasic_of_digitPart digits
  | zero digits => exact digits.isBasic (by rintro _ rfl; decide)
  | radix digits | radixSpaced digits =>
    have behind := digits.isBasic fun _ => IsDigitOf.toNat_lt
    obtain ⟨_, _, -, hd⟩ := digits.exists_cons
    have letter := (by decide : IsBasic ['b', 'B', 'o', 'O', 'x', 'X']) _ hd.letter_mem
    simp [letter, behind]

theorem IsPointFloat.isBasic {cs : List Char} (h : IsPointFloat cs) : IsBasic cs := by
  cases h with
  | fraction digits => simp [isBasic_of_digitPart digits]
  | both whole digits => simp [isBasic_of_digitPart whole, isBasic_of_digitPart digits]
  | trailing whole => simp [isBasic_of_digitPart whole]

theorem IsExponent.isBasic {cs : List Char} (h : IsExponent cs) : IsBasic cs := by
  cases h with
  | plain letter digits =>
    simp [isBasic_of_digitPart digits, (by decide : IsBasic ['e', 'E']) _ letter]
  | signed letter plusMinus digits =>
    simp [isBasic_of_digitPart digits, (by decide : IsBasic ['e', 'E']) _ letter,
      (by decide : IsBasic ['+', '-']) _ plusMinus]

theorem IsFloat.isBasic {cs : List Char} (h : IsFloat cs) : IsBasic cs := by
  cases h with
  | point h => exact h.isBasic
  | whole digits exponent => simp [isBasic_of_digitPart digits, exponent.isBasic]
  | scaled h exponent => simp [h.isBasic, exponent.isBasic]

theorem IsNumber.isBasic {cs : List Char} (h : IsNumber cs) : IsBasic cs := by
  cases h with
  | integer h => exact h.isBasic
  | float h => exact h.isBasic
  | imaginary h letter =>
    have front : IsBasic _ := h.elim isBasic_of_digitPart IsFloat.isBasic
    simp [front, (by decide : IsBasic ['j', 'J']) _ letter]

/-! ### How numbers begin -/

/-- A list that begins with a digit or a point. -/
def BeginsNumber (cs : List Char) : Prop := ∃ c rest, cs = c :: rest ∧ (IsTenth c ∨ c = '.')

theorem BeginsNumber.append {cs : List Char} (h : BeginsNumber cs) (rest : List Char) :
    BeginsNumber (cs ++ rest) := by
  obtain ⟨c, cs, rfl, hc⟩ := h
  exact ⟨c, cs ++ rest, rfl, hc⟩

theorem DigitPart.beginsNumber {cs : List Char} (h : DigitPart IsTenth cs) : BeginsNumber cs := by
  obtain ⟨c, cs, rfl, hc⟩ := h.exists_cons
  exact ⟨c, cs, rfl, .inl hc⟩

theorem IsInteger.beginsNumber {cs : List Char} (h : IsInteger cs) : BeginsNumber cs := by
  cases h with
  | decimal _ digits => exact digits.beginsNumber
  | zero digits =>
    obtain ⟨_, cs, rfl, rfl⟩ := digits.exists_cons
    exact ⟨'0', cs, rfl, .inl rfl⟩
  | radix | radixSpaced => exact ⟨'0', _, rfl, .inl rfl⟩

theorem IsPointFloat.beginsNumber {cs : List Char} (h : IsPointFloat cs) : BeginsNumber cs := by
  cases h with
  | fraction => exact ⟨'.', _, rfl, .inr rfl⟩
  | both whole | trailing whole => exact whole.beginsNumber.append _

theorem IsFloat.beginsNumber {cs : List Char} (h : IsFloat cs) : BeginsNumber cs := by
  cases h with
  | point h => exact h.beginsNumber
  | whole digits => exact digits.beginsNumber.append _
  | scaled h => exact h.beginsNumber.append _

theorem IsNumber.beginsNumber {cs : List Char} (h : IsNumber cs) : BeginsNumber cs := by
  cases h with
  | integer h => exact h.beginsNumber
  | float h => exact h.beginsNumber
  | imaginary h => exact (h.elim DigitPart.beginsNumber IsFloat.beginsNumber).append _

theorem IsSign.isBasic {sign : List Char} (h : IsSign sign) : IsBasic sign := by
  rcases h with rfl | rfl <;> decide

/-- The sign in front of a number can be told from the number. -/
theorem IsSign.append_inj {sign sign' cs cs' : List Char} (h : IsSign sign) (h' : IsSign sign')
    (begins : BeginsNumber cs) (begins' : BeginsNumber cs') (same : sign ++ cs = sign' ++ cs') :
    cs = cs' := by
  obtain ⟨c, rest, rfl, hc⟩ := begins
  obtain ⟨c', rest', rfl, hc'⟩ := begins'
  rcases h with rfl | rfl <;> rcases h' with rfl | rfl
  · exact same
  · obtain ⟨rfl, -⟩ := List.cons.inj same
    rcases hc with hc | hc <;> cases hc
  · obtain ⟨rfl, -⟩ := List.cons.inj same
    rcases hc' with hc' | hc' <;> cases hc'
  · exact (List.cons.inj same).2

/-! ### Zeros in front -/

/-- A digit other than zero behind a zero, and nothing but digits. -/
def IsPadded (cs : List Char) : Prop :=
  ∃ ds, cs = '0' :: ds ∧ (∀ d ∈ ds, IsTenth d) ∧ ∃ d ∈ ds, d ≠ '0'

theorem IsPadded.isTenth {cs : List Char} (h : IsPadded cs) {c : Char} (hc : c ∈ cs) :
    IsTenth c := by
  obtain ⟨ds, rfl, digits, -⟩ := h
  rcases List.mem_cons.mp hc with rfl | hc
  · rfl
  · exact digits c hc

theorem IsPadded.beginsNumber {cs : List Char} (h : IsPadded cs) : BeginsNumber cs := by
  obtain ⟨ds, rfl, -⟩ := h
  exact ⟨'0', ds, rfl, .inl rfl⟩

theorem IsPointFloat.mem {cs : List Char} (h : IsPointFloat cs) : '.' ∈ cs := by
  cases h <;> simp

theorem IsFloat.exists_not_isTenth {cs : List Char} (h : IsFloat cs) : ∃ c ∈ cs, ¬IsTenth c := by
  cases h with
  | point h => exact ⟨'.', h.mem, nofun⟩
  | scaled h => exact ⟨'.', List.mem_append_left _ h.mem, nofun⟩
  | whole _ exponent =>
    cases exponent with
    | plain letter | signed letter =>
      exact ⟨_, List.mem_append_right _ List.mem_cons_self, not_isTenth_of_mem letter rfl⟩

theorem not_isPadded_of_isNumber {cs : List Char} (h : IsNumber cs) : ¬IsPadded cs := by
  intro padded
  cases h with
  | float h =>
    obtain ⟨c, hc, other⟩ := h.exists_not_isTenth
    exact other (padded.isTenth hc)
  | imaginary h letter =>
    exact not_isTenth_of_mem letter rfl
      (padded.isTenth (List.mem_append_right _ (List.mem_singleton_self _)))
  | integer h =>
    obtain ⟨ds, hds, digits, d, hd, other⟩ := padded
    cases h with
    | decimal head =>
      obtain ⟨rfl, -⟩ := List.cons.inj hds
      exact head rfl
    | zero zeros =>
      rcases zeros.of_mem (hds ▸ List.mem_cons_of_mem _ hd) with rfl | rfl
      · exact other rfl
      · cases digits _ hd
    | radix rest | radixSpaced rest =>
      obtain ⟨_, _, -, hr⟩ := rest.exists_cons
      obtain ⟨-, rfl⟩ := List.cons.inj hds
      exact not_isTenth_of_mem hr.letter_mem rfl (digits _ List.mem_cons_self)

/-! ### What the recogniser takes for a numeral -/

/-- One or more digits of any scripts. -/
def Digits (ds : List Char) : Prop := ds ≠ [] ∧ ∀ d ∈ ds, isDecimal d = true

/-- Digits with an optional fraction, or a fraction. -/
inductive Mantissa : List Char → Prop
  | whole {ds : List Char} (digits : Digits ds) : Mantissa ds
  | point {ds fs : List Char} (digits : Digits ds) (fraction : ∀ d ∈ fs, isDecimal d = true) :
    Mantissa (ds ++ '.' :: fs)
  | fraction {fs : List Char} (digits : Digits fs) : Mantissa ('.' :: fs)

/-- An exponent with digits of any scripts. -/
inductive Exponent : List Char → Prop
  | plain {e : Char} {ds : List Char} (letter : e ∈ ['e', 'E']) (digits : Digits ds) :
    Exponent (e :: ds)
  | signed {e sign : Char} {ds : List Char} (letter : e ∈ ['e', 'E'])
    (plusMinus : sign ∈ ['+', '-']) (digits : Digits ds) : Exponent (e :: sign :: ds)

theorem exists_of_dropDigits? {cs rest : List Char} (h : dropDigits? cs = some rest) :
    ∃ ds, Digits ds ∧ cs = ds ++ rest := by
  cases cs with
  | nil => cases h
  | cons c cs =>
    rw [dropDigits?] at h
    split at h
    · next hc =>
      cases h
      refine ⟨c :: cs.takeWhile isDecimal, ⟨List.cons_ne_nil _ _, ?_⟩, ?_⟩
      · exact List.forall_mem_cons.mpr ⟨hc, fun d hd => List.mem_takeWhile_imp hd⟩
      · rw [List.cons_append, List.takeWhile_append_dropWhile]
    · cases h

theorem exists_of_dropMantissa? {cs rest : List Char} (h : dropMantissa? cs = some rest) :
    ∃ ms, Mantissa ms ∧ cs = ms ++ rest := by
  unfold dropMantissa? at h
  split at h
  · obtain ⟨fs, hfs, rfl⟩ := exists_of_dropDigits? h
    exact ⟨_, .fraction hfs, rfl⟩
  · split at h
    · next behind hpoint =>
      cases h
      obtain ⟨ds, hds, rfl⟩ := exists_of_dropDigits? hpoint
      refine ⟨ds ++ '.' :: behind.takeWhile isDecimal,
        .point hds fun d hd => List.mem_takeWhile_imp hd, ?_⟩
      rw [List.append_assoc, List.cons_append, List.takeWhile_append_dropWhile]
    · obtain ⟨ds, hds, rfl⟩ := exists_of_dropDigits? h
      exact ⟨ds, .whole hds, rfl⟩

theorem exponent_of_isExponentOrEmpty {cs : List Char} (h : isExponentOrEmpty cs = true) :
    cs = [] ∨ Exponent cs := by
  have whole {cs : List Char} (h : (dropDigits? cs == some []) = true) : Digits cs := by
    obtain ⟨ds, hds, rfl⟩ := exists_of_dropDigits? (eq_of_beq h)
    rwa [List.append_nil]
  cases cs with
  | nil => exact .inl rfl
  | cons e cs =>
    right
    obtain ⟨letter, h⟩ := Bool.and_eq_true_iff.mp h
    have letter : e ∈ ['e', 'E'] := by simpa using letter
    split at h
    · next sign behind =>
      split at h
      · next plusMinus => exact .signed letter (by simpa using plusMinus) (whole h)
      · exact .plain letter (whole h)
    · cases h

theorem exists_of_isNumeral {cs : List Char} (h : isNumeral cs = true) :
    ∃ sign ms es, IsSign sign ∧ Mantissa ms ∧ (es = [] ∨ Exponent es) ∧
      cs = sign ++ (ms ++ es) := by
  have parts {sign body rest : List Char} (minus : IsSign sign)
      (mantissa : dropMantissa? body = some rest) (exponent : isExponentOrEmpty rest = true) :
      ∃ sign' ms es, IsSign sign' ∧ Mantissa ms ∧ (es = [] ∨ Exponent es) ∧
        sign ++ body = sign' ++ (ms ++ es) := by
    obtain ⟨ms, hms, rfl⟩ := exists_of_dropMantissa? mantissa
    exact ⟨sign, ms, rest, minus, hms, exponent_of_isExponentOrEmpty exponent, rfl⟩
  unfold isNumeral at h
  split at h <;> dsimp only at h
  · split at h
    · next mantissa => exact parts (.inr rfl) mantissa h
    · cases h
  · split at h
    · next mantissa => exact parts (.inl rfl) mantissa h
    · cases h

/-! ### Numerals that are numbers -/

theorem isTenth_of_isDecimal {c : Char} (h : isDecimal c = true) (basic : c.toNat < 128) :
    IsTenth c := by
  rwa [isDecimal, if_pos basic] at h

theorem Digits.digitPart {ds : List Char} (h : Digits ds) (basic : IsBasic ds) :
    DigitPart IsTenth ds :=
  .of_forall h.1 fun d hd => isTenth_of_isDecimal (h.2 d hd) (basic d hd)

theorem Exponent.isExponent {cs : List Char} (h : Exponent cs) (basic : IsBasic cs) :
    IsExponent cs := by
  cases h with
  | plain letter digits => exact .plain letter (digits.digitPart (isBasic_cons.mp basic).2)
  | signed letter plusMinus digits =>
    exact .signed letter plusMinus
      (digits.digitPart (isBasic_cons.mp (isBasic_cons.mp basic).2).2)

/-- Digits of the basic set make up a whole number unless there are zeros in front. -/
theorem Digits.isInteger {ds : List Char} (h : Digits ds) (basic : IsBasic ds)
    (unpadded : ¬IsPadded ds) : IsInteger ds := by
  have part := h.digitPart basic
  obtain ⟨nonempty, digits⟩ := h
  cases ds with
  | nil => exact absurd rfl nonempty
  | cons d ds =>
    by_cases head : d = '0'
    · subst head
      have tenths : ∀ c ∈ ds, IsTenth c := fun c hc =>
        have member := List.mem_cons_of_mem '0' hc
        isTenth_of_isDecimal (digits c member) (basic c member)
      have zeros : ∀ c ∈ ds, c = '0' := fun c hc =>
        Decidable.byContradiction fun other => unpadded ⟨ds, rfl, tenths, c, hc, other⟩
      exact .zero (.of_forall (List.cons_ne_nil _ _) (List.forall_mem_cons.mpr ⟨rfl, zeros⟩))
    · exact .decimal head part

/-- A numeral of the basic set is a number unless it is a whole number with zeros in front. -/
theorem Mantissa.isNumber {ms es : List Char} (h : Mantissa ms) (exponent : es = [] ∨ Exponent es)
    (basic : IsBasic (ms ++ es)) (unpadded : ¬IsPadded (ms ++ es)) : IsNumber (ms ++ es) := by
  obtain ⟨hms, hes⟩ := isBasic_append.mp basic
  have pointed {cs : List Char} (h : IsPointFloat cs) : IsNumber (cs ++ es) := by
    rcases exponent with rfl | e
    · rw [List.append_nil]
      exact .float (.point h)
    · exact .float (.scaled h (e.isExponent hes))
  cases h with
  | whole digits =>
    rcases exponent with rfl | e
    · rw [List.append_nil] at unpadded ⊢
      exact .integer (digits.isInteger hms unpadded)
    · exact .float (.whole (digits.digitPart hms) (e.isExponent hes))
  | fraction digits => exact pointed (.fraction (digits.digitPart (isBasic_cons.mp hms).2))
  | @point ds fs digits fraction =>
    obtain ⟨hds, hfs⟩ := isBasic_append.mp hms
    by_cases none : fs = []
    · subst none
      exact pointed (.trailing (digits.digitPart hds))
    · have hfs := (isBasic_cons.mp hfs).2
      exact pointed (.both (digits.digitPart hds) (Digits.digitPart ⟨none, fraction⟩ hfs))

/-! ### Spellings that are no literals -/

/-- How the spelling of a default value fails to be a literal: a numeral with digits of another
script, a whole number with zeros in front, an unescaped quote or the end of a line between the
quotes, or half of a pair. -/
inductive Misspelt (s : String) : Prop
  | foreign (numeral : isNumeral s.toList = true) (others : ¬IsBasic s.toList)
  | padded {sign cs : List Char} (spelt : s.toList = sign ++ cs) (minus : IsSign sign)
    (h : IsPadded cs)
  | broken {body : List Char} (spelt : s.toList = '"' :: (body ++ ['"'])) (unescaped : '\\' ∉ body)
    {c : Char} (hc : c ∈ body) (ends : c ∈ ['"', '\n', '\r', '\x00'])
  | halved (half : holdsHalf s = true)

theorem QuotedBody.of_forall {body : List Char}
    (h : ∀ c ∈ body, c ∉ ['"', '\\', '\n', '\r', '\x00']) : QuotedBody body := by
  induction body with
  | nil => exact .empty
  | cons c body ih =>
    rw [List.forall_mem_cons] at h
    exact .plain h.1 (ih h.2)

theorem holdsHalf_of_isBasic {s : String} (h : IsBasic s.toList) : holdsHalf s = false := by
  have absent : s.toList.contains mark = false := by
    rw [List.contains_eq_mem, decide_eq_false_iff_not]
    intro hmark
    exact absurd (h mark hmark) (by decide)
  rw [holdsHalf, absent, Bool.false_and]

theorem isNumeral_of_quote (cs : List Char) : isNumeral ('"' :: cs) = false := by
  simp [isNumeral, dropMantissa?, dropDigits?, show isDecimal '"' = false from rfl]

theorem exists_of_isPlainString {cs : List Char} (h : isPlainString cs = true) :
    ∃ body, cs = '"' :: (body ++ ['"']) ∧ '\\' ∉ body := by
  simp only [isPlainString, Bool.and_eq_true, decide_eq_true_eq, beq_iff_eq, Bool.not_eq_true',
    List.contains_eq_mem, decide_eq_false_iff_not] at h
  obtain ⟨⟨⟨long, first⟩, last⟩, unescaped⟩ := h
  obtain ⟨rest, rfl⟩ := List.head?_eq_some_iff.mp first
  obtain ⟨before, hbefore⟩ := List.getLast?_eq_some_iff.mp last
  cases before with
  | nil =>
    cases hbefore
    contradiction
  | cons c body =>
    obtain ⟨rfl, rfl⟩ := List.cons.inj hbefore
    refine ⟨body, rfl, fun hc => unescaped ?_⟩
    exact List.mem_cons_of_mem _ (List.mem_append_left _ hc)

theorem QuotedBody.not_mem {body : List Char} (h : QuotedBody body) (unescaped : '\\' ∉ body)
    {c : Char} (ends : c ∈ ['"', '\n', '\r', '\x00']) : c ∉ body := by
  induction h with
  | empty => exact List.not_mem_nil
  | escaped => exact absurd List.mem_cons_self unescaped
  | plain inLine _ ih =>
    have unescaped := fun hc => unescaped (List.mem_cons_of_mem _ hc)
    intro hc
    rcases List.mem_cons.mp hc with rfl | hc
    · refine inLine ?_
      revert ends
      simp +contextual [or_imp]
    · exact ih unescaped hc

namespace IsLiteral

theorem not_misspelt_of_word {s : String} (h : s ∈ ["True", "False", "None"]) : ¬Misspelt s := by
  simp only [List.mem_cons, List.not_mem_nil, or_false] at h
  have basic : IsBasic s.toList := by rcases h with rfl | rfl | rfl <;> decide
  intro misspelt
  cases misspelt with
  | foreign _ others => exact others basic
  | halved half => simp [holdsHalf_of_isBasic basic] at half
  | padded hs minus padded =>
    obtain ⟨ds, rfl, -⟩ := padded
    rcases h with rfl | rfl | rfl <;> rcases minus with rfl | rfl <;> cases hs
  | broken hs => rcases h with rfl | rfl | rfl <;> cases hs

theorem not_misspelt_of_number {s : String} {sign cs : List Char} (spelt : s.toList = sign ++ cs)
    (minus : IsSign sign) (h : IsNumber cs) : ¬Misspelt s := by
  have basic : IsBasic s.toList := by simp [spelt, minus.isBasic, h.isBasic]
  intro misspelt
  cases misspelt with
  | foreign _ others => exact others basic
  | halved half => simp [holdsHalf_of_isBasic basic] at half
  | padded hs minus' padded =>
    have same := minus.append_inj minus' h.beginsNumber padded.beginsNumber (spelt.symm.trans hs)
    exact not_isPadded_of_isNumber h (same ▸ padded)
  | broken hs =>
    obtain ⟨c, rest, rfl, hc⟩ := h.beginsNumber
    rcases minus with rfl | rfl <;> cases spelt.symm.trans hs
    rcases hc with hc | hc <;> cases hc

theorem not_misspelt_of_quoted {s : String} {body : List Char}
    (spelt : s.toList = '"' :: (body ++ ['"'])) (h : QuotedBody body)
    (whole : holdsHalf s = false) : ¬Misspelt s := by
  intro misspelt
  cases misspelt with
  | foreign numeral =>
    rw [spelt, isNumeral_of_quote] at numeral
    cases numeral
  | halved half => simp [whole] at half
  | padded hs minus padded =>
    obtain ⟨ds, rfl, -⟩ := padded
    rcases minus with rfl | rfl <;> cases spelt.symm.trans hs
  | broken hs unescaped hc ends =>
    have same := List.append_cancel_right (List.cons.inj (spelt.symm.trans hs)).2
    exact (same ▸ h).not_mem unescaped ends hc

theorem not_misspelt {s : String} (h : IsLiteral s) : ¬Misspelt s := by
  cases h with
  | word h => exact not_misspelt_of_word h
  | number spelt minus h => exact not_misspelt_of_number spelt minus h
  | quoted spelt h whole => exact not_misspelt_of_quoted spelt h whole

/-! ### Spellings that are literals -/

theorem of_isNumeral {s : String} (h : isNumeral s.toList = true) (fine : ¬Misspelt s) :
    IsLiteral s := by
  have basic : IsBasic s.toList := Decidable.byContradiction fun others => fine (.foreign h others)
  obtain ⟨sign, ms, es, minus, mantissa, exponent, spelt⟩ := exists_of_isNumeral h
  have unpadded : ¬IsPadded (ms ++ es) := fun padded => fine (.padded spelt minus padded)
  rw [spelt, isBasic_append] at basic
  exact .number spelt minus (mantissa.isNumber exponent basic.2 unpadded)

theorem of_isPlainString {s : String} (h : isPlainString s.toList = true) (fine : ¬Misspelt s) :
    IsLiteral s := by
  obtain ⟨body, spelt, unescaped⟩ := exists_of_isPlainString h
  have inLine : ∀ c ∈ body, c ∉ ['"', '\\', '\n', '\r', '\x00'] := by
    intro c hc ends
    by_cases backslash : c = '\\'
    · exact unescaped (backslash ▸ hc)
    · exact fine (.broken spelt unescaped hc (by simpa [backslash] using ends))
  have whole : holdsHalf s = false := Bool.eq_false_iff.mpr fun half => fine (.halved half)
  exact .quoted spelt (.of_forall inLine) whole

theorem iff_not_misspelt {s : String}
    (h : s ∈ ["True", "False", "None"] ∨ isNumeral s.toList = true ∨ isPlainString s.toList = true) :
    IsLiteral s ↔ ¬Misspelt s := by
  refine ⟨not_misspelt, fun fine => ?_⟩
  rcases h with h | h | h
  · exact .word h
  · exact of_isNumeral h fine
  · exact of_isPlainString h fine

end IsLiteral

/-! ### Default values -/

/-- A spelling is one of the three words, for the default value that it stands for, or the default
value itself without the blanks at its ends. -/
theorem literal?_cases {text s : String} (h : literal? text = some s) :
    (strip text, s) ∈ [("true", "True"), ("false", "False"), ("null", "None")] ∨
      s = strip text ∧ (isNumeral s.toList = true ∨ isPlainString s.toList = true) := by
  have chars : stripChars text.toList = (strip text).toList := by rw [strip, String.toList_ofList]
  simp only [literal?, chars, String.ofList_toList] at h
  split at h
  · next same =>
    cases h
    simp [same]
  · split at h
    · next same =>
      cases h
      simp [same]
    · split at h
      · next same =>
        cases h
        simp [same]
      · split at h
        · next plain =>
          cases h
          exact .inr ⟨rfl, Bool.or_eq_true_iff.mp plain⟩
        · cases h

/-- A spelling is a word or the default value as it stands in the schema, and a reader of the
emitted language takes it for a literal unless it is misspelt. -/
theorem literal_reads_iff {text s : String} (h : literal? text = some s) :
    ((strip text, s) ∈ [("true", "True"), ("false", "False"), ("null", "None")] ∨ s = strip text) ∧
      (IsLiteral s ↔ ¬Misspelt s) := by
  rcases literal?_cases h with word | ⟨same, plain⟩
  · have known : s ∈ ["True", "False", "None"] := by
      simp only [List.mem_cons, Prod.mk.injEq, List.not_mem_nil, or_false] at word ⊢
      exact word.imp And.right (Or.imp And.right And.right)
    exact ⟨.inl word, IsLiteral.iff_not_misspelt (.inl known)⟩
  · exact ⟨.inr same, IsLiteral.iff_not_misspelt (.inr plain)⟩

/-- A negative number is copied without the blanks around it, and is read. -/
theorem literal_reads_iff_negative :
    literal? " -42\n" = some "-42" ∧ "-42" = strip " -42\n" ∧ IsLiteral "-42" ∧ ¬Misspelt "-42" := by
  have copied : literal? " -42\n" = some "-42" := by decide
  have digits : DigitPart IsTenth ['4', '2'] :=
    .next (rfl : '4'.isDigit = true) (.single (rfl : '2'.isDigit = true))
  have literal : IsLiteral "-42" :=
    .number (rfl : "-42".toList = ['-'] ++ ['4', '2']) (.inr rfl)
      (.integer (.decimal (by decide) digits))
  obtain ⟨place, reads⟩ := literal_reads_iff copied
  exact ⟨copied, place.resolve_left (by decide), literal, reads.mp literal⟩

/-- A text with a quote between the quotes is copied too, and no reader takes it for a literal. -/
theorem quote_inside_no_literal :
    literal? "\"a\"b\"" = some "\"a\"b\"" ∧ ¬IsLiteral "\"a\"b\"" := by
  refine ⟨by decide, fun literal => literal.not_misspelt ?_⟩
  have spelt : "\"a\"b\"".toList = '"' :: (['a', '"', 'b'] ++ ['"']) := rfl
  exact .broken spelt (by decide) (by decide : '"' ∈ ['a', '"', 'b']) (by decide)

end EngineBindings.Text
