/-! Halves of pairs.

A character beyond the basic plane is spelt by a pair of code units. An escape may give one half of
a pair without the other; that is no character, and no encoding of files has a place for it, yet a
document may hold it. A text spells a half by a mark and a stand-in behind it, and the mark itself
by two marks, so that the code points of a text can always be told (`codes_flatMap_spelling`). The
mark is the last character before the halves: texts keep the order of their code points. -/
namespace EngineBindings.Text

/-! ### Code points -/

/-- Whether a code unit is half of a pair. -/
def isHalf (unit : Nat) : Bool :=
  0xD800 ≤ unit && unit < 0xE000

/-- The character that a pair of code units spells. -/
def ofPair (high low : Nat) : Char :=
  Char.ofNat (0x10000 + (high - 0xD800) * 0x400 + (low - 0xDC00))

/-- Whether half of a pair is one of those that stand in names of files for a byte that is no
text. -/
def isByteEscape (unit : Nat) : Bool :=
  0xDC80 ≤ unit && unit < 0xDD00

/-! ### Spelling -/

/-- The mark in front of a stand-in. -/
def mark : Char := '\ud7ff'

/-- How far behind the halves their stand-ins lie. -/
def standInOffset : Nat := 0xF0000

/-- How a text spells a code point. -/
def spelling (code : Nat) : List Char :=
  if isHalf code then [mark, Char.ofNat (standInOffset + code)]
  else if code = mark.toNat then [mark, mark]
  else [Char.ofNat code]

/-- The code point that a character behind a mark makes with it. -/
def markedCode (c : Char) : Nat :=
  if c = mark then c.toNat else c.toNat - standInOffset

/-- The code points that characters spell. -/
def codes : List Char → List Nat
  | [] => []
  | [c] => [c.toNat]
  | c :: d :: rest => if c = mark then markedCode d :: codes rest else c.toNat :: codes (d :: rest)

theorem toNat_ofNat {n : Nat} (h : n.isValidChar) : (Char.ofNat n).toNat = n := by
  rw [Char.ofNat, dif_pos h]
  rfl

/-- A code point in front of others is told from its spelling. -/
theorem codes_spelling_append {code : Nat} (h : isHalf code ∨ code.isValidChar) (cs : List Char) :
    codes (spelling code ++ cs) = code :: codes cs := by
  unfold spelling
  split
  · next half =>
    have bounds : 0xD800 ≤ code ∧ code < 0xE000 := by simpa [isHalf] using half
    have number : (Char.ofNat (standInOffset + code)).toNat = standInOffset + code :=
      toNat_ofNat (by right; simp only [standInOffset]; omega)
    have other : Char.ofNat (standInOffset + code) ≠ mark := by
      intro same
      have : mark.toNat = standInOffset + code := same ▸ number
      have : mark.toNat = 0xD7FF := rfl
      simp only [standInOffset] at *
      omega
    simp [codes, markedCode, other, number]
  · next notHalf =>
    have valid := h.resolve_left notHalf
    split
    · next same => simp [codes, markedCode, same]
    · next other =>
      have number := toNat_ofNat valid
      have notMark : Char.ofNat code ≠ mark := by
        intro same
        exact other (same ▸ number.symm)
      cases cs <;> simp [codes, notMark, number]

/-- The code points of a text are those that it was spelt from. -/
theorem codes_flatMap_spelling {cs : List Nat} (h : ∀ code ∈ cs, isHalf code ∨ code.isValidChar) :
    codes (cs.flatMap spelling) = cs := by
  induction cs with
  | nil => rfl
  | cons code cs ih =>
    rw [List.flatMap_cons, codes_spelling_append (h code List.mem_cons_self)]
    rw [ih fun c hc => h c (List.mem_cons_of_mem code hc)]

/-! ### Texts -/

/-- The code points of a text. -/
def codesOf (s : String) : List Nat :=
  codes s.toList

/-- The text of code points. -/
def ofCodes (cs : List Nat) : String :=
  String.ofList (cs.flatMap spelling)

/-- The text that characters make, among which a mark is only a character. -/
def ofCharacters (s : String) : String :=
  if s.toList.contains mark then ofCodes (s.toList.map (·.toNat)) else s

/-- A text with its code points spelt as they are to be; marks that stand for nothing are gone. -/
def respelt (s : String) : String :=
  if s.toList.contains mark then ofCodes (codesOf s) else s

/-- Whether a text holds half of a pair. -/
def holdsHalf (s : String) : Bool :=
  s.toList.contains mark && (codesOf s).any isHalf

/-- The characters of a text that holds no half of a pair. -/
def characters? (s : String) : Option String :=
  if !s.toList.contains mark then some s
  else if holdsHalf s then none
  else some (String.ofList ((codesOf s).map Char.ofNat))

/-- How many code points a text has. -/
def codeCount (s : String) : Nat :=
  (codesOf s).length

/-- The first code points of a text. -/
def takeCodes (limit : Nat) (s : String) : String :=
  ofCodes ((codesOf s).take limit)

/-- How many bytes the name of a file has. -/
def nameSize (s : String) : Nat :=
  (codesOf s).foldl (fun size code =>
    size + if isByteEscape code then 1 else (Char.ofNat code).utf8Size) 0

end EngineBindings.Text
