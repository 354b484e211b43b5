import EngineBindings.Text.Normal.Character
import EngineBindings.Text.Syllable

/-! Normal forms of texts.

Texts that look alike may differ in their characters: a letter with a mark is one character or two,
and many characters are others in another form. The normal form expands every character, brings the
marks behind a letter into the order of their classes, and composes what composes. The syllables of
Hangul are put together by rule; everything else is in tables. -/
namespace EngineBindings.Text

/-! ### Syllables -/

/-- The letters that a syllable expands to: an initial one, a vowel, and for most a final one. -/
def Syllable.letters (s : Syllable) : List Char :=
  [Char.ofNat (0x1100 + s.initial), Char.ofNat (0x1161 + s.vowel)] ++
    if s.final = 0 then [] else [Char.ofNat (0x11A7 + s.final)]

/-- The syllable of an initial letter and a vowel, or of a syllable without a final letter and that
letter. -/
def joined? (first second : Char) : Option Syllable :=
  let initial := first.toNat - 0x1100
  let vowel := second.toNat - 0x1161
  let final := second.toNat - 0x11A7
  if 0x1100 ≤ first.toNat ∧ initial < 19 ∧ 0x1161 ≤ second.toNat ∧ vowel < 21 then
    some ⟨initial, vowel, 0⟩
  else
    match syllable? first with
    | some s =>
      if s.final = 0 ∧ 0x11A7 < second.toNat ∧ final < 28 then some { s with final } else none
    | none => none

/-! ### Expanding -/

/-- The characters at a place of a run that expands each to as many. -/
def expansionIn? (n : Nat) : Nat × Nat × String → Option (List Char)
  | (first, width, chars) =>
    if n < first then none
    else
      match (chars.toList.drop ((n - first) * width)).take width with
      | [] => none
      | found => some found

/-- What a character expands to, which is itself for most. -/
def expanded (c : Char) : List Char :=
  let n := c.toNat
  let listed := (expansions.findSome? (expansionIn? n)).or
    ((noteExpansions.lookup n).map (·.map Char.ofNat))
  (((syllable? c).map (·.letters)).or listed).getD [c]

/-! ### Ordering marks -/

/-- Puts a character in front of others, behind the marks of lower classes. -/
def insertMark (c : Char) : List Char → List Char
  | [] => [c]
  | d :: ds =>
    if 0 < markClass d ∧ markClass d < markClass c then d :: insertMark c ds else c :: d :: ds

/-- Characters with the marks behind each of them in the order of their classes. -/
def orderMarks : List Char → List Char
  | [] => []
  | c :: cs => insertMark c (orderMarks cs)

theorem length_insertMark (c : Char) (cs : List Char) :
    (insertMark c cs).length = cs.length + 1 := by
  induction cs with
  | nil => rfl
  | cons d ds ih =>
    unfold insertMark
    split <;> simp [ih]

/-- No mark is lost. -/
theorem length_orderMarks (cs : List Char) : (orderMarks cs).length = cs.length := by
  induction cs with
  | nil => rfl
  | cons c cs ih => rw [orderMarks, length_insertMark, ih, List.length_cons]

/-! ### Composing -/

/-- What follows a character in characters that come in turn with others. -/
def partner? (c : Char) : List Char → Option Char
  | first :: composed :: rest => if first = c then some composed else partner? c rest
  | _ => none

/-- What two characters compose to. -/
def composite? (first second : Char) : Option Char :=
  let inPlane := composites.findSome? fun entry =>
    if entry.1 = second.toNat then partner? first entry.2.toList else none
  let beyond := highComposites.findSome? fun entry =>
    if entry.1 = first.toNat ∧ entry.2.1 = second.toNat then some (Char.ofNat entry.2.2) else none
  (((joined? first second).map (·.char)).or inPlane).or beyond

/-- Composes characters behind one that others may be composed with. Those that have been passed
come in reverse; `last` is the class of the last of them. A mark is blocked by one of its own class
or a higher one. -/
def composeBehind (base : Char) (passed : List Char) (last : Nat) : List Char → List Char
  | [] => base :: passed.reverse
  | c :: cs =>
    let k := markClass c
    let isOver := k = 0 ∧ last ≠ 0
    if ¬isOver ∧ last ≠ 0 ∧ k ≤ last then composeBehind base (c :: passed) last cs
    else
      match if isOver then none else composite? base c with
      | some composed => composeBehind composed passed last cs
      | none =>
        if k = 0 then base :: (passed.reverse ++ composeBehind c [] 0 cs)
        else composeBehind base (c :: passed) k cs

/-- Characters with everything composed that composes. -/
def compose : List Char → List Char
  | [] => []
  | c :: cs => composeBehind c [] 0 cs

/-- The normal form of characters. -/
def normal (cs : List Char) : List Char :=
  compose (orderMarks (cs.flatMap expanded))

end EngineBindings.Text
