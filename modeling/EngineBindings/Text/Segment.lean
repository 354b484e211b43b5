/-! Pieces of text: prefixes, occurrences, fields between separators, lines, blanks at the ends.

Everything works on lists of characters, so that each function is a short recursion on its
input; the versions on `String` only convert at the ends. -/
namespace EngineBindings.Text

/-! ### Prefixes and occurrences -/

/-- What follows `lead` at the head of a list, if the list starts with it. -/
def dropPrefix? : (lead cs : List Char) → Option (List Char)
  | [], cs => some cs
  | _ :: _, [] => none
  | l :: lead, c :: cs => if l = c then dropPrefix? lead cs else none

theorem length_of_dropPrefix? {lead cs rest : List Char} (h : dropPrefix? lead cs = some rest) :
    cs.length = lead.length + rest.length := by
  induction lead generalizing cs with
  | nil => simp [dropPrefix?] at h; simp [h]
  | cons l lead ih =>
    cases cs with
    | nil => simp [dropPrefix?] at h
    | cons c cs =>
      simp only [dropPrefix?] at h
      split at h
      · simp [ih h, Nat.add_right_comm]
      · simp at h

/-- Whether a text starts with another. -/
def startsWith (s lead : String) : Bool :=
  (dropPrefix? lead.toList s.toList).isSome

/-- Whether `needle` occurs somewhere in a list, without a gap. -/
def occursIn (needle : List Char) : List Char → Bool
  | [] => needle.isEmpty
  | c :: cs => (dropPrefix? needle (c :: cs)).isSome || occursIn needle cs

/-- Whether a text contains another. -/
def contains (s needle : String) : Bool :=
  occursIn needle.toList s.toList

/-! ### Fields between separators -/

/-- The fields of a list between occurrences of `sep`: one more than there are separators. -/
def fields (sep : Char) : List Char → List (List Char)
  | [] => [[]]
  | c :: cs =>
    if c = sep then [] :: fields sep cs
    else
      match fields sep cs with
      | [] => [[c]]
      | field :: rest => (c :: field) :: rest

/-- The fields of a text between occurrences of `sep`. -/
def splitFields (sep : Char) (s : String) : List String :=
  (fields sep s.toList).map String.ofList

/-- Texts one after another with `sep` between them. -/
def join (sep : String) : List String → String
  | [] => ""
  | s :: rest => rest.foldl (fun done t => done ++ sep ++ t) s

/-- What stands before the last `sep` of a list and what follows it; nothing and the whole
list when there is no `sep`. -/
def splitLast (sep : Char) (cs : List Char) : List Char × List Char :=
  let tail := (cs.reverse.takeWhile (· ≠ sep)).reverse
  (((cs.reverse.dropWhile (· ≠ sep)).drop 1).reverse, tail)

/-- The dotted owner of a name and its last part: `("A.B", "C")` for `A.B.C`, and an empty
owner for a name without a dot. -/
def splitOwner (name : String) : String × String :=
  let parts := splitLast '.' name.toList
  (String.ofList parts.1, String.ofList parts.2)

/-! ### Lines -/

/-- Line ends in one form: `\r\n` and a lone `\r` become `\n`. -/
def unixNewlines : List Char → List Char
  | [] => []
  | '\r' :: '\n' :: cs => '\n' :: unixNewlines cs
  | c :: cs => (if c = '\r' then '\n' else c) :: unixNewlines cs

/-- A text with every line end written `\n`. -/
def normalizeNewlines (s : String) : String :=
  String.ofList (unixNewlines s.toList)

/-- `width` spaces; none for a negative width. -/
def spaces (width : Int) : String :=
  String.ofList (List.replicate width.toNat ' ')

/-- Lines joined into a text, each that is not empty shifted right by `width` spaces. -/
def indentLines (lines : List String) (width : Int) : String :=
  join "\n" (lines.map fun line => if line.isEmpty then "" else spaces width ++ line)

/-- Drops the empty lines at the end. -/
def dropTrailingEmpty (lines : List String) : List String :=
  (lines.reverse.dropWhile (·.isEmpty)).reverse

/-! ### Blanks

A blank is a character with Unicode's whitespace property, or one of the four information
separators U+001C to U+001F. `strip` takes all blanks off both ends and touches nothing
between the first and the last character that is no blank. -/

/-- A whitespace character of any script, or an information separator. -/
def isBlank (c : Char) : Bool :=
  let n := c.toNat
  (9 ≤ n && n ≤ 13) || (28 ≤ n && n ≤ 32) || n == 0x85 || n == 0xA0 || n == 0x1680 ||
    (0x2000 ≤ n && n ≤ 0x200A) || n == 0x2028 || n == 0x2029 || n == 0x202F || n == 0x205F ||
    n == 0x3000

/-- Drops the elements that satisfy `p` from the end of a list. -/
def dropEndWhile (p : Char → Bool) (cs : List Char) : List Char :=
  (cs.reverse.dropWhile p).reverse

/-- A list of characters without the blanks at its ends. -/
def stripChars (cs : List Char) : List Char :=
  dropEndWhile isBlank (cs.dropWhile isBlank)

/-- A text without the blanks at its ends. -/
def strip (s : String) : String :=
  String.ofList (stripChars s.toList)

theorem length_dropEndWhile_le (p : Char → Bool) (cs : List Char) :
    (dropEndWhile p cs).length ≤ cs.length := by
  simpa [dropEndWhile] using (List.dropWhile_sublist p (l := cs.reverse)).length_le

theorem length_stripChars_le (cs : List Char) : (stripChars cs).length ≤ cs.length :=
  Nat.le_trans (length_dropEndWhile_le _ _) (List.dropWhile_sublist isBlank).length_le

/-! ### Order -/

/-- Texts in ascending order of their characters. -/
def sortTexts (texts : List String) : List String :=
  texts.mergeSort fun a b => decide (a ≤ b)

/-- Distinct texts in ascending order. -/
def sortDistinct (texts : List String) : List String :=
  sortTexts texts.eraseDups

end EngineBindings.Text
