/-! Coded character sets.

A set gives characters numbers. It is written down in runs of characters with successive numbers,
with gaps where a number has no character. A set of rows has 94 cells in a row. A grid says which
pairs of bytes stand for the numbers: the leading bytes count rows and the trailing ones cells, both
through ranges of bytes. -/
namespace EngineBindings

/-! ### Ranges -/

/-- The place of a number in ranges that are counted through. -/
def placeInRanges? : List (Nat × Nat) → Nat → Option Nat
  | [], _ => none
  | (first, last) :: rest, n =>
    if first ≤ n ∧ n ≤ last then some (n - first)
    else (placeInRanges? rest n).map (· + (last + 1 - first))

/-- The number at a place in ranges that are counted through. -/
def nthInRanges? : List (Nat × Nat) → Nat → Option Nat
  | [], _ => none
  | (first, last) :: rest, i =>
    if i < last + 1 - first then some (first + i) else nthInRanges? rest (i - (last + 1 - first))

/-- Counting to the place of a number finds the number. -/
theorem nthInRanges?_of_placeInRanges? {ranges : List (Nat × Nat)} {n i : Nat}
    (h : placeInRanges? ranges n = some i) : nthInRanges? ranges i = some n := by
  induction ranges generalizing i with
  | nil => simp [placeInRanges?] at h
  | cons range rest ih =>
    obtain ⟨first, last⟩ := range
    simp only [placeInRanges?] at h
    split at h
    · next inside =>
      obtain rfl : n - first = i := by simpa using h
      simp only [nthInRanges?]
      rw [if_pos (by omega), Nat.add_sub_cancel' inside.1]
    · obtain ⟨j, hj, rfl⟩ := Option.map_eq_some_iff.1 h
      simp only [nthInRanges?]
      rw [if_neg (by omega), Nat.add_sub_cancel]
      exact ih hj

/-! ### Grids -/

/-- Pairs of bytes that stand for numbers. -/
structure Grid where
  leads : List (Nat × Nat)
  trails : List (Nat × Nat)

namespace Grid

/-- How many cells a row has. -/
def width (g : Grid) : Nat :=
  g.trails.foldl (fun n range => n + (range.2 + 1 - range.1)) 0

/-- The number that a pair of bytes stands for. -/
def cell? (g : Grid) (lead trail : Nat) : Option Nat := do
  return (← placeInRanges? g.leads lead) * g.width + (← placeInRanges? g.trails trail)

/-- The pair of bytes that stands for a number. -/
def pair? (g : Grid) (cell : Nat) : Option (Nat × Nat) := do
  return (← nthInRanges? g.leads (cell / g.width), ← nthInRanges? g.trails (cell % g.width))

/-- Seven bits. -/
def low : Grid := ⟨[(0x21, 0x7E)], [(0x21, 0x7E)]⟩

/-- Both bytes with the eighth bit. -/
def high : Grid := ⟨[(0xA1, 0xFE)], [(0xA1, 0xFE)]⟩

/-- Two rows of 94 for each leading byte, around single bytes of katakana. -/
def kana : Grid := ⟨[(0x81, 0x9F), (0xE0, 0xFC)], [(0x40, 0x7E), (0x80, 0xFC)]⟩

/-- Rows of 157 cells. -/
def big5 : Grid := ⟨[(0x81, 0xFE)], [(0x40, 0x7E), (0xA1, 0xFE)]⟩

/-- Rows of 190 cells. -/
def gbk : Grid := ⟨[(0x81, 0xFE)], [(0x40, 0x7E), (0x80, 0xFE)]⟩

/-- Two rows of 94 for each leading byte, behind the syllables that are put together. -/
def johab : Grid := ⟨[(0xD9, 0xDE), (0xE0, 0xF9)], [(0x31, 0x7E), (0x91, 0xFE)]⟩

end Grid

/-! ### Sets -/

/-- The characters of the numbers from zero on. -/
structure CharSet where
  cells : Array Char

namespace CharSet

/-- What stands for a number without a character. -/
def gap : Char := Char.ofNat 0xFFFD

/-- The character of a number. -/
def char? (s : CharSet) (cell : Nat) : Option Char :=
  s.cells[cell]?.filter (· ≠ gap)

/-- The first number of a character. -/
def cell? (s : CharSet) (c : Char) : Option Nat :=
  if c = gap then none else s.cells.findIdx? (· = c)

/-- The number of a character is a number of that character. -/
theorem char?_of_cell? {s : CharSet} {c : Char} {cell : Nat} (h : s.cell? c = some cell) :
    s.char? cell = some c := by
  unfold cell? at h
  split at h
  · simp at h
  · next present =>
    obtain ⟨inside, same, -⟩ := Array.findIdx?_eq_some_iff_getElem.1 h
    have same : s.cells[cell] = c := by simpa using same
    simp [char?, inside, same, present]

/-- Puts characters at successive numbers in place of what is there. -/
def patch (s : CharSet) (cell : Nat) (chars : List Char) : CharSet :=
  let filled := s.cells ++ Array.replicate (cell + chars.length - s.cells.size) gap
  ⟨(chars.zipIdx cell).foldl (fun cells entry => cells.setIfInBounds entry.2 entry.1) filled⟩

/-- The set without characters. -/
def empty : CharSet := ⟨#[]⟩

/-- A set in rows of 94 cells, counted from one. -/
def ofRows (rows : List (Nat × String)) : CharSet :=
  rows.foldl (fun s row => s.patch ((row.1 - 1) * 94) row.2.toList) empty

/-- A set in runs along a grid, each behind the code of its first character. -/
def ofRuns (grid : Grid) (runs : List (Nat × String)) : CharSet :=
  runs.foldl (fun s run =>
    s.patch ((grid.cell? (run.1 / 0x100) (run.1 % 0x100)).getD 0) run.2.toList) empty

/-- Characters with successive code points. -/
def span (first count : Nat) : List Char :=
  (List.range count).map fun n => Char.ofNat (first + n)

/-- The characters of another set, and those of a set at the numbers that it leaves empty. -/
def overlay (upper lower : CharSet) : CharSet :=
  ⟨(Array.range (max upper.cells.size lower.cells.size)).map fun cell =>
    ((upper.char? cell).orElse fun _ => lower.char? cell).getD gap⟩

/-- A set without the characters at some numbers. -/
def without (s : CharSet) (isOut : Nat → Bool) : CharSet :=
  ⟨s.cells.mapIdx fun cell c => if isOut cell then gap else c⟩

/-- Characters of a range of code points that a set does not have, in ascending order. -/
def missing (s : CharSet) (first count : Nat) : List Char :=
  let seen := s.cells.foldl (fun (seen : Array Bool) c =>
    if c.toNat < first then seen else seen.setIfInBounds (c.toNat - first) true)
    (Array.replicate count false)
  (span first count).filter fun c => !seen.getD (c.toNat - first) false

end CharSet

end EngineBindings
