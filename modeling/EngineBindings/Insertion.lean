/-! Sorting by insertion.

The items that stand in order at the head of a list are taken as they are, reversed if each comes
before the one in front of it. Every further item is put where halving the part already sorted
leads to. Where the order is total the result is the sorted list, and items of equal rank keep
their order; the result is defined even where some items have no place in the order. -/
namespace EngineBindings

variable {α : Type}

/-- Splits off the items up to the first one that comes before the one in front of it, or, with
`falling`, up to the first that does not. -/
def leadingRun (before : α → α → Bool) (falling : Bool) : List α → List α × List α
  | [] => ([], [])
  | [x] => ([x], [])
  | x :: y :: rest =>
    if before y x = falling then
      let (run, others) := leadingRun before falling (y :: rest)
      (x :: run, others)
    else ([x], y :: rest)

/-- The place for an item among sorted ones, between two places. -/
def placeBetween (before : α → α → Bool) (sorted : List α) (x : α) (low high : Nat) : Nat :=
  if low < high then
    let middle := (low + high) / 2
    match sorted[middle]? with
    | none => low
    | some y =>
      if before x y then placeBetween before sorted x low middle
      else placeBetween before sorted x (middle + 1) high
  else low
termination_by high - low

/-- Puts an item in its place among sorted ones. -/
def insertSorted (before : α → α → Bool) (sorted : List α) (x : α) : List α :=
  let place := placeBetween before sorted x 0 sorted.length
  sorted.take place ++ x :: sorted.drop place

/-- Items in ascending order. -/
def sortByInsertion (before : α → α → Bool) (items : List α) : List α :=
  match items with
  | x :: y :: _ =>
    let falling := before y x
    let (run, rest) := leadingRun before falling items
    rest.foldl (insertSorted before) (if falling then run.reverse else run)
  | short => short

end EngineBindings
