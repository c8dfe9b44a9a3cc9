/-!
# Sorting by comparisons that may fail

A list is sorted in two parts: the run with which it begins, ascending or strictly descending, and
the items after it, each of which is put into its place by bisection. Items of equal rank keep their
order. Only these comparisons are made, so a pair without an order does no harm unless it is met.
-/

namespace Relational.Sorting

variable {m : Type → Type} [Monad m] {α : Type}

/-- Extend a run, given backwards, as long as the comparison of an item with the one before it comes
out as expected. The rest of the list remains. -/
def extendRun (before : α → α → m Bool) (expected : Bool) (last : α) (run : List α) :
    List α → m (List α × List α)
  | [] => return (run, [])
  | x :: rest => do
    if (← before x last) == expected then extendRun before expected x (x :: run) rest
    else return (run, x :: rest)

/-- The run with which a list begins, in ascending order, and the rest of the list. -/
def firstRun (before : α → α → m Bool) : List α → m (List α × List α)
  | x :: y :: rest => do
    if ← before y x then extendRun before true y [y, x] rest
    else
      let (run, rest) ← extendRun before false y [y, x] rest
      return (run.reverse, rest)
  | short => return (short, [])

/-- The place of an item among sorted ones between two places: behind those of equal rank. -/
def placeOf (before : α → α → m Bool) (sorted : List α) (x : α) : Nat → Nat → Nat → m Nat
  | 0, low, _ => return low
  | fuel + 1, low, high => do
    if high ≤ low then return low
    let middle := low + (high - low) / 2
    match sorted[middle]? with
    | none => return low
    | some y =>
      if ← before x y then placeOf before sorted x fuel low middle
      else placeOf before sorted x fuel (middle + 1) high

/-- Put items into their places among sorted ones, from left to right. -/
def insertAll (before : α → α → m Bool) (sorted : List α) : List α → m (List α)
  | [] => return sorted
  | x :: rest => do
    let place ← placeOf before sorted x sorted.length 0 sorted.length
    insertAll before (sorted.take place ++ x :: sorted.drop place) rest

/-- Sort a list by a comparison. -/
def sort (before : α → α → m Bool) (items : List α) : m (List α) := do
  let (run, rest) ← firstRun before items
  insertAll before run rest

end Relational.Sorting
