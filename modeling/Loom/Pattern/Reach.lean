/-!
# Relations between positions

Which positions lead to which, as for the beginnings and ends of matches. A position is a number
below the size of the relation, and leads to itself or to later ones only. The positions that one
leads to are the bits of a number.
-/

namespace Loom

/-- A relation between positions: a row for each, with a bit for every position it leads to. -/
structure Reach where
  rows : Array Nat
  deriving DecidableEq, Repr

namespace Reach

def size (r : Reach) : Nat := r.rows.size

def row (r : Reach) (p : Nat) : Nat := r.rows.getD p 0

def ofFn (size : Nat) (f : Nat → Nat) : Reach := ⟨((List.range size).map f).toArray⟩

/-- The set of one position. -/
def bit (p : Nat) : Nat := 1 <<< p

/-- Every position leads to itself alone. -/
def same (size : Nat) : Reach := ofFn size bit

/-- No position leads anywhere. -/
def nowhere (size : Nat) : Reach := ofFn size fun _ => 0

def isNowhere (r : Reach) : Bool := r.rows.all (· == 0)

/-- The rows of all positions in `ps`, together with `found`; there are at most `fuel` of them. -/
def collect (row : Nat → Nat) : (fuel ps found : Nat) → Nat
  | 0, _, found => found
  | fuel + 1, ps, found =>
    if ps = 0 then found
    else collect row fuel (ps ^^^ bit ps.log2) (found ||| row ps.log2)

/-- The positions that those of a set lead to. -/
def after (r : Reach) (ps : Nat) : Nat := collect r.row r.size ps 0

/-- One relation after the other. -/
def andThen (a b : Reach) : Reach := ofFn a.size fun p => b.after (a.row p)

/-- One relation or the other. -/
def either (a b : Reach) : Reach := ofFn a.size fun p => a.row p ||| b.row p

/-- The same relation `n` times in a row, after `start`; `fuel` is at least the number of binary
digits of `n`. -/
def powerAfter : (fuel : Nat) → (r : Reach) → (n : Nat) → (start : Reach) → Reach
  | 0, _, _, start => start
  | fuel + 1, r, n, start =>
    if n = 0 then start
    else
      let start := if n % 2 = 1 then start.andThen r else start
      if n < 2 then start else powerAfter fuel (r.andThen r) (n / 2) start

def power (r : Reach) (n : Nat) : Reach := powerAfter (n.log2 + 1) r n (same r.size)

/-- The least position of a set that is not empty. -/
def least (ps : Nat) : Nat := (ps ^^^ (ps - 1)).log2

/-- The rows of all positions in `ps`, together with `found`, for rows of a closed relation. What a
position leads to is found together with it, so one that is found already brings nothing new. -/
def collectClosed (row : Nat → Nat) : (fuel ps found : Nat) → Nat
  | 0, _, found => found
  | fuel + 1, ps, found =>
    if ps = 0 then found
    else
      let found := found ||| row (least ps)
      collectClosed row fuel (ps ^^^ (ps &&& found)) found

/-- The row of `p` in the closure, from the rows of the positions after it, the last one's first. -/
def closedRow (r : Reach) (p : Nat) (later : Array Nat) : Nat :=
  let beyond := if (r.row p).testBit p then r.row p ^^^ bit p else r.row p
  collectClosed (fun q => later.getD (r.size - 1 - q) 0) r.size beyond 0 ||| bit p

/-- The same relation any number of times in a row. A position leads to later ones only, so their
rows are there when its own is made. -/
def closure (r : Reach) : Reach :=
  let rows := (List.range r.size).foldl
    (fun later n => later.push (r.closedRow (r.size - 1 - n) later)) #[]
  ⟨rows.reverse⟩

/-- One relation, then another any number of times in a row. -/
def andThenMany (a b : Reach) : Reach :=
  let closed := b.closure
  ofFn a.size fun p => collectClosed closed.row closed.size (a.row p) 0

/-- The same relation at least `min` times and, if there is a `max`, at most that often. As many
rounds as there are positions lead as far as any more. -/
def times (r : Reach) (min : Nat) : (max : Option Nat) → Reach
  | none => (r.power min).andThenMany r
  | some max =>
    (r.power min).andThen (((same r.size).either r).power (Nat.min (max - min) r.size))

end Reach

end Loom
