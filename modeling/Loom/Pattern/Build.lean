import Loom.Pattern.Regex

/-!
# Building regular expressions

Functions in place of the constructors that bring an expression into a short form: literals side by
side become one, sequences and alternatives do not nest, alternatives of single characters become a
set, and what all alternatives start with stands before them. None of them changes the matches.
-/

namespace Loom.Regex

/-- Matches nothing. -/
def never : Regex := .set .empty true

def ofSet (s : CharSet) (bytes : Bool) : Regex :=
  if s.isEmpty then never
  else
    match s.only? with
    | some c => .literal [c]
    | none => .set s bytes

mutual
/-- Whether all matches are empty, as far as the form of the expression shows. -/
def isBlank : Regex → Bool
  | .empty => true
  | .literal _ => false
  | .set _ _ => false
  | .look _ => true
  | .capture _ r => isBlank r
  | .times r _ max _ => max.isSome && isBlank r
  | .concat rs => areBlank rs
  | .alternation rs => areBlank rs

def areBlank : List Regex → Bool
  | [] => true
  | r :: rs => isBlank r && areBlank rs
end

/-- A repetition. Repeating what only matches the empty text once is as good as any more. -/
def repeated (r : Regex) (min : Nat) (max : Option Nat) (eager : Bool) : Regex :=
  let (min, max) :=
    if r.isBlank then (Nat.min min 1, some ((max.map (Nat.min · 1)).getD 1)) else (min, max)
  if min = 0 && max = some 0 then .empty
  else if min = 1 && max = some 1 then r
  else .times r min max eager

/-! ## Sequences -/

/-- The parts of a sequence that an expression stands for. -/
def parts : Regex → List Regex
  | .empty => []
  | .concat rs => rs
  | r => [r]

/-- Joins literals that stand side by side. -/
def joinLiterals : List Regex → List Regex
  | [] => []
  | .literal a :: rest =>
    match joinLiterals rest with
    | .literal b :: more => .literal (a ++ b) :: more
    | more => .literal a :: more
  | r :: rest => r :: joinLiterals rest

def inTurn (rs : List Regex) : Regex :=
  match joinLiterals (rs.flatMap parts) with
  | [] => .empty
  | [r] => r
  | rs => .concat rs

/-! ## Alternatives -/

/-- The alternatives that an expression stands for. -/
def branches : Regex → List Regex
  | .alternation rs => rs
  | r => [r]

/-- The only character that a literal has. -/
def char? : Regex → Option Char
  | .literal [c] => some c
  | _ => none

def set? : Regex → Option CharSet
  | .set s _ => some s
  | _ => none

/-- The set that the alternatives are together, if they are characters only or sets only. -/
def setOfBranches? (rs : List Regex) : Option CharSet :=
  match rs.mapM char? with
  | some cs => some (.ofRanges (cs.map fun c => (c.toNat, c.toNat)))
  | none => (rs.mapM set?).map fun sets => .ofRanges (sets.flatMap CharSet.ranges)

def concat? : Regex → Option (List Regex)
  | .concat rs => some rs
  | _ => none

/-- What two sequences start with alike. -/
def commonStart : List Regex → List Regex → List Regex
  | a :: as, b :: bs => if a == b then a :: commonStart as bs else []
  | _, _ => []

/-- What all sequences start with alike. -/
def sharedStart : List (List Regex) → List Regex
  | [] => []
  | first :: rest => rest.foldl commonStart first

mutual
/-- The number of parts of an expression. -/
def nodes : Regex → Nat
  | .capture _ r => nodes r + 1
  | .times r _ _ _ => nodes r + 1
  | .concat rs => nodesOfAll rs + 1
  | .alternation rs => nodesOfAll rs + 1
  | _ => 1

def nodesOfAll : List Regex → Nat
  | [] => 0
  | r :: rs => nodes r + nodesOfAll rs
end

/-- Alternatives, with their shared start taken out at most `fuel` times. -/
def anyOfWithin : (fuel : Nat) → List Regex → Regex
  | 0, rs => .alternation rs
  | fuel + 1, rs =>
    match rs.flatMap branches with
    | [] => never
    | [r] => r
    | rs =>
      match setOfBranches? rs with
      | some s => ofSet s false
      | none =>
        match rs.mapM concat? with
        | none => .alternation rs
        | some sequences =>
          match sharedStart sequences with
          | [] => .alternation rs
          | start =>
            let rests := sequences.map fun s => inTurn (s.drop start.length)
            inTurn (start ++ [anyOfWithin fuel rests])

/-- Alternatives. Taking out a shared start leaves fewer parts, so their number is fuel enough. -/
def anyOf (rs : List Regex) : Regex := anyOfWithin (nodesOfAll rs + 1) rs

end Loom.Regex
