import Loom.Pattern.CharSet
import Loom.Pattern.Reach

/-!
# Regular expressions and their matches

A regular expression denotes a relation between the positions where a match may begin and those
where it may end. The input is a list of characters, and a position counts the characters before
it. An expression matches an input when some position leads to some end.
-/

namespace Loom

/-- A condition on a position. `unicode` says which characters words are made of. -/
inductive Look where
  | start
  | stop
  | lineStart
  | lineStop
  | crlfLineStart
  | crlfLineStop
  | wordBoundary (unicode : Bool)
  | notWordBoundary (unicode : Bool)
  | wordStart (unicode : Bool)
  | wordStop (unicode : Bool)
  | wordStartHalf (unicode : Bool)
  | wordStopHalf (unicode : Bool)
  deriving DecidableEq, Repr

namespace Look

/-- The character before a position. -/
def before? (cs : List Char) (p : Nat) : Option Char := if p = 0 then none else cs[p - 1]?

def isWordChar (unicode : Bool) (c : Char) : Bool :=
  if unicode && 128 ≤ c.toNat then CharSet.wordChars.contains c else c.isAlphanum || c == '_'

def isWord (unicode : Bool) : Option Char → Bool
  | none => false
  | some c => isWordChar unicode c

def holds (cs : List Char) (p : Nat) : Look → Bool
  | start => p == 0
  | stop => p == cs.length
  | lineStart => p == 0 || before? cs p == some '\n'
  | lineStop => p == cs.length || cs[p]? == some '\n'
  | crlfLineStart =>
    p == 0 || before? cs p == some '\n' || (before? cs p == some '\r' && cs[p]? != some '\n')
  | crlfLineStop =>
    p == cs.length || cs[p]? == some '\r' || (cs[p]? == some '\n' && before? cs p != some '\r')
  | wordBoundary u => isWord u (before? cs p) != isWord u cs[p]?
  | notWordBoundary u => isWord u (before? cs p) == isWord u cs[p]?
  | wordStart u => !isWord u (before? cs p) && isWord u cs[p]?
  | wordStop u => isWord u (before? cs p) && !isWord u cs[p]?
  | wordStartHalf u => !isWord u (before? cs p)
  | wordStopHalf u => !isWord u cs[p]?

end Look

inductive Regex where
  | empty
  | literal (text : List Char)
  /-- One character of a set; `bytes` if the set was written without Unicode. -/
  | set (s : CharSet) (bytes : Bool)
  | look (l : Look)
  | capture (index : Nat) (r : Regex)
  /-- At least `min` and, if there is a `max`, at most that many matches in a row. What is preferred
  among several matches, `eager` or not, has no say in whether there is one. -/
  | times (r : Regex) (min : Nat) (max : Option Nat) (eager : Bool)
  | concat (rs : List Regex)
  | alternation (rs : List Regex)

namespace Regex

/-! ## Comparing -/

mutual
/-- Whether two expressions are written alike. -/
def beq : Regex → Regex → Bool
  | .empty, .empty => true
  | .literal a, .literal b => a == b
  | .set a m, .set b n => a == b && m == n
  | .look a, .look b => a == b
  | .capture i a, .capture j b => i == j && beq a b
  | .times a min max eager, .times b min' max' eager' =>
    min == min' && max == max' && eager == eager' && beq a b
  | .concat as, .concat bs => beqAll as bs
  | .alternation as, .alternation bs => beqAll as bs
  | _, _ => false

def beqAll : List Regex → List Regex → Bool
  | [], [] => true
  | a :: as, b :: bs => beq a b && beqAll as bs
  | _, _ => false
end

instance : BEq Regex := ⟨beq⟩

/-! ## Matching -/

mutual
/-- Where the matches in an input end, for each position where they begin. -/
def reach (cs : List Char) : Regex → Reach
  | .empty => .same (cs.length + 1)
  | .literal text => .ofFn (cs.length + 1) fun p =>
    if text.isPrefixOf (cs.drop p) then Reach.bit (p + text.length) else 0
  | .set s _ =>
    let rows := cs.zipIdx.map fun (c, p) => if s.contains c then Reach.bit (p + 1) else 0
    ⟨rows.toArray.push 0⟩
  | .look l => .ofFn (cs.length + 1) fun p => if l.holds cs p then Reach.bit p else 0
  | .capture _ r => reach cs r
  | .times r min max _ => (reach cs r).times min max
  | .concat rs => reachInTurn cs rs (.same (cs.length + 1))
  | .alternation rs => reachOfAny cs rs

/-- One expression after the other, after what led so far; where nothing does, nothing will. -/
def reachInTurn (cs : List Char) : List Regex → Reach → Reach
  | [], before => before
  | r :: rs, before =>
    if before.isNowhere then before else reachInTurn cs rs (before.andThen (reach cs r))

def reachOfAny (cs : List Char) : List Regex → Reach
  | [] => .nowhere (cs.length + 1)
  | r :: rs => (reach cs r).either (reachOfAny cs rs)
end

/-- Whether a match begins at the position `p`. -/
def matchesAt (r : Regex) (cs : List Char) (p : Nat) : Bool := (r.reach cs).row p != 0

/-- Whether there is a match anywhere. -/
def isMatch (r : Regex) (cs : List Char) : Bool := !(r.reach cs).isNowhere

end Regex

end Loom
