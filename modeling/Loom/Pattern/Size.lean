import Loom.Pattern.Build
import Loom.Pattern.Utf8
import Std.Data.HashMap

/-!
# The size of a pattern's automaton

A pattern may be as large as its automata allow: one that reads the input forwards, with states for
the captures, and one that reads it backwards, without them. They work on bytes. Every state takes
the same room; a state that branches takes more for each way on, and one that reads one of several
byte ranges takes more for each of them.

A repetition is written out as often as its bounds say, so the room is counted without building the
automata, and counting stops once there is too much.
-/

namespace Loom

/-- The way in which an automaton reads its input. -/
inductive Direction where
  | forward
  | backward
  deriving DecidableEq, Repr

/-- The room that an automaton takes so far. -/
structure Room where
  /-- How many states there are. -/
  states : Nat
  /-- The bytes that states take beyond what each of them does. -/
  extra : Nat
  deriving DecidableEq, Repr

namespace Room

def bytes (m : Room) : Nat := 32 * m.states + m.extra

/-- The most that an automaton may take. -/
def limit : Nat := 10 * Nat.pow 2 20

def isFull (m : Room) : Bool := limit < m.bytes

def add (m : Room) (states extra : Nat) : Room := ⟨m.states + states, m.extra + extra⟩

/-- A state with `n` byte ranges. -/
def addRanges (m : Room) (n : Nat) : Room := m.add 1 (8 * n)

/-- A new way on from a state, which takes room if the state `branches`. -/
def link (m : Room) (branches : Bool) : Room := if branches then m.add 0 4 else m

end Room

/-! ## Sets of characters

The states for a set beyond ASCII share what they have in common as far as a table remembers it. The
table has room for one entry under each of its slots, and a new entry takes the place of an old
one. -/

namespace CharSet

/-- The byte sequences of all members. -/
def sequences (s : CharSet) : List (List (Nat × Nat)) := s.ranges.flatMap Utf8.sequences

/-- One step of the hash that picks an entry's slot. -/
def mix (h : UInt64) (n : Nat) : UInt64 := (h ^^^ n.toUInt64) * 1099511628211

def slot (slots : Nat) (key : List Nat) : Nat := (key.foldl mix 14695981039346656037).toNat % slots

/-- What the states have in common: under a slot, a description and the state it belongs to. -/
abbrev Memo := Std.HashMap Nat (List Nat × Nat)

/-- The state that is remembered for a description. -/
def remembered? (memo : Memo) (slot : Nat) (key : List Nat) : Option Nat :=
  match memo[slot]? with
  | some (k, state) => if k = key then some state else none
  | none => none

/-- Sequences that begin alike, brought together: what they begin with, and how each goes on. -/
def gather : List (List (Nat × Nat)) → List ((Nat × Nat) × List (List (Nat × Nat)))
  | [] => []
  | [] :: rest => gather rest
  | (r :: more) :: rest =>
    match gather rest with
    | (r', mores) :: groups =>
      if r = r' then (r, more :: mores) :: groups else (r, [more]) :: (r', mores) :: groups
    | [] => [(r, [more])]

/-- The state that reads a byte of one of the ranges and goes on to the state with each; a state
that is alike is taken instead if it is remembered. -/
def stateFor (m : Room) (memo : Memo) (key : List Nat) : Nat × Room × Memo :=
  let slot := slot 10000 key
  match remembered? memo slot key with
  | some state => (state, m, memo)
  | none => (m.states, m.addRanges (key.length / 3), memo.insert slot (key, m.states))

/-- The state that reads one of the sequences, which have at most `depth` bytes, and ends in the
state `target`. -/
def readSequences (target : Nat) : (depth : Nat) → List (List (Nat × Nat)) → Room → Memo →
    Nat × Room × Memo
  | 0, _, m, memo => (target, m, memo)
  | depth + 1, seqs, m, memo =>
    if seqs = [[]] then (target, m, memo)
    else
      let (key, m, memo) := (gather seqs).foldl
        (fun (key, m, memo) (r, mores) =>
          let (state, m, memo) := readSequences target depth mores m memo
          (key ++ [r.1, r.2, state], m, memo))
        (([] : List Nat), m, memo)
      stateFor m memo key

/-- The states that read a set forwards, as a tree from the first byte on. -/
def forwardRoom (s : CharSet) (m : Room) : Room :=
  (readSequences m.states 5 s.sequences (m.add 1 0) ∅).2.1

/-- The states that read one byte sequence backwards, from its end to the state `state`. -/
def readBackwards (state : Nat) : List (Nat × Nat) → Room → Memo → Room × Memo
  | [], m, memo => (m, memo)
  | r :: rest, m, memo =>
    let key := [state, r.1, r.2]
    let slot := slot 1000 key
    match remembered? memo slot key with
    | some state => readBackwards state rest m memo
    | none => readBackwards m.states rest (m.add 1 0) (memo.insert slot (key, m.states))

/-- The states that read a set backwards: a branch to each sequence. -/
def backwardRoom (s : CharSet) (m : Room) : Room :=
  let last := m.states + 1
  (s.sequences.foldl
    (fun (m, memo) seq =>
      let (m, memo) := readBackwards last seq m memo
      (m.link true, memo))
    (m.add 2 0, (∅ : Memo))).1

def room (d : Direction) (s : CharSet) (m : Room) : Room :=
  if s.isAscii then (m.add 1 0).addRanges s.ranges.length
  else
    match d with
    | .forward => s.forwardRoom m
    | .backward => s.backwardRoom m

end CharSet

/-! ## Alternatives of literals -/

namespace Words

/-- The words that go on from a place, in chunks: a word that ends there closes a chunk. It closes
none if another has `ended` there before and none has `grown` beyond the place yet. -/
def chunks : (grown ended : Bool) → List (List Nat) → List (List (List Nat))
  | _, _, [] => [[]]
  | grown, ended, [] :: rest =>
    if ended && !grown then chunks grown ended rest else [] :: chunks grown true rest
  | _, ended, (b :: w) :: rest =>
    match chunks true ended rest with
    | chunk :: more => ((b :: w) :: chunk) :: more
    | [] => [[b :: w]]

/-- Brings the words together that begin with the same byte: how each goes on, in their order. -/
def byFirst (words : List (List Nat)) : List (List (List Nat)) :=
  let firsts := (words.filterMap List.head?).eraseDups
  firsts.map fun b => (words.filter fun w => w.head? == some b).map fun w => w.drop 1

/-- The states of a tree of words of fewer than `depth` bytes. A place in the tree branches to its
chunks, and to the end where a word ends. -/
def room : (depth : Nat) → List (List Nat) → Room → Room
  | 0, _, m => m
  | depth + 1, words, m =>
    let chunks := chunks false false words
    let m := chunks.foldl
      (fun m chunk =>
        let groups := byFirst chunk
        let m := groups.foldl
          (fun m rests => if rests.all (·.isEmpty) then m else room depth rests m) m
        match groups.length with
        | 0 => m
        | 1 => m.add 1 4
        | n + 2 => (m.addRanges (n + 2)).add 0 4)
      m
    m.add 1 (4 * (chunks.length - 1))

end Words

/-! ## Expressions -/

namespace Regex

/-- The bytes of a literal. -/
def literalBytes (text : List Char) : List Nat := text.flatMap fun c => Utf8.encode c.toNat

def literal? : Regex → Option (List Nat)
  | .literal text => some (literalBytes text)
  | _ => none

mutual
/-- The fewest characters of a match, as far as the form of the expression shows; nothing if there
may be no match. -/
def minLength? : Regex → Option Nat
  | .empty => some 0
  | .literal text => some text.length
  | .set s _ => if s.isEmpty then none else some 1
  | .look _ => some 0
  | .capture _ r => minLength? r
  | .times r min _ _ => (minLength? r).map (· * min)
  | .concat rs => minSum? rs
  | .alternation rs => minOfAny? rs

def minSum? : List Regex → Option Nat
  | [] => some 0
  | r :: rs => do some ((← minLength? r) + (← minSum? rs))

def minOfAny? : List Regex → Option Nat
  | [] => none
  | [r] => minLength? r
  | r :: rs => do some (Nat.min (← minLength? r) (← minOfAny? rs))
end

/-- Whether every match has a character. -/
def isNonempty (r : Regex) : Bool := (r.minLength?.getD 0) != 0

mutual
/-- Whether every match begins with the condition that the text starts there. -/
def startsAtStart : Regex → Bool
  | .look .start => true
  | .capture _ r => startsAtStart r
  | .times r min _ _ => 0 < min && startsAtStart r
  | .concat rs => someStartsAtStart rs
  | .alternation rs => allStartAtStart rs
  | _ => false

/-- Whether a part has the condition before one that may have a character. -/
def someStartsAtStart : List Regex → Bool
  | [] => false
  | r :: rs => startsAtStart r || (isBlank r && someStartsAtStart rs)

def allStartAtStart : List Regex → Bool
  | [] => true
  | r :: rs => startsAtStart r && allStartAtStart rs
end

mutual
/-- Whether every match ends with the condition that the text stops there. -/
def stopsAtStop : Regex → Bool
  | .look .stop => true
  | .capture _ r => stopsAtStop r
  | .times r min _ _ => 0 < min && stopsAtStop r
  | .concat rs => someStopsAtStop rs
  | .alternation rs => allStopAtStop rs
  | _ => false

/-- Whether a part has the condition after the last one that may have a character. -/
def someStopsAtStop : List Regex → Bool
  | [] => false
  | r :: rs => (areBlank rs && stopsAtStop r) || someStopsAtStop rs

def allStopAtStop : List Regex → Bool
  | [] => true
  | r :: rs => stopsAtStop r && allStopAtStop rs
end

/-- The room after a part of an automaton, and whether its last state branches. -/
abbrev Growth := Room × Bool

/-- Puts a part after another. -/
def Growth.next (grow : Room → Growth) (g : Growth) : Growth :=
  let (m, branches) := grow g.1
  (m.link g.2, branches)

/-- `n` more copies of a part after another; full room stays as it is. -/
def Growth.copies (grow : Room → Growth) : Nat → Growth → Growth
  | 0, g => g
  | n + 1, g => if g.1.isFull then g else copies grow n (Growth.next grow g)

/-- Exactly `n` copies. -/
def growExactly (grow : Room → Growth) (n : Nat) (m : Room) : Growth :=
  if n = 0 then (m.add 1 0, false) else Growth.copies grow n (m, false)

/-- A part that may be left out, together with all that follow. -/
def growOptional (grow : Room → Growth) (m : Room) : Growth :=
  let (m, branches) := grow (m.add 1 0)
  ((m.link true).link true, branches)

/-- At least `n` copies; `nonempty` if each of them has a character. -/
def growAtLeast (grow : Room → Growth) (nonempty : Bool) (n : Nat) (m : Room) : Growth :=
  if n = 0 then
    if nonempty then
      let (m, branches) := grow (m.add 1 0)
      ((m.link true).link branches, true)
    else
      let (m, branches) := grow m
      ((m.add 3 16).link branches, false)
  else
    let before : Growth := if n = 1 then (m, false) else growExactly grow (n - 1) m
    let (m, branches) := Growth.next grow before
    (((m.add 1 0).link branches).link true, true)

/-- Between `min` and `max` copies. -/
def growBetween (grow : Room → Growth) (min max : Nat) (m : Room) : Growth :=
  let (m, branches) := growExactly grow min m
  if min = max then (m, branches)
  else
    let (m, branches) := Growth.copies (growOptional grow) (max - min) (m.add 1 0, branches)
    (m.link branches, false)

def growTimes (grow : Room → Growth) (nonempty : Bool) (min : Nat) : Option Nat → Room → Growth
  | none, m => growAtLeast grow nonempty min m
  | some max, m =>
    if min = 0 && max = 1 then
      let (m, branches) := grow (m.add 1 0)
      (((m.add 1 8)).link branches, false)
    else growBetween grow min max m

mutual
/-- The room that an expression takes after what there is. -/
def grow (d : Direction) : Regex → Room → Growth
  | .empty, m => (m.add 1 0, false)
  | .literal text, m => (m.add (literalBytes text).length 0, false)
  | .set s _, m => (s.room d m, false)
  | .look _, m => (m.add 1 0, false)
  | .capture _ r, m =>
    match d with
    | .forward =>
      let (m, branches) := grow d r (m.add 1 0)
      ((m.add 1 0).link branches, false)
    | .backward => grow d r m
  | .times r min max _, m => growTimes (grow d r) r.isNonempty min max m
  | .concat rs, m =>
    match d with
    | .forward => growInTurn d rs (m, false)
    | .backward => growBackwards d rs (m, false)
  | .alternation rs, m =>
    match rs.mapM literal? with
    | some words =>
      let words := match d with
        | .forward => words
        | .backward => words.map List.reverse
      let depth := (words.map List.length).foldl Nat.max 0 + 1
      (Words.room depth words (m.add 1 0), false)
    | none => growBranches d 0 rs m

/-- The parts of a sequence from the first to the last. -/
def growInTurn (d : Direction) : List Regex → Growth → Growth
  | [], g => g
  | r :: rs, g => if g.1.isFull then g else growInTurn d rs (Growth.next (grow d r) g)

/-- The parts of a sequence from the last to the first. -/
def growBackwards (d : Direction) : List Regex → Growth → Growth
  | [], g => g
  | r :: rs, g =>
    let g := growBackwards d rs g
    if g.1.isFull then g else Growth.next (grow d r) g

/-- Alternatives after the first `done` of them. The states where they part and meet follow the
second. -/
def growBranches (d : Direction) : (done : Nat) → List Regex → Room → Growth
  | _, [], m => (m, false)
  | done, r :: rs, m =>
    if m.isFull then (m, false)
    else
      let (m, branches) := grow d r m
      let m := if done = 1 then m.add 2 0 else m
      growBranches d (done + 1) rs ((m.link true).link branches)
end

/-- The room that the states for a match that may begin anywhere take before the expression, or the
one state that stands for its beginning. -/
def entrance (anchored : Bool) : Room := if anchored then ⟨1, 0⟩ else ⟨3, 16⟩

/-- The room that a whole automaton takes. -/
def room (d : Direction) (r : Regex) : Room :=
  match d with
  | .forward =>
    let (m, branches) := grow d r ((entrance r.startsAtStart).add 1 0)
    (m.add 2 0).link branches
  | .backward =>
    let (m, branches) := grow d r (entrance r.stopsAtStop)
    (m.add 1 0).link branches

/-- Whether both automata are small enough. -/
def fits (r : Regex) : Bool := !(r.room .forward).isFull && !(r.room .backward).isFull

end Regex

end Loom
