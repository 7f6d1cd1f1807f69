import Loom.Pattern.CharSet

/-!
# Patterns

The parsed form of a regular expression's text, before flags are applied.
-/

namespace Loom

/-- A flag of a group. -/
inductive Flag where
  | caseInsensitive
  | multiLine
  | dotAll
  | swapGreed
  | unicode
  | crlf
  | ignoreSpace
  deriving DecidableEq, Repr

namespace Flag

def ofChar? : Char → Option Flag
  | 'i' => some .caseInsensitive
  | 'm' => some .multiLine
  | 's' => some .dotAll
  | 'U' => some .swapGreed
  | 'u' => some .unicode
  | 'R' => some .crlf
  | 'x' => some .ignoreSpace
  | _ => none

end Flag

/-- Flags with the value each is set to. -/
abbrev FlagSettings := List (Flag × Bool)

/-- A character of a pattern; `isByte` for one that two hexadecimal digits spell. -/
structure Literal where
  char : Char
  isByte : Bool

/-- A condition on a position, as written. -/
inductive Assertion where
  | lineStart
  | lineStop
  | textStart
  | textStop
  | wordBoundary
  | notWordBoundary
  | wordStart
  | wordStop
  | wordStartHalf
  | wordStopHalf
  deriving DecidableEq, Repr

/-- The classes of digits, spaces and word characters. -/
inductive Shorthand where
  | digit
  | space
  | word
  deriving DecidableEq, Repr

inductive SetOperator where
  | intersection
  | difference
  | symmetricDifference
  deriving DecidableEq, Repr

/-- A class of characters, as written. -/
inductive ClassExpr where
  | nothing
  | range (low high : Literal)
  | shorthand (kind : Shorthand) (negated : Bool)
  | property (set : CharSet) (negated : Bool)
  | ascii (ranges : List (Nat × Nat)) (negated : Bool)
  | bracket (negated : Bool) (inner : ClassExpr)
  | union (a b : ClassExpr)
  | operation (op : SetOperator) (a b : ClassExpr)

namespace ClassExpr

def ofItems : List ClassExpr → ClassExpr
  | [] => .nothing
  | item :: items => items.foldl .union item

/-- How deep the class nests; a union of any number of items is one level. -/
def depth : ClassExpr → Nat
  | .bracket _ inner => inner.depth + 1
  | .union a b =>
    let left := a.depth
    let left := match a with
      | .union _ _ => left
      | _ => left + 1
    max left (b.depth + 1)
  | .operation _ a b => max a.depth b.depth + 1
  | _ => 0

end ClassExpr

inductive Pattern where
  | empty
  | flags (settings : FlagSettings)
  | literal (l : Literal)
  | dot
  | assertion (a : Assertion)
  | cls (c : ClassExpr)
  /-- A repetition; `eager` unless a mark asks for the other preference. -/
  | times (p : Pattern) (min : Nat) (max : Option Nat) (eager : Bool)
  | group (settings : FlagSettings) (p : Pattern)
  /-- A group that captures, numbered in the order of the opening parentheses. -/
  | capture (index : Nat) (p : Pattern)
  | alternation (ps : List Pattern)
  | concat (ps : List Pattern)

namespace Pattern

def ofItems : List Pattern → Pattern
  | [] => .empty
  | [p] => p
  | ps => .concat ps

mutual
/-- How deep the pattern nests. -/
def depth : Pattern → Nat
  | .cls c => c.depth
  | .times p _ _ _ => depth p + 1
  | .group _ p => depth p + 1
  | .capture _ p => depth p + 1
  | .alternation ps => depths ps + 1
  | .concat ps => depths ps + 1
  | _ => 0

/-- The greatest depth of a list. -/
def depths : List Pattern → Nat
  | [] => 0
  | p :: ps => max (depth p) (depths ps)
end

end Pattern

end Loom
