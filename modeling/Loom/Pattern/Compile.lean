import Loom.Pattern.Build
import Loom.Pattern.Fault
import Loom.Pattern.Parser
import Loom.Pattern.Size

/-!
# Patterns as regular expressions

Applying the flags of a pattern. A flag holds to the end of its group, across alternatives. Without
Unicode, classes and points that could match a part of a character are refused.
-/

namespace Loom

/-- The flags in force. -/
structure Flags where
  caseInsensitive : Bool
  multiLine : Bool
  dotAll : Bool
  swapGreed : Bool
  unicode : Bool
  crlf : Bool

namespace Flags

def default : Flags := ⟨false, false, false, false, true, false⟩

def set (f : Flags) : Flag × Bool → Flags
  | (.caseInsensitive, v) => { f with caseInsensitive := v }
  | (.multiLine, v) => { f with multiLine := v }
  | (.dotAll, v) => { f with dotAll := v }
  | (.swapGreed, v) => { f with swapGreed := v }
  | (.unicode, v) => { f with unicode := v }
  | (.crlf, v) => { f with crlf := v }
  | (.ignoreSpace, _) => f

def apply (f : Flags) (settings : FlagSettings) : Flags := settings.foldl set f

end Flags

namespace Shorthand

def unicodeSet : Shorthand → CharSet
  | digit => .digits
  | space => .spaces
  | word => .wordChars

def asciiSet : Shorthand → CharSet
  | digit => .asciiDigits
  | space => .asciiSpaces
  | word => .asciiWordChars

end Shorthand

def SetOperator.apply : SetOperator → CharSet → CharSet → CharSet
  | intersection, a, b => a.inter b
  | difference, a, b => a.diff b
  | symmetricDifference, a, b => a.symmDiff b

namespace ClassExpr

def foldIf (fold : Bool) (s : CharSet) : CharSet := if fold then s.folded else s

def complIf (negated : Bool) (s : CharSet) : CharSet := if negated then s.compl else s

/-- The set with Unicode; `fold` if case does not count. -/
def unicodeSet (fold : Bool) : ClassExpr → CharSet
  | .nothing => .empty
  | .range low high => .range low.char.toNat high.char.toNat
  | .shorthand kind negated => complIf negated kind.unicodeSet
  | .property set negated => complIf negated (foldIf fold set)
  | .ascii ranges negated => complIf negated (foldIf fold (.ofRanges ranges))
  | .bracket negated inner => complIf negated (foldIf fold (unicodeSet fold inner))
  | .union a b => (unicodeSet fold a).union (unicodeSet fold b)
  | .operation op a b =>
    op.apply (foldIf fold (unicodeSet fold a)) (foldIf fold (unicodeSet fold b))

def asciiFoldIf (fold : Bool) (s : CharSet) : CharSet := if fold then s.asciiFolded else s

/-- The set without Unicode, which must hold ASCII only. -/
def asciiSet? (fold : Bool) : ClassExpr → Option CharSet
  | .nothing => some .empty
  | .range low high =>
    if low.char.toNat < 128 && high.char.toNat < 128 then
      some (.range low.char.toNat high.char.toNat)
    else none
  | .shorthand kind negated => if negated then none else some kind.asciiSet
  | .property _ _ => none
  | .ascii ranges negated => if negated then none else some (asciiFoldIf fold (.ofRanges ranges))
  | .bracket negated inner =>
    if negated then none else (asciiSet? fold inner).map (asciiFoldIf fold)
  | .union a b => do some ((← asciiSet? fold a).union (← asciiSet? fold b))
  | .operation op a b => do
    some (op.apply (asciiFoldIf fold (← asciiSet? fold a)) (asciiFoldIf fold (← asciiSet? fold b)))

def set? (f : Flags) (c : ClassExpr) : Option CharSet :=
  if f.unicode then some (c.unicodeSet f.caseInsensitive) else c.asciiSet? f.caseInsensitive

end ClassExpr

namespace Literal

/-- The expression of a character; a set if it has another case that counts as the same. -/
def regex? (f : Flags) (l : Literal) : Option Regex :=
  let s := CharSet.single l.char
  if f.unicode then some (.ofSet (ClassExpr.foldIf f.caseInsensitive s) false)
  else if l.isByte && l.char.toNat ≥ 128 then none
  else some (.ofSet (ClassExpr.asciiFoldIf f.caseInsensitive s) true)

end Literal

namespace Assertion

def look (f : Flags) : Assertion → Look
  | lineStart =>
    if f.multiLine then if f.crlf then .crlfLineStart else .lineStart else .start
  | lineStop =>
    if f.multiLine then if f.crlf then .crlfLineStop else .lineStop else .stop
  | textStart => .start
  | textStop => .stop
  | wordBoundary => .wordBoundary f.unicode
  | notWordBoundary => .notWordBoundary f.unicode
  | wordStart => .wordStart f.unicode
  | wordStop => .wordStop f.unicode
  | wordStartHalf => .wordStartHalf f.unicode
  | wordStopHalf => .wordStopHalf f.unicode

end Assertion

/-- The set that a point matches. -/
def dotSet? (f : Flags) : Option CharSet :=
  if !f.unicode then none
  else if f.dotAll then some .any
  else if f.crlf then some (CharSet.ofRanges [(10, 10), (13, 13)]).compl
  else some (CharSet.range 10 10).compl

namespace Pattern

mutual
/-- The regular expression of a pattern, and the flags in force after it. -/
def compile (f : Flags) : Pattern → Option (Regex × Flags)
  | .empty => some (.empty, f)
  | .flags settings => some (.empty, f.apply settings)
  | .literal l => (l.regex? f).map fun r => (r, f)
  | .dot => (dotSet? f).map fun s => (.ofSet s false, f)
  | .assertion a => some (.look (a.look f), f)
  | .cls c => (c.set? f).map fun s => (.ofSet s !f.unicode, f)
  | .times p min max eager =>
    (compile f p).map fun (r, g) => (r.repeated min max (eager != g.swapGreed), g)
  | .group settings p => (compile (f.apply settings) p).map fun (r, _) => (r, f)
  | .capture index p => (compile f p).map fun (r, _) => (.capture index r, f)
  | .alternation ps => (compileAll f ps).map fun (rs, g) => (Regex.anyOf rs, g)
  | .concat ps => (compileAll f ps).map fun (rs, g) => (Regex.inTurn rs, g)

/-- The expressions of patterns one after the other. -/
def compileAll (f : Flags) : List Pattern → Option (List Regex × Flags)
  | [] => some ([], f)
  | p :: ps => do
    let (r, f) ← compile f p
    let (rs, f) ← compileAll f ps
    some (r :: rs, f)
end

end Pattern

/-- The regular expression that a text spells. -/
def Regex.parse (text : List Char) : Except PatternFault Regex :=
  match (Pattern.parse text).bind (Pattern.compile .default) with
  | none => .error .malformed
  | some (r, _) => if r.fits then .ok r else .error .tooLarge

end Loom
