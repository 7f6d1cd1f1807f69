import Loom.Unicode.BinaryProperty
import Loom.Unicode.Newer

/-!
# Character classes

The classes that identifiers and quoted texts are defined by. Each decides ASCII on its own and
looks only the other characters up in a table, so that what it says of an ASCII character is
settled by evaluation.
-/

namespace Loom.Unicode

def alphabeticTable : RangeTable :=
  ⟨(binaryTable "Alphabetic").ranges ++ newerAlphabetic.ranges⟩

def numericTable : RangeTable :=
  ⟨(categoryTable ["Nd", "Nl", "No"]).ranges ++ newerNumeric.ranges⟩

def whiteSpaceTable : RangeTable := binaryTable "White_Space"

/-- What attaches to the character before it or does not show at all. -/
def invisibleTable : RangeTable :=
  ⟨(binaryTable "Grapheme_Extend").ranges ++ newerGraphemeExtend.ranges ++
    (binaryTable "Default_Ignorable_Code_Point").ranges⟩

/-- The modifier letters among what attaches to the character before it: they take up room. -/
def spacingTable : RangeTable := categoryTable ["Lm"]

/-- Controls, formats, private and unassigned code points, and separators. -/
def unprintableTable : RangeTable := categoryTable ["Cc", "Cf", "Co", "Cn", "Zl", "Zp", "Zs"]

def isAscii (c : Char) : Bool := c.toNat < 128

def isAlphabetic (c : Char) : Bool :=
  if isAscii c then c.isAlpha else alphabeticTable.contains c

def isNumeric (c : Char) : Bool :=
  if isAscii c then c.isDigit else numericTable.contains c

def isAlphanumeric (c : Char) : Bool := isAlphabetic c || isNumeric c

def isWhiteSpace (c : Char) : Bool :=
  if isAscii c then c == ' ' || (9 ≤ c.toNat && c.toNat ≤ 13) else whiteSpaceTable.contains c

/-- A character that does not show as one of its own. -/
def isInvisible (c : Char) : Bool :=
  if isAscii c then false else invisibleTable.contains c && !spacingTable.contains c

/-- A character that has a shape. -/
def isPrintable (c : Char) : Bool :=
  if isAscii c then 32 ≤ c.toNat && c.toNat < 127
  else !unprintableTable.contains c || newerAssigned.contains c

end Loom.Unicode
