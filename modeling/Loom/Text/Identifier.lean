import Loom.Text.Segments
import Loom.Unicode.CharClass

/-!
# Identifiers

The names a tree may use: a letter or underscore, then letters, digits and underscores of any
script. A dotted name is a sequence of identifiers with a point between them.
-/

namespace Loom.Text

open Unicode (isAlphabetic isAlphanumeric)

def isIdentifierStart (c : Char) : Bool := c == '_' || isAlphabetic c

def isIdentifierPart (c : Char) : Bool := c == '_' || isAlphanumeric c

def isIdentifierChars : List Char → Bool
  | [] => false
  | c :: cs => isIdentifierStart c && cs.all isIdentifierPart

def isIdentifier (s : String) : Bool := isIdentifierChars s.toList

def isDottedName (s : String) : Bool := (segments '.' s).all isIdentifier

end Loom.Text
