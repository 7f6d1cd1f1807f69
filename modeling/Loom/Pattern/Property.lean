import Loom.Pattern.CharSet
import Loom.Unicode.Age
import Loom.Unicode.Script
import Loom.Unicode.Segmentation

/-!
# Named properties

The sets that `\p` classes name: binary properties, general categories and scripts by one name,
scripts' extensions, ages and segmentation classes by the property's name and a value. Names are
compared without case, spaces, hyphens, underscores and a leading `is`.
-/

namespace Loom

open Unicode (NamedTable)

namespace Property

/-- The form in which names are compared. -/
def normalize (name : String) : String :=
  let cs := name.toList
  let (hadIs, cs) := match cs with
    | a :: b :: rest =>
      if (a == 'i' || a == 'I') && (b == 's' || b == 'S') then (true, rest) else (false, cs)
    | _ => (false, cs)
  let kept := cs.filter fun c => c.toNat < 128 && c != ' ' && c != '_' && c != '-'
  let small := kept.map Char.toLower
  if hadIs && small == ['c'] then "isc" else String.ofList small

/-- The table that has `name`, given in normal form, among its names. -/
def find? (tables : List NamedTable) (name : String) : Option CharSet :=
  (tables.find? fun t => t.names.any fun n => normalize n == name).map fun t => .ofTable t.table

/-- The unions of categories: their names and the categories. -/
def categoryGroups : List (List String × List String) :=
  [(["l", "letter"], ["Ll", "Lm", "Lo", "Lt", "Lu"]),
    (["lc", "casedletter"], ["Ll", "Lt", "Lu"]),
    (["m", "mark", "combiningmark"], ["Mc", "Me", "Mn"]),
    (["n", "number"], ["Nd", "Nl", "No"]),
    (["p", "punctuation", "punct"], ["Pc", "Pd", "Pe", "Pf", "Pi", "Po", "Ps"]),
    (["s", "symbol"], ["Sc", "Sk", "Sm", "So"]),
    (["z", "separator"], ["Zl", "Zp", "Zs"])]

/-- Controls, formats, private and unassigned code points; its ranges run across the surrogates. -/
def other : CharSet :=
  .ofRanges ((0xD800, 0xDFFF) :: (Unicode.categoryTable ["Cc", "Cf", "Cn", "Co"]).ranges)

def category? (name : String) : Option CharSet :=
  if name = "any" then some .any
  else if name = "assigned" then some (CharSet.ofTable (Unicode.categoryTable ["Cn"])).compl
  else if name = "ascii" then some (.range 0 127)
  else if name = "c" || name = "other" then some other
  else
    match categoryGroups.find? (·.1.contains name) with
    | some (_, shorts) => some (.ofTable (Unicode.categoryTable shorts))
    | none => find? Unicode.categories name

def script? (name : String) : Option CharSet := find? Unicode.scripts name

def scriptExtension? (name : String) : Option CharSet :=
  (find? Unicode.scriptExtensions name).or (script? name)

/-- The code points assigned in a version or an earlier one. -/
def age? (name : String) : Option CharSet :=
  let isVersion (t : NamedTable) : Bool := t.names.any fun n => normalize n == name
  if Unicode.ages.any isVersion then
    let later := (Unicode.ages.dropWhile fun t => !isVersion t).drop 1
    let upTo := Unicode.ages.take (Unicode.ages.length - later.length)
    some (.ofRanges (upTo.flatMap fun t => t.table.ranges))
  else none

/-- The set of a property given by one name. -/
def named? (name : String) : Option CharSet :=
  let n := normalize name
  (find? Unicode.binaryProperties n).or ((category? n).or (script? n))

/-- The set of a property given by its name and value. -/
def valued? (property value : String) : Option CharSet :=
  let p := normalize property
  let v := normalize value
  if p = "gc" || p = "generalcategory" then category? v
  else if p = "sc" || p = "script" then script? v
  else if p = "scx" || p = "scriptextensions" then scriptExtension? v
  else if p = "age" then age? v
  else if p = "gcb" || p = "graphemeclusterbreak" then find? Unicode.graphemeClusterBreaks v
  else if p = "wb" || p = "wordbreak" then find? Unicode.wordBreaks v
  else if p = "sb" || p = "sentencebreak" then find? Unicode.sentenceBreaks v
  else none

end Property

/-- The ASCII classes that brackets name. -/
def asciiClasses : List (String × List (Nat × Nat)) :=
  [("alnum", [(48, 57), (65, 90), (97, 122)]), ("alpha", [(65, 90), (97, 122)]),
    ("ascii", [(0, 127)]), ("blank", [(9, 9), (32, 32)]), ("cntrl", [(0, 31), (127, 127)]),
    ("digit", [(48, 57)]), ("graph", [(33, 126)]), ("lower", [(97, 122)]), ("print", [(32, 126)]),
    ("punct", [(33, 47), (58, 64), (91, 96), (123, 126)]), ("space", [(9, 13), (32, 32)]),
    ("upper", [(65, 90)]), ("word", [(48, 57), (65, 90), (95, 95), (97, 122)]),
    ("xdigit", [(48, 57), (65, 70), (97, 102)])]

end Loom
