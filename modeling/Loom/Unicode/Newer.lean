import Loom.Unicode.RangeTable

/-!
# Characters of the next version

The tables that patterns use end with one version of the standard; names and quoted texts also know
the version after it. Here are the code points which that version assigned, and which of them are
alphabetic, numeric or attach to the character before them. It changed none of these properties for
the characters that were there before.
-/

namespace Loom.Unicode

/-- The code points that the next version assigned. -/
def newerAssigned : RangeTable := .decode
  ["DGhaBLkaExaFHioclCFlaECqaBVBbbcabaBcaBFThpRdbCcgEIrzCBjciiBhbESahWmBrejBEOsycyLaeJCjhBXpvDtE",
   "kXWpcRdwpqJAlBebvibGAaaGcdNdiOpdByadaCfaeaBcaeaKgaCSXrfIWglBGFaGJh"]

def newerAlphabetic : RangeTable := .decode
  ["DGhaBLkaExaCGRpbcabaBcaBKWczCBjcBybESahWmBrBEPgycyLaeJCjhBXpvDtEkBHQjBebvibDAWgfIWglBGFaGJh"]

def newerNumeric : RangeTable := .decode
  ["EEGujBFBuc"]

def newerGraphemeExtend : RangeTable := .decode
  ["KDzoclDOLabESaabcbaCZBoacahbfa"]

end Loom.Unicode
