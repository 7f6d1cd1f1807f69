import Loom.Weave.ModuleFile

/-!
# Summaries

What happened to a batch of modules.
-/

namespace Loom

structure Summary where
  processed : Nat
  woven : Nat
  advices : Nat
  errors : List String
  deriving DecidableEq, Repr

namespace Summary

def empty : Summary := ⟨0, 0, 0, []⟩

/-- Counts a module; a woven one with the advices that matched. -/
def addOutcome (s : Summary) (o : ModuleFile.Outcome) : Summary :=
  if o.woven then
    { s with processed := s.processed + 1, woven := s.woven + 1
             advices := s.advices + o.module.matched.size }
  else { s with processed := s.processed + 1 }

def addError (s : Summary) (text : String) : Summary := { s with errors := s.errors ++ [text] }

/-- Counts a module and records why it failed, if it did. -/
def record (s : Summary) (file : FilePath) : Except WeaveError ModuleFile.Outcome → Summary
  | .ok o => s.addOutcome o
  | .error e =>
    { s with processed := s.processed + 1 }.addError
      ("Error weaving " ++ file.text ++ ": " ++ e.message)

def merge (s t : Summary) : Summary :=
  ⟨s.processed + t.processed, s.woven + t.woven, s.advices + t.advices, s.errors ++ t.errors⟩

def success (s : Summary) : Bool := s.errors.isEmpty

def line (s : Summary) : String :=
  toString s.processed ++ " modules processed, " ++ toString s.woven ++ " woven, " ++
    toString s.advices ++ " advices applied"

end Summary

end Loom
