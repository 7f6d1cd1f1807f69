import Loom.Aspect.Worklist

/-!
# Fresh aliases

Before a worklist's modules are imported, each gets an alias that no name of the importing module
and no other alias takes: its own, with as many underscores after it as that needs. The search gives
up after a bound.
-/

namespace Loom

/-- How many underscores are tried unless a bound is given. -/
def defaultAliasAttempts : Nat := 32

/-- The first of `base`, `base_`, `base__`, … that is not among `names`, with at most `left`
underscores added. -/
def freshAlias? (names : List String) : (left : Nat) → (base : ShortName) → Option ShortName
  | 0, base => if names.contains base.text then none else some base
  | left + 1, base =>
    if names.contains base.text then freshAlias? names left base.underscore else some base

/-- Adds the module of a reference, with the reference's alias, unless it is there. -/
def addModule (keys : List (ModuleKey × ShortName)) (r : Reference) :
    List (ModuleKey × ShortName) :=
  if keys.any fun k => k.1.same r.moduleKey then keys else keys ++ [(r.moduleKey, r.short)]

/-- The modules of a worklist in order of their first reference, each with that one's alias. -/
def Worklist.moduleKeys (w : Worklist) : List (ModuleKey × ShortName) :=
  w.references.foldl addModule []

/-- Gives each module a fresh alias in turn and adds it to the names. The names are returned also
when an alias cannot be found. -/
def commitAliases (attempts : Nat) : List (ModuleKey × ShortName) → (names : List String) →
    Except WeaveError (List (ModuleKey × ShortName)) × List String
  | [], names => (.ok [], names)
  | (key, base) :: rest, names =>
    match freshAlias? names attempts base with
    | none => (.error (.aliasExhausted base.text attempts), names)
    | some fresh =>
      match commitAliases attempts rest (names ++ [fresh.text]) with
      | (.ok committed, names) => (.ok ((key, fresh) :: committed), names)
      | (.error e, names) => (.error e, names)

/-- The reference under the alias committed to its module. -/
def Reference.withAlias (committed : List (ModuleKey × ShortName)) (r : Reference) : Reference :=
  match committed.find? fun k => k.1.same r.moduleKey with
  | some (_, short) => { r with short }
  | none => r

/-- An alias has no say in which declaration a reference names. -/
theorem Reference.same_withAlias (committed : List (ModuleKey × ShortName)) (r s : Reference) :
    (r.withAlias committed).same (s.withAlias committed) = r.same s := by
  simp only [withAlias]
  split <;> split <;> rfl

/-- What mangling changes: a worklist, and the names that its aliases must not take. -/
structure Mangling where
  worklist : Worklist
  names : List String

namespace Worklist

/-- Makes every alias of a worklist fresh against the names in place. The new aliases join the names
as they are found; no reference is touched before all of them are. -/
def mangleIn (attempts : Nat) : EStateM WeaveError Mangling Unit := do
  let s ← get
  let (result, names) := commitAliases attempts s.worklist.moduleKeys s.names
  set { s with names }
  let committed ← ofExcept result
  modify fun s => { s with
    worklist := s.worklist.mapReferences (·.withAlias committed)
      (Reference.same_withAlias committed) }

/-- Makes every alias fresh against `names` and returns the names with the new aliases. -/
def mangle (w : Worklist) (names : List String) (attempts : Nat) :
    Except WeaveError Worklist × List String :=
  match (mangleIn attempts).run ⟨w, names⟩ with
  | .ok () s => (.ok s.worklist, s.names)
  | .error e s => (.error e, s.names)

/-- Mangling succeeds when an alias is found for every module. -/
theorem run_mangleIn (w : Worklist) (names : List String) (attempts : Nat) :
    (mangleIn attempts).run ⟨w, names⟩ =
      match commitAliases attempts w.moduleKeys names with
      | (.ok committed, names) => .ok ()
        ⟨w.mapReferences (·.withAlias committed) (Reference.same_withAlias committed), names⟩
      | (.error e, names) => .error e ⟨w, names⟩ := by
  unfold mangleIn
  simp only [EStateM.run_bind, EStateM.run_get, EStateM.run_set]
  cases commitAliases attempts w.moduleKeys names with
  | mk result names => cases result <;> rfl

theorem mangle_eq (w : Worklist) (names : List String) (attempts : Nat) :
    w.mangle names attempts =
      match commitAliases attempts w.moduleKeys names with
      | (.ok committed, names) =>
        (.ok (w.mapReferences (·.withAlias committed) (Reference.same_withAlias committed)), names)
      | (.error e, names) => (.error e, names) := by
  rw [mangle, run_mangleIn]
  cases commitAliases attempts w.moduleKeys names with
  | mk result names => cases result <;> rfl

end Worklist

end Loom
