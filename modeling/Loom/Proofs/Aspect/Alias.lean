import Loom.Aspect.Alias
import Loom.Proofs.Aspect.Worklist

/-!
# Fresh aliases

Mangling leaves a worklist fresh against the names it was given (`Worklist.Fresh`): none of them is
an alias, and two references share an alias exactly if they belong to the same module. Nothing but
the aliases changes.
-/

namespace Loom

/-! ## Lookup by module -/

namespace Worklist

theorem mem_modules {w : Worklist} {module shortName : String} :
    (module, shortName) ∈ w.modules ↔
      ∃ r ∈ w.references, r.originModule = module ∧ r.shortName = shortName := by
  simp [modules]

theorem exists_mem_of_aliasFor?_eq_some {w : Worklist} {key : ModuleKey} {shortName : String}
    (h : w.aliasFor? key = some shortName) :
    ∃ r ∈ w.references, r.moduleKey.same key = true ∧ r.shortName = shortName := by
  obtain ⟨r, found, rfl⟩ := Option.map_eq_some_iff.1 h
  exact ⟨r, List.mem_of_find?_eq_some found,
    List.find?_some (p := fun r : Reference => r.moduleKey.same key) found, rfl⟩

theorem aliasFor?_ne_none {w : Worklist} {r : Reference} {key : ModuleKey}
    (hr : r ∈ w.references) (h : r.moduleKey.same key = true) : w.aliasFor? key ≠ none := by
  simp only [aliasFor?, ne_eq, Option.map_eq_none_iff, List.find?_eq_none]
  exact fun none => none r hr h

end Worklist

/-! ## Modules of a worklist -/

theorem mem_addModule {keys : List (ModuleKey × ShortName)} {k : ModuleKey × ShortName}
    (h : k ∈ keys) (r : Reference) : k ∈ addModule keys r := by
  simp only [addModule]
  split
  · exact h
  · exact List.mem_append_left _ h

theorem exists_mem_addModule (keys : List (ModuleKey × ShortName)) (r : Reference) :
    ∃ k ∈ addModule keys r, k.1.same r.moduleKey = true := by
  simp only [addModule]
  split
  · next h => simpa using h
  · exact ⟨(r.moduleKey, r.short), by simp, ModuleKey.same_iff.2 rfl⟩

/-- Every reference belongs to one of the modules. -/
theorem Worklist.exists_mem_moduleKeys {w : Worklist} {r : Reference} (h : r ∈ w.references) :
    ∃ k ∈ w.moduleKeys, k.1.same r.moduleKey = true := by
  have grow (rs : List Reference) (keys : List (ModuleKey × ShortName)) {k : ModuleKey × ShortName}
      (hk : k ∈ keys) : k ∈ rs.foldl addModule keys :=
    List.foldlRecOn rs addModule hk fun _ hk r _ => mem_addModule hk r
  obtain ⟨before, after, split⟩ := List.append_of_mem h
  obtain ⟨k, hk, same⟩ := exists_mem_addModule (before.foldl addModule []) r
  refine ⟨k, ?_, same⟩
  rw [Worklist.moduleKeys, split, List.foldl_append, List.foldl_cons]
  exact grow after _ hk

/-! ## Committed aliases -/

theorem not_mem_of_freshAlias?_eq_some {names : List String} {left : Nat} {base fresh : ShortName}
    (h : freshAlias? names left base = some fresh) : fresh.text ∉ names := by
  induction left generalizing base with
  | zero =>
    simp only [freshAlias?] at h
    split at h
    · cases h
    · next new => cases h; simpa using new
  | succ left ih =>
    simp only [freshAlias?] at h
    split at h
    · exact ih h
    · next new => cases h; simpa using new

/-- What it takes to commit aliases to modules: each module gets one, no two get the same, and none
is among the names. -/
structure Committed (names : List String) (keys committed : List (ModuleKey × ShortName)) :
    Prop where
  keys_eq : committed.map Prod.fst = keys.map Prod.fst
  fresh : ∀ k ∈ committed, k.2.text ∉ names
  distinct : (committed.map fun k => k.2.text).Nodup

theorem commitAliases_ok {attempts : Nat} {keys committed : List (ModuleKey × ShortName)}
    {names : List String} (h : (commitAliases attempts keys names).1 = .ok committed) :
    Committed names keys committed := by
  induction keys generalizing names committed with
  | nil =>
    cases h
    exact ⟨rfl, by simp, .nil⟩
  | cons k rest ih =>
    obtain ⟨key, base⟩ := k
    simp only [commitAliases] at h
    split at h
    · cases h
    · next fresh hfresh =>
      have new := not_mem_of_freshAlias?_eq_some hfresh
      split at h
      · next others names' hrest =>
        cases h
        -- The alias itself counts as a name for the modules that follow.
        have done : Committed (names ++ [fresh.text]) rest others := ih (by rw [hrest])
        refine ⟨by simp [done.keys_eq], ?_, List.nodup_cons.2 ⟨?_, done.distinct⟩⟩
        · refine List.forall_mem_cons.2 ⟨new, fun l hl hmem => ?_⟩
          exact done.fresh l hl (List.mem_append_left _ hmem)
        · intro taken
          obtain ⟨l, hl, same⟩ := List.mem_map.1 taken
          exact done.fresh l hl (List.mem_append_right _ (List.mem_singleton.2 same))
      · cases h

namespace Reference

@[simp] theorem moduleKey_withAlias (committed : List (ModuleKey × ShortName)) (r : Reference) :
    (r.withAlias committed).moduleKey = r.moduleKey := by
  simp only [withAlias]
  split <;> rfl

@[simp] theorem searchRoot_withAlias (committed : List (ModuleKey × ShortName)) (r : Reference) :
    (r.withAlias committed).searchRoot = r.searchRoot := by
  simp only [withAlias]
  split <;> rfl

/-- A reference to a module that has a committed alias gets that alias. -/
theorem shortName_withAlias {committed : List (ModuleKey × ShortName)} {r : Reference}
    (h : ∃ k ∈ committed, k.1.same r.moduleKey = true) :
    ∃ k, (committed.find? fun k => k.1.same r.moduleKey) = some k ∧
      k.1.identity = r.moduleKey.identity ∧ (r.withAlias committed).shortName = k.2.text := by
  have found : (committed.find? fun k => k.1.same r.moduleKey).isSome := by
    simpa [List.find?_isSome] using h
  obtain ⟨k, hk⟩ := Option.isSome_iff_exists.1 found
  have same := List.find?_some hk
  exact ⟨k, hk, ModuleKey.same_iff.1 same, by simp [withAlias, hk, shortName]⟩

/-- References get the same alias exactly if they belong to the same module. -/
theorem shortName_withAlias_eq_iff {committed : List (ModuleKey × ShortName)} {r s : Reference}
    (distinct : (committed.map fun k => k.2.text).Nodup)
    (hr : ∃ k ∈ committed, k.1.same r.moduleKey = true)
    (hs : ∃ k ∈ committed, k.1.same s.moduleKey = true) :
    (r.withAlias committed).shortName = (s.withAlias committed).shortName ↔
      r.moduleKey.same s.moduleKey = true := by
  obtain ⟨k, hk, ofR, eqk⟩ := shortName_withAlias hr
  obtain ⟨l, hl, ofS, eql⟩ := shortName_withAlias hs
  rw [eqk, eql, ModuleKey.same_iff]
  constructor
  · intro text
    have : k = l := List.inj_on_of_nodup_map distinct (List.mem_of_find?_eq_some hk)
      (List.mem_of_find?_eq_some hl) text
    subst this
    exact ofR.symm.trans ofS
  · intro key
    have lookup : (fun k : ModuleKey × ShortName => k.1.same r.moduleKey) =
        fun k => k.1.same s.moduleKey := by
      funext k
      rw [Bool.eq_iff_iff, ModuleKey.same_iff, ModuleKey.same_iff, key]
    rw [lookup, hl] at hk
    cases hk
    rfl

end Reference

/-! ## Mangled worklists -/

namespace Worklist

@[simp] theorem references_mapReferences (w : Worklist) (f : Reference → Reference)
    (hf : ∀ r s, (f r).same (f s) = r.same s) :
    (w.mapReferences f hf).references = w.references.map f := by
  simp [references, mapReferences, List.flatMap_map, List.map_flatMap]

/-- No alias is among the names, and references share an alias exactly if they share the module. -/
structure Fresh (w : Worklist) (names : List String) : Prop where
  notAmong : ∀ r ∈ w.references, r.shortName ∉ names
  shared : ∀ r ∈ w.references, ∀ s ∈ w.references,
    r.shortName = s.shortName ↔ r.moduleKey.same s.moduleKey = true

/-- A mangled worklist is the same worklist under committed aliases. -/
theorem mangle_eq_ok {w w' : Worklist} {names : List String} {attempts : Nat}
    (h : (w.mangle names attempts).1 = .ok w') :
    ∃ committed, Committed names w.moduleKeys committed ∧
      w' = w.mapReferences (·.withAlias committed) (Reference.same_withAlias committed) := by
  rw [mangle_eq] at h
  split at h
  · next committed names' done =>
    cases h
    exact ⟨committed, commitAliases_ok (congrArg Prod.fst done), rfl⟩
  · cases h

section

variable {w w' : Worklist} {names : List String} {attempts : Nat}

theorem isEmpty_of_mangle_eq_ok (h : (w.mangle names attempts).1 = .ok w') :
    w'.isEmpty = w.isEmpty := by
  obtain ⟨committed, -, rfl⟩ := mangle_eq_ok h
  simp [isEmpty, mapReferences]

theorem moduleKeys_of_mangle_eq_ok (h : (w.mangle names attempts).1 = .ok w') :
    w'.references.map Reference.moduleKey = w.references.map Reference.moduleKey := by
  obtain ⟨committed, -, rfl⟩ := mangle_eq_ok h
  simp [Function.comp_def]

theorem searchRoots_of_mangle_eq_ok (h : (w.mangle names attempts).1 = .ok w') :
    w'.references.map (·.searchRoot) = w.references.map (·.searchRoot) := by
  obtain ⟨committed, -, rfl⟩ := mangle_eq_ok h
  simp [Function.comp_def]

theorem fresh_of_mangle_eq_ok (h : (w.mangle names attempts).1 = .ok w') : w'.Fresh names := by
  obtain ⟨committed, done, rfl⟩ := mangle_eq_ok h
  have covered {r : Reference} (hr : r ∈ w.references) :
      ∃ k ∈ committed, k.1.same r.moduleKey = true := by
    obtain ⟨k, hk, same⟩ := exists_mem_moduleKeys hr
    have : k.1 ∈ committed.map Prod.fst := done.keys_eq ▸ List.mem_map_of_mem hk
    obtain ⟨l, hl, key⟩ := List.mem_map.1 this
    exact ⟨l, hl, key ▸ same⟩
  constructor
  · rw [references_mapReferences, List.forall_mem_map]
    intro r hr
    obtain ⟨k, hk, -, eq⟩ := Reference.shortName_withAlias (covered hr)
    exact eq ▸ done.fresh k (List.mem_of_find?_eq_some hk)
  · simp only [references_mapReferences, List.forall_mem_map, Reference.moduleKey_withAlias]
    intro r hr s hs
    exact Reference.shortName_withAlias_eq_iff done.distinct (covered hr) (covered hs)

end

end Worklist

end Loom
