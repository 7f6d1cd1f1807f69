import Loom.Proofs.Search.Resolver
import Loom.Proofs.Weave.SharedRegistry

/-!
# Searches that grow

A search looks through roots of its own and then through the entries of a registry, which others fill
meanwhile: weavings register the search roots of what they bring in. New roots come after the old
ones and new entries after the old entries (`Grows`), so what was found first stays first. A module
that had no file before is found later under a root that came since, the first of these that has it.
-/

namespace Loom

/-! ## Where a file is found -/

namespace SearchPaths

variable {fs : FileSystem} {s t : SearchPaths} {module : String} {f : FilePath}

/-- The file that a root has for a module: its own before that of its package. -/
def fileUnder? (s : SearchPaths) (fs : FileSystem) (module : String) (root : FilePath) :
    Option FilePath :=
  (s.candidates root module).find? fs.isFile

theorem find?_eq_findSome? (s : SearchPaths) (fs : FileSystem) (module : String) :
    s.find? fs module = s.searched.findSome? (s.fileUnder? fs module) := by
  rw [find?, List.find?_flatMap]
  rfl

theorem fileUnder?_congr (same : t.extension = s.extension) :
    t.fileUnder? fs module = s.fileUnder? fs module := by
  funext root
  rw [fileUnder?, candidates, same]
  rfl

theorem find?_eq_none (name : isModuleName module = true)
    (unresolved : s.locate fs module = .error (.unresolvable module)) :
    s.find? fs module = none := by
  rw [locate, name] at unresolved
  cases found : s.find? fs module with
  | none => rfl
  | some p =>
    rw [found] at unresolved
    cases form : p.absolute? fs.workingDir <;> simp [FileSystem.absolute, form] at unresolved

theorem prefix_addPath (paths : List FilePath) (p : FilePath) : paths <+: addPath paths p := by
  unfold addPath
  split
  · exact List.prefix_rfl
  · exact List.prefix_append ..

theorem mem_addPath {paths : List FilePath} {p q : FilePath} (h : q ∈ addPath paths p) :
    q ∈ paths ∨ q = p := by
  unfold addPath at h
  split at h
  · exact .inl h
  · simpa using h

end SearchPaths

/-! ## Changes -/

/-- Modules and registries, and a search with roots of its own that may watch one of the
registries. -/
structure SearchState (ρ ι : Type) where
  modules : ι → ModuleFile
  registries : ρ → Registry
  roots : List FilePath
  extension : String
  watched : Option ρ

/-- What may happen to a search or around it: paths are registered, a module is woven under a
registry, and the search is given roots or another registry to watch. -/
inductive SearchChange (ρ ι : Type) where
  | register (registry : ρ) (path : FilePath)
  | registerAll (registry : ρ) (paths : List FilePath)
  | weave (registry : ρ) (call : Call ι)
  | addRoot (root : FilePath)
  | addWorkingDir
  | watch (registry : ρ)

/-- Whether a change leaves the search itself alone. -/
def SearchChange.RegistersOnly {ρ ι : Type} : SearchChange ρ ι → Prop
  | .register .. => True
  | .registerAll .. => True
  | .weave .. => True
  | _ => False

namespace SearchState

variable {ρ ι : Type} {fs : FileSystem} {s t u : SearchState ρ ι} {c : SearchChange ρ ι}

/-- The search as it is now. -/
def search (s : SearchState ρ ι) : SearchPaths :=
  ⟨s.roots, s.extension, s.watched.map s.registries⟩

/-- The modules with one of the registries. -/
def workshop (s : SearchState ρ ι) (k : ρ) : Workshop ι := ⟨s.modules, s.registries k⟩

theorem searched_search (s : SearchState ρ ι) : s.search.searched =
    s.roots ++ (s.watched.map fun k => (s.registries k).entries).getD [] := by
  rw [SearchPaths.searched, search, Option.map_map]
  rfl

theorem mem_searched_addRoot {root q : FilePath}
    (h : q ∈ ({ s with roots := (s.search.addRoot root).roots } : SearchState ρ ι).search.searched) :
    q ∈ s.search.searched ∨ q = root := by
  rw [searched_search] at h ⊢
  obtain old | entry := List.mem_append.1 h
  · exact (SearchPaths.mem_addPath old).imp_left (List.mem_append_left _)
  · exact .inl (List.mem_append_right _ entry)

/-! ## Growth -/

/-- What was there stays in front: of the roots, and of the entries of every registry. -/
structure Grows (s t : SearchState ρ ι) : Prop where
  roots : s.roots <+: t.roots
  extension : t.extension = s.extension
  entries : ∀ k, (s.registries k).entries <+: (t.registries k).entries

theorem Grows.refl (s : SearchState ρ ι) : s.Grows s :=
  ⟨List.prefix_rfl, rfl, fun _ => List.prefix_rfl⟩

theorem Grows.trans (h : s.Grows t) (h' : t.Grows u) : s.Grows u where
  roots := h.roots.trans h'.roots
  extension := h'.extension.trans h.extension
  entries k := (h.entries k).trans (h'.entries k)

theorem Grows.searched (h : s.Grows t) (roots : t.roots = s.roots)
    (watched : t.watched = s.watched) : s.search.searched <+: t.search.searched := by
  rw [searched_search, searched_search, roots, watched]
  cases s.watched with
  | none => exact List.prefix_rfl
  | some k => exact (List.prefix_append_right_inj _).2 (h.entries k)

theorem Grows.roots_searched (h : s.Grows t) : s.roots <+: t.search.searched := by
  rw [searched_search]
  exact h.roots.trans (List.prefix_append ..)

/-! ## Resolutions -/

/-- What is found first stays first when more is searched after it. -/
theorem locate_of_prefix {module : String} {f : FilePath} {first : List FilePath}
    (extension : t.extension = s.extension) (found : s.search.locate fs module = .ok f)
    (within : first.findSome? (s.search.fileUnder? fs module) = s.search.find? fs module)
    (kept : first <+: t.search.searched) : t.search.locate fs module = .ok f := by
  obtain ⟨name, p, first_found, form⟩ := SearchPaths.locate_eq_ok_iff.1 found
  refine SearchPaths.locate_eq_ok_iff.2 ⟨name, p, ?_, form⟩
  rw [SearchPaths.find?_eq_findSome?, SearchPaths.fileUnder?_congr (s := s.search) extension]
  exact kept.findSome?_eq_some (within.trans first_found)

/-- Under its own roots a search finds what it finds, if one of them has the module. -/
theorem findSome?_roots {module : String} {root : FilePath} (mem : root ∈ s.roots)
    (has : s.search.fileUnder? fs module root ≠ none) :
    s.roots.findSome? (s.search.fileUnder? fs module) = s.search.find? fs module := by
  have some_own : (s.roots.findSome? (s.search.fileUnder? fs module)).isSome = true := by
    rw [List.findSome?_isSome_iff]
    exact ⟨root, mem, Option.isSome_iff_ne_none.2 has⟩
  rw [SearchPaths.find?_eq_findSome?, searched_search, List.findSome?_append,
    Option.or_of_isSome some_own]

section

variable [DecidableEq ρ]

/-! ## One change -/

def setRegistry (s : SearchState ρ ι) (k : ρ) (r : Registry) : SearchState ρ ι :=
  { s with registries := Function.update s.registries k r }

theorem entries_setRegistry {r : Registry} {k : ρ} (h : (s.registries k).entries <+: r.entries)
    (k' : ρ) : (s.registries k').entries <+: ((s.setRegistry k r).registries k').entries := by
  by_cases same : k' = k
  · subst same
    simpa [setRegistry] using h
  · simp [setRegistry, Function.update_of_ne same]

theorem mem_searched_setRegistry {r : Registry} {k : ρ} {new : List FilePath}
    (entries : ∀ q ∈ r.entries, q ∈ (s.registries k).entries ∨ q ∈ new) {q : FilePath}
    (h : q ∈ (s.setRegistry k r).search.searched) :
    q ∈ s.search.searched ∨ q ∈ if s.watched = some k then new else [] := by
  rw [searched_search] at h ⊢
  obtain root | entry := List.mem_append.1 h
  · exact .inl (List.mem_append_left _ root)
  cases watched : s.watched with
  | none => simp [setRegistry, watched] at entry
  | some k' =>
    by_cases same : k' = k
    · subst same
      simp only [setRegistry, watched, Option.map_some, Option.getD_some,
        Function.update_self] at entry
      rw [if_pos rfl]
      exact (entries q entry).imp_left (List.mem_append_right _)
    · simp only [setRegistry, watched, Option.map_some, Option.getD_some,
        Function.update_of_ne same] at entry
      exact .inl (List.mem_append_right _ entry)

variable [DecidableEq ι]

/-- The state after a change. -/
def after (fs : FileSystem) (s : SearchState ρ ι) : SearchChange ρ ι → SearchState ρ ι
  | .register k p => s.setRegistry k ((s.registries k).register p)
  | .registerAll k ps => s.setRegistry k ((s.registries k).registerAll ps)
  | .weave k call =>
    { s.setRegistry k ((s.workshop k).after call).registry with
      modules := ((s.workshop k).after call).modules }
  | .addRoot root => { s with roots := (s.search.addRoot root).roots }
  | .addWorkingDir => { s with roots := (s.search.withWorkingDir fs).roots }
  | .watch k => { s with watched := some k }

/-- The paths that a change brings to the search. -/
noncomputable def brought (fs : FileSystem) (s : SearchState ρ ι) : SearchChange ρ ι → List FilePath
  | .register k p => if s.watched = some k then [p] else []
  | .registerAll k ps => if s.watched = some k then ps else []
  | .weave k call => if s.watched = some k then (s.workshop k).rootsOf call else []
  | .addRoot root => [root]
  | .addWorkingDir => [fs.workingDir]
  | .watch k => (s.registries k).entries

/-- The paths that a run of changes brings to the search. -/
noncomputable def broughtBy (fs : FileSystem) (s : SearchState ρ ι) : List (SearchChange ρ ι) → List FilePath
  | [] => []
  | c :: changes => s.brought fs c ++ (s.after fs c).broughtBy fs changes

theorem grows_after (fs : FileSystem) (s : SearchState ρ ι) (c : SearchChange ρ ι) :
    s.Grows (s.after fs c) := by
  cases c with
  | register k p =>
    exact ⟨List.prefix_rfl, rfl, entries_setRegistry (SearchPaths.prefix_addPath _ p)⟩
  | registerAll k ps =>
    refine ⟨List.prefix_rfl, rfl, entries_setRegistry ?_⟩
    rw [Registry.entries_registerAll]
    exact List.prefix_append ..
  | weave k call =>
    refine ⟨List.prefix_rfl, rfl, entries_setRegistry ?_⟩
    rw [Workshop.entries_after]
    exact List.prefix_append ..
  | addRoot root => exact ⟨SearchPaths.prefix_addPath _ root, rfl, fun _ => List.prefix_rfl⟩
  | addWorkingDir => exact ⟨SearchPaths.prefix_addPath _ _, rfl, fun _ => List.prefix_rfl⟩
  | watch k => exact ⟨List.prefix_rfl, rfl, fun _ => List.prefix_rfl⟩

theorem grows_foldl_after (fs : FileSystem) (s : SearchState ρ ι)
    (changes : List (SearchChange ρ ι)) : s.Grows (changes.foldl (after fs) s) := by
  induction changes generalizing s with
  | nil => exact .refl s
  | cons c changes ih => exact (s.grows_after fs c).trans (ih (s.after fs c))

/-- Registering leaves the search with its roots and its registry. -/
theorem search_foldl_after {changes : List (SearchChange ρ ι)}
    (registers : ∀ c ∈ changes, c.RegistersOnly) :
    (changes.foldl (after fs) s).roots = s.roots ∧
      (changes.foldl (after fs) s).watched = s.watched := by
  induction changes generalizing s with
  | nil => exact ⟨rfl, rfl⟩
  | cons c changes ih =>
    obtain ⟨roots, watched⟩ := @ih (s.after fs c) fun d hd => registers d (List.mem_cons_of_mem _ hd)
    have own : (s.after fs c).roots = s.roots ∧ (s.after fs c).watched = s.watched := by
      have only := registers c List.mem_cons_self
      cases c with
      | register | registerAll | weave => exact ⟨rfl, rfl⟩
      | addRoot | addWorkingDir | watch => cases only
    exact ⟨roots.trans own.1, watched.trans own.2⟩

/-! ## What is searched later -/

/-- After a change the search looks at nothing but what it looked at and what the change brings. -/
theorem mem_searched_after {q : FilePath} (h : q ∈ (s.after fs c).search.searched) :
    q ∈ s.search.searched ∨ q ∈ s.brought fs c := by
  cases c with
  | register k p =>
    refine mem_searched_setRegistry (fun q hq => ?_) h
    simpa using SearchPaths.mem_addPath hq
  | registerAll k ps =>
    refine mem_searched_setRegistry (fun q hq => ?_) h
    rw [Registry.entries_registerAll] at hq
    exact (List.mem_append.1 hq).imp_right fun new => (mem_newPaths new).1
  | weave k call =>
    refine mem_searched_setRegistry (fun q hq => ?_) h
    rw [Workshop.entries_after] at hq
    exact (List.mem_append.1 hq).imp_right fun new => (mem_newPaths new).1
  | addRoot root => exact (mem_searched_addRoot h).imp_right List.mem_singleton.2
  | addWorkingDir => exact (mem_searched_addRoot h).imp_right List.mem_singleton.2
  | watch k =>
    rw [searched_search] at h ⊢
    exact (List.mem_append.1 h).imp_left (List.mem_append_left _)

theorem mem_searched_foldl_after {q : FilePath} {changes : List (SearchChange ρ ι)}
    (h : q ∈ (changes.foldl (after fs) s).search.searched) :
    q ∈ s.search.searched ∨ q ∈ s.broughtBy fs changes := by
  induction changes generalizing s with
  | nil => exact .inl h
  | cons c changes ih =>
    obtain later | later := ih h
    · exact (mem_searched_after later).imp_right (List.mem_append_left _)
    · exact .inr (List.mem_append_right _ later)

/-- A resolution that succeeds stays as it is whatever is registered, and one under a root of the
search's own whatever else happens, too. A module that was not found before is found later under a
path that came since: of those that are searched now and were not before, the first that has it. -/
theorem locate_stable (fs : FileSystem) (s : SearchState ρ ι) (module : String)
    (changes : List (SearchChange ρ ι)) :
    (∀ f, s.search.locate fs module = .ok f →
      ((∀ c ∈ changes, c.RegistersOnly) ∨
        ∃ root ∈ s.roots, s.search.fileUnder? fs module root ≠ none) →
      (changes.foldl (after fs) s).search.locate fs module = .ok f) ∧
    (s.search.locate fs module = .error (.unresolvable module) →
      SearchPaths.isModuleName module = true →
      ∀ f, (changes.foldl (after fs) s).search.locate fs module = .ok f →
        ∃ before root later p,
          (changes.foldl (after fs) s).search.searched.filter (· ∉ s.search.searched) =
            before ++ root :: later ∧
          root ∈ s.broughtBy fs changes ∧
          (∀ q ∈ before, s.search.fileUnder? fs module q = none) ∧
          s.search.fileUnder? fs module root = some p ∧ p.absolute? fs.workingDir = some f) := by
  have grows := s.grows_foldl_after fs changes
  refine ⟨fun f found cause => ?_, fun unresolved name f found => ?_⟩
  · obtain registers | ⟨root, mem, has⟩ := cause
    · obtain ⟨roots, watched⟩ := search_foldl_after (s := s) registers
      exact locate_of_prefix grows.extension found (SearchPaths.find?_eq_findSome? ..).symm
        (grows.searched roots watched)
    · exact locate_of_prefix grows.extension found (findSome?_roots mem has) grows.roots_searched
  · have none := SearchPaths.find?_eq_none name unresolved
    rw [SearchPaths.find?_eq_findSome?, List.findSome?_eq_none_iff] at none
    obtain ⟨-, p, first_found, form⟩ := SearchPaths.locate_eq_ok_iff.1 found
    rw [SearchPaths.find?_eq_findSome?, SearchPaths.fileUnder?_congr (s := s.search) grows.extension,
      List.findSome?_eq_some_iff] at first_found
    obtain ⟨before, root, later, split, has, misses⟩ := first_found
    have new : root ∉ s.search.searched := fun old => by simp [none root old] at has
    refine ⟨before.filter (· ∉ s.search.searched), root, later.filter (· ∉ s.search.searched), p,
      ?_, ?_, fun q hq => misses q (List.mem_filter.1 hq).1, has, form⟩
    · rw [split, List.filter_append, List.filter_cons_of_pos (by simpa using new)]
    · have mem : root ∈ (changes.foldl (after fs) s).search.searched := by simp [split]
      exact (mem_searched_foldl_after mem).resolve_left new

/-! ## An example

The module `log` lies under both roots, `util` under the second one only. -/

def shelves : FileSystem where
  entries := [⟨["w"], .directory, false⟩, ⟨["w", "lib"], .directory, false⟩,
    ⟨["w", "lib", "log.py"], .file (some ""), false⟩, ⟨["w", "more"], .directory, false⟩,
    ⟨["w", "more", "log.py"], .file (some ""), false⟩,
    ⟨["w", "more", "util.py"], .file (some ""), false⟩]
  workingDir := ⟨"/w"⟩

def shelfSearch : SearchState Unit Bool :=
  ⟨Workshop.jobShop.modules, fun _ => .empty, [⟨"lib"⟩], "py", some ()⟩

/-- Registered paths, one of them by a weaving, and another root leave `log` where it is; `util` is
found under that root. -/
theorem locate_stable_shelves :
    ([.registerAll () [⟨"more"⟩], .weave () ⟨true, ModuleFile.tracing, 1⟩].foldl (after shelves)
      shelfSearch).search.locate shelves "log" = .ok ⟨"/w/lib/log.py"⟩ ∧
    ([.addRoot ⟨"more"⟩, .watch ()].foldl (after shelves) shelfSearch).search.locate shelves "log" =
      .ok ⟨"/w/lib/log.py"⟩ ∧
    shelfSearch.search.locate shelves "util" = .error (.unresolvable "util") ∧
    ∃ f, ([.addRoot ⟨"more"⟩, .watch ()].foldl (after shelves) shelfSearch).search.locate shelves
        "util" = .ok f ∧
      ∃ root p, root ∈ shelfSearch.broughtBy shelves [.addRoot ⟨"more"⟩, .watch ()] ∧
        shelfSearch.search.fileUnder? shelves "util" root = some p ∧
        p.absolute? shelves.workingDir = some f := by
  have log : shelfSearch.search.locate shelves "log" = .ok ⟨"/w/lib/log.py"⟩ :=
    Except.toOption_eq_some.1 (by decide +kernel)
  have no_util : shelfSearch.search.locate shelves "util" = .error (.unresolvable "util") := by
    have missing : shelfSearch.search.find? shelves "util" = none := by decide +kernel
    have name : SearchPaths.isModuleName "util" = true := by decide +kernel
    rw [SearchPaths.locate, name, missing]
    rfl
  have util : ([.addRoot ⟨"more"⟩, .watch ()].foldl (after shelves) shelfSearch).search.locate
      shelves "util" = .ok ⟨"/w/more/util.py"⟩ :=
    Except.toOption_eq_some.1 (by decide +kernel)
  have registered := (locate_stable shelves shelfSearch "log"
    [.registerAll () [⟨"more"⟩], .weave () ⟨true, ModuleFile.tracing, 1⟩]).1 _ log
    (.inl (by simp [SearchChange.RegistersOnly]))
  have extended := (locate_stable shelves shelfSearch "log" [.addRoot ⟨"more"⟩, .watch ()]).1 _ log
    (.inr ⟨⟨"lib"⟩, by decide, by decide +kernel⟩)
  obtain ⟨before, root, later, p, -, brought, -, has, form⟩ :=
    (locate_stable shelves shelfSearch "util" [.addRoot ⟨"more"⟩, .watch ()]).2 no_util
      (by decide +kernel) _ util
  exact ⟨registered, extended, no_util, _, util, root, p, brought, has, form⟩

end

end SearchState

end Loom
