import Loom.Proofs.FileSystem
import Loom.Proofs.Search.Registry
import Loom.Proofs.Search.Resolver
import Loom.Weave.Reachable

/-!
# What import chasing finds

The files to be found are given by a least set (`Reached`): what the imports of the module are
located at, what those of a found file are, and so on, as far as it can be written. A round of the
search finds the new ones among the places of the names it looks at; each round but the last takes
an importable name off the unseen ones, so the rounds are enough, and the search stops only when
there is no import left to look at.
-/

namespace Loom

/-! ## Places and trees -/

/-- The places where modules are located, in order. -/
def Locator.places (locate : Locator) (modules : List String) : List FilePath :=
  modules.filterMap fun module => (locate module).toOption

theorem Locator.mem_places {locate : Locator} {modules : List String} {f : FilePath} :
    f ∈ locate.places modules ↔ ∃ module ∈ modules, locate module = .ok f := by
  simp only [places, List.mem_filterMap]
  refine exists_congr fun module => and_congr_right fun _ => ?_
  cases locate module <;> simp [Except.toOption]

/-- The tree that a file holds, if it can be read and loaded. -/
def FileSystem.treeAt? (fs : FileSystem) (f : FilePath) : Option Module :=
  (fs.readText f).toOption.bind fun text => (Module.load text).toOption

/-- Answers of the locator that are the same path are alike to the file system: those of a search
are (`SearchPaths.coherent_locate`), those of a table need not be. -/
def Locator.Coherent (fs : FileSystem) (locate : Locator) : Prop :=
  ∀ (a b : String) (f g : FilePath), locate a = .ok f → locate b = .ok g → f.same g = true →
    fs.isWritable f = fs.isWritable g ∧ fs.treeAt? f = fs.treeAt? g

/-- A search is coherent. -/
theorem SearchPaths.coherent_locate {fs : FileSystem} (written : fs.WrittenOut) (s : SearchPaths) :
    Locator.Coherent fs (s.locate fs) := by
  intro a b f g ha hb same
  obtain ⟨p, p_file, p_form⟩ := locate_eq_ok ha
  obtain ⟨q, q_file, q_form⟩ := locate_eq_ok hb
  obtain rfl | ⟨e, f_found, g_found⟩ :=
    FileSystem.eq_or_lookup_eq written p_file p_form q_file q_form same
  · exact ⟨rfl, rfl⟩
  · simp [FileSystem.isWritable, FileSystem.lookup?, FileSystem.treeAt?, FileSystem.readText,
      f_found, g_found, Except.toOption]

/-- A table is coherent if it has no two spellings of one path. -/
theorem Locator.coherent_ofTable {fs : FileSystem} {table : List (String × FilePath)}
    (distinct : ∀ v ∈ table, ∀ w ∈ table, ∀ f g, fs.absolute v.2 = .ok f → fs.absolute w.2 = .ok g →
      f.same g = true → f = g) :
    (Locator.ofTable fs table).Coherent fs := by
  have listed {a : String} {f : FilePath} (h : Locator.ofTable fs table a = .ok f) :
      ∃ v ∈ table, fs.absolute v.2 = .ok f := by
    rw [ofTable] at h
    split at h
    · next file found =>
      obtain ⟨before, after, eq, -⟩ := List.lookup_eq_some_iff.1 found
      exact ⟨(a, file), by simp [eq], h⟩
    · cases h
  intro a b f g ha hb same
  obtain ⟨v, hv, v_form⟩ := listed ha
  obtain ⟨w, hw, w_form⟩ := listed hb
  obtain rfl := distinct v hv w hw f g v_form w_form same
  exact ⟨rfl, rfl⟩

namespace ModuleFile

variable {fs : FileSystem} {locate : Locator} {m n : ModuleFile} {f g : FilePath}

/-- A module file of the search with its tree. -/
def withTree (fs : FileSystem) (m : ModuleFile) (f : FilePath) (tree : Module) : ModuleFile :=
  { ofFile fs.workingDir f m.base with tree := some tree }

theorem load_eq_ok : (ofFile fs.workingDir f m.base).load fs = .ok n ↔
    ∃ tree, fs.treeAt? f = some tree ∧ n = m.withTree fs f tree := by
  simp only [load, FileSystem.treeAt?, ofFile, withTree]
  cases fs.readText f with
  | error e => simp [Except.mapError, Except.toOption, bind, Except.bind]
  | ok text =>
    cases h : Module.load text with
    | error e => simp [Except.mapError, Except.toOption, bind, Except.bind, h]
    | ok tree => simp [Except.mapError, Except.toOption, bind, Except.bind, h, eq_comm]

/-! ## What is to be found -/

/-- The module is located at a file that may be written and is not that of `m`. -/
structure LocatedAt (fs : FileSystem) (locate : Locator) (m : ModuleFile) (module : String)
    (f : FilePath) : Prop where
  located : locate module = .ok f
  other : m.file.same f = false
  writable : fs.isWritable f = true

/-- The files that are reached from the imports of `m`. -/
inductive Reached (fs : FileSystem) (locate : Locator) (m : ModuleFile) : FilePath → Prop
  | start {module : String} {f : FilePath} (imported : module ∈ m.importsOrNone)
    (located : LocatedAt fs locate m module f) : Reached fs locate m f
  | step {g f : FilePath} {tree : Module} {module : String} (reached : Reached fs locate m g)
    (loaded : fs.treeAt? g = some tree) (imported : module ∈ tree.imports)
    (located : LocatedAt fs locate m module f) : Reached fs locate m f

/-! ## Rounds -/

variable {seen : List FilePath} {modules : List String} {found : List ModuleFile}

/-- The files that a round loads: those that it comes across first and that may be written. -/
def fresh (fs : FileSystem) (locate : Locator) (seen : List FilePath) (modules : List String) :
    List FilePath :=
  (newPaths seen (locate.places modules)).filter fs.isWritable

theorem places_cons_of_error {module : String} {e : WeaveError} (h : locate module = .error e) :
    locate.places (module :: modules) = locate.places modules := by
  simp [Locator.places, h, Except.toOption]

theorem places_cons_of_ok {module : String} (h : locate module = .ok f) :
    locate.places (module :: modules) = f :: locate.places modules := by
  simp [Locator.places, h, Except.toOption]

/-- A round has seen all places and loads its fresh files in order. -/
theorem reachRound_eq (fs : FileSystem) (locate : Locator) (base : Option FilePath)
    (modules : List String) (seen : List FilePath) (found : List ModuleFile) :
    reachRound fs locate base modules ⟨seen, found⟩ =
      ((fresh fs locate seen modules).mapM fun f => (ofFile fs.workingDir f base).load fs).map
        fun more => ⟨seen ++ newPaths seen (locate.places modules), found ++ more⟩ := by
  induction modules generalizing seen found with
  | nil => simp [reachRound, fresh, Locator.places, Except.map, pure, Except.pure]
  | cons module rest ih =>
    rw [reachRound]
    cases located : locate module with
    | error e => simp only [fresh, places_cons_of_error located, ih]
    | ok f =>
      simp only [fresh, places_cons_of_ok located, newPaths_cons]
      split
      · exact ih seen found
      · split
        · next locked =>
          have locked : fs.isWritable f = false := by simpa using locked
          simp [ih, fresh, locked]
        · next writable =>
          have writable : fs.isWritable f = true := by simpa using writable
          rw [List.filter_cons, if_pos writable, List.mapM_cons]
          cases (ofFile fs.workingDir f base).load fs with
          | error e => rfl
          | ok n =>
            simp only [bind, Except.bind, ih, fresh]
            cases List.mapM (fun f => (ofFile fs.workingDir f base).load fs)
              ((newPaths (seen ++ [f]) (locate.places rest)).filter fs.isWritable) <;>
              simp [Except.map, pure, Except.pure]

theorem fresh_append (fs : FileSystem) (locate : Locator) (seen : List FilePath)
    (as bs : List String) : fresh fs locate seen (as ++ bs) =
      fresh fs locate seen as ++
        fresh fs locate (seen ++ newPaths seen (locate.places as)) bs := by
  rw [fresh, Locator.places, List.filterMap_append, newPaths_append, List.filter_append]
  rfl

/-! ## The search -/

/-- Each file is loaded, in order. -/
def Loads (fs : FileSystem) (m : ModuleFile) (files : List FilePath) (found : List ModuleFile) :
    Prop :=
  List.Forall₂ (fun f n => ∃ tree, fs.treeAt? f = some tree ∧ n = m.withTree fs f tree) files found

theorem loads_of_mapM {files : List FilePath}
    (h : (files.mapM fun f => (ofFile fs.workingDir f m.base).load fs) = .ok found) :
    Loads fs m files found :=
  (Except.mapM_eq_ok.1 h).imp fun _ _ => load_eq_ok.1

/-- The rounds load what is fresh, and go on with what that imports as long as there is any. -/
theorem reachWithin_succ {rounds : Nat}
    (h : reachWithin fs locate m.base (rounds + 1) modules seen = .ok found) :
    ∃ first further, Loads fs m (fresh fs locate seen modules) first ∧ found = first ++ further ∧
      (first = [] ∧ further = [] ∨ first ≠ [] ∧
        reachWithin fs locate m.base rounds (first.flatMap importsOrNone)
          (seen ++ newPaths seen (locate.places modules)) = .ok further) := by
  rw [reachWithin, reachRound_eq] at h
  cases mapped : (fresh fs locate seen modules).mapM fun f =>
    (ofFile fs.workingDir f m.base).load fs with
  | error e => simp [mapped, Except.map, bind, Except.bind] at h
  | ok first =>
    have loads := loads_of_mapM mapped
    simp only [mapped, Except.map, bind, Except.bind, List.nil_append] at h
    split at h
    · next none =>
      cases h
      have none : first = [] := List.isEmpty_iff.1 none
      exact ⟨first, [], loads, by simp [none], .inl ⟨none, rfl⟩⟩
    · next some =>
      have some : first ≠ [] := mt List.isEmpty_iff.2 some
      split at h
      · cases h
      · next further rest =>
        cases h
        exact ⟨first, further, loads, rfl, .inr ⟨some, rest⟩⟩

theorem mem_fresh (h : f ∈ fresh fs locate seen modules) :
    (∃ module ∈ modules, locate module = .ok f) ∧ fs.isWritable f = true ∧
      seen.any (·.same f) = false := by
  obtain ⟨new, writable⟩ := List.mem_filter.1 h
  obtain ⟨place, unseen⟩ := mem_newPaths new
  exact ⟨Locator.mem_places.1 place, writable, unseen⟩

theorem Loads.mem {files : List FilePath} (h : Loads fs m files found) (hn : n ∈ found) :
    ∃ f ∈ files, ∃ tree, fs.treeAt? f = some tree ∧ n = m.withTree fs f tree := by
  induction h with
  | nil => cases hn
  | cons first _ ih =>
    obtain rfl | hn := List.mem_cons.1 hn
    · exact ⟨_, List.mem_cons_self, first⟩
    · obtain ⟨f, hf, loaded⟩ := ih hn
      exact ⟨f, List.mem_cons_of_mem _ hf, loaded⟩

theorem Loads.exists_of_mem {files : List FilePath} (h : Loads fs m files found) (hf : f ∈ files) :
    ∃ tree, fs.treeAt? f = some tree ∧ m.withTree fs f tree ∈ found := by
  induction h with
  | nil => cases hf
  | cons first _ ih =>
    obtain rfl | hf := List.mem_cons.1 hf
    · obtain ⟨tree, loaded, rfl⟩ := first
      exact ⟨tree, loaded, List.mem_cons_self⟩
    · obtain ⟨tree, loaded, hn⟩ := ih hf
      exact ⟨tree, loaded, List.mem_cons_of_mem _ hn⟩

theorem Loads.map_file {files : List FilePath} (h : Loads fs m files found) :
    found.map (·.file) = files := by
  induction h with
  | nil => rfl
  | cons first _ ih =>
    obtain ⟨tree, -, rfl⟩ := first
    rw [List.map_cons, ih]
    rfl

/-- All places of the names are reached, if they may be written. -/
def Tracked (fs : FileSystem) (locate : Locator) (m : ModuleFile) (modules : List String) : Prop :=
  ∀ module ∈ modules, ∀ f, LocatedAt fs locate m module f → Reached fs locate m f

namespace Tracked

theorem fresh (tracked : Tracked fs locate m modules) (own : m.file ∈ seen)
    (hf : f ∈ fresh fs locate seen modules) : Reached fs locate m f := by
  obtain ⟨⟨module, hm, located⟩, writable, unseen⟩ := mem_fresh hf
  have other : m.file.same f = false := by
    rw [List.any_eq_false] at unseen
    simpa using unseen m.file own
  exact tracked module hm f ⟨located, other, writable⟩

/-- What a round has loaded leads on to files that are reached. -/
theorem imports (tracked : Tracked fs locate m modules) (own : m.file ∈ seen)
    (loads : Loads fs m (ModuleFile.fresh fs locate seen modules) found) :
    Tracked fs locate m (found.flatMap importsOrNone) := by
  intro module hm f located
  obtain ⟨n, hn, imported⟩ := List.mem_flatMap.1 hm
  obtain ⟨g, hg, tree, loaded, rfl⟩ := loads.mem hn
  exact .step (tracked.fresh own hg) loaded imported located

end Tracked

/-- The search finds only files that are reached. -/
theorem reached_of_mem {rounds : Nat} (own : m.file ∈ seen)
    (tracked : Tracked fs locate m modules)
    (h : reachWithin fs locate m.base rounds modules seen = .ok found) (hn : n ∈ found) :
    Reached fs locate m n.file ∧ ∃ tree, fs.treeAt? n.file = some tree ∧
      n = m.withTree fs n.file tree := by
  induction rounds generalizing modules seen found with
  | zero =>
    cases h
    cases hn
  | succ rounds ih =>
    obtain ⟨first, further, loads, rfl, ⟨rfl, rfl⟩ | ⟨-, rest⟩⟩ := reachWithin_succ h
    · cases hn
    · obtain hn | hn := List.mem_append.1 hn
      · obtain ⟨f, hf, tree, loaded, rfl⟩ := loads.mem hn
        exact ⟨tracked.fresh own hf, tree, loaded, rfl⟩
      · exact ih (List.mem_append_left _ own) (tracked.imports own loads) rest hn

/-- A search that fails has reached a file that cannot be loaded. -/
theorem reached_of_error {rounds : Nat} {e : WeaveError} (own : m.file ∈ seen)
    (tracked : Tracked fs locate m modules)
    (h : reachWithin fs locate m.base rounds modules seen = .error e) :
    ∃ f, Reached fs locate m f ∧ fs.treeAt? f = none := by
  induction rounds generalizing modules seen with
  | zero => cases h
  | succ rounds ih =>
    rw [reachWithin, reachRound_eq] at h
    cases mapped : (fresh fs locate seen modules).mapM fun f =>
      (ofFile fs.workingDir f m.base).load fs with
    | error e' =>
      obtain ⟨before, f, after, split, -, failed⟩ := Except.mapM_eq_error.1 mapped
      have hf : f ∈ fresh fs locate seen modules := by simp [split]
      refine ⟨f, tracked.fresh own hf, ?_⟩
      cases loaded : fs.treeAt? f with
      | none => rfl
      | some tree => simp [load_eq_ok.2 ⟨tree, loaded, rfl⟩] at failed
    | ok first =>
      have loads := loads_of_mapM mapped
      simp only [mapped, Except.map, bind, Except.bind, List.nil_append] at h
      split at h
      · cases h
      · split at h
        · next rest =>
          cases h
          exact ih (List.mem_append_left _ own) (tracked.imports own loads) rest
        · cases h

/-! ## Enough rounds -/

/-- The names whose place has not been seen. -/
def unseen (locate : Locator) (importable : List String) (seen : List FilePath) : List String :=
  importable.filter fun module =>
    ((locate module).toOption.map fun f => !seen.any (·.same f)).getD false

/-- A round that loads a file takes a name off the unseen ones. -/
theorem length_unseen_lt {importable : List String} (inside : ∀ x ∈ modules, x ∈ importable)
    (hf : f ∈ fresh fs locate seen modules) :
    (unseen locate importable (seen ++ newPaths seen (locate.places modules))).length <
      (unseen locate importable seen).length := by
  obtain ⟨⟨module, hm, located⟩, -, new⟩ := mem_fresh hf
  have fewer : unseen locate importable (seen ++ newPaths seen (locate.places modules)) =
      unseen locate (unseen locate importable seen)
        (seen ++ newPaths seen (locate.places modules)) := by
    rw [unseen, unseen, unseen, List.filter_filter]
    refine List.filter_congr fun x _ => ?_
    cases (locate x).toOption with
    | none => rfl
    | some g =>
      simp only [Option.map_some, Option.getD_some, List.any_append]
      cases seen.any (·.same g) <;> simp
  rw [fewer, unseen, List.length_filter_lt_length_iff_exists]
  refine ⟨module, ?_, ?_⟩
  · simp [unseen, inside module hm, located, Except.toOption, new]
  · have known : (newPaths seen (locate.places modules)).any (·.same f) = true :=
      List.any_eq_true.2 ⟨f, (List.mem_filter.1 hf).1, FilePath.same_iff.2 rfl⟩
    simp [located, Except.toOption, known]

section

variable {importable : List String} {rounds k : Nat} {first : List ModuleFile}

theorem mem_importable_of_loads (closed : ∀ f tree, fs.treeAt? f = some tree →
      ∀ x ∈ tree.imports, x ∈ importable)
    (loads : Loads fs m (fresh fs locate seen modules) first) :
    ∀ x ∈ first.flatMap importsOrNone, x ∈ importable := by
  intro x hx
  obtain ⟨n, hn, hx⟩ := List.mem_flatMap.1 hx
  obtain ⟨f, -, tree, loaded, rfl⟩ := loads.mem hn
  exact closed f tree loaded x hx

theorem length_unseen_lt_of_loads (inside : ∀ x ∈ modules, x ∈ importable)
    (loads : Loads fs m (fresh fs locate seen modules) first) (some : first ≠ []) :
    (unseen locate importable (seen ++ newPaths seen (locate.places modules))).length <
      (unseen locate importable seen).length := by
  obtain ⟨n, hn⟩ := List.exists_mem_of_ne_nil _ some
  obtain ⟨f, hf, -⟩ := loads.mem hn
  exact length_unseen_lt inside hf

/-- With a round for each unseen name, the search ends when nothing fresh is left: what it finds is
what is fresh of all imports, its own finds' included. -/
theorem loads_of_reachWithin (inside : ∀ x ∈ modules, x ∈ importable)
    (closed : ∀ f tree, fs.treeAt? f = some tree → ∀ x ∈ tree.imports, x ∈ importable)
    (enough : (unseen locate importable seen).length < rounds)
    (h : reachWithin fs locate m.base rounds modules seen = .ok found) :
    Loads fs m (fresh fs locate seen (modules ++ found.flatMap importsOrNone)) found := by
  induction rounds generalizing modules seen found with
  | zero => omega
  | succ rounds ih =>
    obtain ⟨first, further, loads, rfl, ⟨rfl, rfl⟩ | ⟨some, rest⟩⟩ := reachWithin_succ h
    · simpa using loads
    · have imported := mem_importable_of_loads closed loads
      have fewer := length_unseen_lt_of_loads inside loads some
      rw [List.flatMap_append, fresh_append]
      exact List.rel_append loads (ih imported (by omega) rest)

/-- With a round for each unseen name, further rounds change nothing. -/
theorem reachWithin_eq (inside : ∀ x ∈ modules, x ∈ importable)
    (closed : ∀ f tree, fs.treeAt? f = some tree → ∀ x ∈ tree.imports, x ∈ importable)
    (enough : (unseen locate importable seen).length < rounds)
    (also_enough : (unseen locate importable seen).length < k) :
    reachWithin fs locate m.base rounds modules seen =
      reachWithin fs locate m.base k modules seen := by
  induction rounds generalizing k modules seen with
  | zero => omega
  | succ rounds ih =>
    obtain ⟨k, rfl⟩ : ∃ l, k = l + 1 := ⟨k - 1, by omega⟩
    rw [reachWithin, reachWithin, reachRound_eq]
    cases mapped : (fresh fs locate seen modules).mapM fun f =>
      (ofFile fs.workingDir f m.base).load fs with
    | error e => rfl
    | ok first =>
      have loads := loads_of_mapM mapped
      simp only [Except.map, bind, Except.bind, List.nil_append]
      split
      · rfl
      · next some =>
        have some : first ≠ [] := mt List.isEmpty_iff.2 some
        have fewer := length_unseen_lt_of_loads inside loads some
        rw [ih (k := k) (mem_importable_of_loads closed loads) (by omega) (by omega)]

end

/-- What a tree in the file system imports is what an entry imports. -/
theorem mem_importsAt {tree : Module} (h : fs.treeAt? f = some tree) {x : String}
    (hx : x ∈ tree.imports) : x ∈ fs.entries.flatMap importsAt := by
  obtain ⟨text, read, loaded⟩ := Option.bind_eq_some_iff.1 h
  obtain ⟨e, he, node⟩ := FileSystem.exists_of_readText (Except.toOption_eq_some.1 read)
  refine List.mem_flatMap.2 ⟨e, he, ?_⟩
  simpa [importsAt, node, Except.toOption_eq_some.1 loaded] using hx

/-- The names that the trees import, and as a bound on the rounds their number and one more. -/
def importable (fs : FileSystem) (tree : Module) : List String :=
  distinct (tree.imports ++ fs.entries.flatMap importsAt)

theorem mem_importable {tree : Module} :
    (∀ x ∈ tree.imports, x ∈ importable fs tree) ∧
      ∀ f t, fs.treeAt? f = some t → ∀ x ∈ t.imports, x ∈ importable fs tree :=
  ⟨fun _ hx => mem_distinct.2 (List.mem_append_left _ hx),
    fun _ _ ht _ hx => mem_distinct.2 (List.mem_append_right _ (mem_importsAt ht hx))⟩

theorem reachable_eq {tree : Module} (loaded : m.tree = some tree) :
    m.reachable fs locate = reachWithin fs locate m.base ((importable fs tree).length + 1)
      tree.imports [m.file] := by
  simp only [reachable, ModuleFile.imports, ModuleFile.loaded, loaded, bind, Except.bind,
    importable]

theorem length_unseen_le (locate : Locator) (names : List String) (seen : List FilePath) :
    (unseen locate names seen).length ≤ names.length :=
  List.length_filter_le ..

/-- The search has ended after so many rounds as there are importable names, and one. -/
theorem reachWithin_eq_reachable {tree : Module} {rounds : Nat} (loaded : m.tree = some tree)
    (enough : (importable fs tree).length < rounds) :
    reachWithin fs locate m.base rounds tree.imports [m.file] = m.reachable fs locate := by
  rw [reachable_eq loaded]
  have bound := length_unseen_le locate (importable fs tree) [m.file]
  exact reachWithin_eq mem_importable.1 mem_importable.2 (by omega) (by omega)

/-- A search that succeeds has loaded what is fresh of all imports. -/
theorem loads_of_reachable {tree : Module} (loaded : m.tree = some tree)
    (h : m.reachable fs locate = .ok found) :
    Loads fs m (fresh fs locate [m.file] (tree.imports ++ found.flatMap importsOrNone)) found := by
  rw [reachable_eq loaded] at h
  exact loads_of_reachWithin mem_importable.1 mem_importable.2
    (Nat.lt_succ_of_le (length_unseen_le ..)) h

/-! ## What is reached is found -/

theorem exists_same_of_locatedAt {module : String} (coherent : locate.Coherent fs)
    (loads : Loads fs m (fresh fs locate [m.file] modules) found) (hm : module ∈ modules)
    (located : LocatedAt fs locate m module f) :
    ∃ n ∈ found, n.file.same f = true ∧ n.tree = fs.treeAt? f ∧ n.tree.isSome = true := by
  have known : ([m.file] ++ newPaths [m.file] (locate.places modules)).any (·.same f) = true := by
    rw [any_same_append_newPaths]
    exact List.any_eq_true.2 ⟨f, List.mem_append_right _ (Locator.mem_places.2 ⟨module, hm,
      located.located⟩), FilePath.same_iff.2 rfl⟩
  obtain ⟨g, hg, same⟩ := List.any_eq_true.1 known
  obtain own | hg := List.mem_append.1 hg
  · rw [List.mem_singleton.1 own, located.other] at same
    cases same
  obtain ⟨module', -, located'⟩ := Locator.mem_places.1 (mem_newPaths hg).1
  obtain ⟨writable, tree_eq⟩ := coherent _ _ _ _ located' located.located same
  obtain ⟨tree, loaded, hn⟩ :=
    loads.exists_of_mem (List.mem_filter.2 ⟨hg, writable.trans located.writable⟩)
  exact ⟨_, hn, same, loaded.symm.trans tree_eq, rfl⟩

theorem importsOrNone_eq {tree : Module} (loaded : m.tree = some tree) :
    m.importsOrNone = tree.imports := by
  rw [importsOrNone, loaded]
  rfl

/-- If the locator is coherent, every file that is reached has been found. -/
theorem exists_same_of_reached {tree : Module} (loaded : m.tree = some tree)
    (coherent : locate.Coherent fs)
    (loads : Loads fs m (fresh fs locate [m.file] (tree.imports ++ found.flatMap importsOrNone))
      found)
    (h : Reached fs locate m f) :
    ∃ n ∈ found, n.file.same f = true ∧ n.tree = fs.treeAt? f ∧ n.tree.isSome = true := by
  induction h with
  | start imported located =>
    rw [importsOrNone_eq loaded] at imported
    exact exists_same_of_locatedAt coherent loads (List.mem_append_left _ imported) located
  | step _ tree_at imported located ih =>
    obtain ⟨n, hn, -, tree_eq, -⟩ := ih
    refine exists_same_of_locatedAt coherent loads (List.mem_append_right _ ?_) located
    refine List.mem_flatMap.2 ⟨n, hn, ?_⟩
    rw [importsOrNone_eq (tree_eq.trans tree_at)]
    exact imported

/-- The search ends. It succeeds if all files that are reached can be loaded; what it has loaded
then are reached files only, in the order in which the imports come across them, each once, and if
the locator is coherent all of them. -/
theorem reachable_spec {tree : Module} (loaded : m.tree = some tree) (fs : FileSystem)
    (locate : Locator) :
    (∃ enough, ∀ rounds, enough ≤ rounds →
      reachWithin fs locate m.base rounds tree.imports [m.file] = m.reachable fs locate) ∧
    ((∀ f, Reached fs locate m f → (fs.treeAt? f).isSome = true) →
      ∃ found, m.reachable fs locate = .ok found) ∧
    ∀ found, m.reachable fs locate = .ok found →
      found.map (·.file) =
        (newPaths [m.file] (locate.places (tree.imports ++ found.flatMap importsOrNone))).filter
          fs.isWritable ∧
      found.Pairwise (fun a b => a.file.same b.file = false) ∧
      (∀ n ∈ found, Reached fs locate m n.file ∧
        ∃ t, fs.treeAt? n.file = some t ∧ n = m.withTree fs n.file t) ∧
      (locate.Coherent fs → ∀ f, Reached fs locate m f → (fs.treeAt? f).isSome = true ∧
        ∃ n ∈ found, n.file.same f = true) := by
  have tracked : Tracked fs locate m tree.imports :=
    fun module hm f located => .start (importsOrNone_eq loaded ▸ hm) located
  refine ⟨⟨_, fun rounds enough => reachWithin_eq_reachable loaded enough⟩, fun all => ?_,
    fun found h => ?_⟩
  · cases h : m.reachable fs locate with
    | ok found => exact ⟨found, rfl⟩
    | error e =>
      rw [reachable_eq loaded] at h
      obtain ⟨f, reached, none⟩ := reached_of_error List.mem_cons_self tracked h
      have some := all f reached
      rw [none] at some
      cases some
  · have loads := loads_of_reachable loaded h
    have files := loads.map_file
    refine ⟨files, ?_, fun n hn => ?_, fun coherent f reached => ?_⟩
    · rw [← List.pairwise_map (f := ModuleFile.file) (R := fun f g => f.same g = false), files]
      exact (newPaths_pairwise ..).filter _
    · rw [reachable_eq loaded] at h
      exact reached_of_mem List.mem_cons_self tracked h hn
    · obtain ⟨n, hn, same, tree_eq, some⟩ := exists_same_of_reached loaded coherent loads reached
      exact ⟨tree_eq ▸ some, n, hn, same⟩

/-- A root with two modules that import each other, and a third one. -/
def cycle : FileSystem :=
  ⟨[⟨["x.json"], .file (some
      "\x7b\"body\":[\x7b\"Import\":[\x7b\"name\":\"y\"\x7d]\x7d]\x7d"), false⟩,
    ⟨["y.json"], .file (some
      "\x7b\"body\":[\x7b\"Import\":[\x7b\"name\":\"x\"\x7d]\x7d]\x7d"), false⟩,
    ⟨["z.json"], .file (some "\x7b\"body\":[\"Pass\"]\x7d"), false⟩], ⟨"/"⟩⟩

/-- A module that imports others by name. -/
def importing (names : List String) : ModuleFile :=
  { ofFile ⟨"/"⟩ ⟨"/m.json"⟩ none with
    tree := some ⟨[.importNames (names.map fun name => ⟨name, none⟩)]⟩ }

/-- The search below the root. -/
def below : SearchPaths := { SearchPaths.ofRoots [⟨"/"⟩] with extension := "json" }

theorem reachable_spec_cycle :
    ∃ found, (importing ["x"]).reachable cycle (below.locate cycle) = .ok found ∧
      found.map (·.file) = [⟨"/x.json"⟩, ⟨"/y.json"⟩] ∧
      ∀ f, Reached cycle (below.locate cycle) (importing ["x"]) f →
        (cycle.treeAt? f).isSome = true ∧ ∃ n ∈ found, n.file.same f = true := by
  have coherent : Locator.Coherent cycle (below.locate cycle) :=
    SearchPaths.coherent_locate ⟨[], by simp, rfl⟩ below
  have files : ((importing ["x"]).reachable cycle (below.locate cycle)).toOption.map
      (fun found => found.map (·.file)) = some [⟨"/x.json"⟩, ⟨"/y.json"⟩] := by
    decide +kernel
  obtain ⟨found, h, files⟩ := Option.map_eq_some_iff.1 files
  replace h := Except.toOption_eq_some.1 h
  exact ⟨found, h, files,
    ((reachable_spec rfl cycle (below.locate cycle)).2.2 found h).2.2.2 coherent⟩

/-- Where two spellings of a path are not alike to the file system, the first one decides: the file
`z` is found though the other spelling, which is reached too, cannot be loaded. -/
theorem reachable_of_two_spellings :
    let locate := Locator.ofTable cycle [("z", ⟨"/z.json"⟩), ("other", ⟨"/z.json/"⟩)]
    (∃ found, (importing ["z", "other"]).reachable cycle locate = .ok found) ∧
      ∃ f, Reached cycle locate (importing ["z", "other"]) f ∧ cycle.treeAt? f = none := by
  intro locate
  refine ⟨Except.exists_of_isOk (by decide +kernel), ⟨"/z.json/"⟩, ?_, by decide +kernel⟩
  have imported : "other" ∈ (importing ["z", "other"]).importsOrNone := by decide +kernel
  have located : locate "other" = .ok ⟨"/z.json/"⟩ := Except.toOption_eq_some.1 (by decide +kernel)
  exact .start imported ⟨located, by decide +kernel, by decide +kernel⟩

end ModuleFile

end Loom
