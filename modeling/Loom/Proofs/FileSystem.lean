import Loom.FileSystem
import Loom.Proofs.Except
import Loom.Proofs.Path

/-!
# What changes leave alone

A path that can be followed leads to names that its text alone decides (`place`). So a file that is
written stays as it was for every path with another place, and making directories changes no file.
-/

namespace Loom

namespace FileSystem

variable {fs fs' fs'' : FileSystem} {p q : FilePath} {here names : List String} {text : String}

/-! ## Places -/

/-- Where stretches lead from a directory, if they lead anywhere. -/
def walk : (here : List String) → List String → List String
  | here, [] => here
  | here, piece :: rest =>
    if piece = "" ∨ piece = "." then walk here rest
    else if piece = ".." then walk here.dropLast rest
    else walk (here ++ [piece]) rest

theorem walk_append (here as bs : List String) :
    walk here (as ++ bs) = walk (walk here as) bs := by
  fun_induction walk here as with
  | case1 => rfl
  | case2 here piece rest dot ih => simp only [List.cons_append, walk, dot, ↓reduceIte, ih]
  | case3 here rest dot ih => simp only [List.cons_append, walk, dot, ↓reduceIte, ih]
  | case4 here piece rest dot up ih => simp only [List.cons_append, walk, dot, up, ↓reduceIte, ih]

theorem walk_name {name : String} (h : isName name = true) (here : List String) :
    walk here [name] = here ++ [name] := by
  simp only [isName, Bool.and_eq_true, bne_iff_ne, ne_eq] at h
  simp [walk, h]

theorem walk_empty (here : List String) : walk here [""] = here := by simp [walk]

theorem eq_walk_of_follow {pieces : List String} (h : fs.follow here pieces = .ok names) :
    names = walk here pieces := by
  fun_induction follow fs here pieces with
  | case1 => exact (Except.ok.inj h).symm
  | case2 => cases h
  | case3 here piece rest _ dot ih => rw [walk, if_pos dot, ih h]
  | case4 here rest _ dot ih => rw [walk, if_neg dot, if_pos rfl, ih h]
  | case5 => cases h
  | case6 => cases h
  | case7 here piece rest _ dot up _ _ ih => rw [walk, if_neg dot, if_neg up, ih h]

theorem follow_append_eq_ok {as bs : List String} :
    fs.follow here (as ++ bs) = .ok names ↔
      ∃ there, fs.follow here as = .ok there ∧ fs.follow there bs = .ok names := by
  fun_induction follow fs here as with
  | case1 => simp
  | case2 here piece rest no_directory => simp [follow, no_directory]
  | case3 here piece rest directory dot ih => simp [follow, directory, dot, ih]
  | case4 here rest directory dot ih => simp [follow, directory, ih]
  | case5 here piece rest directory dot up long => simp [follow, directory, dot, up, long]
  | case6 here piece rest directory dot up short missing =>
    simp [follow, directory, dot, up, short, missing]
  | case7 here piece rest directory dot up short present ih =>
    simp [follow, directory, dot, up, short, present, ih]

/-- The names that a path leads to, if it leads anywhere. -/
def place (fs : FileSystem) (p : FilePath) : List String := walk (fs.start p) (pieces p)

theorem place_join_name {name : String} (h : IsName name) :
    fs.place (p.join name) = fs.place p ++ [name] := by
  have is_name : isName name = true := by simp [isName, h.ne_empty, h.ne_current, h.ne_parent]
  have stays : walk (fs.start p) (pieces p) =
      walk (fs.start p) (p.stretches.map String.ofList) := by
    rw [pieces, Text.segments]
    obtain eq | eq := p.splitChars_text
    · rw [eq]
    · rw [eq, List.map_append, walk_append]
      exact walk_empty _
  have start : fs.start (p.join name) = fs.start p := by
    rw [FileSystem.start, FilePath.isAbsolute_join h.relative, FileSystem.start]
  rw [place, place, start, stays, pieces, Text.segments, FilePath.toList_join h.relative,
    FilePath.splitChars_opened_append, h.splitChars_eq, List.map_append, walk_append]
  simp [walk_name is_name]

theorem place_foldl_join {names : List String} (h : ∀ n ∈ names, IsName n) :
    fs.place (names.foldl FilePath.join p) = fs.place p ++ names := by
  induction names generalizing p with
  | nil => simp
  | cons n names ih =>
    rw [List.foldl_cons, ih fun m hm => h m (List.mem_cons_of_mem _ hm),
      place_join_name (h n List.mem_cons_self)]
    simp

theorem lookup_eq_ok {e : Entry} : fs.lookup p = .ok e ↔
    checkPath p = .ok () ∧ fs.follow (fs.start p) (pieces p) = .ok (fs.place p) ∧
      fs.entryAt? (fs.place p) = some e := by
  constructor
  · intro h
    obtain ⟨_, checked, h⟩ := Except.bind_eq_ok.1 h
    obtain ⟨names, followed, h⟩ := Except.bind_eq_ok.1 h
    obtain rfl : names = fs.place p := eq_walk_of_follow followed
    refine ⟨checked, followed, ?_⟩
    cases found : fs.entryAt? (fs.place p) with
    | none => simp [found] at h
    | some e' => simpa [found] using h
  · rintro ⟨checked, followed, found⟩
    refine Except.bind_eq_ok.2 ⟨_, checked, Except.bind_eq_ok.2 ⟨_, followed, ?_⟩⟩
    rw [found]

theorem mem_of_lookup {e : Entry} (found : fs.lookup p = .ok e) :
    e = rootEntry ∨ e ∈ fs.entries := by
  have found := (lookup_eq_ok.1 found).2.2
  rw [entryAt?] at found
  split at found
  · exact .inl (Option.some.inj found).symm
  · exact .inr (List.mem_of_find?_eq_some found)

/-- What is read is the content of a file. -/
theorem exists_of_readText (h : fs.readText p = .ok text) :
    ∃ e ∈ fs.entries, e.node = .file (some text) := by
  obtain ⟨e, found, read⟩ := Except.bind_eq_ok.1 h
  have content : e.node = .file (some text) := by
    cases node : e.node with
    | directory => simp [node] at read
    | file content => cases content <;> simp_all
  obtain rfl | listed := mem_of_lookup found
  · cases content
  · exact ⟨e, listed, content⟩

/-! ## What stays -/

/-- What `fs` has is still there in `fs'`, and the same, but for what stands at changed names. -/
structure Keeps (changed : List String → Prop) (fs fs' : FileSystem) : Prop where
  workingDir : fs'.workingDir = fs.workingDir
  present : ∀ {names}, (fs.entryAt? names).isSome = true → (fs'.entryAt? names).isSome = true
  directory : ∀ {names}, fs.isDirectoryAt names = true → fs'.isDirectoryAt names = true
  entry : ∀ {names e}, ¬ changed names → fs.entryAt? names = some e → fs'.entryAt? names = some e

namespace Keeps

variable {changed : List String → Prop}

theorem refl (changed : List String → Prop) (fs : FileSystem) : Keeps changed fs fs :=
  ⟨rfl, id, id, fun _ => id⟩

theorem trans (h : Keeps changed fs fs') (h' : Keeps changed fs' fs'') : Keeps changed fs fs'' :=
  ⟨h'.workingDir.trans h.workingDir, h'.present ∘ h.present, h'.directory ∘ h.directory,
    fun hn he => h'.entry hn (h.entry hn he)⟩

theorem mono {more : List String → Prop} (h : Keeps changed fs fs')
    (le : ∀ names, changed names → more names) : Keeps more fs fs' :=
  ⟨h.workingDir, h.present, h.directory, fun hn => h.entry fun hc => hn (le _ hc)⟩

theorem start (h : Keeps changed fs fs') (p : FilePath) : fs'.start p = fs.start p := by
  rw [FileSystem.start, h.workingDir, FileSystem.start]

theorem place (h : Keeps changed fs fs') (p : FilePath) : fs'.place p = fs.place p := by
  rw [FileSystem.place, h.start, FileSystem.place]

/-- What can be followed still can, with the same end. -/
theorem follow (h : Keeps changed fs fs') {pieces : List String}
    (followed : fs.follow here pieces = .ok names) : fs'.follow here pieces = .ok names := by
  fun_induction FileSystem.follow fs here pieces with
  | case1 => exact followed
  | case2 => cases followed
  | case3 here piece rest directory dot ih =>
    simp only [Bool.not_eq_true', Bool.not_eq_false] at directory
    simp [FileSystem.follow, h.directory directory, dot, ih followed]
  | case4 here rest directory dot ih =>
    simp only [Bool.not_eq_true', Bool.not_eq_false] at directory
    simp [FileSystem.follow, h.directory directory, ih followed]
  | case5 => cases followed
  | case6 => cases followed
  | case7 here piece rest directory dot up short here_is ih =>
    simp only [Bool.not_eq_true', Bool.not_eq_false] at directory
    have present := h.present (Option.isSome_iff_ne_none.2 (mt Option.isNone_iff_eq_none.2 here_is))
    simp [FileSystem.follow, h.directory directory, dot, up, short, ih followed,
      Option.isSome_iff_ne_none.1 present]

theorem lookup (h : Keeps changed fs fs') {e : Entry} (found : fs.lookup p = .ok e)
    (unchanged : ¬ changed (fs.place p)) : fs'.lookup p = .ok e := by
  obtain ⟨checked, followed, found⟩ := lookup_eq_ok.1 found
  refine lookup_eq_ok.2 ⟨checked, ?_, ?_⟩
  · rw [h.start, h.place]
    exact h.follow followed
  · rw [h.place]
    exact h.entry unchanged found

theorem readText (h : Keeps changed fs fs') (read : fs.readText p = .ok text)
    (unchanged : ¬ changed (fs.place p)) : fs'.readText p = .ok text := by
  obtain ⟨e, found, read⟩ := Except.bind_eq_ok.1 read
  exact Except.bind_eq_ok.2 ⟨e, h.lookup found unchanged, read⟩

end Keeps

/-! ## Putting entries -/

theorem entryAt?_put {e : Entry} (some_names : e.names ≠ []) (names : List String) :
    (fs.put e).entryAt? names = if names = e.names then some e else fs.entryAt? names := by
  by_cases eq : names = e.names
  · subst eq
    simp [entryAt?, put, some_names]
  · rw [if_neg eq, entryAt?, entryAt?, put]
    simp only [List.find?_cons, Ne.symm eq, decide_false, List.find?_filter]
    congr 2
    funext old
    by_cases h : old.names = names <;> simp [h, eq]

/-- Putting an entry in place of one that is no directory. -/
theorem keeps_put {e : Entry} (some_names : e.names ≠ [])
    (no_directory : fs.isDirectoryAt e.names = false) :
    Keeps (· = e.names) fs (fs.put e) where
  workingDir := rfl
  present := by
    intro names present
    rw [entryAt?_put some_names]
    split
    · rfl
    · exact present
  directory := by
    intro names directory
    have ne : names ≠ e.names := by
      rintro rfl
      simp [no_directory] at directory
    simpa [isDirectoryAt, entryAt?_put some_names, ne] using directory
  entry := by
    intro names e' ne found
    rw [entryAt?_put some_names, if_neg ne, found]

/-- Putting an entry where there is none. -/
theorem keeps_put_of_none {e : Entry} (some_names : e.names ≠ [])
    (none : fs.entryAt? e.names = none) : Keeps (fun _ => False) fs (fs.put e) where
  workingDir := rfl
  present := (keeps_put some_names (by simp [isDirectoryAt, none])).present
  directory := (keeps_put some_names (by simp [isDirectoryAt, none])).directory
  entry := by
    intro names e' _ found
    have ne : names ≠ e.names := by
      rintro rfl
      simp [none] at found
    rw [entryAt?_put some_names, if_neg ne, found]

/-! ## Writing -/

theorem pieces_eq_trimmedPieces (p : FilePath) :
    ∃ k, pieces p = trimmedPieces p ++ List.replicate k "" := by
  refine ⟨((pieces p).reverse.takeWhile (· == "")).length, ?_⟩
  have blank : ((pieces p).reverse.takeWhile (· == "")) =
      List.replicate ((pieces p).reverse.takeWhile (· == "")).length "" :=
    List.eq_replicate_iff.2 ⟨rfl, fun piece hp => by
      simpa using List.all_eq_true.1 List.all_takeWhile piece hp⟩
  rw [← List.reverse_replicate, ← blank, trimmedPieces, ← List.reverse_append,
    List.takeWhile_append_dropWhile, List.reverse_reverse]

/-- A slot is the place of its path, in a directory that is there. -/
theorem slot_eq_ok {blocked : FileError} {s : Slot} (h : fs.slot p blocked = .ok s) :
    checkPath p = .ok () ∧ ∃ before k, pieces p = before ++ s.name :: List.replicate k "" ∧
      fs.follow (fs.start p) (before ++ [""]) = .ok s.parent ∧ isName s.name = true ∧
      s.name.utf8ByteSize ≤ nameLimit := by
  obtain ⟨_, checked, h⟩ := Except.bind_eq_ok.1 h
  refine ⟨checked, ?_⟩
  obtain ⟨k, eq⟩ := pieces_eq_trimmedPieces p
  split at h
  · cases h
  · next last before rev =>
    obtain ⟨parent, followed, h⟩ := Except.bind_eq_ok.1 h
    split at h
    · cases h
    split at h
    · cases h
    next name short =>
      cases h
      refine ⟨before.reverse, k, ?_, followed, by simpa using name, Nat.le_of_not_lt short⟩
      rw [eq, List.reverse_eq_cons_iff.1 rev, List.append_assoc, List.singleton_append]

theorem walk_replicate (here : List String) (k : Nat) : walk here (List.replicate k "") = here := by
  induction k with
  | zero => rfl
  | succ k ih => rw [List.replicate_succ, walk, if_pos (.inl rfl), ih]

theorem place_of_slot {blocked : FileError} {s : Slot} (h : fs.slot p blocked = .ok s) :
    fs.place p = s.parent ++ [s.name] := by
  obtain ⟨-, before, k, eq, followed, name, -⟩ := slot_eq_ok h
  have parent := eq_walk_of_follow followed
  rw [walk_append, walk_empty] at parent
  rw [place, eq, walk_append, ← parent, ← List.singleton_append, walk_append, walk_name name,
    walk_replicate]

/-- Writing a file puts its text in the place of the path. -/
theorem writeText_eq_ok (h : fs.writeText p text = .ok fs') :
    fs.place p ≠ [] ∧ fs.isDirectoryAt (fs.place p) = false ∧ (pieces p).getLast? ≠ some "" ∧
      ∃ readOnly, fs' = fs.put ⟨fs.place p, .file (some text), readOnly⟩ := by
  obtain ⟨s, slot, h⟩ := Except.bind_eq_ok.1 h
  rw [place_of_slot slot]
  refine ⟨by simp, ?_⟩
  cases found : fs.entryAt? (s.parent ++ [s.name]) with
  | none =>
    simp only [found] at h
    split at h
    · cases h
    next ends => exact ⟨by simp [isDirectoryAt, found], ends, _, (Except.ok.inj h).symm⟩
  | some e =>
    obtain ⟨_, _ | _, readOnly⟩ := e
    · simp [found] at h
    · simp only [found] at h
      split at h
      · cases h
      next ends => exact ⟨by simp [isDirectoryAt, found], ends, _, (Except.ok.inj h).symm⟩

theorem keeps_writeText (h : fs.writeText p text = .ok fs') :
    Keeps (· = fs.place p) fs fs' := by
  obtain ⟨some_names, no_directory, -, readOnly, rfl⟩ := writeText_eq_ok h
  exact keeps_put (e := ⟨_, _, _⟩) some_names no_directory

/-- A file that has been written holds its text. -/
theorem readText_writeText (h : fs.writeText p text = .ok fs') : fs'.readText p = .ok text := by
  have keeps := keeps_writeText h
  obtain ⟨some_names, -, ends, readOnly, written⟩ := writeText_eq_ok h
  obtain ⟨s, slot, -⟩ := Except.bind_eq_ok.1 h
  have place := place_of_slot slot
  obtain ⟨checked, before, k, eq, followed, name, short⟩ := slot_eq_ok slot
  have entry : fs'.entryAt? (fs.place p) = some ⟨fs.place p, .file (some text), readOnly⟩ := by
    rw [written, entryAt?_put some_names, if_pos rfl]
  -- The path ends with its name: there is no slash after it.
  obtain rfl : k = 0 := by
    cases k with
    | zero => rfl
    | succ k =>
      rw [eq, List.replicate_succ', ← List.cons_append, ← List.append_assoc] at ends
      exact absurd List.getLast?_concat ends
  have path : fs'.follow (fs'.start p) (pieces p) = .ok (fs.place p) := by
    obtain ⟨there, first, last⟩ := follow_append_eq_ok.1 (keeps.follow followed)
    obtain ⟨directory, rfl⟩ : fs'.isDirectoryAt there = true ∧ there = s.parent := by
      cases directory : fs'.isDirectoryAt there <;> simp_all [FileSystem.follow]
    simp only [isName, Bool.and_eq_true, bne_iff_ne, ne_eq] at name
    rw [keeps.start, eq]
    refine follow_append_eq_ok.2 ⟨_, first, ?_⟩
    simp [FileSystem.follow, directory, name, Nat.not_lt.2 short, ← place, entry]
  rw [← keeps.place] at path entry
  exact Except.bind_eq_ok.2 ⟨_, lookup_eq_ok.2 ⟨checked, path, entry⟩, rfl⟩

/-! ## Making directories -/

theorem keeps_makeDir (h : fs.makeDir p = .ok fs') : Keeps (fun _ => False) fs fs' := by
  obtain ⟨s, -, h⟩ := Except.bind_eq_ok.1 h
  cases found : fs.entryAt? (s.parent ++ [s.name]) with
  | some e => simp [found] at h
  | none =>
    simp only [found] at h
    cases h
    exact keeps_put_of_none (by simp) found

theorem keeps_settleDir {made : Except FileError FileSystem}
    (h : ∀ fs', made = .ok fs' → Keeps (fun _ => False) fs fs') :
    Keeps (fun _ => False) fs (fs.settleDir p made).2 := by
  cases made with
  | ok fs' => exact h fs' rfl
  | error e =>
    rw [settleDir]
    split <;> exact .refl _ fs

theorem keeps_makeDirsWithin (depth : Nat) (fs : FileSystem) (p : FilePath) :
    Keeps (fun _ => False) fs (makeDirsWithin depth fs p).2 := by
  induction depth generalizing fs p with
  | zero =>
    rw [makeDirsWithin]
    split
    · exact .refl _ fs
    · exact keeps_settleDir fun _ => keeps_makeDir
  | succ depth ih =>
    rw [makeDirsWithin]
    split
    · exact .refl _ fs
    split
    · next parent _ _ =>
      have outer := ih fs parent
      split
      · next made eq =>
        rw [eq] at outer
        exact outer.trans (keeps_settleDir fun _ => keeps_makeDir)
      · exact outer
    · exact keeps_settleDir fun _ => keeps_makeDir

/-- Making directories changes nothing that is there. -/
theorem keeps_makeDirs (fs : FileSystem) (p : FilePath) :
    Keeps (fun _ => False) fs (fs.makeDirs p).2 :=
  keeps_makeDirsWithin _ fs p

/-! ## Files below a directory -/

/-- The entries lie below the root under names, each at a place of its own. -/
structure WellFormed (fs : FileSystem) : Prop where
  isName : ∀ e ∈ fs.entries, ∀ name ∈ e.names, IsName name
  below : ∀ e ∈ fs.entries, e.names ≠ []
  distinct : ∀ e ∈ fs.entries, ∀ e' ∈ fs.entries, e.names = e'.names → e = e'

theorem text_of_isDir (h : fs.isDir p = true) : p.text ≠ "" := by
  intro empty
  simp [isDir, lookup?, lookup, checkPath, empty, bind, Except.bind, Except.toOption] at h

/-- A file below a directory is reached by names from it. -/
theorem mem_filesBelow (wellFormed : fs.WellFormed) {f : FilePath × Entry}
    (h : f ∈ fs.filesBelow p) :
    ∃ names, names ≠ [] ∧ (∀ n ∈ names, IsName n) ∧ f.1 = names.foldl FilePath.join p := by
  rw [filesBelow] at h
  split at h
  · next top readOnly found =>
    have dir : fs.lookup p = .ok ⟨top, .directory, readOnly⟩ := Except.toOption_eq_some.1 found
    obtain ⟨e, file, placed⟩ := List.mem_filterMap.1 (List.mem_mergeSort.1 h)
    obtain ⟨mem, file⟩ := List.mem_filter.1 file
    obtain ⟨names, below, rfl⟩ := Option.map_eq_some_iff.1 placed
    rw [namesBelow?] at below
    split at below
    · next start =>
      cases below
      refine ⟨e.names.drop top.length, ?_, ?_, rfl⟩
      · intro none
        obtain ⟨names, eq⟩ := List.isPrefixOf_iff_prefix.1 start
        obtain rfl : names = [] := by simpa [← eq] using none
        rw [List.append_nil] at eq
        obtain root | listed := mem_of_lookup dir
        · cases root
          exact wellFormed.below e mem eq.symm
        · rw [← wellFormed.distinct _ listed e mem eq] at file
          simp [Entry.isFile] at file
      · exact fun n hn => wellFormed.isName e mem n (List.mem_of_mem_drop hn)
    · cases below
  · cases h

end FileSystem

end Loom
