import Loom.Aspect.Spec
import Loom.Proofs.Path.Spelling

/-!
# Specs from files

A spec takes the parent of its file's path for its directory. The parent of a bare file name is the
empty path, which has no absolute form, so such a spec does not load; with a slash in the path it
does (`load_of_readText`), and its roots are the same however that path is spelled.
-/

namespace Loom

open FilePath

variable {fs : FileSystem} {p q : FilePath} {text name : String}

/-! ## Paths of files -/

namespace FileSystem

/-- The path of a file ends with a step. -/
theorem isStretch_getLast?_of_isFile (h : fs.isFile p = true) :
    ∀ s ∈ (pieces p).getLast?, isStretch s = true := by
  intro s last
  by_contra blank
  obtain ⟨e, found, file⟩ := isFile_iff.1 h
  obtain ⟨-, followed, entry⟩ := lookup_eq_ok.1 found
  obtain ⟨before, eq⟩ := List.getLast?_eq_some_iff.1 last
  rw [eq, follow_append_eq_ok] at followed
  obtain ⟨there, -, followed⟩ := followed
  have dot : s = "" ∨ s = "." := by
    by_contra no_dot
    exact blank (isStretch_of_not no_dot)
  rw [follow] at followed
  split at followed
  · cases followed
  next directory =>
    -- What a stretch that is no step leads to is the directory before it.
    obtain rfl : there = fs.place p := by
      rcases dot with rfl | rfl <;> simpa [follow] using followed
    simp only [isDirectoryAt, entry, Bool.not_eq_true', Bool.not_eq_false] at directory
    simp only [Entry.isFile, bne_iff_ne, ne_eq] at file
    exact file (of_decide_eq_true directory)

end FileSystem

namespace FilePath

/-- The stretches closed by a slash each are a path that is open for more. -/
theorem opened_flatMap (before : List (List Char)) :
    opened ⟨String.ofList (before.flatMap (· ++ ['/']))⟩ = before.flatMap (· ++ ['/']) := by
  obtain rfl | ⟨others, last, rfl⟩ := before.eq_nil_or_concat
  · rfl
  · have closed : (others.concat last).flatMap (· ++ ['/']) =
        (others.flatMap (· ++ ['/']) ++ last) ++ ['/'] := by
      simp
    rw [opened, String.toList_ofList, closed, List.getLast?_concat]
    exact if_pos rfl

/-- A path is what its last stretch is joined to, and that; what stands before it is empty unless
the path has a slash. -/
theorem exists_eq_join (p : FilePath) : ∃ (q : FilePath) (s : String), p = q.join s ∧
    '/' ∉ s.toList ∧ (FileSystem.pieces p).getLast? = some s ∧
    (q.text = "" ↔ '/' ∉ p.text.toList) := by
  obtain ⟨before, last, eq⟩ : ∃ before last, Text.splitChars '/' p.text.toList = before ++ [last] :=
    ⟨_, _, (List.dropLast_concat_getLast (Text.splitChars_ne_nil '/' p.text.toList)).symm⟩
  have no_slash : '/' ∉ last := Text.not_mem_of_mem_splitChars (by rw [eq]; simp)
  have whole : p.text.toList = before.flatMap (· ++ ['/']) ++ last := by
    have closed := flatMap_splitChars '/' p.text.toList
    rw [eq, List.flatMap_append, List.flatMap_singleton, ← List.append_assoc] at closed
    exact (List.append_cancel_right closed).symm
  refine ⟨⟨String.ofList (before.flatMap (· ++ ['/']))⟩, String.ofList last, ?_, by simpa, ?_, ?_⟩
  · rw [join_eq (isAbsolute_eq_false (by simpa)), opened_flatMap, String.toList_ofList, ← whole,
      String.ofList_toList]
  · rw [FileSystem.pieces, Text.segments, eq]
    simp
  · rw [← String.toList_eq_nil_iff, String.toList_ofList, whole]
    cases before with
    | nil => simpa using no_slash
    | cons first others => simp

theorem components_join_stretch {s : String} (step : isStretch s = true)
    (no_slash : '/' ∉ s.toList) :
    ∃ c, isStep c = true ∧ (p.join s).components = p.components ++ [c] := by
  by_cases up : s = ".."
  · subst up
    refine ⟨.parent, rfl, ?_⟩
    rw [components, located_join rfl, List.map_append]
    rfl
  · rw [isStretch, Bool.and_eq_true, bne_iff_ne, bne_iff_ne] at step
    exact ⟨.normal s, rfl, components_join_name ⟨step.1, step.2, up, no_slash⟩⟩

end FilePath

/-- The path of a file has a last component, which is a step, and others before it just if it has a
slash. -/
theorem FileSystem.components_of_isFile (h : fs.isFile p = true) :
    ∃ cs c, p.components = cs ++ [c] ∧ isStep c = true ∧ (cs = [] ↔ '/' ∉ p.text.toList) := by
  obtain ⟨q, s, eq, no_slash, last, bare⟩ := p.exists_eq_join
  have step := isStretch_getLast?_of_isFile h s last
  obtain ⟨c, is_step, components⟩ := components_join_stretch (p := q) step no_slash
  exact ⟨q.components, c, eq ▸ components, is_step, components_eq_nil_iff.trans bare⟩

/-! ## Loading -/

namespace FileSystem

theorem isFile_of_readText (h : fs.readText p = .ok text) : fs.isFile p = true := by
  rw [readText] at h
  cases found : fs.lookup p with
  | error e => simp [found, bind, Except.bind] at h
  | ok e =>
    refine isFile_iff.2 ⟨e, found, ?_⟩
    cases node : e.node with
    | directory => simp [found, bind, Except.bind, node] at h
    | file content => simp [Entry.isFile, node]

/-- Files with one absolute form are one file. -/
theorem lookup_eq_of_sameForm (written : fs.WrittenOut)
    (directory : fs.isDir fs.workingDir = true) (p_file : fs.isFile p = true)
    (q_file : fs.isFile q = true) (h : fs.SameForm p q) : fs.lookup p = fs.lookup q := by
  obtain ⟨-, -, eq⟩ := sameForm_iff.1 h
  have trails : fs.trail p = fs.trail q := by
    have steps := congrArg (fun cs => (cs.filter isStep).map Component.text) eq
    have texts (r : FilePath) : (fs.start r).map (Component.text ∘ Component.normal) = fs.start r :=
      List.map_id _
    simpa [steps_absoluteComponents written, texts, trail, FilePath.steps] using steps
  obtain ⟨_, p_found, -⟩ := isFile_iff.1 p_file
  obtain ⟨_, q_found, -⟩ := isFile_iff.1 q_file
  exact lookup_eq_of_trail_eq written directory (isStretch_getLast?_of_isFile p_file)
    (isStretch_getLast?_of_isFile q_file) (lookup_eq_ok.1 p_found).1 (lookup_eq_ok.1 q_found).1
    trails

/-- The directory of a file as seen from the working directory is that of its absolute form. -/
theorem exists_parent_of_absolute (h : fs.isFile p = true) (slash : '/' ∈ p.text.toList) :
    ∃ parent base a dir, p.parent? = some parent ∧ fs.absolute parent = .ok base ∧
      fs.absolute p = .ok a ∧ a.parent? = some dir ∧ base.Respells dir := by
  obtain ⟨cs, c, components, step, bare⟩ := components_of_isFile h
  have no_root : c ≠ .root := by
    rintro rfl
    cases step
  obtain ⟨parent, parent_eq, parent_components⟩ := exists_parent? components no_root
  have some_text : parent.text ≠ "" := by
    rw [Ne, ← components_eq_nil_iff, parent_components, bare]
    simpa using slash
  obtain ⟨base, base_eq⟩ := exists_absolute fs some_text
  have p_text : p.text ≠ "" := by
    intro empty
    simp [empty] at slash
  obtain ⟨a, a_eq⟩ := exists_absolute fs p_text
  have absolute : parent.isAbsolute = p.isAbsolute := by
    rw [Bool.eq_iff_iff, isAbsolute_iff, isAbsolute_iff, parent_components, components]
    simp [Ne.symm no_root]
  have form : a.components = base.components ++ [c] := by
    rw [components_of_absolute a_eq, components_of_absolute base_eq, absoluteComponents,
      absoluteComponents, absolute, parent_components, components, List.filter_append,
      List.append_assoc]
    simp [step]
  obtain ⟨dir, dir_eq, dir_components⟩ := exists_parent? form no_root
  exact ⟨parent, base, a, dir, parent_eq, base_eq, a_eq, dir_eq, respells_iff.2 dir_components.symm⟩

end FileSystem

namespace AspectSpec

variable {spec : AspectSpec} {base base' : FilePath}

theorem load_eq (read : fs.readText p = .ok text) (decoded : ofJson text = .ok spec) :
    load fs p = (fs.absolute (p.parent?.getD ⟨"."⟩)).map
      fun base => { spec with baseDir := some base } := by
  simp only [load, read, Except.mapError, decoded, bind, Except.bind]
  cases fs.absolute (p.parent?.getD ⟨"."⟩) <;> rfl

/-- A bare file name leaves no directory to take the absolute form of. -/
theorem load_of_bare (read : fs.readText p = .ok text) (decoded : ofJson text = .ok spec)
    (bare : '/' ∉ p.text.toList) : load fs p = .error (.file .emptyPath) := by
  obtain ⟨cs, c, components, step, none⟩ :=
    FileSystem.components_of_isFile (FileSystem.isFile_of_readText read)
  have no_root : c ≠ .root := by
    rintro rfl
    cases step
  obtain ⟨⟨parent⟩, parent_eq, parent_components⟩ := exists_parent? components no_root
  obtain rfl : parent = "" := by
    rw [none.2 bare, components_eq_nil_iff] at parent_components
    exact parent_components
  rw [load_eq read decoded, parent_eq]
  rfl

/-- The roots of a spec follow the spelling of its directory. -/
theorem roots_resolver (h : base.Respells base') (extra : List FilePath) :
    List.Forall₂ Respells ({ spec with baseDir := some base }.resolver extra).roots
      ({ spec with baseDir := some base' }.resolver extra).roots := by
  have added (s : SearchPaths) : (extra.foldl SearchPaths.addRoot s).roots =
      s.roots ++ newPaths s.roots extra := by
    have roots : (extra.foldl SearchPaths.addRoot s).roots = extra.foldl addPath s.roots := by
      induction extra generalizing s with
      | nil => rfl
      | cons p extra ih => exact ih (s.addRoot p)
    exact roots.trans (foldl_addNew FilePath.identifies s.roots extra)
  have declared : List.Forall₂ Respells (base :: spec.searchPaths.map fun p => base.join p.text)
      (base' :: spec.searchPaths.map fun p => base'.join p.text) :=
    .cons h (List.forall₂_map_left_iff.2 (List.forall₂_map_right_iff.2
      (List.forall₂_same.2 fun p _ => h.join p.text)))
  have same : List.Forall₂ Respells extra extra := List.forall₂_same.2 fun p _ => .refl p
  rw [resolver, resolver, added, added]
  exact List.rel_append declared (newPaths_respells declared same)

/-- A file that holds a spec loads unless its path is a bare name. Its directory is that of its
absolute form, and the roots are those of every other path to it that is no bare name either. -/
theorem load_of_readText (written : fs.WrittenOut) (directory : fs.isDir fs.workingDir = true)
    (read : fs.readText p = .ok text) (decoded : ofJson text = .ok spec) :
    ('/' ∉ p.text.toList → load fs p = .error (.file .emptyPath)) ∧
    ('/' ∈ p.text.toList → ∃ base a dir, load fs p = .ok { spec with baseDir := some base } ∧
      fs.absolute p = .ok a ∧ a.parent? = some dir ∧ base.Respells dir ∧
      ∀ q : FilePath, fs.isFile q = true → '/' ∈ q.text.toList → fs.SameForm p q →
        ∃ other, load fs q = .ok other ∧ ∀ extra, List.Forall₂ Respells
          ({ spec with baseDir := some base }.resolver extra).roots
          (other.resolver extra).roots) := by
  refine ⟨load_of_bare read decoded, fun slash => ?_⟩
  have file := FileSystem.isFile_of_readText read
  obtain ⟨parent, base, a, dir, parent_eq, base_eq, a_eq, dir_eq, spelled⟩ :=
    FileSystem.exists_parent_of_absolute file slash
  refine ⟨base, a, dir, ?_, a_eq, dir_eq, spelled, fun q q_file q_slash form => ?_⟩
  · rw [load_eq read decoded, parent_eq, Option.getD_some, base_eq]
    rfl
  have q_read : fs.readText q = .ok text := by
    rw [← read, FileSystem.readText, FileSystem.readText,
      FileSystem.lookup_eq_of_sameForm written directory file q_file form]
  obtain ⟨parent', base', a', dir', parent'_eq, base'_eq, a'_eq, dir'_eq, spelled'⟩ :=
    FileSystem.exists_parent_of_absolute q_file q_slash
  refine ⟨{ spec with baseDir := some base' }, ?_, roots_resolver ?_⟩
  · rw [load_eq q_read decoded, parent'_eq, Option.getD_some, base'_eq]
    rfl
  · obtain ⟨b, b', hb, hb', same⟩ := form
    obtain rfl := Except.ok.inj (a_eq.symm.trans hb)
    obtain rfl := Except.ok.inj (a'_eq.symm.trans hb')
    have dirs : dir.Respells dir' := by
      rw [respells_iff, components_of_parent? dir_eq, components_of_parent? dir'_eq,
        same_iff.1 same]
    exact (spelled.trans dirs).trans spelled'.symm

/-- The text of a spec without aspects. -/
def blank : String := "\x7b\"aspects\": \x7b\x7d\x7d"

/-- A working directory with that spec in it. -/
def withBlank : FileSystem :=
  ⟨[⟨["w"], .directory, false⟩, ⟨["w", "spec.json"], .file (some blank), false⟩], ⟨"/w"⟩⟩

theorem load_of_readText_blank : ∃ spec, ofJson blank = .ok spec ∧
    ∃ base, load withBlank ⟨"/w/spec.json"⟩ = .ok { spec with baseDir := some base } ∧
      ∃ other, load withBlank ⟨"./spec.json"⟩ = .ok other ∧ ∀ extra, List.Forall₂ Respells
        ({ spec with baseDir := some base }.resolver extra).roots (other.resolver extra).roots := by
  have written : withBlank.WrittenOut := by
    refine ⟨["w"], fun n hn => ?_, rfl⟩
    obtain rfl := List.mem_singleton.1 hn
    exact ⟨by decide, by decide, by decide, by decide⟩
  have read : withBlank.readText ⟨"/w/spec.json"⟩ = .ok blank :=
    Except.toOption_eq_some.1 (by decide +kernel)
  have form : withBlank.SameForm ⟨"/w/spec.json"⟩ ⟨"./spec.json"⟩ :=
    ⟨⟨"/w/spec.json"⟩, ⟨"/w/spec.json"⟩, rfl, rfl, rfl⟩
  obtain ⟨spec, decoded⟩ : ∃ spec, ofJson blank = .ok spec :=
    Except.exists_of_isOk (by decide +kernel)
  obtain ⟨base, a, dir, loaded, -, -, -, spelled⟩ :=
    (load_of_readText written (by decide +kernel) read decoded).2 (by decide)
  exact ⟨spec, decoded, base, loaded, spelled ⟨"./spec.json"⟩ (by decide +kernel) (by decide) form⟩

/-- In its own directory the spec does not load under its name, only with `./` before it. -/
theorem bare_name_does_not_load :
    (∃ spec, withBlank.readText ⟨"spec.json"⟩ = .ok blank ∧ ofJson blank = .ok spec) ∧
      load withBlank ⟨"spec.json"⟩ = .error (.file .emptyPath) ∧
      ∃ spec, load withBlank ⟨"./spec.json"⟩ = .ok spec := by
  have read : withBlank.readText ⟨"spec.json"⟩ = .ok blank :=
    Except.toOption_eq_some.1 (by decide +kernel)
  obtain ⟨spec, decoded⟩ : ∃ spec, ofJson blank = .ok spec :=
    Except.exists_of_isOk (by decide +kernel)
  exact ⟨⟨spec, read, decoded⟩, load_of_bare read decoded (by decide),
    Except.exists_of_isOk (by decide +kernel)⟩

end AspectSpec

end Loom
