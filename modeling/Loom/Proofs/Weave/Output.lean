import Loom.Proofs.Aspect.Worklist
import Loom.Proofs.FileSystem
import Loom.Weave.Output

/-!
# Where modules are written

The modules of a directory are written under their local names: the steps from the directory and the
stem. Writing puts an extension in place of the one the local name seems to have, so a stem with a
point loses what follows the point, and modules with different names can be written to the same
place. Where the file names have one extension only, all outputs are apart, and none overwrites
another.
-/

namespace Loom

open FilePath

/-- The name of a file has one extension only, and what is left without it is more than a point. -/
def FilePath.HasPlainStem (f : FilePath) : Prop :=
  ∃ stem, f.fileStem? = some stem ∧ (splitName stem).2 = none ∧ stem ≠ "."

/-- A file below a directory: the steps that lead to it, and its stem. -/
structure LiesBelow (dir f : FilePath) (extension : String) (steps : List String) (stem : String) :
    Prop where
  steps_names : ∀ n ∈ steps, IsName n
  stem_name : IsName stem
  plain : (splitName stem).2 = none
  name : IsName (stem ++ "." ++ extension)
  split : splitName (stem ++ "." ++ extension) = (stem, some extension)
  eq : f = (steps.foldl join dir).join (stem ++ "." ++ extension)

namespace FileSystem

variable {fs : FileSystem} {dir f : FilePath} {extension : String} {files : List FilePath}

theorem liesBelow_of_mem (wellFormed : fs.WellFormed)
    (found : fs.modulesBelow? dir extension = some files) (hf : f ∈ files)
    (plain : f.HasPlainStem) : ∃ steps stem, LiesBelow dir f extension steps stem := by
  rw [modulesBelow?] at found
  split at found
  · cases found
    obtain ⟨⟨f, e⟩, mem, rfl⟩ := List.mem_map.1 hf
    obtain ⟨mem, has⟩ := List.mem_filter.1 mem
    obtain ⟨names, some_names, are_names, rfl⟩ := mem_filesBelow wellFormed mem
    obtain ⟨steps, name, rfl⟩ : ∃ steps name, names = steps ++ [name] :=
      ⟨_, _, (List.dropLast_append_getLast some_names).symm⟩
    have is_name := are_names name (by simp)
    obtain ⟨stem, stem_eq, plain, not_point⟩ := plain
    simp only [List.foldl_append, List.foldl_cons, List.foldl_nil, extension?_join is_name,
      fileStem?_join is_name, Bool.and_eq_true, beq_iff_eq, Option.some.injEq] at has stem_eq
    have split : splitName name = (stem, some extension) := Prod.ext stem_eq has.1
    obtain ⟨rfl, some_stem, -⟩ := splitName_eq_some split
    have not_parent : stem ≠ ".." := by
      rintro rfl
      revert plain
      decide
    refine ⟨steps, stem, fun n hn => are_names n (by simp [hn]), ⟨some_stem, not_point, not_parent,
      fun slash => is_name.no_slash (by simp [slash])⟩, plain, is_name, split, by simp⟩
  · cases found

end FileSystem

namespace LiesBelow

variable {dir f g out cwd : FilePath} {extension : String} {steps steps' : List String}
  {stem stem' : String}

theorem sharedLength_append (as bs : List Component) :
    ModuleFile.sharedLength (as ++ bs) as = as.length := by
  induction as with
  | nil => simp [ModuleFile.sharedLength]
  | cons a as ih => simp [ModuleFile.sharedLength, ih]

/-- The local name is the steps from the directory and the stem. -/
theorem localNameOf_eq (h : LiesBelow dir f extension steps stem) (some_dir : dir.text ≠ "") :
    ModuleFile.localNameOf cwd f (some dir) = "/".intercalate (steps ++ [stem]) := by
  obtain ⟨q, file, above⟩ : ∃ q : FilePath,
      ((steps.foldl join dir).join (stem ++ "." ++ extension)).absolute? cwd =
        some (q.join (stem ++ "." ++ extension)) ∧
      q.components = (steps.foldl join dir).absoluteComponents cwd :=
    absolute?_foldl_join (List.forall_mem_singleton.2 h.name) (by simp) _ cwd
  obtain ⟨base, dir_base⟩ : ∃ base, dir.absolute? cwd = some base := exists_absolute? some_dir
  rw [absoluteComponents_foldl_join h.steps_names, ← components_of_absolute? dir_base] at above
  have names : (steps.map Component.normal ++ [Component.normal stem]).filterMap
      ModuleFile.componentName? = steps ++ [stem] := by
    rw [List.filterMap_append, List.filterMap_map]
    exact congrArg (· ++ [stem]) (List.filterMap_some ..)
  have relative : ModuleFile.relativeNames (q.join (stem ++ "." ++ extension)) base =
      steps ++ [stem] := by
    rw [ModuleFile.relativeNames, withExtension_join_empty h.name h.split h.stem_name.ne_current,
      components_join_name h.name, components_join_name h.stem_name, above, List.append_assoc,
      sharedLength_append, List.append_assoc, List.drop_left, names]
  rw [h.eq, ModuleFile.localNameOf, file]
  simp only [Option.bind_some, dir_base, relative]
  cases steps <;> rfl

/-! ## Output paths -/

/-- The path below `out` of what is written for the steps and the stem. -/
def output (out : FilePath) (steps : List String) (stem kind : String) : FilePath :=
  (steps.foldl join out).join (stem ++ "." ++ kind)

/-- The kinds of output: trees and sources. -/
def kinds : List String := ["json", "py"]

theorem plain_of_mem_kinds {kind : String} (hk : kind ∈ kinds) :
    kind ≠ "" ∧ '.' ∉ kind.toList ∧ '/' ∉ kind.toList := by
  revert kind
  decide

theorem name_of_kind {kind : String} (h : LiesBelow dir f extension steps stem)
    (hk : kind ∈ kinds) : IsName (stem ++ "." ++ kind) :=
  h.stem_name.extended (plain_of_mem_kinds hk).1 (plain_of_mem_kinds hk).2.2

theorem join_localName (h : LiesBelow dir f extension steps stem) :
    out.join ("/".intercalate (steps ++ [stem])) = (steps.foldl join out).join stem := by
  rw [join_intercalate _ (by simp), List.foldl_append]
  · rfl
  · intro n hn
    obtain hn | rfl := by simpa using hn
    · exact h.steps_names n hn
    · exact h.stem_name

theorem outputPaths_eq (h : LiesBelow dir f extension steps stem) {m : ModuleFile}
    (name : m.localName = "/".intercalate (steps ++ [stem])) :
    m.outputPaths out = ⟨output out steps stem "json", output out steps stem "py"⟩ := by
  simp only [ModuleFile.outputPaths, name, h.join_localName]
  rw [withExtension_join_of_none h.stem_name h.plain (by decide),
    withExtension_join_of_none h.stem_name h.plain (by decide)]
  rfl

theorem components_output {kind : String} (h : LiesBelow dir f extension steps stem)
    (hk : kind ∈ kinds) : (output out steps stem kind).components =
      out.components ++ (steps ++ [stem ++ "." ++ kind]).map .normal := by
  rw [output, components_join_name (h.name_of_kind hk), components_foldl_join h.steps_names]
  simp

theorem place_output {kind : String} (h : LiesBelow dir f extension steps stem)
    (hk : kind ∈ kinds) (fs : FileSystem) : fs.place (output out steps stem kind) =
      fs.place out ++ (steps ++ [stem ++ "." ++ kind]) := by
  rw [output, FileSystem.place_join_name (h.name_of_kind hk),
    FileSystem.place_foldl_join h.steps_names, List.append_assoc]

/-- Files that differ are not written to the same place, and neither are the two kinds of output. -/
theorem output_names_inj {kind kind' : String} (h : LiesBelow dir f extension steps stem)
    (h' : LiesBelow dir g extension steps' stem') (hk : kind ∈ kinds) (hk' : kind' ∈ kinds)
    (eq : steps ++ [stem ++ "." ++ kind] = steps' ++ [stem' ++ "." ++ kind']) :
    f = g ∧ kind = kind' := by
  obtain ⟨rfl, last⟩ := List.append_inj' eq rfl
  have split := congrArg splitName (List.cons.inj last).1
  rw [splitName_append h.stem_name.ne_empty (plain_of_mem_kinds hk).2.1,
    splitName_append h'.stem_name.ne_empty (plain_of_mem_kinds hk').2.1] at split
  cases split
  exact ⟨h.eq.trans h'.eq.symm, rfl⟩

end LiesBelow

/-! ## Writing -/

namespace ModuleFile

open FileSystem (Keeps)

variable {fs fs' : FileSystem} {m : ModuleFile} {out : FilePath} {paths : OutputPaths}

theorem keeps_writeTexts (fs : FileSystem) (texts : List (FilePath × String)) :
    Keeps (fun names => ∃ w ∈ texts, names = fs.place w.1) fs (writeTexts fs texts).2 := by
  induction texts generalizing fs with
  | nil => exact .refl _ fs
  | cons w texts ih =>
    rw [writeTexts]
    split
    · exact .refl _ fs
    · next after written =>
      have first := FileSystem.keeps_writeText written
      refine .trans (first.mono ?_) ((ih after).mono ?_)
      · exact fun names eq => ⟨w, List.mem_cons_self, eq⟩
      · rintro names ⟨v, hv, eq⟩
        exact ⟨v, List.mem_cons_of_mem _ hv, eq.trans (first.place v.1)⟩

/-- Texts that have been written to different places are read back. -/
theorem readText_writeTexts {texts : List (FilePath × String)}
    (h : writeTexts fs texts = (.ok (), fs'))
    (apart : (texts.map fun w => fs.place w.1).Nodup) :
    ∀ w ∈ texts, fs'.readText w.1 = .ok w.2 := by
  induction texts generalizing fs with
  | nil => simp
  | cons w texts ih =>
    rw [writeTexts] at h
    split at h
    · cases h
    · next after written =>
      have first := FileSystem.keeps_writeText written
      have others := keeps_writeTexts after texts
      rw [h] at others
      have places : texts.map (fun v => after.place v.1) = texts.map fun v => fs.place v.1 :=
        List.map_congr_left fun v _ => first.place v.1
      rw [List.map_cons, List.nodup_cons] at apart
      rintro v (_ | ⟨_, hv⟩)
      · refine others.readText (FileSystem.readText_writeText written) ?_
        rintro ⟨u, hu, eq⟩
        rw [first.place, first.place] at eq
        exact apart.1 (eq ▸ List.mem_map_of_mem hu)
      · exact ih h (places ▸ apart.2) v hv

theorem keeps_makeParent (fs : FileSystem) (p : FilePath) :
    Keeps (fun _ => False) fs (makeParent fs p).2 := by
  rw [makeParent]
  split
  · exact .refl _ fs
  · next parent _ =>
    have made := fs.keeps_makeDirs parent
    cases h : fs.makeDirs parent with
    | mk result after =>
      rw [h] at made
      cases result <;> exact made

/-- Writing a module changes nothing but its two outputs. -/
theorem keeps_write (m : ModuleFile) (fs : FileSystem) (out : FilePath) :
    Keeps (fun names => names = fs.place (m.outputPaths out).tree ∨
      names = fs.place (m.outputPaths out).source) fs (m.write fs out).2 := by
  rw [write]
  cases m.tree with
  | none => exact .refl _ fs
  | some tree =>
    have parent := keeps_makeParent fs (m.outputPaths out).tree
    simp only
    generalize makeParent fs (m.outputPaths out).tree = made at parent
    obtain ⟨_ | _, after⟩ := made
    · exact parent.mono nofun
    · have written := keeps_writeTexts after
        [((m.outputPaths out).tree, tree.toJson), ((m.outputPaths out).source, tree.source)]
      simp only [List.mem_cons, List.not_mem_nil, or_false, exists_eq_or_imp, exists_eq_left,
        parent.place] at written
      refine .trans (parent.mono nofun) ?_
      simp only
      generalize writeTexts after _ = wrote at written
      obtain ⟨_ | _, last⟩ := wrote <;> exact written

/-- A module that has been written is read back from its outputs. -/
theorem write_eq_ok (h : m.write fs out = (.ok paths, fs'))
    (apart : fs.place (m.outputPaths out).tree ≠ fs.place (m.outputPaths out).source) :
    ∃ tree, m.tree = some tree ∧ paths = m.outputPaths out ∧
      fs'.readText paths.tree = .ok tree.toJson ∧ fs'.readText paths.source = .ok tree.source := by
  rw [write] at h
  cases loaded : m.tree with
  | none =>
    rw [loaded] at h
    cases h
  | some tree =>
    have parent := keeps_makeParent fs (m.outputPaths out).tree
    rw [loaded] at h
    simp only at h
    generalize makeParent fs (m.outputPaths out).tree = made at parent h
    obtain ⟨_ | _, after⟩ := made
    · cases h
    · simp only at h
      split at h
      · cases h
      · next last written =>
        cases h
        have read := readText_writeTexts written (by simpa [parent.place] using apart)
        simp only [List.forall_mem_cons] at read
        exact ⟨tree, rfl, rfl, read.1, read.2.1⟩

/-- Writes modules one after the other; what cannot be written is passed over. -/
def writeEach (out : FilePath) (fs : FileSystem) (ms : List ModuleFile) : FileSystem :=
  ms.foldl (fun fs m => (m.write fs out).2) fs

theorem keeps_writeEach (fs : FileSystem) (ms : List ModuleFile) :
    Keeps (fun names => ∃ m ∈ ms, names = fs.place (m.outputPaths out).tree ∨
      names = fs.place (m.outputPaths out).source) fs (writeEach out fs ms) := by
  induction ms generalizing fs with
  | nil => exact .refl _ fs
  | cons m ms ih =>
    have first := m.keeps_write fs out
    refine .trans (first.mono ?_) ((ih _).mono ?_)
    · exact fun names eq => ⟨m, List.mem_cons_self, eq⟩
    · rintro names ⟨n, hn, eq⟩
      rw [first.place, first.place] at eq
      exact ⟨n, List.mem_cons_of_mem _ hn, eq⟩

end ModuleFile

/-! ## The modules of a directory -/

/-- A module file of a directory as it is held for writing. -/
def ModuleFile.held (cwd dir : FilePath) (v : FilePath × Module) : ModuleFile :=
  { ModuleFile.ofFile cwd v.1 (some dir) with tree := some v.2 }

namespace LiesBelow

open ModuleFile (held writeEach)

variable {cwd dir out : FilePath} {extension : String} {v w : FilePath × Module}
  {steps steps' : List String} {stem stem' : String}

theorem outputPaths_held (h : LiesBelow dir v.1 extension steps stem) (some_dir : dir.text ≠ "") :
    (held cwd dir v).outputPaths out = ⟨output out steps stem "json", output out steps stem "py"⟩ :=
  h.outputPaths_eq (h.localNameOf_eq some_dir)

/-- The text of an output path is that of the local name below `out` with the kind after it. -/
theorem text_output {kind : String} (h : LiesBelow dir v.1 extension steps stem)
    (hk : kind ∈ kinds) : (output out steps stem kind).text =
      (out.join ("/".intercalate (steps ++ [stem]))).text ++ ("." ++ kind) := by
  rw [h.join_localName, output, join_eq (h.name_of_kind hk).relative, join_eq h.stem_name.relative]
  simp [String.append_assoc]

theorem text_outputPaths (h : LiesBelow dir v.1 extension steps stem) (some_dir : dir.text ≠ "") :
    ((held cwd dir v).outputPaths out).tree.text =
        (out.join (held cwd dir v).localName).text ++ ".json" ∧
      ((held cwd dir v).outputPaths out).source.text =
        (out.join (held cwd dir v).localName).text ++ ".py" := by
  have name : (held cwd dir v).localName = "/".intercalate (steps ++ [stem]) :=
    h.localNameOf_eq some_dir
  rw [h.outputPaths_held some_dir, name]
  exact ⟨h.text_output (by decide), h.text_output (by decide)⟩

theorem mem_outputs (h : LiesBelow dir v.1 extension steps stem) (some_dir : dir.text ≠ "")
    {p : FilePath} (hp : p ∈ [((held cwd dir v).outputPaths out).tree,
      ((held cwd dir v).outputPaths out).source]) :
    ∃ kind ∈ kinds, p = output out steps stem kind := by
  rw [h.outputPaths_held some_dir] at hp
  obtain rfl | rfl := by simpa using hp
  · exact ⟨"json", by decide, rfl⟩
  · exact ⟨"py", by decide, rfl⟩

/-- Outputs of different modules lie at different places. -/
theorem place_ne_of_ne (h : LiesBelow dir v.1 extension steps stem)
    (h' : LiesBelow dir w.1 extension steps' stem') (some_dir : dir.text ≠ "") (ne : v.1 ≠ w.1)
    (fs : FileSystem) {p q : FilePath}
    (hp : p ∈ [((held cwd dir v).outputPaths out).tree, ((held cwd dir v).outputPaths out).source])
    (hq : q ∈ [((held cwd dir w).outputPaths out).tree,
      ((held cwd dir w).outputPaths out).source]) :
    fs.place p ≠ fs.place q ∧ p.same q = false := by
  obtain ⟨kind, hk, rfl⟩ := h.mem_outputs some_dir hp
  obtain ⟨kind', hk', rfl⟩ := h'.mem_outputs some_dir hq
  constructor
  · intro eq
    rw [h.place_output hk, h'.place_output hk'] at eq
    exact ne (h.output_names_inj h' hk hk' (List.append_cancel_left eq)).1
  · rw [Bool.eq_false_iff, ne_eq, same_iff, h.components_output hk, h'.components_output hk']
    intro eq
    have names :=
      (List.map_inj_right fun _ _ => Component.normal.inj).1 (List.append_cancel_left eq)
    exact ne (h.output_names_inj h' hk hk' names).1

/-- A module that has been written is read back also after others have been written. -/
theorem readText_writeEach (h : LiesBelow dir v.1 extension steps stem) (some_dir : dir.text ≠ "")
    {after : List (FilePath × Module)}
    (others : ∀ w ∈ after, ∃ steps stem, LiesBelow dir w.1 extension steps stem)
    (ne : ∀ w ∈ after, v.1 ≠ w.1) {fs : FileSystem} {paths : OutputPaths}
    (written : ((held cwd dir v).write fs out).1 = .ok paths) :
    let last := writeEach out ((held cwd dir v).write fs out).2 (after.map (held cwd dir))
    paths = (held cwd dir v).outputPaths out ∧
      last.readText paths.tree = .ok v.2.toJson ∧ last.readText paths.source = .ok v.2.source := by
  have apart : fs.place ((held cwd dir v).outputPaths out).tree ≠
      fs.place ((held cwd dir v).outputPaths out).source := by
    rw [h.outputPaths_held some_dir, h.place_output (by decide), h.place_output (by decide)]
    intro eq
    have := (h.output_names_inj h (by decide) (by decide) (List.append_cancel_left eq)).2
    revert this
    decide
  generalize wrote : (held cwd dir v).write fs out = result at written
  obtain ⟨_, made⟩ := result
  obtain rfl : _ = Except.ok paths := written
  obtain ⟨tree, loaded, rfl, tree_read, source_read⟩ := ModuleFile.write_eq_ok wrote apart
  obtain rfl : v.2 = tree := Option.some.inj loaded
  have keeps : FileSystem.Keeps _ made (writeEach out made (after.map (held cwd dir))) :=
    ModuleFile.keeps_writeEach ..
  have unchanged {p : FilePath} (hp : p ∈ [((held cwd dir v).outputPaths out).tree,
      ((held cwd dir v).outputPaths out).source]) :
      ¬ ∃ m ∈ after.map (held cwd dir), made.place p = made.place (m.outputPaths out).tree ∨
        made.place p = made.place (m.outputPaths out).source := by
    rintro ⟨_, hm, eq⟩
    obtain ⟨w, hw, rfl⟩ := List.mem_map.1 hm
    obtain ⟨steps', stem', below⟩ := others w hw
    obtain eq | eq := eq
    · exact (h.place_ne_of_ne below some_dir (ne w hw) made hp List.mem_cons_self).1 eq
    · exact (h.place_ne_of_ne below some_dir (ne w hw) made hp (by simp)).1 eq
  exact ⟨rfl, keeps.readText tree_read (unchanged List.mem_cons_self),
    keeps.readText source_read (unchanged (by simp))⟩

end LiesBelow

namespace FileSystem

open ModuleFile (held writeEach)

variable {fs : FileSystem} {dir out : FilePath} {extension : String} {files : List FilePath}

/-- The modules found below a directory are written to the texts of their local names, to paths that
are not the same, and each is read back when any of the others have been written before it or
after. -/
theorem outputs_apart (wellFormed : fs.WellFormed)
    (found : fs.modulesBelow? dir extension = some files) (out : FilePath) :
    (∀ v : FilePath × Module, v.1 ∈ files → v.1.HasPlainStem →
      let m := held fs.workingDir dir v
      (m.outputPaths out).tree.text = (out.join m.localName).text ++ ".json" ∧
        (m.outputPaths out).source.text = (out.join m.localName).text ++ ".py") ∧
    (∀ v w : FilePath × Module, v.1 ∈ files → v.1.HasPlainStem → w.1 ∈ files → w.1.HasPlainStem →
      v.1 ≠ w.1 →
      let a := (held fs.workingDir dir v).outputPaths out
      let b := (held fs.workingDir dir w).outputPaths out
      ∀ p ∈ [a.tree, a.source], ∀ q ∈ [b.tree, b.source], p.same q = false) ∧
    ∀ (before after : List (FilePath × Module)) (v : FilePath × Module),
      (∀ u ∈ before ++ v :: after, u.1 ∈ files ∧ u.1.HasPlainStem) →
      ((before ++ v :: after).map (·.1)).Nodup →
      ∀ (start : FileSystem) (paths : OutputPaths),
        ((held fs.workingDir dir v).write
          (writeEach out start (before.map (held fs.workingDir dir))) out).1 = .ok paths →
        let last := writeEach out start ((before ++ v :: after).map (held fs.workingDir dir))
        paths = (held fs.workingDir dir v).outputPaths out ∧
          last.readText paths.tree = .ok v.2.toJson ∧
          last.readText paths.source = .ok v.2.source := by
  have some_dir : dir.text ≠ "" := by
    rw [modulesBelow?] at found
    split at found
    · next is_dir => exact text_of_isDir is_dir
    · cases found
  have below {v : FilePath × Module} (hv : v.1 ∈ files) (plain : v.1.HasPlainStem) :
      ∃ steps stem, LiesBelow dir v.1 extension steps stem :=
    liesBelow_of_mem wellFormed found hv plain
  refine ⟨?_, ?_, ?_⟩
  · intro v hv plain
    obtain ⟨steps, stem, h⟩ := below hv plain
    exact h.text_outputPaths some_dir
  · intro v w hv v_plain hw w_plain ne a b p hp q hq
    obtain ⟨steps, stem, h⟩ := below hv v_plain
    obtain ⟨steps', stem', h'⟩ := below hw w_plain
    exact (h.place_ne_of_ne h' some_dir ne fs hp hq).2
  · intro before after v listed distinct start paths written
    obtain ⟨steps, stem, h⟩ := below (listed v (by simp)).1 (listed v (by simp)).2
    have others : ∀ w ∈ after, ∃ steps stem, LiesBelow dir w.1 extension steps stem :=
      fun w hw => below (listed w (by simp [hw])).1 (listed w (by simp [hw])).2
    have ne : ∀ w ∈ after, v.1 ≠ w.1 := by
      rw [List.map_append, List.map_cons] at distinct
      have fresh := (List.nodup_cons.1 (List.nodup_append.1 distinct).2.1).1
      exact fun w hw eq => fresh (eq ▸ List.mem_map_of_mem hw)
    rw [List.map_append, writeEach, List.foldl_append, List.map_cons, List.foldl_cons]
    exact h.readText_writeEach some_dir others ne written

/-- A directory `d` with two modules. -/
def withTwo (first second : String) : FileSystem :=
  ⟨[⟨["d"], .directory, false⟩, ⟨["d", first], .file (some ""), false⟩,
    ⟨["d", second], .file (some ""), false⟩], ⟨"/"⟩⟩

theorem wellFormed_withTwo {first second : String} (first_name : IsName first)
    (second_name : IsName second) (ne : first ≠ second) : (withTwo first second).WellFormed := by
  have dir_name : IsName "d" := ⟨by decide, by decide, by decide, by decide⟩
  refine ⟨?_, ?_, ?_⟩ <;>
    simp [withTwo, dir_name, first_name, second_name, ne, Ne.symm ne]

theorem modulesBelow?_withTwo {first second : String}
    (top : (withTwo first second).lookup? ⟨"d"⟩ = some ⟨["d"], .directory, false⟩)
    (sorted : (join ⟨"d"⟩ first).le (join ⟨"d"⟩ second) = true)
    (first_named : (join ⟨"d"⟩ first).extension? = some "json")
    (second_named : (join ⟨"d"⟩ second).extension? = some "json") :
    (withTwo first second).modulesBelow? ⟨"d"⟩ "json" =
      some [join ⟨"d"⟩ first, join ⟨"d"⟩ second] := by
  have listed : (withTwo first second).filesBelow ⟨"d"⟩ =
      [(join ⟨"d"⟩ first, ⟨["d", first], .file (some ""), false⟩),
        (join ⟨"d"⟩ second, ⟨["d", second], .file (some ""), false⟩)] := by
    rw [filesBelow, top]
    show List.mergeSort [(join ⟨"d"⟩ first, Entry.mk ["d", first] (.file (some "")) false),
      (join ⟨"d"⟩ second, Entry.mk ["d", second] (.file (some "")) false)] _ = _
    exact List.mergeSort_of_pairwise (by simpa using sorted)
  rw [modulesBelow?, isDir, top, listed]
  simp [first_named, second_named]

theorem outputs_apart_two :
    let a := held ⟨"/"⟩ ⟨"d"⟩ (⟨"d/a.json"⟩, ⟨[]⟩)
    let b := held ⟨"/"⟩ ⟨"d"⟩ (⟨"d/b.json"⟩, ⟨[.pass]⟩)
    (withTwo "a.json" "b.json").modulesBelow? ⟨"d"⟩ "json" = some [a.file, b.file] ∧
      (a.outputPaths ⟨"out"⟩).tree.text = ((FilePath.mk "out").join a.localName).text ++ ".json" ∧
      (a.outputPaths ⟨"out"⟩).tree.same (b.outputPaths ⟨"out"⟩).tree = false ∧
      ∃ paths, (a.write (withTwo "a.json" "b.json") ⟨"out"⟩).1 = .ok paths ∧
        (writeEach ⟨"out"⟩ (withTwo "a.json" "b.json") [a, b]).readText paths.tree =
          .ok (Module.toJson ⟨[]⟩) := by
  have found : (withTwo "a.json" "b.json").modulesBelow? ⟨"d"⟩ "json" =
      some [⟨"d/a.json"⟩, ⟨"d/b.json"⟩] := by
    rw [modulesBelow?_withTwo (by decide +kernel) (by decide +kernel) (by decide +kernel)
      (by decide +kernel)]
    decide +kernel
  have wellFormed : (withTwo "a.json" "b.json").WellFormed :=
    wellFormed_withTwo ⟨by decide, by decide, by decide, by decide⟩
      ⟨by decide, by decide, by decide, by decide⟩ (by decide)
  have a_plain : FilePath.HasPlainStem ⟨"d/a.json"⟩ :=
    ⟨"a", by decide +kernel, by decide +kernel, by decide⟩
  have b_plain : FilePath.HasPlainStem ⟨"d/b.json"⟩ :=
    ⟨"b", by decide +kernel, by decide +kernel, by decide⟩
  obtain ⟨texts, apart, kept⟩ := outputs_apart wellFormed found ⟨"out"⟩
  obtain ⟨paths, written⟩ : ∃ paths, ((held ⟨"/"⟩ ⟨"d"⟩ (⟨"d/a.json"⟩, ⟨[]⟩)).write
      (withTwo "a.json" "b.json") ⟨"out"⟩).1 = .ok paths :=
    Except.exists_of_isOk (by decide +kernel)
  have a_listed : FilePath.mk "d/a.json" ∈ [FilePath.mk "d/a.json", ⟨"d/b.json"⟩] := by decide
  have b_listed : FilePath.mk "d/b.json" ∈ [FilePath.mk "d/a.json", ⟨"d/b.json"⟩] := by decide
  have read := kept [] [(⟨"d/b.json"⟩, ⟨[.pass]⟩)] (⟨"d/a.json"⟩, ⟨[]⟩)
    (by simp [a_plain, b_plain]) (by decide) (withTwo "a.json" "b.json") paths written
  exact ⟨found, (texts (⟨"d/a.json"⟩, ⟨[]⟩) a_listed a_plain).1,
    apart (⟨"d/a.json"⟩, ⟨[]⟩) (⟨"d/b.json"⟩, ⟨[.pass]⟩) a_listed a_plain b_listed b_plain
      (by decide) _ List.mem_cons_self _ List.mem_cons_self, paths, written, read.2.1⟩

/-- Two modules whose stems differ only after a point are written to the same place. -/
theorem outputs_clash_of_points :
    let b := held ⟨"/"⟩ ⟨"d"⟩ (⟨"d/a.b.json"⟩, ⟨[]⟩)
    let c := held ⟨"/"⟩ ⟨"d"⟩ (⟨"d/a.c.json"⟩, ⟨[.pass]⟩)
    (withTwo "a.b.json" "a.c.json").modulesBelow? ⟨"d"⟩ "json" = some [b.file, c.file] ∧
      b.file ≠ c.file ∧
      (b.outputPaths ⟨"out"⟩).tree.text ≠ ((FilePath.mk "out").join b.localName).text ++ ".json" ∧
      (b.outputPaths ⟨"out"⟩).tree = (c.outputPaths ⟨"out"⟩).tree ∧
      (b.outputPaths ⟨"out"⟩).source = (c.outputPaths ⟨"out"⟩).source := by
  refine ⟨?_, by decide, by decide +kernel, by decide +kernel, by decide +kernel⟩
  rw [modulesBelow?_withTwo (by decide +kernel) (by decide +kernel) (by decide +kernel)
    (by decide +kernel)]
  decide +kernel

end FileSystem

end Loom
