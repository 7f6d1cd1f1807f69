import Loom.Aspect.Basic
import Loom.Proofs.Path.Parents
import Loom.Proofs.Search.Trail
import Loom.Text.Identifier

/-!
# Search roots

A module is found under a root as a file of its own or as the file of its package
(`SearchPaths.Holds`). The search root of the reference to it is that root again, as seen from the
working directory, and under it alone the same file is found. The exception is a module whose last
segment is `__init__` and that has a file of its own: this file is taken for that of a package, and
the search root is one directory too high.
-/

namespace Loom

/-! ## Names of modules -/

theorem Text.ne_of_mem_identifier {s : String} (h : isIdentifier s = true) {c : Char}
    (mem : c ∈ s.toList) : c ≠ '.' ∧ c ≠ '/' := by
  have marks : ∀ m ∈ ['.', '/'], isIdentifierStart m = false ∧ isIdentifierPart m = false :=
    List.forall_iff_forall_mem.1 (by decide +kernel)
  have part : isIdentifierStart c = true ∨ isIdentifierPart c = true := by
    rw [isIdentifier] at h
    cases eq : s.toList with
    | nil => simp [eq] at mem
    | cons first cs =>
      rw [eq] at h mem
      simp only [isIdentifierChars, Bool.and_eq_true, List.all_eq_true] at h
      obtain rfl | mem := List.mem_cons.1 mem
      · exact .inl h.1
      · exact .inr (h.2 c mem)
  constructor <;> rintro rfl <;> simp [marks] at part

theorem IsName.of_isIdentifier {s : String} (h : Text.isIdentifier s = true) : IsName s := by
  have plain := @Text.ne_of_mem_identifier s h
  refine ⟨?_, ?_, ?_, fun slash => (plain slash).2 rfl⟩
  · rintro rfl
    simp [Text.isIdentifier, Text.isIdentifierChars] at h
  · rintro rfl
    exact (plain (List.mem_cons_self : '.' ∈ ['.'])).1 rfl
  · rintro rfl
    exact (plain (List.mem_cons_self : '.' ∈ ['.', '.'])).1 rfl

namespace Text

variable {module : String}

theorem isName_of_mem_segments (dotted : isDottedName module = true) {s : String}
    (h : s ∈ segments '.' module) : IsName s :=
  .of_isIdentifier (List.all_eq_true.1 dotted s h)

theorem segments_ne_nil (module : String) : segments '.' module ≠ [] := by
  simp [segments, splitChars_ne_nil]

/-- The segments before the last one, and that. -/
theorem dropLast_segments_append (module : String) :
    (segments '.' module).dropLast ++ [(ShortName.ofModule module).text] = segments '.' module := by
  have last : (ShortName.ofModule module).text = (segments '.' module).getLast
      (segments_ne_nil module) := by
    simp [ShortName.ofModule, segments, List.getLast_map]
  rw [last, List.dropLast_concat_getLast]

end Text

theorem FilePath.splitName_of_plain {name : String} (h : '.' ∉ name.toList) :
    splitName name = (name, none) := by
  simp [splitName, Text.splitChars_of_not_mem h]

namespace SearchPaths

variable {module : String}

/-- The names under a root that lead to the file of a module. -/
def ownNames (module : String) : List String :=
  (Text.segments '.' module).dropLast ++ [(ShortName.ofModule module).text ++ ".py"]

/-- The names under a root that lead to the file of a package. -/
def packageNames (module : String) : List String :=
  Text.segments '.' module ++ ["__init__.py"]

/-- Whether a module is found under a root. -/
def Holds (fs : FileSystem) (root : FilePath) (module : String) : Prop :=
  fs.isFile ((ownNames module).foldl FilePath.join root) = true ∨
    fs.isFile ((packageNames module).foldl FilePath.join root) = true

instance (fs : FileSystem) (root : FilePath) (module : String) : Decidable (Holds fs root module) :=
  inferInstanceAs (Decidable (_ ∨ _))

theorem isName_ofModule (dotted : Text.isDottedName module = true) :
    IsName (ShortName.ofModule module).text :=
  Text.isName_of_mem_segments dotted (by rw [← Text.dropLast_segments_append]; simp)

/-- The name of a module's own file is one. -/
theorem isName_own (dotted : Text.isDottedName module = true) :
    IsName ((ShortName.ofModule module).text ++ ".py") := by
  have extended := (isName_ofModule dotted).extended (show "py" ≠ "" by decide)
    (show '/' ∉ "py".toList by decide)
  rwa [String.append_assoc] at extended

theorem isName_init : IsName "__init__.py" := ⟨by decide, by decide, by decide, by decide⟩

theorem isName_of_mem_ownNames (dotted : Text.isDottedName module = true) {n : String}
    (h : n ∈ ownNames module) : IsName n := by
  rcases List.mem_append.1 h with h | h
  · exact Text.isName_of_mem_segments dotted (List.dropLast_subset _ h)
  · obtain rfl := List.mem_singleton.1 h
    exact isName_own dotted

theorem isName_of_mem_packageNames (dotted : Text.isDottedName module = true) {n : String}
    (h : n ∈ packageNames module) : IsName n := by
  rcases List.mem_append.1 h with h | h
  · exact Text.isName_of_mem_segments dotted h
  · obtain rfl := List.mem_singleton.1 h
    exact isName_init

theorem ownNames_ne_nil (module : String) : ownNames module ≠ [] := by simp [ownNames]

theorem packageNames_ne_nil (module : String) : packageNames module ≠ [] := by simp [packageNames]

theorem foldl_join_segments (root : FilePath) (module : String) :
    (Text.segments '.' module).foldl FilePath.join root =
      ((Text.segments '.' module).dropLast.foldl FilePath.join root).join
        (ShortName.ofModule module).text :=
  (congrArg (List.foldl FilePath.join root) (Text.dropLast_segments_append module)).symm.trans
    (List.foldl_concat ..)

theorem candidates_eq {s : SearchPaths} (py : s.extension = "py")
    (dotted : Text.isDottedName module = true) (root : FilePath) :
    s.candidates root module =
      [(ownNames module).foldl FilePath.join root,
        (packageNames module).foldl FilePath.join root] := by
  have last := isName_ofModule dotted
  have plain := FilePath.splitName_of_plain (ShortName.ofModule module).oneSegment
  have own : ((Text.segments '.' module).foldl FilePath.join root).withExtension "py" =
      (ownNames module).foldl FilePath.join root := by
    rw [foldl_join_segments, FilePath.withExtension_join_of_none last (by rw [plain]) (by decide),
      ownNames, List.foldl_concat, String.append_assoc]
    rfl
  rw [candidates, py, own, packageNames, List.foldl_concat]
  rfl

theorem isModuleName_of_dotted (dotted : Text.isDottedName module = true) :
    isModuleName module = true := by
  refine List.all_eq_true.2 fun s hs => ?_
  simpa using (Text.isName_of_mem_segments dotted hs).ne_empty

/-! ## What a search finds -/

variable {fs : FileSystem} {s : SearchPaths} {before after : List FilePath} {root : FilePath}

/-- The names that lead to the file found under a root. -/
def foundNames (fs : FileSystem) (root : FilePath) (module : String) : List String :=
  if fs.isFile ((ownNames module).foldl FilePath.join root) then ownNames module
  else packageNames module

theorem find?_eq (py : s.extension = "py") (dotted : Text.isDottedName module = true)
    (searched : s.searched = before ++ root :: after) (absent : ∀ q ∈ before, ¬ Holds fs q module)
    (holds : Holds fs root module) :
    s.find? fs module = some ((foundNames fs root module).foldl FilePath.join root) := by
  have none : (before.flatMap fun q => s.candidates q module).find? fs.isFile = none := by
    rw [List.find?_flatMap, List.findSome?_eq_none_iff]
    intro q hq
    have absent := absent q hq
    rw [Holds, not_or] at absent
    simp [candidates_eq py dotted, absent.1, absent.2]
  rw [find?, searched, List.flatMap_append, List.find?_append, none, Option.none_or,
    List.flatMap_cons, List.find?_append, candidates_eq py dotted, foundNames]
  by_cases own : fs.isFile ((ownNames module).foldl FilePath.join root) = true
  · simp [own]
  · simp [own, holds.resolve_left own]

theorem isFile_foundNames (holds : Holds fs root module) :
    fs.isFile ((foundNames fs root module).foldl FilePath.join root) = true := by
  rw [foundNames]
  split
  · assumption
  · next own => exact holds.resolve_left own

/-- The module has a file of its own that is named like that of a package. -/
def TakenForPackage (fs : FileSystem) (root : FilePath) (module : String) : Prop :=
  (ShortName.ofModule module).text = "__init__" ∧
    fs.isFile ((ownNames module).foldl FilePath.join root) = true

instance (fs : FileSystem) (root : FilePath) (module : String) :
    Decidable (TakenForPackage fs root module) :=
  inferInstanceAs (Decidable (_ ∧ _))

theorem isName_of_mem_foundNames (dotted : Text.isDottedName module = true) {n : String}
    (h : n ∈ foundNames fs root module) : IsName n := by
  rw [foundNames] at h
  split at h
  · exact isName_of_mem_ownNames dotted h
  · exact isName_of_mem_packageNames dotted h

theorem foundNames_ne_nil : foundNames fs root module ≠ [] := by
  rw [foundNames]
  split
  · exact ownNames_ne_nil module
  · exact packageNames_ne_nil module

/-! ## Levels -/

theorem fileStem?_ownNames (dotted : Text.isDottedName module = true) (base : FilePath) :
    ((ownNames module).foldl FilePath.join base).fileStem? =
      some (ShortName.ofModule module).text := by
  have split := FilePath.splitName_append (isName_ofModule dotted).ne_empty
    (show '.' ∉ "py".toList by decide)
  rw [String.append_assoc] at split
  rw [ownNames, List.foldl_concat, FilePath.fileStem?_join (isName_own dotted)]
  exact congrArg (some ·.1) split

theorem fileStem?_packageNames (base : FilePath) :
    ((packageNames module).foldl FilePath.join base).fileStem? = some "__init__" := by
  rw [packageNames, List.foldl_concat, FilePath.fileStem?_join isName_init]
  decide

theorem length_segments_pos (module : String) : 0 < (Text.segments '.' module).length :=
  List.length_pos_of_ne_nil (Text.segments_ne_nil module)

theorem length_ownNames (module : String) :
    (ownNames module).length = (Text.segments '.' module).length := by
  have := length_segments_pos module
  simp only [ownNames, List.length_append, List.length_dropLast, List.length_singleton]
  omega

theorem length_packageNames (module : String) :
    (packageNames module).length = (Text.segments '.' module).length + 1 := List.length_append

/-- From the directory of the file, there is a level for each name but one. -/
theorem packageDepth_of_not_taken (dotted : Text.isDottedName module = true) (name : String)
    (base : FilePath) (plain : ¬ TakenForPackage fs root module) :
    (Reference.ofParts module name
      ((foundNames fs root module).foldl FilePath.join base)).packageDepth + 1 =
        (foundNames fs root module).length := by
  have := length_segments_pos module
  by_cases own : fs.isFile ((ownNames module).foldl FilePath.join root) = true
  · have no_init : (ShortName.ofModule module).text ≠ "__init__" := fun eq => plain ⟨eq, own⟩
    rw [foundNames, if_pos own, length_ownNames]
    simp only [Reference.packageDepth, Reference.ofParts, fileStem?_ownNames dotted,
      Option.some.injEq, no_init, ↓reduceIte]
    omega
  · rw [foundNames, if_neg own, length_packageNames]
    simp only [Reference.packageDepth, Reference.ofParts, fileStem?_packageNames, ↓reduceIte]
    omega

/-- There is one level more if the file is taken for that of a package. -/
theorem packageDepth_of_taken (dotted : Text.isDottedName module = true) (name : String)
    (base : FilePath) (taken : TakenForPackage fs root module) :
    (Reference.ofParts module name
      ((foundNames fs root module).foldl FilePath.join base)).packageDepth =
        (foundNames fs root module).length := by
  have := length_segments_pos module
  rw [foundNames, if_pos taken.2, length_ownNames]
  simp only [Reference.packageDepth, Reference.ofParts, fileStem?_ownNames dotted, taken.1,
    ↓reduceIte]
  omega

theorem ancestor?_foundNames (dotted : Text.isDottedName module = true) (base : FilePath) :
    FilePath.ancestor? (foundNames fs root module).length
      ((foundNames fs root module).foldl FilePath.join base) = some base.trim :=
  FilePath.ancestor?_foldl_join (fun _ => isName_of_mem_foundNames dotted) foundNames_ne_nil

theorem searchRoot_of_ancestor? {name : String} {file up : FilePath}
    (h : FilePath.ancestor? ((Reference.ofParts module name file).packageDepth + 1) file =
      some up) :
    (Reference.ofParts module name file).searchRoot = up := by
  obtain ⟨dir, parent, up⟩ := Option.bind_eq_some_iff.1 h
  have parent : (Reference.ofParts module name file).sourceFile.parent? = some dir := parent
  simp only [Reference.searchRoot, parent, up, Option.getD_some]

/-- The search root is what the names were joined to. -/
theorem searchRoot_of_not_taken (dotted : Text.isDottedName module = true) (name : String)
    (base : FilePath) (plain : ¬ TakenForPackage fs root module) :
    (Reference.ofParts module name
      ((foundNames fs root module).foldl FilePath.join base)).searchRoot = base.trim := by
  refine searchRoot_of_ancestor? ?_
  rw [packageDepth_of_not_taken dotted name base plain, ancestor?_foundNames dotted]

/-- The search root is the directory above what the names were joined to, if there is one. -/
theorem searchRoot_of_taken (dotted : Text.isDottedName module = true) (name : String)
    {base up : FilePath} (taken : TakenForPackage fs root module)
    (above : base.trim.parent? = some up) :
    (Reference.ofParts module name
      ((foundNames fs root module).foldl FilePath.join base)).searchRoot = up := by
  refine searchRoot_of_ancestor? ?_
  rw [packageDepth_of_taken dotted name base taken, FilePath.ancestor?_succ,
    ancestor?_foundNames dotted, Option.bind_some, above]

end SearchPaths

namespace SearchPaths

open FileSystem (checkPath isFile_iff lookup_eq_ok checkPath_of_sublist)

variable {fs : FileSystem} {root base : FilePath} {module : String} {names : List String}

/-! ## Searching again -/

theorem text_ne_of_names (are_names : ∀ n ∈ names, IsName n) (some_names : names ≠ [])
    (p : FilePath) : (names.foldl FilePath.join p).text ≠ "" := by
  intro empty
  have none : (names.foldl FilePath.join p).components = [] := by
    rw [show names.foldl FilePath.join p = ⟨""⟩ from congrArg FilePath.mk empty]
    decide
  rw [FilePath.components_foldl_join are_names] at none
  simp [some_names] at none

/-- What is taken for a path under a root is one under the root without what follows its last
component. -/
theorem checkPath_trim (are_names : ∀ n ∈ names, IsName n) (some_names : names ≠ [])
    (checked : checkPath (names.foldl FilePath.join base) = .ok ()) :
    checkPath (names.foldl FilePath.join base.trim) = .ok () := by
  refine checkPath_of_sublist ?_ (text_ne_of_names are_names some_names _) checked
  rw [FilePath.toList_foldl_join are_names some_names,
    FilePath.toList_foldl_join are_names some_names]
  exact (FilePath.opened_sublist_of_prefix base.prefix_trim).append_right _

/-- The module's own file has a shorter path than its package's. -/
theorem checkPath_own (dotted : Text.isDottedName module = true)
    (checked : checkPath ((packageNames module).foldl FilePath.join base) = .ok ()) :
    checkPath ((ownNames module).foldl FilePath.join base) = .ok () := by
  have last : IsName (ShortName.ofModule module).text := isName_ofModule dotted
  refine checkPath_of_sublist ?_ (text_ne_of_names (fun _ => isName_of_mem_ownNames dotted)
    (ownNames_ne_nil module) _) checked
  have fewer : (".py".toList).Sublist ('/' :: "__init__.py".toList) := by decide
  rw [ownNames, List.foldl_concat, packageNames, List.foldl_concat, foldl_join_segments,
    FilePath.toList_join (isName_own dotted).relative, FilePath.toList_join isName_init.relative,
    FilePath.opened_join last.ne_empty last.no_slash, String.toList_append]
  simpa only [List.append_assoc, List.singleton_append] using
    (fewer.append_left (ShortName.ofModule module).text.toList).append_left _

section

variable (written : fs.WrittenOut) (directory : fs.isDir fs.workingDir = true)
include written directory

/-- Names lead to a file under the search root if they do under the root. -/
theorem isFile_trim (are_names : ∀ n ∈ names, IsName n) (some_names : names ≠ [])
    (components : base.components = root.absoluteComponents fs.workingDir)
    (checked : checkPath (names.foldl FilePath.join root) = .ok ())
    (base_checked : checkPath (names.foldl FilePath.join base) = .ok ()) :
    fs.isFile (names.foldl FilePath.join base.trim) =
      fs.isFile (names.foldl FilePath.join root) := by
  have eq : (names.foldl FilePath.join base.trim).components =
      (names.foldl FilePath.join root).absoluteComponents fs.workingDir := by
    rw [FilePath.absoluteComponents_foldl_join are_names, FilePath.components_foldl_join are_names,
      base.components_trim, components]
  have lookups := FileSystem.lookup_eq_of_trail_eq written directory
    (FileSystem.isStretch_getLast?_foldl_join are_names some_names)
    (FileSystem.isStretch_getLast?_foldl_join are_names some_names)
    (checkPath_trim are_names some_names base_checked) checked
    (FileSystem.trail_of_components written eq)
  rw [FileSystem.isFile, FileSystem.lookup?, lookups, FileSystem.isFile, FileSystem.lookup?]

/-- A file of the module under the root has its counterpart under the search root. -/
theorem holds_trim (dotted : Text.isDottedName module = true) (holds : Holds fs root module)
    (components : base.components = root.absoluteComponents fs.workingDir)
    (checked : checkPath ((foundNames fs root module).foldl FilePath.join root) = .ok ())
    (base_checked : checkPath ((foundNames fs root module).foldl FilePath.join base) = .ok ()) :
    Holds fs base.trim module ∧ foundNames fs base.trim module = foundNames fs root module := by
  have own_names {n : String} : n ∈ ownNames module → IsName n := isName_of_mem_ownNames dotted
  have package_names {n : String} : n ∈ packageNames module → IsName n :=
    isName_of_mem_packageNames dotted
  by_cases own : fs.isFile ((ownNames module).foldl FilePath.join root) = true
  · have found : foundNames fs root module = ownNames module := if_pos own
    rw [found] at checked base_checked ⊢
    have own_again := isFile_trim written directory (fun _ => own_names)
      (ownNames_ne_nil module) components checked base_checked
    rw [own] at own_again
    exact ⟨.inl own_again, by rw [foundNames, if_pos own_again]⟩
  · have found : foundNames fs root module = packageNames module := if_neg own
    rw [found] at checked base_checked ⊢
    have own_again := isFile_trim written directory (fun _ => own_names)
      (ownNames_ne_nil module) components (checkPath_own dotted checked)
      (checkPath_own dotted base_checked)
    have package_again := isFile_trim written directory (fun _ => package_names)
      (packageNames_ne_nil module) components checked base_checked
    rw [holds.resolve_left own] at package_again
    rw [← own_again] at own
    exact ⟨.inr package_again, by rw [foundNames, if_neg own]⟩

/-- Under the search root the same file is found. -/
theorem locate_trim (dotted : Text.isDottedName module = true) (holds : Holds fs root module)
    (components : base.components = root.absoluteComponents fs.workingDir)
    (short : ((foundNames fs root module).foldl FilePath.join base).text.utf8ByteSize <
      FileSystem.pathLimit) :
    ∃ g, (ofRoots [base.trim]).locate fs module = .ok g ∧
      g.same ((foundNames fs root module).foldl FilePath.join base) = true := by
  have names : ∀ n ∈ foundNames fs root module, IsName n :=
    fun _ => isName_of_mem_foundNames dotted
  -- What is found is taken for a path, as it was found and in its absolute form.
  have checked : checkPath ((foundNames fs root module).foldl FilePath.join root) = .ok () := by
    obtain ⟨e, found, -⟩ := isFile_iff.1 (isFile_foundNames holds)
    exact (lookup_eq_ok.1 found).1
  have absolute : ((foundNames fs root module).foldl FilePath.join base).components =
      ((foundNames fs root module).foldl FilePath.join root).absoluteComponents fs.workingDir := by
    rw [FilePath.absoluteComponents_foldl_join names, FilePath.components_foldl_join names,
      components]
  have base_checked := FileSystem.checkPath_of_components written directory checked absolute short
  obtain ⟨holds, again⟩ := holds_trim written directory dotted holds components checked base_checked
  have searched : (ofRoots [base.trim]).searched = [] ++ base.trim :: [] := rfl
  have found := find?_eq rfl dotted searched (by simp) holds
  obtain ⟨q, form, q_components⟩ :=
    FilePath.absolute?_foldl_join names foundNames_ne_nil base.trim fs.workingDir
  refine ⟨(foundNames fs root module).foldl FilePath.join q, ?_, ?_⟩
  · simp [locate, isModuleName_of_dotted dotted, found, again, FileSystem.absolute, form]
  · rw [FilePath.same_iff, FilePath.components_foldl_join names,
      FilePath.components_foldl_join names, q_components,
      FileSystem.absoluteComponents_of_components written (base.components_trim.trans components),
      base.components_trim]

end

/-! ## The root of a reference -/

/-- The search root of a reference is the root that its module was found under, and under it alone
the same file is found, unless the module's own file is taken for that of a package: then the search
root is the directory above. -/
theorem searchRoot_of_resolve {fs : FileSystem} {s : SearchPaths} {handle : String}
    {d : Declaration} {before after : List FilePath} {root : FilePath}
    (parsed : Declaration.parse handle = .ok d) (py : s.extension = "py")
    (dotted : Text.isDottedName d.module = true) (searched : s.searched = before ++ root :: after)
    (absent : ∀ q ∈ before, ¬ Holds fs q d.module) (holds : Holds fs root d.module) :
    ∃ r, Reference.resolve (s.locate fs) handle = .ok r ∧
      (¬ TakenForPackage fs root d.module →
        (∀ a, root.absolute? fs.workingDir = some a → r.searchRoot.same a = true) ∧
        (fs.WrittenOut → fs.isDir fs.workingDir = true →
          r.sourceFile.text.utf8ByteSize < FileSystem.pathLimit →
          ∃ f, (ofRoots [r.searchRoot]).locate fs d.module = .ok f ∧
            f.same r.sourceFile = true)) ∧
      (TakenForPackage fs root d.module → ∀ a above c, root.absolute? fs.workingDir = some a →
        a.components = above ++ [c] → c ≠ .root → r.searchRoot.components = above) := by
  have names : ∀ n ∈ foundNames fs root d.module, IsName n :=
    fun _ => isName_of_mem_foundNames dotted
  obtain ⟨base, form, components⟩ :=
    FilePath.absolute?_foldl_join names foundNames_ne_nil root fs.workingDir
  have located : s.locate fs d.module =
      .ok ((foundNames fs root d.module).foldl FilePath.join base) := by
    simp [locate, isModuleName_of_dotted dotted, find?_eq py dotted searched absent holds,
      FileSystem.absolute, form]
  have absolute {a : FilePath} (h : root.absolute? fs.workingDir = some a) :
      base.trim.components = a.components := by
    rw [base.components_trim, components, FilePath.components_of_absolute? h]
  refine ⟨.ofParts d.module d.name ((foundNames fs root d.module).foldl FilePath.join base), ?_,
    fun plain => ⟨fun a h => ?_, fun written directory short => ?_⟩,
    fun taken a above c h split no_root => ?_⟩
  · rw [Reference.resolve, parsed]
    simp [bind, Except.bind, located]
  · rw [searchRoot_of_not_taken dotted d.name base plain, FilePath.same_iff, absolute h]
  · rw [searchRoot_of_not_taken dotted d.name base plain]
    dsimp only [Reference.ofParts] at short ⊢
    exact locate_trim written directory dotted holds components short
  · obtain ⟨up, parent, up_components⟩ :=
      FilePath.exists_parent? ((absolute h).trans split) no_root
    rw [searchRoot_of_taken dotted d.name taken parent, up_components]

/-- A package `pkg` below `lib` with a module `util`, seen from the directory above. -/
def packageFiles : FileSystem where
  entries := [⟨["w"], .directory, false⟩, ⟨["w", "lib"], .directory, false⟩,
    ⟨["w", "lib", "pkg"], .directory, false⟩,
    ⟨["w", "lib", "pkg", "__init__.py"], .file (some ""), false⟩,
    ⟨["w", "lib", "pkg", "util.py"], .file (some ""), false⟩]
  workingDir := ⟨"/w"⟩

theorem searchRoot_of_resolve_util :
    ∃ r, Reference.resolve ((ofRoots [⟨"src"⟩, ⟨"./lib/"⟩]).locate packageFiles) "pkg.util.dec" =
        .ok r ∧
      r.searchRoot.same ⟨"/w/lib/"⟩ = true ∧
      ∃ f, (ofRoots [r.searchRoot]).locate packageFiles "pkg.util" = .ok f ∧
        f.same r.sourceFile = true := by
  have parsed : Declaration.parse "pkg.util.dec" = .ok ⟨"pkg.util", "dec"⟩ :=
    Except.toOption_eq_some.1 (by decide +kernel)
  have plain : ¬ TakenForPackage packageFiles ⟨"./lib/"⟩ "pkg.util" := by decide +kernel
  have file : (Reference.resolve ((ofRoots [⟨"src"⟩, ⟨"./lib/"⟩]).locate packageFiles)
      "pkg.util.dec").toOption.map (·.sourceFile) = some ⟨"/w/lib/pkg/util.py"⟩ := by
    decide +kernel
  have written : packageFiles.WrittenOut :=
    ⟨["w"], List.forall_mem_singleton.2 ⟨by decide, by decide, by decide, by decide⟩, by decide⟩
  have searched : (ofRoots [⟨"src"⟩, ⟨"./lib/"⟩]).searched = [⟨"src"⟩] ++ ⟨"./lib/"⟩ :: [] := rfl
  have absent : ∀ q ∈ [⟨"src"⟩], ¬ Holds packageFiles q "pkg.util" :=
    List.forall_mem_singleton.2 (by decide +kernel)
  obtain ⟨r, resolved, root, -⟩ := searchRoot_of_resolve parsed rfl (by decide +kernel) searched
    absent (show Holds packageFiles ⟨"./lib/"⟩ "pkg.util" by decide +kernel)
  obtain ⟨same, again⟩ := root plain
  have short : r.sourceFile.text.utf8ByteSize < FileSystem.pathLimit := by
    rw [resolved] at file
    have file : r.sourceFile = ⟨"/w/lib/pkg/util.py"⟩ := Option.some.inj file
    rw [file]
    decide
  exact ⟨r, resolved, same ⟨"/w/lib/"⟩ (by decide +kernel), again written (by decide +kernel) short⟩

/-- The own file of `pkg.__init__` is taken for that of a package, so the search root is the
directory above the root, and under it the module is not found. -/
theorem searchRoot_of_resolve_init :
    Holds packageFiles ⟨"lib"⟩ "pkg.__init__" ∧ Text.isDottedName "pkg.__init__" = true ∧
      FilePath.absolute? ⟨"lib"⟩ packageFiles.workingDir = some ⟨"/w/lib"⟩ ∧
      ∃ r, Reference.resolve ((ofRoots [⟨"lib"⟩]).locate packageFiles) "pkg.__init__.dec" = .ok r ∧
        r.searchRoot.same ⟨"/w/lib"⟩ = false ∧
        (ofRoots [r.searchRoot]).locate packageFiles "pkg.__init__" =
          .error (.unresolvable "pkg.__init__") := by
  have resolved : Reference.resolve ((ofRoots [⟨"lib"⟩]).locate packageFiles) "pkg.__init__.dec" =
      .ok (.ofParts "pkg.__init__" "dec" ⟨"/w/lib/pkg/__init__.py"⟩) :=
    Except.toOption_eq_some.1 (by decide +kernel)
  have root : (Reference.ofParts "pkg.__init__" "dec" ⟨"/w/lib/pkg/__init__.py"⟩).searchRoot =
      ⟨"/w"⟩ := by decide +kernel
  refine ⟨by decide +kernel, by decide +kernel, by decide +kernel, _, resolved, ?_, ?_⟩
  · rw [root]
    decide
  · have missing : (ofRoots [⟨"/w"⟩]).find? packageFiles "pkg.__init__" = none := by
      decide +kernel
    rw [root, locate, isModuleName_of_dotted (by decide +kernel), missing]
    rfl

end SearchPaths

end Loom
