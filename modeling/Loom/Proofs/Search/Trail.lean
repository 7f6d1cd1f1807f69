import Loom.Proofs.Search.Resolver

/-!
# Trails

What a path leads to depends on its trail, the names that it goes through from the root on
(`lookup_eq_of_trail_eq`), if it ends with a step. A path with the components of an absolute form has
the trail of the path it is the form of (`trail_of_components`).
-/

namespace Loom

theorem IsName.plain {name : String} (h : IsName name) : name ≠ "" ∧ '/' ∉ name.toList :=
  ⟨h.ne_empty, h.no_slash⟩

theorem FilePath.root_not_mem_locate (n : Nat) (pieces : List (List Char)) :
    .root ∉ (locate n pieces).map (·.component) := by
  induction pieces generalizing n with
  | nil => simp [locate]
  | cons piece pieces ih =>
    rw [locate]
    split
    · exact ih _
    · next c eq =>
      rw [List.map_cons, List.mem_cons, not_or]
      refine ⟨?_, ih _⟩
      rintro rfl
      unfold componentOf at eq
      split_ifs at eq <;> cases eq

theorem FilePath.isAbsolute_of_components {p : FilePath} (h : .root ∈ p.components) :
    p.isAbsolute = true := by
  rw [components, located] at h
  split at h
  · assumption
  · exact absurd h (root_not_mem_locate _ _)

namespace FileSystem

open FilePath

variable {fs : FileSystem} {p q : FilePath} {here names ps : List String}

/-- Stretches that are no steps may be left out in front of a step. -/
theorem follow_filter_eq (last : ∀ s ∈ ps.getLast?, isStretch s = true) :
    fs.follow here (ps.filter isStretch) = fs.follow here ps := by
  have others {piece : String} {rest : List String}
      (last : ∀ s ∈ (piece :: rest).getLast?, isStretch s = true) :
      ∀ s ∈ rest.getLast?, isStretch s = true := by
    intro s hs
    refine last s ?_
    rw [List.getLast?_cons, Option.mem_def.1 hs]
    rfl
  fun_induction follow fs here ps with
  | case1 => rfl
  | case2 here piece rest no_directory =>
    -- A step is left, and it is refused like the stretch before it.
    obtain ⟨s, hs⟩ : ∃ s, (piece :: rest).getLast? = some s := ⟨_, List.getLast?_cons⟩
    have step : s ∈ (piece :: rest).filter isStretch :=
      List.mem_filter.2 ⟨List.mem_of_getLast? hs, last s hs⟩
    cases left : (piece :: rest).filter isStretch with
    | nil => simp [left] at step
    | cons first steps => rw [follow, if_pos no_directory]
  | case3 here piece rest directory dot ih =>
    have blank : isStretch piece = false := by
      obtain rfl | rfl := dot <;> rfl
    rw [List.filter_cons, blank, if_neg Bool.false_ne_true, ih (others last)]
  | case4 here rest directory dot ih =>
    rw [List.filter_cons, show isStretch ".." = true from rfl, if_pos rfl, follow, if_neg directory,
      if_neg dot, if_pos rfl, ih (others last)]
  | case5 here piece rest directory dot up long =>
    rw [List.filter_cons, if_pos (isStretch_of_not dot), follow, if_neg directory, if_neg dot,
      if_neg up, if_pos long]
  | case6 here piece rest directory dot up short missing =>
    rw [List.filter_cons, if_pos (isStretch_of_not dot), follow, if_neg directory, if_neg dot,
      if_neg up, if_neg short, if_pos missing]
  | case7 here piece rest directory dot up short present ih =>
    rw [List.filter_cons, if_pos (isStretch_of_not dot), follow, if_neg directory, if_neg dot,
      if_neg up, if_neg short, if_neg present, ih (others last)]

theorem follow_append (h : fs.follow here ps = .ok names) (rest : List String) :
    fs.follow here (ps ++ rest) = fs.follow names rest := by
  fun_induction follow fs here ps with
  | case1 => rw [Except.ok.inj h, List.nil_append]
  | case2 => cases h
  | case3 here piece ps directory dot ih =>
    rw [List.cons_append, follow, if_neg directory, if_pos dot, ih h]
  | case4 here ps directory dot ih =>
    rw [List.cons_append, follow, if_neg directory, if_neg dot, if_pos rfl, ih h]
  | case5 => cases h
  | case6 => cases h
  | case7 here piece ps directory dot up short present ih =>
    rw [List.cons_append, follow, if_neg directory, if_neg dot, if_neg up, if_neg short,
      if_neg present, ih h]

theorem exists_lookup_of_isDir (h : fs.isDir p = true) : ∃ e, fs.lookup p = .ok e := by
  rw [isDir, lookup?] at h
  cases found : fs.lookup p with
  | error e => simp [found, Except.toOption] at h
  | ok e => exact ⟨e, rfl⟩

/-! ## Trails -/

/-- The names that a path goes through from the root on, with its `..`. -/
def trail (fs : FileSystem) (p : FilePath) : List String := fs.start p ++ p.steps

theorem steps_foldl_join_root (are_names : ∀ n ∈ names, IsName n) :
    (names.foldl join ⟨"/"⟩).steps = names := by
  have root : (FilePath.mk "/").components.filter isStep = [] := by decide
  rw [steps, filter_isStep_foldl_join are_names, root, List.nil_append, List.map_map]
  exact List.map_id names

theorem start_of_relative (are_names : ∀ n ∈ names, IsName n)
    (cwd : fs.workingDir = names.foldl join ⟨"/"⟩) (relative : p.isAbsolute = false) :
    fs.start p = names := by
  have all : names.filter FileSystem.isName = names := by
    refine List.filter_eq_self.2 fun n hn => ?_
    have name := are_names n hn
    simp [FileSystem.isName, name.ne_empty, name.ne_current, name.ne_parent]
  rw [start, relative, if_neg Bool.false_ne_true, cwd]
  by_cases none : names = []
  · subst none
    decide
  · have root : (FilePath.mk "/").stretches.map String.ofList = [""] := by decide
    rw [pieces_foldl_join (fun n hn => (are_names n hn).plain) none, root, List.filter_append, all]
    rfl

section

variable (written : fs.WrittenOut)
include written

theorem absoluteComponents_eq (p : FilePath) : p.absoluteComponents fs.workingDir =
    .root :: ((fs.start p).map .normal ++ p.components.filter isStep) := by
  obtain ⟨names, are_names, cwd⟩ := written
  have root : (FilePath.mk "/").components = [.root] := by decide
  cases absolute : p.isAbsolute with
  | true => simp [absoluteComponents, start, absolute]
  | false =>
    rw [start_of_relative are_names cwd absolute, absoluteComponents, absolute, cwd,
      components_foldl_join are_names, root]
    rfl

theorem steps_absoluteComponents (p : FilePath) :
    (p.absoluteComponents fs.workingDir).filter isStep =
      (fs.start p).map .normal ++ p.components.filter isStep := by
  have normal : ((fs.start p).map Component.normal).filter isStep = (fs.start p).map .normal := by
    refine List.filter_eq_self.2 fun c hc => ?_
    obtain ⟨name, -, rfl⟩ := List.mem_map.1 hc
    rfl
  rw [absoluteComponents_eq written, List.filter_cons, if_neg (by decide), List.filter_append,
    normal, List.filter_filter]
  simp only [Bool.and_self]

theorem isAbsolute_of_absoluteComponents (h : q.components = p.absoluteComponents fs.workingDir) :
    q.isAbsolute = true :=
  isAbsolute_of_components (by rw [h, absoluteComponents_eq written]; exact List.mem_cons_self)

/-- A path with the components of the absolute form goes through the same names. -/
theorem trail_of_components (h : q.components = p.absoluteComponents fs.workingDir) :
    fs.trail q = fs.trail p := by
  have texts : (fs.start p).map (Component.text ∘ Component.normal) = fs.start p := List.map_id _
  rw [trail, start, if_pos (isAbsolute_of_absoluteComponents written h), List.nil_append, steps, h,
    steps_absoluteComponents written, List.map_append, List.map_map, texts, trail, steps]

/-- The absolute form of such a path has the same components again. -/
theorem absoluteComponents_of_components (h : q.components = p.absoluteComponents fs.workingDir) :
    q.absoluteComponents fs.workingDir = q.components := by
  rw [absoluteComponents, if_pos (isAbsolute_of_absoluteComponents written h), h,
    steps_absoluteComponents written, absoluteComponents_eq written, List.singleton_append]

variable (directory : fs.isDir fs.workingDir = true)
include directory

theorem follow_start (p : FilePath) : fs.follow [] (fs.start p) = .ok (fs.start p) := by
  obtain ⟨names, are_names, cwd⟩ := written
  cases absolute : p.isAbsolute with
  | true =>
    rw [start, if_pos absolute]
    rfl
  | false =>
    rw [start_of_relative are_names cwd absolute]
    obtain ⟨e, found⟩ := exists_lookup_of_isDir directory
    have followed := follow_filter (lookup_eq_ok.1 found).2.1
    have from_root : fs.start fs.workingDir = [] := by
      rw [start, cwd, isAbsolute_foldl_join fun n hn => (are_names n hn).no_slash]
      rfl
    rwa [← steps_eq, from_root, cwd, place_foldl_join are_names,
      steps_foldl_join_root are_names] at followed

/-- A path that ends with a step leads where its trail leads. -/
theorem follow_pieces (last : ∀ s ∈ (pieces p).getLast?, isStretch s = true) :
    fs.follow (fs.start p) (pieces p) = fs.follow [] (fs.trail p) := by
  rw [← follow_filter_eq last, ← steps_eq, trail, follow_append (follow_start written directory p)]

theorem lookup_eq_of_trail_eq (p_last : ∀ s ∈ (pieces p).getLast?, isStretch s = true)
    (q_last : ∀ s ∈ (pieces q).getLast?, isStretch s = true) (p_checked : checkPath p = .ok ())
    (q_checked : checkPath q = .ok ()) (eq : fs.trail p = fs.trail q) :
    fs.lookup p = fs.lookup q := by
  rw [lookup, lookup, p_checked, q_checked, follow_pieces written directory p_last,
    follow_pieces written directory q_last, eq]

end

theorem isStretch_getLast?_foldl_join (are_names : ∀ n ∈ names, IsName n)
    (some_names : names ≠ []) :
    ∀ s ∈ (pieces (names.foldl join p)).getLast?, isStretch s = true := by
  intro s hs
  rw [pieces_foldl_join (fun n hn => (are_names n hn).plain) some_names,
    List.getLast?_append_of_ne_nil _ some_names] at hs
  have name := are_names s (List.mem_of_getLast? hs)
  exact isStretch_of_not (not_or.2 ⟨name.ne_empty, name.ne_current⟩)

/-! ## Texts -/

/-- A character of a path but for the slashes stands in one of its stretches. -/
theorem mem_text_iff {c : Char} (no_slash : c ≠ '/') :
    c ∈ p.text.toList ↔ ∃ s ∈ pieces p, c ∈ s.toList := by
  have whole : c ∈ p.text.toList ++ ['/'] ↔
      ∃ piece ∈ Text.splitChars '/' p.text.toList, c ∈ piece ++ ['/'] := by
    rw [← flatMap_splitChars, List.mem_flatMap]
  simpa [no_slash, pieces, Text.segments] using whole

/-- The absolute form of a path is taken for one unless it is too long. -/
theorem checkPath_of_components (written : fs.WrittenOut)
    (directory : fs.isDir fs.workingDir = true) (checked : checkPath p = .ok ())
    (h : q.components = p.absoluteComponents fs.workingDir)
    (short : q.text.utf8ByteSize < pathLimit) : checkPath q = .ok () := by
  have absolute := isAbsolute_of_absoluteComponents written h
  refine checkPath_eq_ok.2 ⟨fun nul => ?_, ?_, short⟩
  · have free {r : FilePath} {s : String} (ok : checkPath r = .ok ()) (hs : s ∈ pieces r) :
        '\x00' ∉ s.toList :=
      fun nul => (checkPath_eq_ok.1 ok).1 ((mem_text_iff (by decide)).2 ⟨s, hs, nul⟩)
    obtain ⟨e, found⟩ := exists_lookup_of_isDir directory
    obtain ⟨s, hs, nul⟩ := (mem_text_iff (by decide)).1 nul
    have step : isStretch s = true := by
      refine isStretch_of_not ?_
      rintro (rfl | rfl) <;> simp at nul
    -- The stretch comes from the working directory or from the path.
    have origin : s ∈ fs.trail p := by
      rw [← trail_of_components written h, trail, steps_eq]
      exact List.mem_append_right _ (List.mem_filter.2 ⟨hs, step⟩)
    rcases List.mem_append.1 origin with above | below
    · rw [start] at above
      split at above
      · cases above
      · exact free (lookup_eq_ok.1 found).1 (List.mem_filter.1 above).1 nul
    · rw [steps_eq] at below
      exact free checked (List.mem_filter.1 below).1 nul
  · rintro empty
    simp [isAbsolute, empty] at absolute

end FileSystem

end Loom
