import Mathlib.Data.String.Basic
import Loom.Proofs.FileSystem
import Loom.Search.Resolver

/-!
# What a search answers

A search answers with the absolute form of a file that is there. An absolute form has one slash
before every step, so its components leave open only whether it starts with one slash or with two,
and both lead to the same entry. Answers that are the same path are therefore alike.
-/

namespace Loom

namespace Text

variable {sep : Char}

theorem sublist_joinChars {as bs : List (List Char)} (h : as.Sublist bs) :
    (joinChars sep as).Sublist (joinChars sep bs) := by
  induction h with
  | slnil => exact .refl _
  | @cons as bs b h ih =>
    cases bs with
    | nil => simp [List.sublist_nil.1 h, joinChars]
    | cons c bs => exact (ih.cons sep).trans (List.sublist_append_right b _)
  | @cons_cons as bs b h ih =>
    cases as with
    | nil =>
      cases bs with
      | nil => exact .refl _
      | cons c bs => exact List.sublist_append_left b _
    | cons a as =>
      cases bs with
      | nil => cases h
      | cons c bs => exact .append (.refl b) (ih.cons_cons sep)

end Text

namespace FilePath

variable {p q lead cwd : FilePath} {names : List String}

/-! ## Steps -/

/-- The names and `..` that a path goes through. -/
def steps (p : FilePath) : List String := (p.components.filter isStep).map Component.text

/-- Whether a stretch of a path is a step. -/
def isStretch (s : String) : Bool := s != "" && s != "."

theorem map_text_locate (n : Nat) (pieces : List (List Char)) :
    (((locate n pieces).map (·.component)).filter isStep).map Component.text =
      (pieces.map String.ofList).filter isStretch := by
  induction pieces generalizing n with
  | nil => rfl
  | cons piece pieces ih =>
    rw [locate, List.map_cons]
    by_cases empty : piece = []
    · simp [componentOf, empty, isStretch, ih]
    by_cases dot : piece = ['.']
    · have blank : isStretch (String.ofList ['.']) = false := by decide
      subst dot
      by_cases first : n = 0 <;>
        simp [componentOf, first, blank, isStep, ih]
    by_cases up : piece = ['.', '.']
    · subst up
      simp [componentOf, List.filter_cons, isStretch, isStep, Component.text, ih]
    · have some_text : String.ofList piece ≠ "" := fun eq => empty (String.ofList_injective eq)
      have no_dot : String.ofList piece ≠ "." := fun eq => dot (String.ofList_injective eq)
      simp [componentOf, empty, dot, up, List.filter_cons, isStretch, some_text, no_dot, isStep,
        Component.text, ih]

theorem steps_eq (p : FilePath) : p.steps = (FileSystem.pieces p).filter isStretch := by
  rw [FileSystem.pieces, Text.segments, ← map_text_locate 0, steps, components, located]
  split
  · rfl
  · rfl

/-- A step is not empty and has no slash. -/
theorem plain_of_mem_steps {s : String} (h : s ∈ p.steps) : s ≠ "" ∧ '/' ∉ s.toList := by
  obtain ⟨c, mem, rfl⟩ := List.mem_map.1 h
  obtain ⟨mem, step⟩ := List.mem_filter.1 mem
  cases c with
  | root => cases step
  | current => cases step
  | parent => decide
  | normal name => exact ⟨(isName_of_mem_components mem).1, (isName_of_mem_components mem).4⟩

theorem stretches_foldl_join (plain : ∀ n ∈ names, n ≠ "" ∧ '/' ∉ n.toList) :
    (names.foldl join p).stretches = p.stretches ++ names.map String.toList := by
  induction names generalizing p with
  | nil => simp
  | cons n names ih =>
    obtain ⟨some_name, no_slash⟩ := plain n List.mem_cons_self
    rw [List.foldl_cons, ih fun m hm => plain m (List.mem_cons_of_mem _ hm),
      stretches_join some_name no_slash]
    simp

theorem pieces_foldl_join (plain : ∀ n ∈ names, n ≠ "" ∧ '/' ∉ n.toList)
    (some_names : names ≠ []) :
    FileSystem.pieces (names.foldl join p) = p.stretches.map String.ofList ++ names := by
  obtain ⟨before, last, rfl⟩ : ∃ before last, names = before ++ [last] :=
    ⟨_, _, (List.dropLast_append_getLast some_names).symm⟩
  have no_slash := (plain last (by simp)).2
  rw [FileSystem.pieces, Text.segments, List.foldl_append, List.foldl_cons, List.foldl_nil,
    toList_join (isAbsolute_eq_false no_slash), splitChars_opened_append,
    Text.splitChars_of_not_mem no_slash,
    stretches_foldl_join fun n hn => plain n (List.mem_append_left _ hn)]
  simp [Function.comp_def]

/-! ## Absolute forms -/

theorem absolute?_eq (some_text : p.text ≠ "") (ends : p.text.toList.getLast? ≠ some '/') :
    p.absolute? cwd =
      some (p.steps.foldl join (if p.isAbsolute then leadingRoot p.text.toList else cwd)) := by
  rw [absolute?, if_neg (by simpa using some_text), steps, List.foldl_map]
  simp only [ends, ↓reduceIte]

theorem leadingRoot_cases (cs : List Char) :
    leadingRoot cs = ⟨"/"⟩ ∨ leadingRoot cs = ⟨"//"⟩ ∧ ∃ rest, cs = '/' :: '/' :: rest := by
  unfold leadingRoot
  split
  · exact .inl rfl
  · exact .inr ⟨rfl, _, rfl⟩
  · exact .inl rfl

end FilePath

namespace FileSystem

open FilePath

variable {fs : FileSystem} {p q f g lead : FilePath} {here names ps : List String} {e : Entry}

/-! ## What files are found at -/

theorem isFile_iff : fs.isFile p = true ↔ ∃ e, fs.lookup p = .ok e ∧ e.isFile = true := by
  rw [isFile, lookup?]
  cases fs.lookup p <;> simp [Except.toOption]

/-- What a slash follows is no file. -/
theorem getLast?_of_isFile (h : fs.isFile p = true) : p.text.toList.getLast? ≠ some '/' := by
  intro ends
  obtain ⟨cs, eq⟩ := List.getLast?_eq_some_iff.1 ends
  have last : pieces p = (Text.splitChars '/' cs).map String.ofList ++ [""] := by
    rw [pieces, Text.segments, eq, Text.splitChars_append_sep]
    simp [Text.splitChars]
  obtain ⟨e, found, file⟩ := isFile_iff.1 h
  obtain ⟨-, followed, entry⟩ := lookup_eq_ok.1 found
  rw [last, follow_append_eq_ok] at followed
  obtain ⟨there, -, followed⟩ := followed
  simp only [follow] at followed
  split at followed
  · cases followed
  next directory =>
    obtain rfl := Except.ok.inj followed
    simp only [isDirectoryAt, entry, Bool.not_eq_true', Bool.not_eq_false] at directory
    simp [Entry.isFile] at file directory
    exact file directory

theorem isStretch_of_not {piece : String} (h : ¬ (piece = "" ∨ piece = ".")) :
    isStretch piece = true := by
  rw [not_or] at h
  simp [isStretch, h]

/-- Stretches that are no steps may be left out. -/
theorem follow_filter (h : fs.follow here ps = .ok names) :
    fs.follow here (ps.filter isStretch) = .ok names := by
  fun_induction follow fs here ps with
  | case1 => exact h
  | case2 => cases h
  | case3 here piece rest directory dot ih =>
    have blank : isStretch piece = false := by
      obtain rfl | rfl := dot <;> rfl
    rw [List.filter_cons, blank]
    exact ih h
  | case4 here rest directory dot ih =>
    rw [List.filter_cons, show isStretch ".." = true from rfl, if_pos rfl, follow, if_neg directory,
      if_neg dot, if_pos rfl]
    exact ih h
  | case5 => cases h
  | case6 => cases h
  | case7 here piece rest directory dot up short present ih =>
    rw [List.filter_cons, if_pos (isStretch_of_not dot), follow, if_neg directory, if_neg dot,
      if_neg up, if_neg short, if_neg present]
    exact ih h

theorem follow_replicate (k : Nat) :
    fs.follow [] (List.replicate k "" ++ ps) = fs.follow [] ps := by
  induction k with
  | zero => rfl
  | succ k ih =>
    have directory : fs.isDirectoryAt [] = true := by simp [isDirectoryAt, entryAt?, rootEntry]
    rw [List.replicate_succ, List.cons_append, follow, directory, if_neg (by simp),
      if_pos (.inl rfl), ih]

/-- The file's path goes through a step. -/
theorem steps_ne_nil_of_isFile (h : fs.isFile p = true) (absolute : p.isAbsolute = true) :
    p.steps ≠ [] := by
  intro none
  obtain ⟨e, found, file⟩ := isFile_iff.1 h
  obtain ⟨-, followed, entry⟩ := lookup_eq_ok.1 found
  have root := follow_filter followed
  rw [← steps_eq, none, start, if_pos absolute, follow] at root
  rw [← Except.ok.inj root, entryAt?, if_pos rfl] at entry
  rw [← Option.some.inj entry] at file
  cases file

theorem map_toList_pieces (p : FilePath) :
    (pieces p).map String.toList = Text.splitChars '/' p.text.toList := by
  simp [pieces, Text.segments, Function.comp_def]

theorem checkPath_eq_ok : checkPath p = .ok () ↔
    '\x00' ∉ p.text.toList ∧ p.text ≠ "" ∧ p.text.utf8ByteSize < pathLimit := by
  unfold checkPath
  split
  · next nul => simp_all
  next no_nul =>
    split
    · next empty => simp_all
    next some_text => split <;> simp_all

/-- A path that is taken for one still is when characters are left out. -/
theorem checkPath_of_sublist (h : q.text.toList.Sublist p.text.toList) (some_text : q.text ≠ "")
    (checked : checkPath p = .ok ()) : checkPath q = .ok () := by
  obtain ⟨no_nul, -, short⟩ := checkPath_eq_ok.1 checked
  have size : q.text.utf8ByteSize ≤ p.text.utf8ByteSize := by
    rw [← String.ofList_toList (s := q.text), ← String.ofList_toList (s := p.text),
      String.utf8ByteSize_ofList, String.utf8ByteSize_ofList]
    exact String.utf8Len_le_of_sublist h
  exact checkPath_eq_ok.2 ⟨fun nul => no_nul (h.subset nul), some_text, by omega⟩

theorem chars_sublist_of_pieces (h : (pieces q).Sublist (pieces p)) :
    q.text.toList.Sublist p.text.toList := by
  have joined : (Text.joinChars '/' _).Sublist _ := Text.sublist_joinChars (h.map String.toList)
  rwa [map_toList_pieces, map_toList_pieces, Text.joinChars_splitChars,
    Text.joinChars_splitChars] at joined

/-- A path with the steps of `p`, after no more slashes than `p` starts with, leads to the entry
that `p` leads to. -/
theorem lookup_foldl_join {k : Nat} (found : fs.lookup p = .ok e) (absolute : p.isAbsolute = true)
    (some_steps : p.steps ≠ []) (lead_absolute : lead.isAbsolute = true)
    (slashes : lead.stretches = List.replicate k [])
    (fewer : (List.replicate k "" ++ p.steps).Sublist (pieces p)) :
    fs.lookup (p.steps.foldl join lead) = .ok e := by
  obtain ⟨checked, followed, entry⟩ := lookup_eq_ok.1 found
  have eq : pieces (p.steps.foldl join lead) = List.replicate k "" ++ p.steps := by
    rw [pieces_foldl_join (fun _ => plain_of_mem_steps) some_steps, slashes]
    simp
  have is_absolute : (p.steps.foldl join lead).isAbsolute = true := by
    rw [isAbsolute_foldl_join fun _ hn => (plain_of_mem_steps hn).2, lead_absolute]
  have some_text : (p.steps.foldl join lead).text ≠ "" := by
    intro empty
    simp [isAbsolute, empty] at is_absolute
  have follows : fs.follow [] (List.replicate k "" ++ p.steps) = .ok (fs.place p) := by
    rw [start, if_pos absolute] at followed
    rw [follow_replicate, steps_eq]
    exact follow_filter followed
  rw [← eq] at fewer
  have there : fs.follow (fs.start (p.steps.foldl join lead)) (pieces (p.steps.foldl join lead)) =
      .ok (fs.place p) := by
    rw [start, if_pos is_absolute, eq, follows]
  have same_place : fs.place (p.steps.foldl join lead) = fs.place p :=
    (eq_walk_of_follow there).symm
  rw [lookup_eq_ok, same_place]
  exact ⟨checkPath_of_sublist (chars_sublist_of_pieces fewer) some_text checked, there, entry⟩

end FileSystem

namespace FileSystem

open FilePath

variable {fs : FileSystem} {p q f g : FilePath} {names : List String} {e : Entry}

/-! ## Absolute forms of files -/

/-- The working directory is written as names after single slashes. -/
def WrittenOut (fs : FileSystem) : Prop :=
  ∃ names : List String, (∀ n ∈ names, IsName n) ∧ fs.workingDir = names.foldl join ⟨"/"⟩

/-- How the absolute form `f` of a file `p` is written: its components after one slash, or after two
if `p` starts with two. -/
theorem absolute?_of_isFile (written : fs.WrittenOut) (file : fs.isFile p = true)
    (form : p.absolute? fs.workingDir = some f) :
    ∃ cs, f.components = .root :: cs ∧ (f = (cs.map Component.text).foldl join ⟨"/"⟩ ∨
      f = p.steps.foldl join ⟨"//"⟩ ∧ p.steps = cs.map Component.text ∧
        ∃ rest, p.text.toList = '/' :: '/' :: rest) := by
  obtain ⟨names, are_names, cwd⟩ := written
  have components := components_of_absolute? form
  have some_text : p.text ≠ "" := by
    intro empty
    simp [absolute?, empty] at form
  rw [absolute?_eq some_text (getLast?_of_isFile file)] at form
  obtain rfl := Option.some.inj form
  cases absolute : p.isAbsolute with
  | true =>
    simp only [absoluteComponents, absolute, ↓reduceIte] at components ⊢
    refine ⟨_, components, ?_⟩
    obtain one | ⟨two, rest, eq⟩ := leadingRoot_cases p.text.toList
    · rw [one]
      exact .inl rfl
    · rw [two]
      exact .inr ⟨rfl, rfl, rest, eq⟩
  | false =>
    have root : (FilePath.mk "/").components = [.root] := by decide
    have texts : names.map (Component.text ∘ Component.normal) = names := List.map_id names
    simp only [absoluteComponents, absolute, cwd, components_foldl_join are_names, root,
      Bool.false_eq_true, ↓reduceIte, List.cons_append, List.nil_append] at components ⊢
    refine ⟨names.map .normal ++ p.components.filter isStep, components, .inl ?_⟩
    rw [List.map_append, List.map_map, texts, List.foldl_append, steps]

/-- With one slash at the start, or with two, the steps of a path that starts with two lead to the
same entry. -/
theorem lookup_of_slashes {rest : List Char} (found : fs.lookup p = .ok e) (file : e.isFile = true)
    (slashes : p.text.toList = '/' :: '/' :: rest) :
    fs.lookup (p.steps.foldl join ⟨"/"⟩) = .ok e ∧
      fs.lookup (p.steps.foldl join ⟨"//"⟩) = .ok e := by
  have absolute : p.isAbsolute = true := by simp [isAbsolute, slashes]
  have some_steps := steps_ne_nil_of_isFile (isFile_iff.2 ⟨e, found, file⟩) absolute
  obtain ⟨others, eq⟩ : ∃ others, pieces p = "" :: "" :: others :=
    ⟨(Text.splitChars '/' rest).map String.ofList, by
      simp [pieces, Text.segments, slashes, Text.splitChars]⟩
  have real : p.steps = others.filter isStretch := by
    rw [steps_eq, eq]
    rfl
  have fewer : p.steps.Sublist others := real ▸ List.filter_sublist
  have one : FilePath.stretches ⟨"/"⟩ = List.replicate 1 [] := by decide
  have two : FilePath.stretches ⟨"//"⟩ = List.replicate 2 [] := by decide
  constructor
  · refine lookup_foldl_join found absolute some_steps (by decide) one ?_
    rw [eq]
    exact .cons _ (.cons_cons _ fewer)
  · refine lookup_foldl_join found absolute some_steps (by decide) two ?_
    rw [eq]
    exact .cons_cons _ (.cons_cons _ fewer)

/-- The absolute forms of two files, if they are the same path, are equal or lead to one entry. -/
theorem eq_or_lookup_eq (written : fs.WrittenOut) (p_file : fs.isFile p = true)
    (p_form : p.absolute? fs.workingDir = some f) (q_file : fs.isFile q = true)
    (q_form : q.absolute? fs.workingDir = some g) (same : f.same g = true) :
    f = g ∨ ∃ e, fs.lookup f = .ok e ∧ fs.lookup g = .ok e := by
  obtain ⟨cs, f_components, f_eq⟩ := absolute?_of_isFile written p_file p_form
  obtain ⟨ds, g_components, g_eq⟩ := absolute?_of_isFile written q_file q_form
  obtain rfl : cs = ds := by
    have eq : f.components = g.components := of_decide_eq_true same
    rw [f_components, g_components] at eq
    exact (List.cons.inj eq).2
  obtain ⟨e, p_found, p_is⟩ := isFile_iff.1 p_file
  obtain ⟨e', q_found, q_is⟩ := isFile_iff.1 q_file
  obtain rfl | ⟨rfl, p_steps, rest, slashes⟩ := f_eq
  · obtain rfl | ⟨rfl, q_steps, rest, slashes⟩ := g_eq
    · exact .inl rfl
    · have found := lookup_of_slashes q_found q_is slashes
      exact .inr ⟨e', q_steps ▸ found.1, found.2⟩
  · obtain rfl | ⟨rfl, q_steps, -⟩ := g_eq
    · have found := lookup_of_slashes p_found p_is slashes
      exact .inr ⟨e, found.2, p_steps ▸ found.1⟩
    · exact .inl (by rw [p_steps, q_steps])

end FileSystem

namespace SearchPaths

variable {fs : FileSystem} {s : SearchPaths} {module : String} {f : FilePath}

/-! ## Answers -/

theorem locate_eq_ok_iff : s.locate fs module = .ok f ↔ isModuleName module = true ∧
    ∃ p, s.find? fs module = some p ∧ p.absolute? fs.workingDir = some f := by
  rw [locate]
  cases isModuleName module with
  | false => simp
  | true =>
    cases s.find? fs module with
    | none => simp
    | some p => cases form : p.absolute? fs.workingDir <;> simp [FileSystem.absolute, form]

theorem locate_eq_ok (h : s.locate fs module = .ok f) :
    ∃ p, fs.isFile p = true ∧ p.absolute? fs.workingDir = some f := by
  obtain ⟨-, p, found, form⟩ := locate_eq_ok_iff.1 h
  exact ⟨p, List.find?_some found, form⟩

end SearchPaths

end Loom
