import Loom.Path

/-!
# Paths and names

Joining a relative text appends its stretches to those of the path, so a joined name is the last
component and the file name of the result (`components_join_name`, `fileNameAt?_join`). From this
come the components of absolute paths and, for a name with a stem, the effect of another extension.
-/

namespace Loom

namespace Text

variable {sep : Char}

theorem splitChars_append_sep (as bs : List Char) :
    splitChars sep (as ++ sep :: bs) = splitChars sep as ++ splitChars sep bs := by
  induction as with
  | nil => simp [splitChars]
  | cons c as ih =>
    simp only [List.cons_append, splitChars, ih]
    split
    · rfl
    · cases h : splitChars sep as with
      | nil => exact absurd h (splitChars_ne_nil sep as)
      | cons first rest => rfl

theorem joinChars_append_singleton {parts : List (List Char)} (h : parts ≠ []) (last : List Char) :
    joinChars sep (parts ++ [last]) = joinChars sep parts ++ sep :: last := by
  induction parts with
  | nil => exact absurd rfl h
  | cons s parts ih =>
    cases parts with
    | nil => rfl
    | cons t parts =>
      have := ih (by simp)
      simp only [List.cons_append, joinChars] at this ⊢
      rw [this, List.append_assoc]
      rfl

theorem joinChars_eq_nil {parts : List (List Char)} (h : joinChars sep parts = []) :
    parts = [] ∨ parts = [[]] := by
  match parts with
  | [] => exact .inl rfl
  | [s] => exact .inr (by simpa [joinChars] using h)
  | s :: t :: parts => simp [joinChars] at h

end Text

/-- A text that stands for one name in every path. -/
structure IsName (name : String) : Prop where
  ne_empty : name ≠ ""
  ne_current : name ≠ "."
  ne_parent : name ≠ ".."
  no_slash : '/' ∉ name.toList

namespace FilePath

variable {p q cwd : FilePath} {name : String}

/-! ## Joining -/

/-- The text that what is joined to a path is put after. -/
def opened (p : FilePath) : List Char :=
  match p.text.toList.getLast? with
  | none => []
  | some c => if c = '/' then p.text.toList else p.text.toList ++ ['/']

/-- The stretches of a path that stay when something is joined to it. -/
def stretches (p : FilePath) : List (List Char) := (Text.splitChars '/' p.opened).dropLast

theorem isAbsolute_eq_false (no_slash : '/' ∉ name.toList) :
    (FilePath.mk name).isAbsolute = false := by
  rw [isAbsolute, beq_eq_false_iff_ne]
  exact fun eq => no_slash (List.mem_of_mem_head? eq)

theorem toList_join (relative : (FilePath.mk name).isAbsolute = false) :
    (p.join name).text.toList = p.opened ++ name.toList := by
  rw [join, relative, opened]
  cases h : p.text.toList.getLast? with
  | none => simp
  | some c =>
    simp only [Bool.false_eq_true, ↓reduceIte]
    split <;> simp

theorem opened_eq_nil_or (p : FilePath) : p.opened = [] ∨ ∃ cs, p.opened = cs ++ ['/'] := by
  rw [opened]
  cases h : p.text.toList.getLast? with
  | none => exact .inl rfl
  | some c =>
    simp only
    split
    · next eq =>
      subst eq
      exact .inr (List.getLast?_eq_some_iff.1 h)
    · exact .inr ⟨_, rfl⟩

theorem splitChars_opened_append (p : FilePath) (cs : List Char) :
    Text.splitChars '/' (p.opened ++ cs) = p.stretches ++ Text.splitChars '/' cs := by
  rw [stretches]
  obtain h | ⟨as, h⟩ := p.opened_eq_nil_or
  · simp [h, Text.splitChars]
  · rw [h, List.append_assoc, List.singleton_append, Text.splitChars_append_sep,
      Text.splitChars_append_sep]
    simp [Text.splitChars]

/-- The stretches of a path's text: there may be an empty one after those that stay. -/
theorem splitChars_text (p : FilePath) :
    Text.splitChars '/' p.text.toList = p.stretches ∨
      Text.splitChars '/' p.text.toList = p.stretches ++ [[]] := by
  rw [stretches, opened]
  cases h : p.text.toList.getLast? with
  | none =>
    rw [List.getLast?_eq_none_iff.1 h]
    exact .inr rfl
  | some c =>
    simp only
    split
    · next eq =>
      subst eq
      obtain ⟨as, eq⟩ := List.getLast?_eq_some_iff.1 h
      rw [eq, Text.splitChars_append_sep]
      simp [Text.splitChars]
    · rw [Text.splitChars_append_sep]
      simp [Text.splitChars]

/-! ## Components -/

theorem locate_append (start : Nat) (as bs : List (List Char)) :
    locate start (as ++ bs) =
      locate start as ++ locate (start + (as.flatMap (· ++ ['/'])).length) bs := by
  induction as generalizing start with
  | nil => simp [locate]
  | cons a as ih =>
    simp only [List.cons_append, locate, List.flatMap_cons, List.length_append,
      List.length_singleton]
    rw [ih, Nat.add_assoc start, Nat.add_assoc start]
    split <;> rfl

theorem located_eq (p : FilePath) :
    p.located = (if p.isAbsolute then [⟨.root, 1⟩] else []) ++ locate 0 p.stretches := by
  have steps : locate 0 (Text.splitChars '/' p.text.toList) = locate 0 p.stretches := by
    obtain h | h := p.splitChars_text
    · rw [h]
    · rw [h, locate_append]
      simp [locate, componentOf]
  rw [located, steps]
  split <;> rfl

/-- The separator after every piece, the last one too. -/
theorem flatMap_splitChars (sep : Char) (cs : List Char) :
    (Text.splitChars sep cs).flatMap (· ++ [sep]) = cs ++ [sep] := by
  induction cs with
  | nil => rfl
  | cons c cs ih =>
    rw [Text.splitChars]
    split
    · next eq => simp [ih, eq]
    · cases h : Text.splitChars sep cs with
      | nil => exact absurd h (Text.splitChars_ne_nil sep cs)
      | cons first rest =>
        rw [h] at ih
        simpa using ih

theorem flatMap_stretches (p : FilePath) : p.stretches.flatMap (· ++ ['/']) = p.opened := by
  have whole := flatMap_splitChars '/' (p.opened ++ [])
  rw [splitChars_opened_append] at whole
  simpa [Text.splitChars] using whole

theorem isAbsolute_join (relative : (FilePath.mk name).isAbsolute = false) :
    (p.join name).isAbsolute = p.isAbsolute := by
  rw [isAbsolute, toList_join relative, isAbsolute, opened]
  cases h : p.text.toList with
  | nil => simpa [isAbsolute] using relative
  | cons c cs =>
    cases h : (c :: cs).getLast? with
    | none => simp at h
    | some d =>
      simp only
      split <;> rfl

theorem isAbsolute_foldl_join {names : List String} (no_slash : ∀ n ∈ names, '/' ∉ n.toList) :
    (names.foldl join p).isAbsolute = p.isAbsolute := by
  induction names generalizing p with
  | nil => rfl
  | cons n names ih =>
    rw [List.foldl_cons, ih fun m hm => no_slash m (List.mem_cons_of_mem _ hm),
      isAbsolute_join (isAbsolute_eq_false (no_slash n List.mem_cons_self))]

theorem located_join (relative : (FilePath.mk name).isAbsolute = false) :
    (p.join name).located =
      p.located ++ locate p.opened.length (Text.splitChars '/' name.toList) := by
  rw [located, isAbsolute_join relative, toList_join relative, splitChars_opened_append,
    locate_append, flatMap_stretches, Nat.zero_add, located_eq]
  split <;> simp

end FilePath

namespace IsName

variable {name : String}

theorem relative (h : IsName name) : (FilePath.mk name).isAbsolute = false :=
  FilePath.isAbsolute_eq_false h.no_slash

theorem splitChars_eq (h : IsName name) : Text.splitChars '/' name.toList = [name.toList] :=
  Text.splitChars_of_not_mem h.no_slash

theorem componentOf_eq (h : IsName name) (start : Nat) :
    FilePath.componentOf start name.toList = some (.normal name) := by
  have ne {other : String} (ne : name ≠ other) : name.toList ≠ other.toList :=
    fun eq => ne (String.toList_inj.1 eq)
  have empty : name.toList ≠ [] := ne h.ne_empty
  have current : name.toList ≠ ['.'] := ne h.ne_current
  have parent : name.toList ≠ ['.', '.'] := ne h.ne_parent
  simp [FilePath.componentOf, empty, current, parent]

/-- What stands between slashes and is no `.` or `..` is a name. -/
theorem of_componentOf {start : Nat} {piece : List Char} (no_slash : '/' ∉ piece)
    (h : FilePath.componentOf start piece = some (.normal name)) : IsName name := by
  simp only [FilePath.componentOf] at h
  split at h
  · cases h
  split at h
  · split at h <;> cases h
  split at h
  · cases h
  next empty current parent =>
    cases h
    exact ⟨mt String.ofList_injective empty, mt String.ofList_injective current,
      mt String.ofList_injective parent, by simpa using no_slash⟩

/-- A name with an extension is a name. -/
theorem extended (h : IsName name) {extension : String} (some_extension : extension ≠ "")
    (no_slash : '/' ∉ extension.toList) : IsName (name ++ "." ++ extension) := by
  have long : 2 < (name ++ "." ++ extension).length := by
    have stem : 0 < name.length := Nat.pos_of_ne_zero (mt String.length_eq_zero_iff.1 h.ne_empty)
    have last : 0 < extension.length :=
      Nat.pos_of_ne_zero (mt String.length_eq_zero_iff.1 some_extension)
    simp only [String.length_append, show ".".length = 1 from rfl]
    omega
  refine ⟨?_, ?_, ?_, ?_⟩
  · exact fun eq => absurd long (by simp [eq])
  · exact fun eq => absurd long (by rw [eq]; decide)
  · exact fun eq => absurd long (by rw [eq]; decide)
  · simp [h.no_slash, no_slash]

end IsName

namespace FilePath

variable {p q cwd : FilePath} {name : String}

theorem located_join_name (h : IsName name) :
    (p.join name).located =
      p.located ++ [⟨.normal name, (p.join name).text.toList.length⟩] := by
  rw [located_join h.relative, h.splitChars_eq, toList_join h.relative, List.length_append]
  simp [locate, h.componentOf_eq]

theorem components_join_name (h : IsName name) :
    (p.join name).components = p.components ++ [.normal name] := by
  simp [components, located_join_name h]

theorem components_join_empty : (p.join "").components = p.components := by
  have relative : (FilePath.mk "").isAbsolute = false := rfl
  rw [components, located_join relative]
  simp [components, Text.splitChars, locate, componentOf]

theorem components_foldl_join {names : List String} (h : ∀ n ∈ names, IsName n) :
    (names.foldl join p).components = p.components ++ names.map .normal := by
  induction names generalizing p with
  | nil => simp
  | cons n names ih =>
    rw [List.foldl_cons, ih (fun m hm => h m (List.mem_cons_of_mem _ hm)),
      components_join_name (h n List.mem_cons_self)]
    simp

theorem relative_append {start : String} (some_start : start ≠ "") (no_slash : '/' ∉ start.toList)
    (tail : String) : (FilePath.mk (start ++ tail)).isAbsolute = false := by
  cases chars : start.toList with
  | nil => exact absurd (String.toList_inj.1 chars) some_start
  | cons c cs =>
    have slash : c ≠ '/' := by
      rintro rfl
      exact no_slash (by simp [chars])
    simp [isAbsolute, chars, slash]

theorem join_eq (relative : (FilePath.mk name).isAbsolute = false) :
    p.join name = ⟨String.ofList (p.opened ++ name.toList)⟩ := by
  rw [← toList_join relative, String.ofList_toList]

/-- The text of a joined name does not end with a slash. -/
theorem getLast?_join (some_name : name ≠ "") (no_slash : '/' ∉ name.toList) :
    ∃ c, (p.join name).text.toList.getLast? = some c ∧ c ≠ '/' := by
  have some_chars : name.toList ≠ [] := fun eq => some_name (String.toList_inj.1 eq)
  obtain ⟨c, last⟩ := Option.isSome_iff_exists.1 (List.getLast?_isSome.2 some_chars)
  refine ⟨c, ?_, ?_⟩
  · rw [toList_join (isAbsolute_eq_false no_slash), List.getLast?_append, last, Option.some_or]
  · rintro rfl
    exact no_slash (List.mem_of_getLast? last)

theorem opened_join (some_name : name ≠ "") (no_slash : '/' ∉ name.toList) :
    (p.join name).opened = p.opened ++ name.toList ++ ['/'] := by
  obtain ⟨c, last, slash⟩ := getLast?_join (p := p) some_name no_slash
  simp only [opened, last, slash, ↓reduceIte]
  rw [toList_join (isAbsolute_eq_false no_slash)]
  rfl

theorem stretches_join (some_name : name ≠ "") (no_slash : '/' ∉ name.toList) :
    (p.join name).stretches = p.stretches ++ [name.toList] := by
  rw [stretches, opened_join some_name no_slash, List.append_assoc, splitChars_opened_append,
    Text.splitChars_append_sep, Text.splitChars_of_not_mem no_slash]
  simp [Text.splitChars]

/-- Joining names between slashes is joining one after the other. -/
theorem join_intercalate {names : List String} (h : ∀ n ∈ names, IsName n)
    (some_names : names ≠ []) : p.join ("/".intercalate names) = names.foldl join p := by
  induction names generalizing p with
  | nil => exact absurd rfl some_names
  | cons n names ih =>
    have name := h n List.mem_cons_self
    have others : ∀ m ∈ names, IsName m := fun m hm => h m (List.mem_cons_of_mem _ hm)
    cases names with
    | nil => rw [String.intercalate_singleton]; rfl
    | cons m names =>
      have second := others m List.mem_cons_self
      have relative : (FilePath.mk ("/".intercalate (m :: names))).isAbsolute = false := by
        cases names with
        | nil =>
          rw [String.intercalate_singleton]
          exact second.relative
        | cons k names =>
          rw [String.intercalate_cons_cons, String.append_assoc]
          exact relative_append second.ne_empty second.no_slash _
      have whole :=
        relative_append name.ne_empty name.no_slash ("/" ++ "/".intercalate (m :: names))
      rw [List.foldl_cons, ← ih others (by simp), String.intercalate_cons_cons,
        String.append_assoc, join_eq whole, join_eq relative,
        opened_join name.ne_empty name.no_slash]
      simp

theorem fileNameAt?_join (h : IsName name) :
    (p.join name).fileNameAt? = some (name, (p.join name).text.toList.length) := by
  simp [fileNameAt?, located_join_name h]

/-! ## File names and extensions -/

theorem splitName_append {stem extension : String} (some_stem : stem ≠ "")
    (no_point : '.' ∉ extension.toList) :
    splitName (stem ++ "." ++ extension) = (stem, some extension) := by
  have pieces : Text.splitChars '.' (stem ++ "." ++ extension).toList =
      Text.splitChars '.' stem.toList ++ [extension.toList] := by
    simp only [String.toList_append, List.append_assoc]
    exact (Text.splitChars_append_sep _ _).trans
      (congrArg _ (Text.splitChars_of_not_mem no_point))
  have joined := Text.joinChars_splitChars '.' stem.toList
  rw [splitName, pieces, List.reverse_append]
  cases h : (Text.splitChars '.' stem.toList).reverse with
  | nil => exact absurd (List.reverse_eq_nil_iff.1 h) (Text.splitChars_ne_nil _ _)
  | cons last before =>
    rw [← List.reverse_reverse (Text.splitChars '.' stem.toList), h] at joined
    have joined := congrArg String.ofList joined
    cases before with
    | nil =>
      cases last with
      | nil => exact absurd (joined.trans String.ofList_toList).symm some_stem
      | cons c cs => simpa using joined
    | cons second before => simpa using joined

theorem splitName_eq_some {stem extension : String}
    (h : splitName name = (stem, some extension)) :
    name = stem ++ "." ++ extension ∧ stem ≠ "" ∧ '.' ∉ extension.toList := by
  have joined := Text.joinChars_splitChars '.' name.toList
  have plain {piece : List Char} (hp : piece ∈ Text.splitChars '.' name.toList) : '.' ∉ piece :=
    Text.not_mem_of_mem_splitChars hp
  rw [splitName] at h
  split at h
  · cases h
  · cases h
  · cases h
  · next parts last before only leading eq =>
    cases h
    have before_ne : before.reverse ≠ [] := fun eq => only (List.reverse_eq_nil_iff.1 eq)
    rw [← List.reverse_reverse (Text.splitChars '.' name.toList), eq, List.reverse_cons,
      Text.joinChars_append_singleton before_ne] at joined
    refine ⟨?_, ?_, ?_⟩
    · rw [← String.toList_inj, ← joined]
      simp
    · intro empty
      obtain nil | nil := Text.joinChars_eq_nil (String.ofList_eq_empty_iff.1 empty)
      · exact before_ne nil
      · exact leading (List.reverse_eq_iff.1 nil)
    · rw [String.toList_ofList]
      exact plain (List.mem_reverse.1 (eq ▸ List.mem_cons_self))

theorem fst_splitName_of_none (h : (splitName name).2 = none) : (splitName name).1 = name := by
  rw [splitName] at h ⊢
  split at h
  · rfl
  · rfl
  · rfl
  · cases h

/-- A name starts with its stem, which is not empty. -/
theorem fst_splitName (some_name : name ≠ "") :
    (splitName name).1 ≠ "" ∧ (splitName name).1.toList <+: name.toList := by
  cases h : (splitName name).2 with
  | none =>
    rw [fst_splitName_of_none h]
    exact ⟨some_name, List.prefix_rfl⟩
  | some extension =>
    have split : splitName name = ((splitName name).1, some extension) := by rw [← h]
    obtain ⟨eq, some_stem, -⟩ := splitName_eq_some split
    refine ⟨some_stem, ?_⟩
    have chars := congrArg String.toList eq
    rw [String.append_assoc, String.toList_append] at chars
    exact ⟨_, chars.symm⟩

/-- Extending the stem of a joined name is joining the extended stem. -/
theorem extendStem_join (h : IsName name) (extension : String) :
    (p.join name).extendStem extension =
      p.join (if extension.isEmpty then (splitName name).1
        else (splitName name).1 ++ "." ++ extension) := by
  obtain ⟨some_stem, rest, eq⟩ := fst_splitName h.ne_empty
  generalize stem_eq : (splitName name).1 = stem at some_stem eq
  have base : (p.join name).take ((p.join name).text.toList.length - name.length + stem.length) =
      ⟨String.ofList (p.opened ++ stem.toList)⟩ := by
    have size : (p.join name).text.toList.length - name.length + stem.length =
        (p.opened ++ stem.toList).length := by
      simp only [toList_join h.relative, List.length_append, ← String.length_toList]
      omega
    rw [size, take, toList_join h.relative, ← eq, ← List.append_assoc, List.take_left]
  have relative (tail : String) : (FilePath.mk (stem ++ tail)).isAbsolute = false :=
    relative_append some_stem (fun slash => h.no_slash (by simp [← eq, slash])) tail
  simp only [extendStem, fileNameAt?_join h, stem_eq, base]
  split
  · rw [join_eq (by simpa using relative "")]
  · rw [String.append_assoc, String.append_assoc, join_eq (relative _)]
    simp [String.append_assoc]

theorem extension?_join (h : IsName name) : (p.join name).extension? = (splitName name).2 := by
  simp [extension?, fileName?, fileNameAt?_join h]

theorem fileStem?_join (h : IsName name) : (p.join name).fileStem? = some (splitName name).1 := by
  simp [fileStem?, fileName?, fileNameAt?_join h]

/-- A name without extension gets one. -/
theorem withExtension_join_of_none {extension : String} (h : IsName name)
    (plain : (splitName name).2 = none) (some_extension : extension ≠ "") :
    (p.join name).withExtension extension = p.join (name ++ "." ++ extension) := by
  simp [withExtension, extension?_join h, plain, extendStem_join h, fst_splitName_of_none plain,
    some_extension]

/-- Taking the extension off leaves the stem, unless that is a point: the stem and its point would
then be `..`. -/
theorem withExtension_join_empty {stem old : String} (h : IsName name)
    (split : splitName name = (stem, some old)) (not_point : stem ≠ ".") :
    (p.join name).withExtension "" = p.join stem := by
  obtain ⟨eq, some_stem, -⟩ := splitName_eq_some split
  have chars : name.toList = stem.toList ++ '.' :: old.toList := by
    rw [eq]
    simp
  have pointed : IsName (stem ++ ".") := by
    have cancel {before : String} (eq : stem ++ "." = before ++ ".") : stem = before := by
      have := congrArg String.toList eq
      rw [String.toList_append, String.toList_append] at this
      exact String.toList_inj.1 (List.append_cancel_right this)
    refine ⟨?_, fun eq => some_stem (cancel eq), fun eq => not_point (cancel eq), ?_⟩
    · simp
    · have := h.no_slash
      simp only [chars, List.mem_append, not_or] at this
      simp [this.1]
  have taken : (p.join name).take ((p.join name).text.length - old.length) =
      p.join (stem ++ ".") := by
    have before : p.opened ++ name.toList = (p.opened ++ (stem ++ ".").toList) ++ old.toList := by
      simp [chars]
    rw [take, ← String.length_toList, ← String.length_toList, toList_join h.relative, before,
      List.length_append, Nat.add_sub_cancel, List.take_left, join_eq pointed.relative]
  have split' : splitName (stem ++ ".") = (stem, some "") := by
    simpa using splitName_append some_stem (show '.' ∉ "".toList by simp)
  rw [withExtension, extension?_join h, split]
  simp only [taken, extendStem_join pointed, split']
  rfl

/-! ## Absolute paths -/

theorem isName_of_mem_locate {pieces : List (List Char)} {n : Nat}
    (no_slash : ∀ piece ∈ pieces, '/' ∉ piece)
    (h : .normal name ∈ (locate n pieces).map (·.component)) : IsName name := by
  induction pieces generalizing n with
  | nil => simp [locate] at h
  | cons piece pieces ih =>
    have rest := fun s => ih (n := s) fun q hq => no_slash q (List.mem_cons_of_mem _ hq)
    rw [locate] at h
    split at h
    · exact rest _ h
    · next c eq =>
      obtain rfl | h := List.mem_cons.1 h
      · exact .of_componentOf (no_slash _ List.mem_cons_self) eq
      · exact rest _ h

theorem isName_of_mem_components (h : .normal name ∈ p.components) : IsName name := by
  have steps : .normal name ∈ (locate 0 (Text.splitChars '/' p.text.toList)).map (·.component) := by
    rw [components, located] at h
    split at h
    · simpa using h
    · exact h
  exact isName_of_mem_locate (fun _ => Text.not_mem_of_mem_splitChars) steps

theorem components_join_step {c : Component} (step : isStep c = true) (h : c ∈ q.components) :
    (p.join c.text).components = p.components ++ [c] := by
  cases c with
  | root => cases step
  | current => cases step
  | parent =>
    have relative : (FilePath.mk "..").isAbsolute = false := rfl
    rw [components, Component.text, located_join relative]
    simp [components, Text.splitChars, locate, componentOf]
  | normal name => exact components_join_name (isName_of_mem_components h)

theorem components_foldl_join_steps {cs : List Component}
    (h : ∀ c ∈ cs, isStep c = true ∧ c ∈ q.components) :
    (cs.foldl (fun p c => p.join c.text) p).components = p.components ++ cs := by
  induction cs generalizing p with
  | nil => simp
  | cons c cs ih =>
    obtain ⟨step, mem⟩ := h c List.mem_cons_self
    rw [List.foldl_cons, ih fun d hd => h d (List.mem_cons_of_mem _ hd),
      components_join_step step mem]
    simp

theorem components_leadingRoot (cs : List Char) : (leadingRoot cs).components = [.root] := by
  unfold leadingRoot
  split <;> decide

/-- The components of an absolute form: those of the place where it starts, and the steps. -/
def absoluteComponents (p cwd : FilePath) : List Component :=
  (if p.isAbsolute then [.root] else cwd.components) ++ p.components.filter isStep

theorem components_absoluteSteps (p cwd : FilePath) (cs : List Char) :
    ((p.components.filter isStep).foldl (fun q c => q.join c.text)
      (if p.isAbsolute then leadingRoot cs else cwd)).components = p.absoluteComponents cwd := by
  rw [components_foldl_join_steps fun c hc => (List.mem_filter.1 hc).symm, absoluteComponents]
  split
  · rw [components_leadingRoot]
  · rfl

theorem components_of_absolute? (h : p.absolute? cwd = some q) :
    q.components = p.absoluteComponents cwd := by
  rw [absolute?] at h
  split at h
  · cases h
  · cases h
    rw [← components_absoluteSteps p cwd p.text.toList]
    split
    · rw [components_join_empty]
    · rfl

theorem filter_isStep_foldl_join {names : List String} (h : ∀ n ∈ names, IsName n) :
    (names.foldl join p).components.filter isStep =
      p.components.filter isStep ++ names.map .normal := by
  have steps : (names.map Component.normal).filter isStep = names.map .normal := by
    refine List.filter_eq_self.2 fun c hc => ?_
    obtain ⟨name, -, rfl⟩ := List.mem_map.1 hc
    rfl
  rw [components_foldl_join h, List.filter_append, steps]

theorem absoluteComponents_foldl_join {names : List String} (h : ∀ n ∈ names, IsName n) :
    (names.foldl join p).absoluteComponents cwd =
      p.absoluteComponents cwd ++ names.map .normal := by
  have absolute : (names.foldl join p).isAbsolute = p.isAbsolute :=
    isAbsolute_foldl_join fun n hn => (h n hn).no_slash
  rw [absoluteComponents, absolute, filter_isStep_foldl_join h, ← List.append_assoc,
    absoluteComponents]

theorem exists_absolute? (some_text : p.text ≠ "") : ∃ q, p.absolute? cwd = some q := by
  rw [absolute?]
  simp [some_text]

/-- The absolute form of joined names ends with those names. -/
theorem absolute?_foldl_join {names : List String} (h : ∀ n ∈ names, IsName n)
    (some_names : names ≠ []) (p cwd : FilePath) :
    ∃ q : FilePath, (names.foldl join p).absolute? cwd = some (names.foldl join q) ∧
      q.components = p.absoluteComponents cwd := by
  obtain ⟨c, ends, slash⟩ :
      ∃ c, (names.foldl join p).text.toList.getLast? = some c ∧ c ≠ '/' := by
    obtain ⟨before, last, rfl⟩ : ∃ before last, names = before ++ [last] :=
      ⟨_, _, (List.dropLast_concat_getLast some_names).symm⟩
    have name := h last (by simp)
    rw [List.foldl_append]
    exact getLast?_join name.ne_empty name.no_slash
  have not_empty : (names.foldl join p).text.isEmpty = false := by
    rw [Bool.eq_false_iff, ne_eq, String.isEmpty_iff]
    intro empty
    simp [empty] at ends
  have not_slash : (names.foldl join p).text.toList.getLast? ≠ some '/' := by simp [ends, slash]
  refine ⟨_, ?_, components_absoluteSteps p cwd (names.foldl join p).text.toList⟩
  rw [absolute?, not_empty, isAbsolute_foldl_join fun n hn => (h n hn).no_slash,
    filter_isStep_foldl_join h]
  simp only [Bool.false_eq_true, ↓reduceIte, not_slash, List.foldl_append, List.foldl_map]
  rfl

end FilePath

end Loom
