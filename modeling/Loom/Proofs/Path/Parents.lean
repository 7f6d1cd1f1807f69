import Mathlib.Data.List.Induction
import Loom.Proofs.Path

/-!
# Parents

A path cut off where one of its components ends has the components up to that one
(`located_take`), so a parent has all but the last (`components_of_parent?`). Names joined to a path
are taken off again by as many parents, which leave the path up to the end of its last component
(`ancestor?_foldl_join`).
-/

namespace Loom

namespace Text

variable {sep : Char}

theorem splitChars_flatMap_append {before : List (List Char)} {last : List Char}
    (plain : ∀ s ∈ before, sep ∉ s) (plain_last : sep ∉ last) :
    splitChars sep (before.flatMap (· ++ [sep]) ++ last) = before ++ [last] := by
  induction before with
  | nil => exact splitChars_of_not_mem plain_last
  | cons s before ih =>
    rw [List.flatMap_cons, List.append_assoc, List.append_assoc, List.singleton_append,
      splitChars_append_sep, splitChars_of_not_mem (plain s List.mem_cons_self),
      ih fun t ht => plain t (List.mem_cons_of_mem _ ht)]
    rfl

end Text

namespace FilePath

variable {p q : FilePath} {name : String} {names : List String}

/-! ## Texts of joined names -/

theorem prefix_opened (p : FilePath) : p.text.toList <+: p.opened := by
  rw [opened]
  split
  · next none => simp [List.getLast?_eq_none_iff.1 none]
  · split
    · exact List.prefix_rfl
    · exact List.prefix_append _ _

theorem toList_foldl_join (h : ∀ n ∈ names, IsName n) (some_names : names ≠ []) :
    (names.foldl join p).text.toList =
      p.opened ++ Text.joinChars '/' (names.map String.toList) := by
  induction names generalizing p with
  | nil => exact absurd rfl some_names
  | cons n names ih =>
    have name := h n List.mem_cons_self
    cases names with
    | nil => exact toList_join name.relative
    | cons m names =>
      rw [List.foldl_cons, ih (fun k hk => h k (List.mem_cons_of_mem _ hk)) (by simp),
        opened_join name.ne_empty name.no_slash]
      simp [Text.joinChars]

theorem opened_sublist_of_prefix (h : q.text.toList <+: p.text.toList) :
    q.opened.Sublist p.opened := by
  have before := h.trans p.prefix_opened
  rw [opened]
  cases last : q.text.toList.getLast? with
  | none => exact List.nil_sublist _
  | some c =>
    simp only
    split
    · exact before.sublist
    · next no_slash =>
      obtain none | ⟨cs, eq⟩ := p.opened_eq_nil_or
      · rw [none, List.prefix_nil] at before
        simp [before] at last
      · rw [eq] at before ⊢
        obtain whole | within := List.prefix_concat_iff.1 before
        · -- What ends with a slash is no such beginning.
          rw [whole, List.getLast?_concat] at last
          exact absurd (Option.some.inj last).symm no_slash
        · exact within.sublist.append_right ['/']

/-! ## Cutting paths off -/

/-- A component stands at the end of some stretch. -/
theorem locate_eq_append {start : Nat} {pieces : List (List Char)} {ls ls' : List Located}
    {l : Located} (h : locate start pieces = ls ++ l :: ls') :
    ∃ before piece after, pieces = before ++ piece :: after ∧ piece ≠ [] ∧
      locate start (before ++ [piece]) = ls ++ [l] ∧
      l.stop = start + (before.flatMap (· ++ ['/']) ++ piece).length := by
  induction pieces generalizing start ls with
  | nil => simp [locate] at h
  | cons first pieces ih =>
    rw [locate] at h
    cases component : componentOf start first with
    | none =>
      simp only [component] at h
      obtain ⟨before, piece, after, rfl, some_piece, located, stop⟩ := ih h
      refine ⟨first :: before, piece, after, rfl, some_piece, ?_, ?_⟩
      · simp only [List.cons_append, locate, component, located]
      · simp only [stop, List.flatMap_cons, List.length_append, List.length_singleton]
        omega
    | some c =>
      simp only [component] at h
      cases ls with
      | nil =>
        obtain ⟨rfl, rfl⟩ := List.cons.inj h
        refine ⟨[], first, pieces, rfl, ?_, by simp [locate, component], by simp⟩
        rintro rfl
        simp [componentOf] at component
      | cons l₀ ls =>
        obtain ⟨rfl, others⟩ := List.cons.inj h
        obtain ⟨before, piece, after, rfl, some_piece, located, stop⟩ := ih others
        refine ⟨first :: before, piece, after, rfl, some_piece, ?_, ?_⟩
        · simp only [List.cons_append, locate, component, located]
        · simp only [stop, List.flatMap_cons, List.length_append, List.length_singleton]
          omega

/-- A stretch with a component, and what stands before it, is the beginning of a path with the same
components. -/
theorem located_take_of_locate {ls ls' : List Located} {l : Located}
    (h : locate 0 (Text.splitChars '/' p.text.toList) = ls ++ l :: ls') :
    (p.take l.stop).located = (if p.isAbsolute then [⟨.root, 1⟩] else []) ++ (ls ++ [l]) ∧
      l.stop ≤ p.text.toList.length := by
  obtain ⟨before, piece, after, split, some_piece, located, stop⟩ := locate_eq_append h
  rw [Nat.zero_add] at stop
  have plain {s : List Char} (hs : s ∈ before ++ piece :: after) : '/' ∉ s :=
    Text.not_mem_of_mem_splitChars (split ▸ hs)
  have whole : before.flatMap (· ++ ['/']) ++ piece ++ '/' :: after.flatMap (· ++ ['/']) =
      p.text.toList ++ ['/'] := by
    rw [← flatMap_splitChars, split]
    simp
  have short : l.stop ≤ p.text.toList.length := by
    have sizes := congrArg List.length whole
    simp only [List.length_append, List.length_cons, List.length_nil] at sizes stop
    omega
  have taken : (p.take l.stop).text.toList = before.flatMap (· ++ ['/']) ++ piece := by
    rw [take, String.toList_ofList, ← List.take_append_of_le_length short, ← whole, stop,
      List.take_left]
  have absolute : (p.take l.stop).isAbsolute = p.isAbsolute := by
    have some_stop : l.stop ≠ 0 := by simp [stop, some_piece]
    rw [isAbsolute, isAbsolute, take, String.toList_ofList, List.head?_take, if_neg some_stop]
  refine ⟨?_, short⟩
  rw [FilePath.located, absolute, taken,
    Text.splitChars_flatMap_append (fun s hs => plain (List.mem_append_left _ hs))
      (plain (List.mem_append_right _ List.mem_cons_self)), located]
  split <;> rfl

/-- A path cut off where a component ends has the components up to that one. -/
theorem located_take {ls ls' : List Located} {l : Located} (h : p.located = ls ++ l :: ls') :
    (p.take l.stop).located = ls ++ [l] ∧ l.stop ≤ p.text.toList.length := by
  cases absolute : p.isAbsolute with
  | false =>
    have steps := h
    rw [located, absolute, if_neg Bool.false_ne_true] at steps
    have cut := located_take_of_locate steps
    rwa [absolute, if_neg Bool.false_ne_true, List.nil_append] at cut
  | true =>
    have steps := h
    rw [located, absolute, if_pos rfl] at steps
    cases ls with
    | nil =>
      -- The root is the first character.
      obtain ⟨rfl, -⟩ := List.cons.inj steps
      obtain ⟨cs, eq⟩ := List.head?_eq_some_iff.1 (beq_iff_eq.1 absolute)
      have root : p.take 1 = ⟨"/"⟩ := by
        rw [take, eq]
        rfl
      exact ⟨by rw [root]; rfl, by simp [eq]⟩
    | cons l₀ ls =>
      obtain ⟨rfl, others⟩ := List.cons.inj steps
      have cut := located_take_of_locate others
      rwa [absolute, if_pos rfl] at cut

/-! ## Parents -/

theorem located_of_parent? (h : p.parent? = some q) : q.located = p.located.dropLast := by
  rw [parent?] at h
  split at h
  · cases h
  · cases h
  · next l _ only =>
    obtain rfl := Option.some.inj h
    rw [← List.reverse_reverse p.located, only]
    rfl
  · next l previous before _ eq =>
    obtain rfl := Option.some.inj h
    have located : p.located = before.reverse ++ previous :: [l] := by
      rw [← List.reverse_reverse p.located, eq]
      simp
    rw [(located_take located).1, located]
    simp

/-- A parent has the components but the last. -/
theorem components_of_parent? (h : p.parent? = some q) :
    q.components = p.components.dropLast := by
  rw [components, located_of_parent? h, components, List.map_dropLast]

/-- A path whose last component is no root has a parent. -/
theorem exists_parent? {cs : List Component} {c : Component} (h : p.components = cs ++ [c])
    (no_root : c ≠ .root) : ∃ q, p.parent? = some q ∧ q.components = cs := by
  have found : ∃ q, p.parent? = some q := by
    have last : p.located.reverse.head?.map (·.component) = some c := by
      rw [List.head?_reverse, ← List.getLast?_map]
      exact (congrArg List.getLast? h).trans List.getLast?_concat
    rw [parent?]
    split
    · next none => simp [none] at last
    · next eq => simp [eq, Ne.symm no_root] at last
    · exact ⟨_, rfl⟩
    · exact ⟨_, rfl⟩
  obtain ⟨q, parent⟩ := found
  exact ⟨q, parent, by rw [components_of_parent? parent, h, List.dropLast_concat]⟩

theorem ancestor?_succ (n : Nat) (p : FilePath) :
    ancestor? (n + 1) p = (ancestor? n p).bind parent? := by
  induction n generalizing p with
  | zero => cases h : p.parent? <;> simp [ancestor?, h]
  | succ n ih =>
    rw [ancestor?, ancestor?]
    cases p.parent? with
    | none => rfl
    | some q => exact ih q

/-! ## Joined names -/

/-- The path up to the end of its last component. -/
def trim (p : FilePath) : FilePath :=
  match p.located.getLast? with
  | none => ⟨""⟩
  | some last => p.take last.stop

theorem located_trim (p : FilePath) : p.trim.located = p.located := by
  rw [trim]
  cases last : p.located.getLast? with
  | none =>
    rw [List.getLast?_eq_none_iff.1 last]
    rfl
  | some l =>
    obtain ⟨ls, eq⟩ := List.getLast?_eq_some_iff.1 last
    exact (located_take eq).1.trans eq.symm

theorem components_trim (p : FilePath) : p.trim.components = p.components := by
  rw [components, located_trim, components]

theorem prefix_trim (p : FilePath) : p.trim.text.toList <+: p.text.toList := by
  rw [trim]
  split
  · exact List.nil_prefix
  · rw [take, String.toList_ofList]
    exact List.take_prefix _ _

/-- A path that ends with a name is not cut off. -/
theorem trim_join_name (h : IsName name) : (p.join name).trim = p.join name := by
  have last : (p.join name).located.getLast? =
      some ⟨.normal name, (p.join name).text.toList.length⟩ := by
    rw [located_join_name h, List.getLast?_concat]
  simp only [trim, last]
  rw [take, List.take_length, String.ofList_toList]

/-- What follows the text of a path does not matter for what is cut off in it. -/
theorem take_join_name (h : IsName name) {n : Nat} (short : n ≤ p.text.toList.length) :
    (p.join name).take n = p.take n := by
  obtain ⟨rest, eq⟩ := p.prefix_opened
  rw [take, take, toList_join h.relative, ← eq, List.append_assoc,
    List.take_append_of_le_length short]

theorem parent?_join_name (h : IsName name) : (p.join name).parent? = some p.trim := by
  have whole : (p.join name).located.reverse =
      ⟨.normal name, (p.join name).text.toList.length⟩ :: p.located.reverse := by
    rw [located_join_name h, List.reverse_append]
    rfl
  rw [parent?, whole, trim, ← List.head?_reverse]
  cases before : p.located.reverse with
  | nil => rfl
  | cons l ls =>
    have located : p.located = ls.reverse ++ l :: [] := by
      rw [← List.reverse_reverse p.located, before, List.reverse_cons]
    exact congrArg some (take_join_name h (located_take located).2)

/-- As many parents as names were joined lead back. -/
theorem ancestor?_foldl_join (h : ∀ n ∈ names, IsName n) (some_names : names ≠ []) :
    ancestor? names.length (names.foldl join p) = some p.trim := by
  induction names using List.reverseRecOn with
  | nil => exact absurd rfl some_names
  | append_singleton names name ih =>
    have before : ∀ n ∈ names, IsName n := fun n hn => h n (List.mem_append_left _ hn)
    rw [List.foldl_append, List.foldl_cons, List.foldl_nil, List.length_append,
      List.length_singleton, ancestor?, parent?_join_name (h name (by simp)), Option.bind_some]
    by_cases none : names = []
    · subst none
      rfl
    · have trimmed : (names.foldl join p).trim = names.foldl join p := by
        rw [← List.dropLast_concat_getLast none, List.foldl_append, List.foldl_cons, List.foldl_nil,
          trim_join_name (before _ (List.getLast_mem none))]
      rw [trimmed, ih before none]

end FilePath

end Loom
