import Loom.Aspect.Basic
import Loom.Proofs.Aspect.Alias
import Loom.Proofs.Path
import Loom.Proofs.Tree.Occurrence
import Loom.Proofs.Weave.Rebind

/-!
# Handles of declarations

A handle is two segments or more with points between them, none of them empty (`HandleParts`).
Exactly these texts are read, as the module that all segments but the last spell and the last one as
a name, and a handle that is read is printed as it was. A declaration is read back from its text
exactly if its name and its module have such segments. The alias of what a handle names is one
segment, so the import that goes with it binds it.
-/

namespace Loom

namespace Text

variable {sep : Char}

/-! ## Joined segments -/

/-- Segments without the separator are cut where they were joined. -/
theorem splitChars_joinChars {parts : List (List Char)} (nonempty : parts ≠ [])
    (plain : ∀ p ∈ parts, sep ∉ p) : splitChars sep (joinChars sep parts) = parts := by
  induction parts with
  | nil => exact absurd rfl nonempty
  | cons p parts ih =>
    obtain ⟨first, others⟩ := List.forall_mem_cons.1 plain
    cases parts with
    | nil => exact splitChars_of_not_mem first
    | cons q parts =>
      rw [joinChars, splitChars_append_sep, splitChars_of_not_mem first, ih (by simp) others,
        List.singleton_append]
      simp

theorem joinChars_eq_intercalate (parts : List (List Char)) :
    joinChars sep parts = [sep].intercalate parts := by
  induction parts with
  | nil => rfl
  | cons p parts ih =>
    cases parts with
    | nil => rw [List.intercalate_singleton, joinChars]
    | cons q parts =>
      rw [joinChars, ih, List.intercalate_cons_cons, List.append_assoc, List.singleton_append]
      simp

theorem toList_intercalate_point (parts : List String) :
    (".".intercalate parts).toList = joinChars '.' (parts.map String.toList) := by
  rw [String.toList_intercalate, joinChars_eq_intercalate]
  rfl

theorem segments_intercalate {parts : List String} (nonempty : parts ≠ [])
    (plain : ∀ p ∈ parts, '.' ∉ p.toList) : segments '.' (".".intercalate parts) = parts := by
  have cut : splitChars '.' (joinChars '.' (parts.map String.toList)) = parts.map String.toList :=
    splitChars_joinChars (by simpa using nonempty) (List.forall_mem_map.2 plain)
  rw [segments, toList_intercalate_point, cut]
  simp [Function.comp_def]

theorem intercalate_segments (s : String) : ".".intercalate (segments '.' s) = s := by
  have joined := joinChars_splitChars '.' s.toList
  rw [← String.toList_inj, toList_intercalate_point, segments, List.map_map]
  simpa [Function.comp_def] using joined

theorem not_mem_of_mem_segments {s p : String} (h : p ∈ segments '.' s) : '.' ∉ p.toList := by
  obtain ⟨cs, mem, rfl⟩ := List.mem_map.1 h
  simpa using not_mem_of_mem_splitChars mem

end Text

open Text (segments)

/-- The segments of a handle: two or more, each with a character and none with a point. -/
structure HandleParts (parts : List String) : Prop where
  two : 2 ≤ parts.length
  plain : ∀ p ∈ parts, p ≠ "" ∧ '.' ∉ p.toList

namespace HandleParts

variable {parts : List String}

theorem segments_intercalate (h : HandleParts parts) :
    segments '.' (".".intercalate parts) = parts :=
  Text.segments_intercalate (List.ne_nil_of_length_pos (by have := h.two; omega))
    fun p hp => (h.plain p hp).2

theorem of_segments {s : String} (two : 2 ≤ (segments '.' s).length)
    (some_text : ∀ p ∈ segments '.' s, p ≠ "") : HandleParts (segments '.' s) :=
  ⟨two, fun p hp => ⟨some_text p hp, Text.not_mem_of_mem_segments hp⟩⟩

end HandleParts

namespace Declaration

variable {s : String} {d : Declaration} {before : List String}

/-! ## Reading -/

/-- A text is read as a handle if its segments are those of one, and else refused. -/
theorem parse_cases (s : String) :
    (∃ before name, before ≠ [] ∧ segments '.' s = before ++ [name] ∧
      HandleParts (segments '.' s) ∧ parse s = .ok ⟨".".intercalate before, name⟩) ∨
    ¬ HandleParts (segments '.' s) ∧ parse s = .error (.badDeclaration s) := by
  have text (parts : List (List Char)) :
      String.ofList (Text.joinChars '.' parts) = ".".intercalate (parts.map String.ofList) := by
    rw [← String.toList_inj, Text.toList_intercalate_point]
    simp [Function.comp_def]
  have cut : (segments '.' s).reverse =
      (Text.splitChars '.' s.toList).reverse.map String.ofList := by
    rw [segments, List.map_reverse]
  unfold parse
  split
  · next name first rest eq =>
    have parts : segments '.' s =
        (first :: rest).reverse.map String.ofList ++ [String.ofList name] := by
      rw [eq] at cut
      simpa using congrArg List.reverse cut
    split
    · next empty =>
      refine .inr ⟨fun handle => ?_, rfl⟩
      obtain ⟨p, mem, nil⟩ := List.any_eq_true.1 empty
      have mem : String.ofList p ∈ segments '.' s := by
        rw [← List.mem_reverse, cut, eq]
        exact List.mem_map_of_mem mem
      obtain rfl : p = [] := List.isEmpty_iff.1 nil
      exact (handle.plain _ mem).1 rfl
    · next full =>
      refine .inl ⟨_, _, by simp, parts, .of_segments (by simp [parts]) fun p hp => ?_, ?_⟩
      · rw [← List.mem_reverse, cut, eq] at hp
        obtain ⟨cs, mem, rfl⟩ := List.mem_map.1 hp
        intro nil
        obtain rfl : cs = [] := String.ofList_injective nil
        exact full (List.any_eq_true.2 ⟨[], mem, rfl⟩)
      · rw [text]
  · next few =>
    refine .inr ⟨fun handle => ?_, rfl⟩
    have two := handle.two
    rw [← List.length_reverse, cut, List.length_map] at two
    rcases parts : (Text.splitChars '.' s.toList).reverse with _ | ⟨name, _ | ⟨first, rest⟩⟩
    · simp [parts] at two
    · simp [parts] at two
    · exact few name first rest parts

theorem parse_eq_ok_iff : parse s = .ok d ↔ HandleParts (segments '.' s) ∧
    ∃ before, before ≠ [] ∧ segments '.' s = before ++ [d.name] ∧
      d.module = ".".intercalate before := by
  obtain ⟨before, name, nonempty, parts, handle, read⟩ | ⟨no_handle, refused⟩ := parse_cases s
  · rw [read]
    constructor
    · rintro ⟨⟩
      exact ⟨handle, before, nonempty, parts, rfl⟩
    · rintro ⟨-, others, -, eq, module⟩
      obtain ⟨rfl, last⟩ := List.append_inj' (parts.symm.trans eq) rfl
      obtain ⟨m, n⟩ := d
      obtain rfl : name = n := by simpa using last
      rw [show m = _ from module]
  · rw [refused]
    exact ⟨nofun, fun ⟨handle, _⟩ => absurd handle no_handle⟩

/-- A handle is read as the module that its segments but the last spell, and the last as a name. -/
theorem exists_parse {parts : List String} (handle : HandleParts parts) :
    ∃ d, parse (".".intercalate parts) = .ok d ∧ d.module = ".".intercalate parts.dropLast ∧
      parts.getLast? = some d.name := by
  have cut := handle.segments_intercalate
  obtain ⟨before, name, -, eq, -, read⟩ | ⟨no_handle, -⟩ := parse_cases (".".intercalate parts)
  · rw [cut] at eq
    exact ⟨_, read, by rw [eq, List.dropLast_concat], by rw [eq, List.getLast?_concat]⟩
  · exact absurd (cut.symm ▸ handle) no_handle

/-! ## Printing -/

theorem text_eq (nonempty : before ≠ []) (module : d.module = ".".intercalate before) :
    d.text = ".".intercalate (before ++ [d.name]) := by
  have joined : Text.joinChars '.' (before.map String.toList ++ [d.name.toList]) =
      Text.joinChars '.' (before.map String.toList) ++ '.' :: d.name.toList :=
    Text.joinChars_append_singleton (by simpa using nonempty) d.name.toList
  rw [← String.toList_inj, Text.toList_intercalate_point, List.map_append, List.map_singleton,
    joined, ← Text.toList_intercalate_point, ← module, text]
  simp

/-- What is read is printed as it was. -/
theorem text_of_parse (read : parse s = .ok d) : d.text = s := by
  obtain ⟨-, before, nonempty, parts, module⟩ := parse_eq_ok_iff.1 read
  rw [text_eq nonempty module, ← parts, Text.intercalate_segments]

theorem module_of_parse (read : parse s = .ok d) :
    segments '.' s = segments '.' d.module ++ [d.name] := by
  obtain ⟨handle, before, nonempty, parts, module⟩ := parse_eq_ok_iff.1 read
  have plain : ∀ p ∈ before, '.' ∉ p.toList := fun p hp =>
    (handle.plain p (parts ▸ List.mem_append_left _ hp)).2
  rw [parts, module, Text.segments_intercalate nonempty plain]

theorem segments_text (point : '.' ∉ d.name.toList) :
    segments '.' d.text = segments '.' d.module ++ [d.name] := by
  have chars : d.text.toList = d.module.toList ++ '.' :: d.name.toList := by
    rw [text, String.toList_append, String.toList_append, List.append_assoc]
    rfl
  rw [segments, chars, Text.splitChars_append_sep, Text.splitChars_of_not_mem point,
    List.map_append, List.map_singleton, String.ofList_toList]
  rfl

/-- A declaration is read back from its text exactly if its name is one segment and no segment of
its module is empty. -/
theorem parse_text_iff : parse d.text = .ok d ↔
    (d.name ≠ "" ∧ '.' ∉ d.name.toList) ∧ ∀ p ∈ segments '.' d.module, p ≠ "" := by
  constructor
  · intro read
    have handle := (parse_eq_ok_iff.1 read).1
    have parts := module_of_parse read
    exact ⟨handle.plain _ (by simp [parts]),
      fun p hp => (handle.plain p (by rw [parts]; exact List.mem_append_left _ hp)).1⟩
  · rintro ⟨⟨some_name, point⟩, some_segments⟩
    have parts := segments_text point
    have some_module : segments '.' d.module ≠ [] := by
      simp [segments, Text.splitChars_ne_nil]
    refine parse_eq_ok_iff.2 ⟨.of_segments ?_ fun p hp => ?_, _, some_module, parts,
      (Text.intercalate_segments _).symm⟩
    · have := List.length_pos_iff.2 some_module
      rw [parts, List.length_append, List.length_singleton]
      omega
    · rw [parts] at hp
      obtain hp | hp := List.mem_append.1 hp
      · exact some_segments p hp
      · rwa [List.mem_singleton.1 hp]

/-! ## What a handle names -/

theorem getLast?_segments (module : String) :
    (segments '.' module).getLast? = some (ShortName.ofModule module).text := by
  rw [segments, List.getLast?_map, List.getLast?_eq_some_getLast (Text.splitChars_ne_nil _ _)]
  rfl

/-- The header that goes with a reference imports its module, and binds its alias alone. -/
theorem exists_import_mem_header {w : Worklist} {r : Reference} (h : r ∈ w.references) :
    ∃ s ∈ Stmt.header w.searchPaths w.modules,
      s.imports = [r.originModule] ∧ s.binds = [r.shortName] := by
  have pair : (r.originModule, r.short.text) ∈ w.modules :=
    Worklist.mem_modules.2 ⟨r, h, rfl, rfl⟩
  obtain ⟨a, mem, name, bound⟩ := Stmt.importNames_mem_header w.searchPaths pair
  exact ⟨_, mem, by rw [Stmt.imports, List.map_singleton, name],
    by rw [Stmt.binds, List.map_singleton, bound]; rfl⟩

/-- Reading and printing handles agree, and reading accepts exactly the texts of two segments or
more, none of them empty: all but the last are the module and the last is the name. A declaration is
read back from its text exactly if its name is one segment, not empty, and its module has no empty
one. What a handle names is known by the last segment of its module, and the import that a weaving
puts in for it binds that. -/
theorem parse_accepts_grammar :
    (∀ s, (∃ d, parse s = .ok d) ↔ ∃ parts, HandleParts parts ∧ s = ".".intercalate parts) ∧
    (∀ parts, HandleParts parts → ∃ d, parse (".".intercalate parts) = .ok d ∧
      d.module = ".".intercalate parts.dropLast ∧ parts.getLast? = some d.name ∧
      d.text = ".".intercalate parts) ∧
    (∀ d, parse d.text = .ok d ↔ (d.name ≠ "" ∧ '.' ∉ d.name.toList) ∧
      d.module ≠ "" ∧ ∀ p ∈ segments '.' d.module, p ≠ "") ∧
    ∀ s d (locate : Locator) file, parse s = .ok d → locate d.module = .ok file →
      ∃ r, Reference.resolve locate s = .ok r ∧ r.originModule = d.module ∧
        (segments '.' d.module).getLast? = some r.shortName ∧ '.' ∉ r.shortName.toList ∧
        ∀ w : Worklist, r ∈ w.references → ∃ i ∈ Stmt.header w.searchPaths w.modules,
          i.imports = [d.module] ∧ i.binds = [r.shortName] := by
  refine ⟨fun s => ⟨?_, ?_⟩, fun parts handle => ?_, fun d => ?_,
    fun s d locate file read found => ?_⟩
  · rintro ⟨d, read⟩
    exact ⟨_, (parse_eq_ok_iff.1 read).1, (Text.intercalate_segments s).symm⟩
  · rintro ⟨parts, handle, rfl⟩
    obtain ⟨d, read, -⟩ := exists_parse handle
    exact ⟨d, read⟩
  · obtain ⟨d, read, module, name⟩ := exists_parse handle
    exact ⟨d, read, module, name, text_of_parse read⟩
  · have some_module (some_segments : ∀ p ∈ segments '.' d.module, p ≠ "") : d.module ≠ "" := by
      intro empty
      rw [empty] at some_segments
      exact some_segments "" (by decide) rfl
    rw [parse_text_iff]
    exact and_congr_right fun _ => ⟨fun h => ⟨some_module h, h⟩, And.right⟩
  · have resolved : Reference.resolve locate s = .ok (.ofParts d.module d.name file) := by
      rw [Reference.resolve, read]
      simp [bind, Except.bind, found]
    exact ⟨_, resolved, rfl, getLast?_segments d.module, (ShortName.ofModule d.module).oneSegment,
      fun w mem => exists_import_mem_header mem⟩

/-- A handle of a module two packages deep, and a wrapper that uses what it names. -/
theorem parse_accepts_grammar_logger :
    (∃ d, parse "aspects.logger.main.dec" = .ok d ∧ d.text = "aspects.logger.main.dec") ∧
    parse "aspects.logger.main.dec" = .ok ⟨"aspects.logger.main", "dec"⟩ ∧
    ∃ r, Reference.resolve (fun _ => .ok ⟨"/p/aspects/logger/main.py"⟩) "aspects.logger.main.dec" =
        .ok r ∧ r.shortName = "main" ∧
      ∃ w : Worklist, r ∈ w.references ∧ ∃ i ∈ Stmt.header w.searchPaths w.modules,
        i.imports = ["aspects.logger.main"] ∧ i.binds = ["main"] := by
  have handle : HandleParts ["aspects", "logger", "main", "dec"] := ⟨by decide, by decide⟩
  have text : ".".intercalate ["aspects", "logger", "main", "dec"] = "aspects.logger.main.dec" := by
    decide
  obtain ⟨d, read, -, -, again⟩ := parse_accepts_grammar.2.1 _ handle
  rw [text] at read again
  have read_back : parse "aspects.logger.main.dec" = .ok ⟨"aspects.logger.main", "dec"⟩ :=
    (parse_accepts_grammar.2.2.1 ⟨"aspects.logger.main", "dec"⟩).2
      ⟨by decide, by decide, by decide⟩
  obtain ⟨r, resolved, -, last, -, header⟩ := parse_accepts_grammar.2.2.2 _ _
    (fun _ => .ok ⟨"/p/aspects/logger/main.py"⟩) _ read_back rfl
  have parts : segments '.' "aspects.logger.main" = ["aspects", "logger", "main"] := by decide
  have short : r.shortName = "main" := by simpa [parts, eq_comm] using last
  have mem : r ∈ (Worklist.ofAdvices [.functionWrapper ⟨"", .look .start⟩ r]).references := by
    simp [Worklist.ofAdvices, Worklist.append, Worklist.contains, Worklist.empty,
      Worklist.references, Advice.references, Advice.slots]
  exact ⟨⟨d, read, again⟩, read_back, r, resolved, short, _, mem, short ▸ header _ mem⟩

end Declaration

end Loom
