import Loom.Proofs.Tree.Occurrence
import Loom.Weave.Rebind

/-!
# What binding modules changes

Putting aliases in place touches the aliases of woven references and nothing else: the expressions
of a tree are rebound one by one, and its names stay as they are. Binding the modules of a worklist
also puts in the import header, which holds no woven reference.
-/

namespace Loom

variable (w : Worklist)

/-! ## Expressions -/

namespace Expr

mutual
theorem subterms_rebind : ∀ e : Expr, (e.rebind w).subterms = e.subterms.map (rebind w)
  | .name _ | .constant _ | .woven _ => by simp [rebind, subterms]
  | .attribute value _ => by simp [rebind, subterms, subterms_rebind value]
  | .call func args keywords => by
    simp [rebind, subterms, subterms_rebind func, subtermsIn_rebindAll args,
      keywordSubterms_rebindKeywords keywords]
  | .tuple items => by simp [rebind, subterms, subtermsIn_rebindAll items]
  | .list items => by simp [rebind, subterms, subtermsIn_rebindAll items]
  | .compare left _ right => by
    simp [rebind, subterms, subterms_rebind left, subterms_rebind right]
  | .binOp left _ right => by
    simp [rebind, subterms, subterms_rebind left, subterms_rebind right]

theorem subtermsIn_rebindAll :
    ∀ es : List Expr, subtermsIn (rebindAll w es) = (subtermsIn es).map (rebind w)
  | [] => rfl
  | e :: es => by simp [rebindAll, subtermsIn, subterms_rebind e, subtermsIn_rebindAll es]

theorem keywordSubterms_rebindKeywords : ∀ ks : List (Keyword Expr),
    keywordSubterms (rebindKeywords w ks) = (keywordSubterms ks).map (rebind w)
  | [] => rfl
  | ⟨_, value⟩ :: ks => by
    simp [rebindKeywords, keywordSubterms, subterms_rebind value, keywordSubterms_rebindKeywords ks]
end

mutual
theorem names_rebind : ∀ e : Expr, (e.rebind w).names = e.names
  | .name _ | .constant _ | .woven _ => by simp [rebind, names]
  | .attribute value _ => by simp [rebind, names, names_rebind value]
  | .call func args keywords => by
    simp [rebind, names, names_rebind func, namesIn_rebindAll args,
      keywordNames_rebindKeywords keywords]
  | .tuple items => by simp [rebind, names, namesIn_rebindAll items]
  | .list items => by simp [rebind, names, namesIn_rebindAll items]
  | .compare left _ right => by simp [rebind, names, names_rebind left, names_rebind right]
  | .binOp left _ right => by simp [rebind, names, names_rebind left, names_rebind right]

theorem namesIn_rebindAll : ∀ es : List Expr, namesIn (rebindAll w es) = namesIn es
  | [] => rfl
  | e :: es => by simp [rebindAll, namesIn, names_rebind e, namesIn_rebindAll es]

theorem keywordNames_rebindKeywords :
    ∀ ks : List (Keyword Expr), keywordNames (rebindKeywords w ks) = keywordNames ks
  | [] => rfl
  | ⟨_, value⟩ :: ks => by
    simp [rebindKeywords, keywordNames, names_rebind value, keywordNames_rebindKeywords ks]
end

/-- The values of keywords are rebound in order. -/
theorem map_value_rebindKeywords (ks : List (Keyword Expr)) :
    (rebindKeywords w ks).map (·.value) = rebindAll w (ks.map (·.value)) := by
  induction ks with
  | nil => rfl
  | cons k ks ih => simp [rebindKeywords, rebindAll, ih]

theorem optionalSubterms_rebind (e : Option Expr) :
    optionalSubterms (e.map (rebind w)) = (optionalSubterms e).map (rebind w) := by
  cases e <;> simp [optionalSubterms, subterms_rebind]

theorem optionalNames_rebind (e : Option Expr) :
    optionalNames (e.map (rebind w)) = optionalNames e := by
  cases e <;> simp [optionalNames, names_rebind]

end Expr

theorem Param.names_rebind (p : Param) : (p.rebind w).names = p.names := by
  simp [names, rebind, Expr.optionalNames_rebind]

/-! ## Statements -/

namespace Stmt

open Loom.Expr (subterms_rebind subtermsIn_rebindAll keywordSubterms_rebindKeywords
  optionalSubterms_rebind names_rebind namesIn_rebindAll optionalNames_rebind
  map_value_rebindKeywords)

mutual
theorem subterms_rebind : ∀ s : Stmt, (s.rebind w).subterms = s.subterms.map (Expr.rebind w)
  | .functionDef ⟨name, params, decorators, body⟩ => by
    simp [rebind, subterms, subtermsIn_rebindAll, optionalSubterms_rebind, Param.rebind,
      List.flatMap_map, List.map_flatMap, blockSubterms_rebindBlock body]
  | .classDef ⟨name, bases, keywords, decorators, body⟩ => by
    simp [rebind, subterms, subtermsIn_rebindAll, keywordSubterms_rebindKeywords,
      blockSubterms_rebindBlock body]
  | .assign targets value => by
    simp [rebind, subterms, subtermsIn_rebindAll, Expr.subterms_rebind]
  | .expr e => by simp [rebind, subterms, Expr.subterms_rebind]
  | .ret value => by simp [rebind, subterms, optionalSubterms_rebind]
  | .delete targets => by simp [rebind, subterms, subtermsIn_rebindAll]
  | .pass | .importNames _ | .importFrom .. | .global _ => by simp [rebind, subterms]
  | .ifElse test body orelse => by
    simp [rebind, subterms, Expr.subterms_rebind, blockSubterms_rebindBlock body,
      blockSubterms_rebindBlock orelse]
  | .forLoop target iter body => by
    simp [rebind, subterms, Expr.subterms_rebind, blockSubterms_rebindBlock body]
  | .whileLoop test body => by
    simp [rebind, subterms, Expr.subterms_rebind, blockSubterms_rebindBlock body]

theorem blockSubterms_rebindBlock : ∀ body : List Stmt,
    blockSubterms (rebindBlock w body) = (blockSubterms body).map (Expr.rebind w)
  | [] => rfl
  | s :: rest => by
    simp [rebindBlock, blockSubterms, subterms_rebind s, blockSubterms_rebindBlock rest]
end

mutual
theorem names_rebind : ∀ s : Stmt, (s.rebind w).names = s.names
  | .functionDef ⟨name, params, decorators, body⟩ => by
    simp [rebind, names, namesIn_rebindAll, Param.names_rebind, List.flatMap_map,
      blockNames_rebindBlock body]
  | .classDef ⟨name, bases, keywords, decorators, body⟩ => by
    simp [rebind, names, namesIn_rebindAll, map_value_rebindKeywords, blockNames_rebindBlock body]
  | .assign targets value => by simp [rebind, names, namesIn_rebindAll, Expr.names_rebind]
  | .expr e => by simp [rebind, names, Expr.names_rebind]
  | .ret value => by simp [rebind, names, optionalNames_rebind]
  | .delete targets => by simp [rebind, names, namesIn_rebindAll]
  | .pass | .importNames _ | .importFrom .. | .global _ => by simp [rebind, names]
  | .ifElse test body orelse => by
    simp [rebind, names, Expr.names_rebind, blockNames_rebindBlock body,
      blockNames_rebindBlock orelse]
  | .forLoop target iter body => by
    simp [rebind, names, Expr.names_rebind, blockNames_rebindBlock body]
  | .whileLoop test body => by
    simp [rebind, names, Expr.names_rebind, blockNames_rebindBlock body]

theorem blockNames_rebindBlock :
    ∀ body : List Stmt, blockNames (rebindBlock w body) = blockNames body
  | [] => rfl
  | s :: rest => by
    simp [rebindBlock, blockNames, names_rebind s, blockNames_rebindBlock rest]
end

theorem rebindBlock_eq_map (body : List Stmt) : rebindBlock w body = body.map (rebind w) := by
  induction body with
  | nil => rfl
  | cons s rest ih => simp [rebindBlock, ih]

/-! ## Headers -/

/-- A preamble and what follows are the whole body. -/
theorem splitPreamble_append (body : List Stmt) :
    (splitPreamble body).1 ++ (splitPreamble body).2 = body := by
  cases body with
  | nil => rfl
  | cons s rest =>
    simp only [splitPreamble]
    split <;> simp

theorem rebindAll_strs (paths : List FilePath) :
    Expr.rebindAll w (paths.map fun p => .str p.text) = paths.map fun p => .str p.text := by
  induction paths with
  | nil => rfl
  | cons p paths ih => simp [Expr.rebindAll, Expr.rebind, Expr.str] at ih ⊢; exact ih

/-- A header holds no woven reference. -/
theorem not_mem_subterms_header (paths : List FilePath) (modules : List (String × String))
    (r : Woven) : .woven r ∉ blockSubterms (header paths modules) := by
  intro h
  obtain ⟨s, hs, h⟩ := mem_blockSubterms.1 h
  rcases List.mem_append.1 hs with hs | hs
  · simp only [searchPathHeader] at hs
    split at hs
    · cases hs
    · simp only [List.mem_cons, List.not_mem_nil, or_false] at hs
      rcases hs with rfl | rfl
      · simp [subterms] at h
      · have inPath : .woven r ∈ Expr.subtermsIn (paths.map fun p => .str p.text) := by
          simpa [searchPathLoop, searchPathList, subterms, Expr.subterms] using h
        obtain ⟨e, he, h⟩ := Expr.mem_subtermsIn.1 inPath
        obtain ⟨p, -, rfl⟩ := List.mem_map.1 he
        simp [Expr.str, Expr.subterms] at h
  · obtain ⟨m, -, rfl⟩ := List.mem_map.1 hs
    simp [importAs, subterms] at h

/-- So it stays as it is. -/
theorem rebindBlock_header (paths : List FilePath) (modules : List (String × String)) :
    rebindBlock w (header paths modules) = header paths modules := by
  have loop : (searchPathLoop paths).rebind w = searchPathLoop paths := by
    simp [searchPathLoop, searchPathList, rebind, rebindBlock, Expr.rebind, Expr.rebindAll,
      Expr.rebindKeywords, rebindAll_strs]
  have imports (m : String × String) : (importAs m.1 m.2).rebind w = importAs m.1 m.2 := by
    simp [importAs, rebind]
  simp only [rebindBlock_eq_map, header, searchPathHeader]
  split <;> simp [rebind, loop, imports]

/-- An import under an alias binds that alias, if it is one segment. -/
theorem exists_importAs_eq (module : String) (short : ShortName) :
    ∃ a : Alias, importAs module short.text = .importNames [a] ∧ a.name = module ∧
      a.boundName = short.text := by
  refine ⟨_, rfl, rfl, ?_⟩
  by_cases same : module = short.text
  · simp [same, Alias.boundName, Text.segments, Text.splitChars_of_not_mem short.oneSegment]
  · simp [same, Alias.boundName]

/-- The header imports each module under its alias. -/
theorem importNames_mem_header (paths : List FilePath) {modules : List (String × String)}
    {module : String} {short : ShortName} (h : (module, short.text) ∈ modules) :
    ∃ a : Alias, .importNames [a] ∈ header paths modules ∧ a.name = module ∧
      a.boundName = short.text := by
  obtain ⟨a, eq, name, bound⟩ := exists_importAs_eq module short
  exact ⟨a, List.mem_append_right _ (List.mem_map.2 ⟨_, h, eq⟩), name, bound⟩

end Stmt

/-! ## Modules -/

namespace Module

variable {w} {m : Module}

theorem names_rebind : (m.rebind w).names = m.names := by
  simp [names, rebind, Stmt.blockNames_rebindBlock]

/-- Binding modules puts a header after the preamble of the rebound module. -/
theorem body_bindModules (h : w.isEmpty = false) :
    ∃ preamble rest, preamble ++ rest = (m.rebind w).body ∧
      (m.bindModules w).body = preamble ++ Stmt.header w.searchPaths w.modules ++ rest := by
  refine ⟨(Stmt.splitPreamble m.body).1.map (Stmt.rebind w),
    (Stmt.splitPreamble m.body).2.map (Stmt.rebind w), ?_, ?_⟩
  · rw [← List.map_append, Stmt.splitPreamble_append, rebind, Stmt.rebindBlock_eq_map]
  · have header := Stmt.rebindBlock_header w w.searchPaths w.modules
    rw [Stmt.rebindBlock_eq_map] at header
    simp [bindModules_eq, h, addImports, rebind, Stmt.rebindBlock_eq_map, header]

end Module

end Loom
