import Loom.Tree.Names
import Loom.Tree.Walk

/-!
# What occurs in a tree

`Stmt.blockSubterms` lists the expressions of a block and `Stmt.blockStatements` its statements, at
every depth. A statement binds the names of what it declares, of its targets and of its imports
(`Stmt.binds`). Whatever is bound somewhere, and whatever is used as a name somewhere, is among the
names of the module.
-/

namespace Loom

/-! ## Targets -/

namespace Expr

mutual
/-- The names that an expression binds as a target, through tuples and lists. -/
def targetNames : Expr → List String
  | .name id => [id]
  | .tuple items => targetNamesIn items
  | .list items => targetNamesIn items
  | _ => []

def targetNamesIn : List Expr → List String
  | [] => []
  | e :: es => targetNames e ++ targetNamesIn es
end

def optionalSubterms : Option Expr → List Expr
  | some e => e.subterms
  | none => []

end Expr

/-! ## Statements -/

namespace Stmt

/-- The statements that stand in the blocks of a statement. -/
def blocks : Stmt → List Stmt
  | .functionDef f => f.body
  | .classDef c => c.body
  | .ifElse _ body orelse => body ++ orelse
  | .forLoop _ _ body => body
  | .whileLoop _ body => body
  | _ => []

/-- The names that a statement binds, those of nested statements apart. -/
def binds : Stmt → List String
  | .functionDef f => f.name :: f.params.map (·.name)
  | .classDef c => [c.name]
  | .assign targets _ => Expr.targetNamesIn targets
  | .delete targets => Expr.targetNamesIn targets
  | .forLoop target _ _ => target.targetNames
  | .importNames aliases => aliases.map Alias.boundName
  | .importFrom _ aliases => aliases.map Alias.memberName
  | .global names => names
  | _ => []

mutual
/-- A statement and all inside it. -/
def statements : Stmt → List Stmt
  | s@(.functionDef ⟨_, _, _, body⟩) => s :: blockStatements body
  | s@(.classDef ⟨_, _, _, _, body⟩) => s :: blockStatements body
  | s@(.ifElse _ body orelse) => s :: blockStatements body ++ blockStatements orelse
  | s@(.forLoop _ _ body) => s :: blockStatements body
  | s@(.whileLoop _ body) => s :: blockStatements body
  | s => [s]

def blockStatements : List Stmt → List Stmt
  | [] => []
  | s :: rest => statements s ++ blockStatements rest
end

mutual
/-- Every expression in a statement. -/
def subterms : Stmt → List Expr
  | .functionDef ⟨_, params, decorators, body⟩ =>
    Expr.subtermsIn decorators ++ params.flatMap (fun p => Expr.optionalSubterms p.default) ++
      blockSubterms body
  | .classDef ⟨_, bases, keywords, decorators, body⟩ =>
    Expr.subtermsIn decorators ++ Expr.subtermsIn bases ++ Expr.keywordSubterms keywords ++
      blockSubterms body
  | .assign targets value => Expr.subtermsIn targets ++ value.subterms
  | .expr e => e.subterms
  | .ret value => Expr.optionalSubterms value
  | .delete targets => Expr.subtermsIn targets
  | .pass => []
  | .importNames _ => []
  | .importFrom _ _ => []
  | .ifElse test body orelse => test.subterms ++ blockSubterms body ++ blockSubterms orelse
  | .forLoop target iter body => target.subterms ++ iter.subterms ++ blockSubterms body
  | .whileLoop test body => test.subterms ++ blockSubterms body
  | .global _ => []

def blockSubterms : List Stmt → List Expr
  | [] => []
  | s :: rest => subterms s ++ blockSubterms rest
end

end Stmt

namespace Module

/-- Every expression of a module, at every depth. -/
def subterms (m : Module) : List Expr := Stmt.blockSubterms m.body

/-- The names that a module binds somewhere: functions, classes, parameters, targets, imports and
globals. -/
def bindings (m : Module) : List String := (Stmt.blockStatements m.body).flatMap Stmt.binds

end Module

/-! ## Membership -/

namespace Expr

@[simp] theorem mem_subtermsIn {x : Expr} {es : List Expr} :
    x ∈ subtermsIn es ↔ ∃ e ∈ es, x ∈ e.subterms := by
  induction es with
  | nil => simp [subtermsIn]
  | cons e es ih => simp [subtermsIn, ih]

@[simp] theorem mem_keywordSubterms {x : Expr} {ks : List (Keyword Expr)} :
    x ∈ keywordSubterms ks ↔ ∃ k ∈ ks, x ∈ k.value.subterms := by
  induction ks with
  | nil => simp [keywordSubterms]
  | cons k ks ih => simp [keywordSubterms, ih]

mutual
theorem mem_names_of_name_mem {id : String} : ∀ (e : Expr), .name id ∈ e.subterms → id ∈ e.names
  | .name _, h => by simpa [subterms, names] using h
  | .attribute value _, h => by
    simp only [subterms, List.mem_cons, reduceCtorEq, false_or] at h
    exact List.mem_append_left _ (mem_names_of_name_mem value h)
  | .call func args keywords, h => by
    simp only [subterms, List.cons_append, List.mem_cons, reduceCtorEq, false_or,
      List.mem_append] at h
    simp only [names, List.mem_append]
    rcases h with (h | h) | h
    · exact .inl (.inl (mem_names_of_name_mem func h))
    · exact .inl (.inr (mem_namesIn_of_name_mem args h))
    · exact .inr (mem_keywordNames_of_name_mem keywords h)
  | .constant _, h => by simp [subterms] at h
  | .tuple items, h => by
    simp only [subterms, List.mem_cons, reduceCtorEq, false_or] at h
    exact mem_namesIn_of_name_mem items h
  | .list items, h => by
    simp only [subterms, List.mem_cons, reduceCtorEq, false_or] at h
    exact mem_namesIn_of_name_mem items h
  | .compare left _ right, h => by
    simp only [subterms, List.cons_append, List.mem_cons, reduceCtorEq, false_or,
      List.mem_append] at h
    exact List.mem_append.2 (h.imp (mem_names_of_name_mem left) (mem_names_of_name_mem right))
  | .binOp left _ right, h => by
    simp only [subterms, List.cons_append, List.mem_cons, reduceCtorEq, false_or,
      List.mem_append] at h
    exact List.mem_append.2 (h.imp (mem_names_of_name_mem left) (mem_names_of_name_mem right))
  | .woven _, h => by simp [subterms] at h

theorem mem_namesIn_of_name_mem {id : String} :
    ∀ (es : List Expr), .name id ∈ subtermsIn es → id ∈ namesIn es
  | [], h => by simp at h
  | e :: es, h => by
    simp only [subtermsIn, List.mem_append] at h
    exact List.mem_append.2 (h.imp (mem_names_of_name_mem e) (mem_namesIn_of_name_mem es))

theorem mem_keywordNames_of_name_mem {id : String} :
    ∀ (ks : List (Keyword Expr)), .name id ∈ keywordSubterms ks → id ∈ keywordNames ks
  | [], h => by simp at h
  | ⟨arg, value⟩ :: ks, h => by
    simp only [keywordSubterms, List.mem_append] at h
    refine List.mem_cons_of_mem _ (List.mem_append.2 ?_)
    exact h.imp (mem_names_of_name_mem value) (mem_keywordNames_of_name_mem ks)
end

mutual
theorem name_mem_of_mem_targetNames {id : String} :
    ∀ (e : Expr), id ∈ e.targetNames → .name id ∈ e.subterms
  | .name _, h => by simpa [subterms, targetNames] using h
  | .tuple items, h => List.mem_cons_of_mem _ (name_mem_of_mem_targetNamesIn items h)
  | .list items, h => List.mem_cons_of_mem _ (name_mem_of_mem_targetNamesIn items h)
  | .attribute .., h | .call .., h | .constant _, h | .compare .., h | .binOp .., h
  | .woven _, h => by simp [targetNames] at h

theorem name_mem_of_mem_targetNamesIn {id : String} :
    ∀ (es : List Expr), id ∈ targetNamesIn es → .name id ∈ subtermsIn es
  | [], h => by simp [targetNamesIn] at h
  | e :: es, h => by
    simp only [targetNamesIn, List.mem_append] at h
    exact List.mem_append.2
      (h.imp (name_mem_of_mem_targetNames e) (name_mem_of_mem_targetNamesIn es))
end

theorem mem_optionalNames_of_name_mem {id : String} (e : Option Expr)
    (h : .name id ∈ optionalSubterms e) : id ∈ optionalNames e := by
  cases e with
  | none => simp [optionalSubterms] at h
  | some e => exact mem_names_of_name_mem e h

end Expr

namespace Stmt

open Loom.Expr (mem_names_of_name_mem mem_namesIn_of_name_mem mem_optionalNames_of_name_mem
  name_mem_of_mem_targetNames name_mem_of_mem_targetNamesIn)

@[simp] theorem mem_blockSubterms {x : Expr} {body : List Stmt} :
    x ∈ blockSubterms body ↔ ∃ s ∈ body, x ∈ s.subterms := by
  induction body with
  | nil => simp [blockSubterms]
  | cons s rest ih => simp [blockSubterms, ih]

theorem mem_blockNames {id : String} {body : List Stmt} :
    id ∈ blockNames body ↔ ∃ s ∈ body, id ∈ s.names := by
  induction body with
  | nil => simp [blockNames]
  | cons s rest ih => simp [blockNames, ih]

theorem mem_names_of_mem_binds {id : String} (s : Stmt) (h : id ∈ s.binds) : id ∈ s.names := by
  cases s with
  | functionDef f =>
    simp only [binds, List.mem_cons, List.mem_map] at h
    simp only [names, List.mem_cons, List.mem_append, List.mem_flatMap]
    rcases h with rfl | ⟨p, hp, rfl⟩
    · exact .inl (.inl (.inl rfl))
    · exact .inl (.inr ⟨p, hp, List.mem_cons_self ..⟩)
  | classDef c => simp_all [binds, names]
  | assign targets value =>
    exact List.mem_append_left _ (mem_namesIn_of_name_mem _ (name_mem_of_mem_targetNamesIn _ h))
  | delete targets => exact mem_namesIn_of_name_mem _ (name_mem_of_mem_targetNamesIn _ h)
  | forLoop target iter body =>
    simp only [names, List.append_assoc]
    exact List.mem_append_left _ (mem_names_of_name_mem _ (name_mem_of_mem_targetNames _ h))
  | importNames aliases => exact h
  | importFrom module aliases => exact h
  | global globals => exact h
  | expr | ret | pass | ifElse | whileLoop => simp [binds] at h

mutual
/-- What a statement uses as a name is among its names. -/
theorem mem_names_of_name_mem_subterms {id : String} :
    ∀ (s : Stmt), .name id ∈ s.subterms → id ∈ s.names
  | .functionDef ⟨name, params, decorators, body⟩, h => by
    simp only [subterms, List.mem_append, List.mem_flatMap] at h
    simp only [names, List.mem_cons, List.mem_append, List.mem_flatMap]
    rcases h with (h | ⟨p, hp, h⟩) | h
    · exact .inl (.inl (.inr (mem_namesIn_of_name_mem _ h)))
    · exact .inl (.inr ⟨p, hp, List.mem_cons_of_mem _ (mem_optionalNames_of_name_mem _ h)⟩)
    · exact .inr (mem_blockNames_of_name_mem_subterms body h)
  | .classDef ⟨name, bases, keywords, decorators, body⟩, h => by
    simp only [subterms, List.mem_append] at h
    simp only [names, List.mem_cons, List.mem_append]
    rcases h with ((h | h) | h) | h
    · exact .inl (.inl (.inl (.inr (mem_namesIn_of_name_mem _ h))))
    · exact .inl (.inl (.inr (mem_namesIn_of_name_mem _ h)))
    · obtain ⟨k, hk, h⟩ := Expr.mem_keywordSubterms.1 h
      refine .inl (.inr (mem_namesIn_of_name_mem _ (Expr.mem_subtermsIn.2 ⟨k.value, ?_, h⟩)))
      exact List.mem_map_of_mem hk
    · exact .inr (mem_blockNames_of_name_mem_subterms body h)
  | .assign targets value, h => by
    simp only [subterms, List.mem_append] at h
    exact List.mem_append.2 (h.imp (mem_namesIn_of_name_mem _) (mem_names_of_name_mem _))
  | .expr e, h => mem_names_of_name_mem e h
  | .ret value, h => mem_optionalNames_of_name_mem value h
  | .delete targets, h => mem_namesIn_of_name_mem targets h
  | .pass, h | .importNames _, h | .importFrom .., h | .global _, h => by simp [subterms] at h
  | .ifElse test body orelse, h => by
    simp only [subterms, List.mem_append] at h
    simp only [names, List.mem_append]
    exact h.imp (Or.imp (mem_names_of_name_mem test) (mem_blockNames_of_name_mem_subterms body))
      (mem_blockNames_of_name_mem_subterms orelse)
  | .forLoop target iter body, h => by
    simp only [subterms, List.mem_append] at h
    simp only [names, List.mem_append]
    exact h.imp (Or.imp (mem_names_of_name_mem target) (mem_names_of_name_mem iter))
      (mem_blockNames_of_name_mem_subterms body)
  | .whileLoop test body, h => by
    simp only [subterms, List.mem_append] at h
    exact List.mem_append.2
      (h.imp (mem_names_of_name_mem test) (mem_blockNames_of_name_mem_subterms body))

theorem mem_blockNames_of_name_mem_subterms {id : String} :
    ∀ (body : List Stmt), .name id ∈ blockSubterms body → id ∈ blockNames body
  | [], h => by simp at h
  | s :: rest, h => by
    simp only [blockSubterms, List.mem_append] at h
    exact List.mem_append.2
      (h.imp (mem_names_of_name_mem_subterms s) (mem_blockNames_of_name_mem_subterms rest))
end

mutual
/-- The names of a nested statement are among those of the statement around it. -/
theorem names_subset_of_mem_statements {t : Stmt} :
    ∀ (s : Stmt), t ∈ s.statements → t.names ⊆ s.names
  | .functionDef ⟨name, params, decorators, body⟩, h => by
    rcases List.mem_cons.1 h with rfl | h
    · exact fun _ h => h
    · exact fun _ hx => List.mem_append_right _ (names_subset_of_mem_blockStatements body h hx)
  | .classDef ⟨name, bases, keywords, decorators, body⟩, h => by
    rcases List.mem_cons.1 h with rfl | h
    · exact fun _ h => h
    · exact fun _ hx => List.mem_append_right _ (names_subset_of_mem_blockStatements body h hx)
  | .ifElse test body orelse, h => by
    simp only [statements, List.cons_append, List.mem_cons, List.mem_append] at h
    rcases h with rfl | h | h
    · exact fun _ h => h
    · exact fun _ hx => List.mem_append_left _
        (List.mem_append_right _ (names_subset_of_mem_blockStatements body h hx))
    · exact fun _ hx => List.mem_append_right _ (names_subset_of_mem_blockStatements orelse h hx)
  | .forLoop target iter body, h => by
    rcases List.mem_cons.1 h with rfl | h
    · exact fun _ h => h
    · exact fun _ hx => List.mem_append_right _ (names_subset_of_mem_blockStatements body h hx)
  | .whileLoop test body, h => by
    rcases List.mem_cons.1 h with rfl | h
    · exact fun _ h => h
    · exact fun _ hx => List.mem_append_right _ (names_subset_of_mem_blockStatements body h hx)
  | .assign .., h | .expr _, h | .ret _, h | .delete _, h | .pass, h | .importNames _, h
  | .importFrom .., h | .global _, h => by
    cases List.mem_singleton.1 h
    exact fun _ h => h

theorem names_subset_of_mem_blockStatements {t : Stmt} :
    ∀ (body : List Stmt), t ∈ blockStatements body → t.names ⊆ blockNames body
  | [], h => by simp [blockStatements] at h
  | s :: rest, h => by
    simp only [blockStatements, List.mem_append] at h
    rcases h with h | h
    · exact fun _ hx => List.mem_append_left _ (names_subset_of_mem_statements s h hx)
    · exact fun _ hx => List.mem_append_right _ (names_subset_of_mem_blockStatements rest h hx)
end

end Stmt

namespace Module

theorem mem_names {m : Module} {id : String} : id ∈ m.names ↔ id ∈ Stmt.blockNames m.body := by
  simp [names]

theorem mem_names_of_name_mem_subterms {m : Module} {id : String} (h : .name id ∈ m.subterms) :
    id ∈ m.names :=
  mem_names.2 (Stmt.mem_blockNames_of_name_mem_subterms _ h)

theorem mem_names_of_mem_bindings {m : Module} {id : String} (h : id ∈ m.bindings) :
    id ∈ m.names := by
  obtain ⟨s, hs, h⟩ := List.mem_flatMap.1 h
  exact mem_names.2
    (Stmt.names_subset_of_mem_blockStatements _ hs (Stmt.mem_names_of_mem_binds s h))

end Module

end Loom
