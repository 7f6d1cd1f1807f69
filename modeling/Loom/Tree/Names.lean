import Loom.Tree.Basic

/-!
# Names and imports of a tree

`Module.names` lists every name that a module binds or uses, each once at its first place in source
order; aliases of woven references are not among them. `Module.imports` lists the modules it
imports by an absolute name.
-/

namespace Loom

/-- The elements in order, each at its first place only. -/
def distinct {α : Type} [BEq α] (xs : List α) : List α := xs.eraseDups

@[simp] theorem mem_distinct {α : Type} [BEq α] [LawfulBEq α] {x : α} {xs : List α} :
    x ∈ distinct xs ↔ x ∈ xs := List.mem_eraseDups

theorem nodup_distinct {α : Type} [BEq α] [LawfulBEq α] (xs : List α) : (distinct xs).Nodup := by
  induction hn : xs.length using Nat.strongRecOn generalizing xs with
  | _ n ih =>
    cases xs with
    | nil => simp [distinct]
    | cons x xs =>
      have shorter : (xs.filter fun y => !y == x).length < n := by
        have := List.length_filter_le (fun y => !y == x) xs
        simp only [List.length_cons] at hn
        omega
      have rest := ih _ shorter _ rfl
      simp only [distinct, List.eraseDups_cons] at rest ⊢
      exact List.nodup_cons.2 ⟨by simp, rest⟩

namespace Expr

mutual
/-- Every name in an expression, in order. -/
def names : Expr → List String
  | .name id => [id]
  | .attribute value attr => names value ++ [attr]
  | .call func args keywords => names func ++ namesIn args ++ keywordNames keywords
  | .constant _ => []
  | .tuple items => namesIn items
  | .list items => namesIn items
  | .compare left _ right => names left ++ names right
  | .binOp left _ right => names left ++ names right
  | .woven _ => []

def namesIn : List Expr → List String
  | [] => []
  | e :: es => names e ++ namesIn es

def keywordNames : List (Keyword Expr) → List String
  | [] => []
  | ⟨arg, value⟩ :: rest => arg :: names value ++ keywordNames rest
end

/-- The names in a default or returned value that may be missing. -/
def optionalNames : Option Expr → List String
  | some e => e.names
  | none => []

end Expr

def Param.names (p : Param) : List String := p.name :: Expr.optionalNames p.default

/-- The name that `from … import` binds. -/
def Alias.memberName (a : Alias) : String := a.asName.getD a.name

namespace Stmt

mutual
/-- Every name in a statement, in order. -/
def names : Stmt → List String
  | .functionDef ⟨name, params, decorators, body⟩ =>
    name :: Expr.namesIn decorators ++ params.flatMap Param.names ++ blockNames body
  | .classDef ⟨name, bases, keywords, decorators, body⟩ =>
    name :: Expr.namesIn decorators ++ Expr.namesIn bases ++
      Expr.namesIn (keywords.map (·.value)) ++ blockNames body
  | .assign targets value => Expr.namesIn targets ++ value.names
  | .expr e => e.names
  | .ret value => Expr.optionalNames value
  | .delete targets => Expr.namesIn targets
  | .pass => []
  | .importNames aliases => aliases.map Alias.boundName
  | .importFrom _ aliases => aliases.map Alias.memberName
  | .ifElse test body orelse => test.names ++ blockNames body ++ blockNames orelse
  | .forLoop target iter body => target.names ++ iter.names ++ blockNames body
  | .whileLoop test body => test.names ++ blockNames body
  | .global globals => globals

def blockNames : List Stmt → List String
  | [] => []
  | s :: rest => names s ++ blockNames rest
end

mutual
/-- Every module that a statement imports by an absolute name, in order. -/
def imports : Stmt → List String
  | .functionDef ⟨_, _, _, body⟩ => blockImports body
  | .classDef ⟨_, _, _, _, body⟩ => blockImports body
  | .importNames aliases => aliases.map (·.name)
  | .importFrom module _ => if module.toList.head? = some '.' then [] else [module]
  | .ifElse _ body orelse => blockImports body ++ blockImports orelse
  | .forLoop _ _ body => blockImports body
  | .whileLoop _ body => blockImports body
  | _ => []

def blockImports : List Stmt → List String
  | [] => []
  | s :: rest => imports s ++ blockImports rest
end

end Stmt

namespace Module

def names (m : Module) : List String := distinct (Stmt.blockNames m.body)

def imports (m : Module) : List String := distinct (Stmt.blockImports m.body)

end Module

end Loom
