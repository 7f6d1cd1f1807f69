import Loom.Aspect.Worklist
import Loom.Weave.Header

/-!
# Rebinding aliases

After the aliases of a worklist are settled, every woven reference of a tree that belongs to one of
its modules is written under that module's alias, wherever an expression may stand, and the modules
are imported under the same aliases.
-/

namespace Loom

/-- The reference under the alias that the worklist has for its module, if it has one. -/
def Woven.rebind (w : Worklist) (r : Woven) : Woven :=
  match w.aliasFor? ⟨r.sourceFile, r.originModule⟩ with
  | some shortName => { r with shortName }
  | none => r

namespace Expr

mutual
def rebind (w : Worklist) : Expr → Expr
  | .name id => .name id
  | .attribute value attr => .attribute (rebind w value) attr
  | .call func args keywords => .call (rebind w func) (rebindAll w args) (rebindKeywords w keywords)
  | .constant c => .constant c
  | .tuple items => .tuple (rebindAll w items)
  | .list items => .list (rebindAll w items)
  | .compare left op right => .compare (rebind w left) op (rebind w right)
  | .binOp left op right => .binOp (rebind w left) op (rebind w right)
  | .woven r => .woven (r.rebind w)

def rebindAll (w : Worklist) : List Expr → List Expr
  | [] => []
  | e :: es => rebind w e :: rebindAll w es

def rebindKeywords (w : Worklist) : List (Keyword Expr) → List (Keyword Expr)
  | [] => []
  | ⟨arg, value⟩ :: rest => ⟨arg, rebind w value⟩ :: rebindKeywords w rest
end

end Expr

def Param.rebind (w : Worklist) (p : Param) : Param := { p with default := p.default.map (·.rebind w) }

namespace Stmt

mutual
def rebind (w : Worklist) : Stmt → Stmt
  | .functionDef ⟨name, params, decorators, body⟩ =>
    .functionDef ⟨name, params.map (·.rebind w), Expr.rebindAll w decorators, rebindBlock w body⟩
  | .classDef ⟨name, bases, keywords, decorators, body⟩ =>
    .classDef ⟨name, Expr.rebindAll w bases, Expr.rebindKeywords w keywords,
      Expr.rebindAll w decorators, rebindBlock w body⟩
  | .assign targets value => .assign (Expr.rebindAll w targets) (value.rebind w)
  | .expr value => .expr (value.rebind w)
  | .ret value => .ret (value.map (·.rebind w))
  | .delete targets => .delete (Expr.rebindAll w targets)
  | .pass => .pass
  | .importNames names => .importNames names
  | .importFrom module names => .importFrom module names
  | .ifElse test body orelse =>
    .ifElse (test.rebind w) (rebindBlock w body) (rebindBlock w orelse)
  | .forLoop target iter body =>
    .forLoop (target.rebind w) (iter.rebind w) (rebindBlock w body)
  | .whileLoop test body => .whileLoop (test.rebind w) (rebindBlock w body)
  | .global names => .global names

def rebindBlock (w : Worklist) : List Stmt → List Stmt
  | [] => []
  | s :: rest => rebind w s :: rebindBlock w rest
end

end Stmt

namespace Module

def rebind (m : Module) (w : Worklist) : Module := ⟨Stmt.rebindBlock w m.body⟩

/-- Imports the modules of the matched advices and puts their aliases in place, and says that it
did. Without a match the module stays as it is. -/
def bindIn (matched : Worklist) : StateM Module Bool := do
  if matched.isEmpty then return false
  modify fun m => (m.addImports matched.searchPaths matched.modules).rebind matched
  return true

/-- The module with the modules of the matched advices bound. -/
def bindModules (m : Module) (matched : Worklist) : Module := ((bindIn matched).run m).2

theorem run_bindIn (m : Module) (matched : Worklist) : (bindIn matched).run m =
    if matched.isEmpty then (false, m)
    else (true, (m.addImports matched.searchPaths matched.modules).rebind matched) := by
  unfold bindIn
  split <;> rfl

theorem bindModules_eq (m : Module) (matched : Worklist) : m.bindModules matched =
    if matched.isEmpty then m
    else (m.addImports matched.searchPaths matched.modules).rebind matched := by
  rw [bindModules, run_bindIn]
  split <;> rfl

end Module

end Loom
