import Loom.Tree.Address
import Loom.Tree.Basic

/-!
# Walks

The nodes of a tree in the order a walk meets them: a node before its children, decorators before
bases, bases before keywords, and everything in a header before the body.
-/

namespace Loom

/-- What a walk meets. -/
inductive Visit where
  | module (m : Module)
  | cls (address : Address) (c : Class)
  | function (address : Address) (f : Function)
  | expr (e : Expr)

namespace Expr

mutual
/-- The expression and all inside it, outer before inner. -/
def subterms : Expr → List Expr
  | e@(.attribute value _) => e :: subterms value
  | e@(.call func args keywords) =>
    e :: subterms func ++ subtermsIn args ++ keywordSubterms keywords
  | e@(.tuple items) => e :: subtermsIn items
  | e@(.list items) => e :: subtermsIn items
  | e@(.compare left _ right) => e :: subterms left ++ subterms right
  | e@(.binOp left _ right) => e :: subterms left ++ subterms right
  | e => [e]

def subtermsIn : List Expr → List Expr
  | [] => []
  | e :: es => subterms e ++ subtermsIn es

def keywordSubterms : List (Keyword Expr) → List Expr
  | [] => []
  | ⟨_, value⟩ :: rest => subterms value ++ keywordSubterms rest
end

def visits (e : Expr) : List Visit := e.subterms.map .expr

def visitsIn (es : List Expr) : List Visit := (subtermsIn es).map .expr

def optionalVisits : Option Expr → List Visit
  | some e => e.visits
  | none => []

end Expr

namespace Stmt

mutual
/-- The visits of a statement that stands inside the declaration at `address`. -/
def visits (address : Address) : Stmt → List Visit
  | .classDef ⟨name, bases, keywords, decorators, body⟩ =>
    .cls (address.child name) ⟨name, bases, keywords, decorators, body⟩ ::
      Expr.visitsIn decorators ++ Expr.visitsIn bases ++ Expr.visitsIn (keywords.map (·.value)) ++
        blockVisits (address.child name) body
  | .functionDef ⟨name, params, decorators, body⟩ =>
    .function (address.child name) ⟨name, params, decorators, body⟩ ::
      Expr.visitsIn decorators ++ params.flatMap (fun p => Expr.optionalVisits p.default) ++
        blockVisits (address.child name) body
  | .assign targets value => Expr.visitsIn targets ++ value.visits
  | .expr e => e.visits
  | .ret value => Expr.optionalVisits value
  | .delete targets => Expr.visitsIn targets
  | .ifElse test body orelse =>
    test.visits ++ blockVisits address body ++ blockVisits address orelse
  | .forLoop target iter body => target.visits ++ iter.visits ++ blockVisits address body
  | .whileLoop test body => test.visits ++ blockVisits address body
  | .pass => []
  | .importNames _ => []
  | .importFrom _ _ => []
  | .global _ => []

def blockVisits (address : Address) : List Stmt → List Visit
  | [] => []
  | s :: rest => visits address s ++ blockVisits address rest
end

end Stmt

/-- The visits of a module known as `localName`. -/
def Module.visits (m : Module) (localName : String) : List Visit :=
  .module m :: Stmt.blockVisits (.root localName) m.body

end Loom
