import Loom.Tree.Names

/-!
# Methods and instance attributes

How a method is bound, by its decorators and by later rebindings of its name in the class body, and
the attributes that the instance methods of a class assign through their first parameter.
-/

namespace Loom

/-- What a method is bound to. -/
inductive MethodKind where
  | perInstance
  | perClass
  | static
  deriving DecidableEq, Repr

namespace MethodKind

/-- The kind that a function of this name makes of a method. -/
def ofMarker? (name : String) : Option MethodKind :=
  if name = "classmethod" then some .perClass
  else if name = "staticmethod" then some .static
  else none

/-- The kind that applying `e` gives. -/
def ofExpr? (e : Expr) : Option MethodKind := e.asName?.bind ofMarker?

/-- The kind that the first marking decorator gives. -/
def ofDecorators (decorators : List Expr) : MethodKind :=
  (decorators.findSome? ofExpr?).getD .perInstance

/-- The kind under which a statement of a class body rebinds `name`. -/
def rebinding? (name : String) : Stmt → Option MethodKind
  | .assign targets (.call func _ _) =>
    if targets.any (·.isName name) then ofExpr? func else none
  | _ => none

end MethodKind

namespace ClassDef

/-- The kind of a method: its last rebinding, else its decorators. -/
def methodKind (c : Class) (method : Function) : MethodKind :=
  ((c.body.filterMap (MethodKind.rebinding? method.name)).getLast?).getD
    (.ofDecorators method.decorators)

end ClassDef

/-! ## Instance attributes -/

namespace Expr

mutual
/-- The attributes of `receiver` that are assigned when the expression is a target. -/
def receiverTargets (receiver : String) : Expr → List String
  | .attribute value attr => if value.isName receiver then [attr] else []
  | .tuple items => receiverTargetsIn receiver items
  | .list items => receiverTargetsIn receiver items
  | _ => []

def receiverTargetsIn (receiver : String) : List Expr → List String
  | [] => []
  | e :: es => receiverTargets receiver e ++ receiverTargetsIn receiver es
end

end Expr

namespace Stmt

mutual
/-- The attributes of `receiver` that a statement assigns. Nested functions and classes have
receivers of their own. -/
def receiverAssigns (receiver : String) : Stmt → List String
  | .assign targets _ => Expr.receiverTargetsIn receiver targets
  | .ifElse _ body orelse => blockReceiverAssigns receiver body ++ blockReceiverAssigns receiver orelse
  | .forLoop target _ body => target.receiverTargets receiver ++ blockReceiverAssigns receiver body
  | .whileLoop _ body => blockReceiverAssigns receiver body
  | _ => []

def blockReceiverAssigns (receiver : String) : List Stmt → List String
  | [] => []
  | s :: rest => receiverAssigns receiver s ++ blockReceiverAssigns receiver rest
end

end Stmt

namespace FunctionDef

/-- The attributes that a method assigns through its first parameter. -/
def receiverAttributes (f : Function) : List String :=
  match f.params with
  | [] => []
  | receiver :: _ => Stmt.blockReceiverAssigns receiver.name f.body

end FunctionDef

namespace ClassDef

def instanceMethods (c : Class) : List Function :=
  c.methods.filter fun m => c.methodKind m == .perInstance

/-- The attributes that the instance methods assign, each once, in source order. -/
def instanceAttributes (c : Class) : List String :=
  distinct (c.instanceMethods.flatMap (·.receiverAttributes))

end ClassDef

end Loom
