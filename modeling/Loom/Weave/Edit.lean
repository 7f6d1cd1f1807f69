import Loom.Aspect.Reference

/-!
# Edits of declarations

What an advice does to the declaration it matches: a wrapper becomes the outermost decorator of a
function, a hook the metaclass of a class, and accessors replace the class-level binding of an
attribute by a property.
-/

namespace Loom

namespace FunctionDef

/-- Makes `wrapper` the outermost decorator. -/
def addWrapper (f : Function) (wrapper : Reference) : Function :=
  { f with decorators := wrapper.woven :: f.decorators }

end FunctionDef

namespace Keyword

/-- Gives the first keyword named `arg` the value `value`, or adds it at the end. -/
def set (arg : String) (value : Expr) : List (Keyword Expr) → List (Keyword Expr)
  | [] => [⟨arg, value⟩]
  | k :: rest => if k.arg = arg then ⟨arg, value⟩ :: rest else k :: set arg value rest

end Keyword

namespace Stmt

/-- Takes `name` from the targets of an assignment; none if no target is left. -/
def unbind? (name : String) : Stmt → Option Stmt
  | .assign targets value =>
    let kept := targets.filter fun t => !t.isName name
    if kept.isEmpty then none else some (.assign kept value)
  | s => some s

end Stmt

namespace ClassDef

/-- Takes `name` from the assignments that stand directly in the class body. -/
def unbind (c : Class) (name : String) : Class :=
  { c with body := c.body.filterMap (Stmt.unbind? name) }

/-- A body without statements is written `pass`. -/
def fillBody (body : List Stmt) : List Stmt := if body.isEmpty then [.pass] else body

/-- Makes `hook` the metaclass, in place of one given by keyword or in the body. -/
def setHook (c : Class) (hook : Reference) : Class :=
  let bare := c.unbind "__metaclass__"
  { bare with keywords := Keyword.set "metaclass" hook.woven c.keywords, body := fillBody bare.body }

/-- The keyword under which an accessor is given, if there is one. -/
def accessorKeyword (arg : String) (accessor : Option Reference) : Option (Keyword Expr) :=
  accessor.map fun r => ⟨arg, r.woven⟩

/-- `attr = property(…)` with the accessors there are. -/
def accessorBinding (attr : String) (getter setter deleter : Option Reference) : Stmt :=
  .assignName attr (.call (.name "property") []
    ([accessorKeyword "fget" getter, accessorKeyword "fset" setter,
      accessorKeyword "fdel" deleter].filterMap id))

/-- Binds `attr` in the class body to a property with the accessors there are. -/
def setAccessor (c : Class) (attr : String) (getter setter deleter : Option Reference) : Class :=
  let bare := c.unbind attr
  { bare with body := bare.body ++ [accessorBinding attr getter setter deleter] }

end ClassDef

end Loom
