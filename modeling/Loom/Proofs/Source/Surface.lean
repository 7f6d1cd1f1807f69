import Loom.Tree.Render

/-!
# What a text shows of a tree

Source text shows a woven reference as an attribute of a name, and an import under its own name as
a plain import. The `surface` of a tree is the tree with these replaced; it has the same text.
-/

namespace Loom

/-! ## Surfaces -/

namespace Expr

mutual
/-- The expression with every woven reference as the attribute that it is written as. -/
def surface : Expr → Expr
  | .name id => .name id
  | .attribute value attr => .attribute (surface value) attr
  | .call func args keywords => .call (surface func) (surfaces args) (surfaceKeywords keywords)
  | .constant c => .constant c
  | .tuple items => .tuple (surfaces items)
  | .list items => .list (surfaces items)
  | .compare left op right => .compare (surface left) op (surface right)
  | .binOp left op right => .binOp (surface left) op (surface right)
  | .woven w => .attribute (.name w.shortName) w.declName

def surfaces : List Expr → List Expr
  | [] => []
  | e :: es => surface e :: surfaces es

def surfaceKeywords : List (Keyword Expr) → List (Keyword Expr)
  | [] => []
  | ⟨arg, value⟩ :: rest => ⟨arg, surface value⟩ :: surfaceKeywords rest
end

@[simp] theorem surfaces_eq_map (es : List Expr) : surfaces es = es.map surface := by
  induction es with
  | nil => rfl
  | cons e es ih => simp [surfaces, ih]

@[simp] theorem surfaceKeywords_eq_map (ks : List (Keyword Expr)) :
    surfaceKeywords ks = ks.map fun k => ⟨k.arg, k.value.surface⟩ := by
  induction ks with
  | nil => rfl
  | cons k ks ih => simp [surfaceKeywords, ih]

end Expr

def Param.surface (p : Param) : Param := ⟨p.name, p.default.map Expr.surface⟩

/-- The alias without a new name that is the old one. -/
def Alias.surface (a : Alias) : Alias := ⟨a.name, a.asName.filter (· ≠ a.name)⟩

namespace Stmt

mutual
/-- The statement with the surfaces of its expressions, parameters and aliases. -/
def surface : Stmt → Stmt
  | .functionDef ⟨name, params, decorators, body⟩ =>
    .functionDef ⟨name, params.map Param.surface, decorators.map Expr.surface, surfaceBlock body⟩
  | .classDef ⟨name, bases, keywords, decorators, body⟩ =>
    .classDef ⟨name, bases.map Expr.surface, Expr.surfaceKeywords keywords,
      decorators.map Expr.surface, surfaceBlock body⟩
  | .assign targets value => .assign (targets.map Expr.surface) value.surface
  | .expr e => .expr e.surface
  | .ret value => .ret (value.map Expr.surface)
  | .delete targets => .delete (targets.map Expr.surface)
  | .pass => .pass
  | .importNames names => .importNames (names.map Alias.surface)
  | .importFrom module names => .importFrom module (names.map Alias.surface)
  | .ifElse test body orelse => .ifElse test.surface (surfaceBlock body) (surfaceBlock orelse)
  | .forLoop target iter body => .forLoop target.surface iter.surface (surfaceBlock body)
  | .whileLoop test body => .whileLoop test.surface (surfaceBlock body)
  | .global names => .global names

def surfaceBlock : List Stmt → List Stmt
  | [] => []
  | s :: rest => surface s :: surfaceBlock rest
end

@[simp] theorem surfaceBlock_eq_map (body : List Stmt) : surfaceBlock body = body.map surface := by
  induction body with
  | nil => rfl
  | cons s rest ih => simp [surfaceBlock, ih]

end Stmt

def Module.surface (m : Module) : Module := ⟨m.body.map Stmt.surface⟩

/-! ## The text of the surface -/

namespace Expr

theorem isOperation_surface (e : Expr) : e.surface.isOperation = e.isOperation := by
  cases e <;> rfl

mutual
theorem source_surface : ∀ e : Expr, e.surface.source = e.source
  | .name id => by rw [surface]
  | .attribute value attr => by
    simp [surface, source, operand, isOperation_surface, source_surface value]
  | .call func args keywords => by
    simp [surface, source, operand, isOperation_surface, source_surface func,
      sources_surface args, keywordSources_surface keywords]
  | .constant c => by rw [surface]
  | .tuple [] => by rw [surface, surfaces]
  | .tuple [item] => by simp [surface, source, source_surface item]
  | .tuple (first :: second :: items) => by
    have := sources_surface (first :: second :: items)
    simp_all [surface, source]
  | .list items => by simp [surface, source, sources_surface items]
  | .compare left op right => by
    simp [surface, source, operand, isOperation_surface, source_surface left,
      source_surface right]
  | .binOp left op right => by
    simp [surface, source, operand, isOperation_surface, source_surface left,
      source_surface right]
  | .woven w => by simp [surface, source, operand, isOperation]

theorem sources_surface : ∀ es : List Expr, sources (es.map surface) = sources es
  | [] => rfl
  | e :: es => by simp [sources, source_surface e, sources_surface es]

theorem keywordSources_surface : ∀ ks : List (Keyword Expr),
    keywordSources (ks.map fun k => ⟨k.arg, k.value.surface⟩) = keywordSources ks
  | [] => rfl
  | ⟨arg, value⟩ :: ks => by
    simp [keywordSources, source_surface value, keywordSources_surface ks]
end
end Expr

theorem Param.source_surface (p : Param) : p.surface.source = p.source := by
  obtain ⟨name, _ | default⟩ := p <;> simp [surface, source, Expr.source_surface]

theorem Alias.source_surface (a : Alias) : a.surface.source = a.source := by
  obtain ⟨name, _ | asName⟩ := a
  · rfl
  · by_cases same : asName = name <;> simp [surface, source, same, Option.filter_some]

namespace Stmt

theorem decoratorLines_surface (depth : Nat) (ds : List Expr) :
    decoratorLines depth (ds.map Expr.surface) = decoratorLines depth ds := by
  simp [decoratorLines, Function.comp_def, Expr.source_surface]

theorem simpleText_surface (s : Stmt) : s.surface.simpleText = s.simpleText := by
  cases s with
  | functionDef f => rfl
  | classDef c => rfl
  | ret value => cases value <;> simp [surface, simpleText, Expr.source_surface]
  | _ => simp [surface, simpleText, Expr.source_surface, Expr.sources_surface, Function.comp_def,
      Alias.source_surface]

mutual
theorem lines_surface (depth : Nat) : ∀ s : Stmt, s.surface.lines depth = s.lines depth
  | .functionDef ⟨name, params, decorators, body⟩ => by
    simp [surface, lines, decoratorLines_surface, FunctionDef.header, Function.comp_def,
      Param.source_surface, suite_surface (depth + 1) body]
  | .classDef ⟨name, bases, keywords, decorators, body⟩ => by
    simp [surface, lines, decoratorLines_surface, ClassDef.header,
      Expr.sources_surface, Expr.keywordSources_surface, suite_surface (depth + 1) body]
  | .ifElse test body [] => by
    simp [surface, lines, Expr.source_surface, suite_surface (depth + 1) body]
  | .ifElse test body (s :: orelse) => by
    simp [surface, lines, Expr.source_surface, suite_surface (depth + 1) body,
      lines_surface (depth + 1) s, blockLines_surface (depth + 1) orelse]
  | .forLoop target iter body => by
    simp [surface, lines, Expr.source_surface, suite_surface (depth + 1) body]
  | .whileLoop test body => by
    simp [surface, lines, Expr.source_surface, suite_surface (depth + 1) body]
  | .assign targets value => by simp [surface, lines, ← simpleText_surface (.assign targets value)]
  | .expr e => by simp [surface, lines, ← simpleText_surface (.expr e)]
  | .ret value => by simp [surface, lines, ← simpleText_surface (.ret value)]
  | .delete targets => by simp [surface, lines, ← simpleText_surface (.delete targets)]
  | .pass => rfl
  | .importNames names => by simp [surface, lines, ← simpleText_surface (.importNames names)]
  | .importFrom module names => by
    simp [surface, lines, ← simpleText_surface (.importFrom module names)]
  | .global names => rfl

theorem blockLines_surface (depth : Nat) : ∀ body : List Stmt,
    blockLines depth (body.map surface) = blockLines depth body
  | [] => rfl
  | s :: rest => by simp [blockLines, lines_surface depth s, blockLines_surface depth rest]

theorem suite_surface (depth : Nat) : ∀ body : List Stmt,
    suite depth (body.map surface) = suite depth body
  | [] => rfl
  | s :: rest => by simp [suite, lines_surface depth s, blockLines_surface depth rest]
end
end Stmt

theorem Module.source_surface (m : Module) : m.surface.source = m.source := by
  rw [Module.source, Module.lines, Module.surface, Stmt.blockLines_surface]
  rfl

end Loom
