import Loom.Proofs.Path.Spelling
import Loom.Tree.Check
import Loom.Weave.Header
import Loom.Weave.Method

/-!
# Respelled trees

A tree with the files of its woven references under other spellings (`respell`). What is read off a
tree does not change with them: its names, its preamble, how methods are bound and which attributes
they assign. The check does not look at files either, but it shows the target that it refuses; so
targets are respelled on their own.
-/

namespace Loom

/-! ## Expressions -/

def Woven.respell (f : FilePath → FilePath) (r : Woven) : Woven :=
  { r with sourceFile := f r.sourceFile }

namespace Expr

mutual
def respell (f : FilePath → FilePath) : Expr → Expr
  | .name id => .name id
  | .attribute value attr => .attribute (respell f value) attr
  | .call func args keywords =>
    .call (respell f func) (respellAll f args) (respellKeywords f keywords)
  | .constant c => .constant c
  | .tuple items => .tuple (respellAll f items)
  | .list items => .list (respellAll f items)
  | .compare left op right => .compare (respell f left) op (respell f right)
  | .binOp left op right => .binOp (respell f left) op (respell f right)
  | .woven r => .woven (r.respell f)

def respellAll (f : FilePath → FilePath) : List Expr → List Expr
  | [] => []
  | e :: es => respell f e :: respellAll f es

def respellKeywords (f : FilePath → FilePath) : List (Keyword Expr) → List (Keyword Expr)
  | [] => []
  | ⟨arg, value⟩ :: rest => ⟨arg, respell f value⟩ :: respellKeywords f rest
end

variable (f : FilePath → FilePath)

theorem respellAll_eq_map (es : List Expr) : respellAll f es = es.map (respell f) := by
  induction es with
  | nil => rfl
  | cons e es ih => rw [respellAll, ih, List.map_cons]

mutual
theorem names_respell : ∀ e : Expr, (e.respell f).names = e.names
  | .name _ | .constant _ | .woven _ => by simp [respell, names]
  | .attribute value _ => by simp [respell, names, names_respell value]
  | .call func args keywords => by
    simp [respell, names, names_respell func, namesIn_respellAll args,
      keywordNames_respellKeywords keywords]
  | .tuple items => by simp [respell, names, namesIn_respellAll items]
  | .list items => by simp [respell, names, namesIn_respellAll items]
  | .compare left _ right => by simp [respell, names, names_respell left, names_respell right]
  | .binOp left _ right => by simp [respell, names, names_respell left, names_respell right]

theorem namesIn_respellAll : ∀ es : List Expr, namesIn (respellAll f es) = namesIn es
  | [] => rfl
  | e :: es => by simp [respellAll, namesIn, names_respell e, namesIn_respellAll es]

theorem keywordNames_respellKeywords :
    ∀ ks : List (Keyword Expr), keywordNames (respellKeywords f ks) = keywordNames ks
  | [] => rfl
  | ⟨_, value⟩ :: ks => by
    simp [respellKeywords, keywordNames, names_respell value, keywordNames_respellKeywords ks]
end

mutual
theorem check_respell : ∀ e : Expr, (e.respell f).check = e.check
  | .name _ | .constant _ => by simp [respell]
  | .woven _ => by simp [respell, check, Woven.respell]
  | .attribute value _ => by simp [respell, check, check_respell value]
  | .call func args keywords => by
    simp [respell, check, check_respell func, checkAll_respellAll args,
      checkKeywords_respellKeywords keywords]
  | .tuple items => by simp [respell, check, checkAll_respellAll items]
  | .list items => by simp [respell, check, checkAll_respellAll items]
  | .compare left _ right => by simp [respell, check, check_respell left, check_respell right]
  | .binOp left _ right => by simp [respell, check, check_respell left, check_respell right]

theorem checkAll_respellAll : ∀ es : List Expr, checkAll (respellAll f es) = checkAll es
  | [] => rfl
  | e :: es => by simp [respellAll, checkAll, check_respell e, checkAll_respellAll es]

theorem checkKeywords_respellKeywords :
    ∀ ks : List (Keyword Expr), checkKeywords (respellKeywords f ks) = checkKeywords ks
  | [] => rfl
  | ⟨_, value⟩ :: ks => by
    simp [respellKeywords, checkKeywords, check_respell value, checkKeywords_respellKeywords ks]
end

mutual
theorem respell_id : ∀ e : Expr, e.respell id = e
  | .name _ | .constant _ => by simp [respell]
  | .woven _ => by simp [respell, Woven.respell]
  | .attribute value _ => by simp [respell, respell_id value]
  | .call func args keywords => by
    simp [respell, respell_id func, respellAll_id args, respellKeywords_id keywords]
  | .tuple items => by simp [respell, respellAll_id items]
  | .list items => by simp [respell, respellAll_id items]
  | .compare left _ right => by simp [respell, respell_id left, respell_id right]
  | .binOp left _ right => by simp [respell, respell_id left, respell_id right]

theorem respellAll_id : ∀ es : List Expr, respellAll id es = es
  | [] => rfl
  | e :: es => by simp [respellAll, respell_id e, respellAll_id es]

theorem respellKeywords_id : ∀ ks : List (Keyword Expr), respellKeywords id ks = ks
  | [] => rfl
  | ⟨_, value⟩ :: ks => by simp [respellKeywords, respell_id value, respellKeywords_id ks]
end

@[simp] theorem asName?_respell (e : Expr) : (e.respell f).asName? = e.asName? := by
  cases e <;> simp [respell, asName?]

@[simp] theorem isName_respell (name : String) (e : Expr) :
    (e.respell f).isName name = e.isName name := by
  simp [isName]

mutual
theorem receiverTargets_respell (receiver : String) :
    ∀ e : Expr, (e.respell f).receiverTargets receiver = e.receiverTargets receiver
  | .attribute _ _ => by simp [respell, receiverTargets]
  | .tuple items => by simp [respell, receiverTargets, receiverTargetsIn_respellAll receiver items]
  | .list items => by simp [respell, receiverTargets, receiverTargetsIn_respellAll receiver items]
  | .name _ | .call .. | .constant _ | .compare .. | .binOp .. | .woven _ => by
    simp [respell, receiverTargets]

theorem receiverTargetsIn_respellAll (receiver : String) : ∀ es : List Expr,
    receiverTargetsIn receiver (respellAll f es) = receiverTargetsIn receiver es
  | [] => rfl
  | e :: es => by
    simp [respellAll, receiverTargetsIn, receiverTargets_respell receiver e,
      receiverTargetsIn_respellAll receiver es]
end

end Expr

namespace Keyword

def respell (f : FilePath → FilePath) (k : Keyword Expr) : Keyword Expr :=
  { k with value := k.value.respell f }

end Keyword

theorem Expr.respellKeywords_eq_map (f : FilePath → FilePath) (ks : List (Keyword Expr)) :
    respellKeywords f ks = ks.map (Keyword.respell f) := by
  induction ks with
  | nil => rfl
  | cons k ks ih => rw [respellKeywords, ih, List.map_cons, Keyword.respell]

namespace Param

def respell (f : FilePath → FilePath) (p : Param) : Param :=
  { p with default := p.default.map (·.respell f) }

variable (f : FilePath → FilePath) (p : Param)

theorem names_respell : (p.respell f).names = p.names := by
  obtain ⟨name, default⟩ := p
  cases default <;> simp [names, respell, Expr.optionalNames, Expr.names_respell]

theorem check_respell : (p.respell f).check = p.check := by
  obtain ⟨name, default⟩ := p
  cases default <;> simp [check, respell, Expr.check_respell]

end Param

/-! ## Statements -/

namespace Stmt

mutual
/-- Files are respelled by `f`, and in what is assigned to or deleted by `g`. -/
def respell (f g : FilePath → FilePath) : Stmt → Stmt
  | .functionDef ⟨name, params, decorators, body⟩ =>
    .functionDef ⟨name, params.map (·.respell f), Expr.respellAll f decorators,
      respellBlock f g body⟩
  | .classDef ⟨name, bases, keywords, decorators, body⟩ =>
    .classDef ⟨name, Expr.respellAll f bases, Expr.respellKeywords f keywords,
      Expr.respellAll f decorators, respellBlock f g body⟩
  | .assign targets value => .assign (Expr.respellAll g targets) (value.respell f)
  | .expr value => .expr (value.respell f)
  | .ret value => .ret (value.map (·.respell f))
  | .delete targets => .delete (Expr.respellAll g targets)
  | .pass => .pass
  | .importNames names => .importNames names
  | .importFrom module names => .importFrom module names
  | .ifElse test body orelse =>
    .ifElse (test.respell f) (respellBlock f g body) (respellBlock f g orelse)
  | .forLoop target iter body =>
    .forLoop (target.respell g) (iter.respell f) (respellBlock f g body)
  | .whileLoop test body => .whileLoop (test.respell f) (respellBlock f g body)
  | .global names => .global names

def respellBlock (f g : FilePath → FilePath) : List Stmt → List Stmt
  | [] => []
  | s :: rest => respell f g s :: respellBlock f g rest
end

variable (f g : FilePath → FilePath)

theorem respellBlock_eq_map (body : List Stmt) :
    respellBlock f g body = body.map (respell f g) := by
  induction body with
  | nil => rfl
  | cons s rest ih => rw [respellBlock, ih, List.map_cons]

theorem respellBlock_append (body more : List Stmt) :
    respellBlock f g (body ++ more) = respellBlock f g body ++ respellBlock f g more := by
  simp only [respellBlock_eq_map, List.map_append]

open Loom.Expr (namesIn_respellAll checkAll_respellAll checkKeywords_respellKeywords)

theorem namesIn_values_respellKeywords (ks : List (Keyword Expr)) :
    Expr.namesIn ((Expr.respellKeywords f ks).map (·.value)) =
      Expr.namesIn (ks.map (·.value)) := by
  have values : (Expr.respellKeywords f ks).map (·.value) =
      Expr.respellAll f (ks.map (·.value)) := by
    simp [Expr.respellKeywords_eq_map, Expr.respellAll_eq_map, Keyword.respell]
  rw [values, namesIn_respellAll]

mutual
theorem names_respell : ∀ s : Stmt, (s.respell f g).names = s.names
  | .functionDef ⟨_, params, decorators, body⟩ => by
    simp [respell, names, namesIn_respellAll, List.flatMap_map, Param.names_respell,
      blockNames_respellBlock body]
  | .classDef ⟨_, bases, keywords, decorators, body⟩ => by
    simp [respell, names, namesIn_respellAll, namesIn_values_respellKeywords,
      blockNames_respellBlock body]
  | .assign targets value => by simp [respell, names, namesIn_respellAll, Expr.names_respell]
  | .expr value => by simp [respell, names, Expr.names_respell]
  | .ret value => by cases value <;> simp [respell, names, Expr.optionalNames, Expr.names_respell]
  | .delete targets => by simp [respell, names, namesIn_respellAll]
  | .pass | .importNames _ | .importFrom .. | .global _ => by simp [respell]
  | .ifElse test body orelse => by
    simp [respell, names, Expr.names_respell, blockNames_respellBlock body,
      blockNames_respellBlock orelse]
  | .forLoop target iter body => by
    simp [respell, names, Expr.names_respell, blockNames_respellBlock body]
  | .whileLoop test body => by
    simp [respell, names, Expr.names_respell, blockNames_respellBlock body]

theorem blockNames_respellBlock :
    ∀ body : List Stmt, blockNames (respellBlock f g body) = blockNames body
  | [] => rfl
  | s :: rest => by
    simp [respellBlock, blockNames, names_respell s, blockNames_respellBlock rest]
end

theorem checkEach_params (params : List Param) :
    checkEach Param.check (params.map (·.respell f)) = checkEach Param.check params := by
  induction params with
  | nil => rfl
  | cons p params ih => simp only [List.map_cons, checkEach, Param.check_respell, ih]

theorem checkNonEmpty_respellBlock (owner : BlockOwner) (body : List Stmt) :
    checkNonEmpty owner (respellBlock f g body) = checkNonEmpty owner body := by
  simp [checkNonEmpty, respellBlock_eq_map]

mutual
/-- The check does not look at files, and shows none but those of targets. -/
theorem check_respell : ∀ s : Stmt, (s.respell f id).check = s.check
  | .functionDef ⟨_, params, decorators, body⟩ => by
    simp [respell, check, checkEach_params, checkAll_respellAll, checkNonEmpty_respellBlock,
      checkBlock_respellBlock body]
  | .classDef ⟨_, bases, keywords, decorators, body⟩ => by
    simp [respell, check, checkAll_respellAll, checkKeywords_respellKeywords,
      checkNonEmpty_respellBlock, checkBlock_respellBlock body]
  | .assign targets value => by simp [respell, check, Expr.respellAll_id, Expr.check_respell]
  | .expr value => by simp [respell, check, Expr.check_respell]
  | .ret value => by cases value <;> simp [respell, check, Expr.check_respell]
  | .delete targets => by simp [respell, check, Expr.respellAll_id]
  | .pass | .importNames _ | .importFrom .. | .global _ => by simp [respell]
  | .ifElse test body orelse => by
    simp [respell, check, Expr.check_respell, checkNonEmpty_respellBlock,
      checkBlock_respellBlock body, checkBlock_respellBlock orelse]
  | .forLoop target iter body => by
    simp [respell, check, Expr.respell_id, Expr.check_respell, checkNonEmpty_respellBlock,
      checkBlock_respellBlock body]
  | .whileLoop test body => by
    simp [respell, check, Expr.check_respell, checkNonEmpty_respellBlock,
      checkBlock_respellBlock body]

theorem checkBlock_respellBlock :
    ∀ body : List Stmt, checkBlock (respellBlock f id body) = checkBlock body
  | [] => rfl
  | s :: rest => by
    simp [respellBlock, checkBlock, check_respell s, checkBlock_respellBlock rest]
end

mutual
theorem receiverAssigns_respell (receiver : String) :
    ∀ s : Stmt, (s.respell f g).receiverAssigns receiver = s.receiverAssigns receiver
  | .assign targets _ => by
    simp [respell, receiverAssigns, Expr.receiverTargetsIn_respellAll]
  | .ifElse _ body orelse => by
    simp [respell, receiverAssigns, blockReceiverAssigns_respellBlock receiver body,
      blockReceiverAssigns_respellBlock receiver orelse]
  | .forLoop target _ body => by
    simp [respell, receiverAssigns, Expr.receiverTargets_respell,
      blockReceiverAssigns_respellBlock receiver body]
  | .whileLoop _ body => by
    simp [respell, receiverAssigns, blockReceiverAssigns_respellBlock receiver body]
  | .functionDef _ | .classDef _ | .expr _ | .ret _ | .delete _ | .pass | .importNames _
  | .importFrom .. | .global _ => by simp [respell, receiverAssigns]

theorem blockReceiverAssigns_respellBlock (receiver : String) : ∀ body : List Stmt,
    blockReceiverAssigns receiver (respellBlock f g body) = blockReceiverAssigns receiver body
  | [] => rfl
  | s :: rest => by
    simp [respellBlock, blockReceiverAssigns, receiverAssigns_respell receiver s,
      blockReceiverAssigns_respellBlock receiver rest]
end

/-! ## Preambles -/

theorem isDocString_respell (s : Stmt) : (s.respell f g).isDocString = s.isDocString := by
  cases s with
  | expr value => cases value <;> simp [respell, Expr.respell, isDocString]
  | _ => simp [respell, isDocString]

theorem isFutureImport_respell (s : Stmt) : isFutureImport (s.respell f g) = isFutureImport s := by
  cases s <;> simp [respell, isFutureImport]

theorem splitPreamble_respellBlock (body : List Stmt) :
    splitPreamble (respellBlock f g body) =
      (respellBlock f g (splitPreamble body).1, respellBlock f g (splitPreamble body).2) := by
  have future : isFutureImport ∘ respell f g = isFutureImport :=
    funext (isFutureImport_respell f g)
  cases body with
  | nil => rfl
  | cons s rest =>
    simp only [respellBlock_eq_map, List.map_cons, splitPreamble, isDocString_respell]
    split
    · simp only [List.map_cons, List.takeWhile_map, List.dropWhile_map, future]
    · simp only [← List.map_cons, List.takeWhile_map, List.dropWhile_map, future]

end Stmt

/-! ## Declarations -/

namespace FunctionDef

def respell (f g : FilePath → FilePath) (func : Function) : Function :=
  ⟨func.name, func.params.map (·.respell f), Expr.respellAll f func.decorators,
    Stmt.respellBlock f g func.body⟩

variable (f g : FilePath → FilePath) (func : Function)

theorem receiverAttributes_respell :
    (func.respell f g).receiverAttributes = func.receiverAttributes := by
  obtain ⟨name, params, decorators, body⟩ := func
  cases params <;>
    simp [respell, receiverAttributes, Param.respell, Stmt.blockReceiverAssigns_respellBlock]

end FunctionDef

namespace ClassDef

def respell (f g : FilePath → FilePath) (c : Class) : Class :=
  ⟨c.name, Expr.respellAll f c.bases, Expr.respellKeywords f c.keywords,
    Expr.respellAll f c.decorators, Stmt.respellBlock f g c.body⟩

variable (f g : FilePath → FilePath) (c : Class)

theorem methods_respell : (c.respell f g).methods = c.methods.map (FunctionDef.respell f g) := by
  simp only [methods, respell, Stmt.respellBlock_eq_map, List.filterMap_map, List.map_filterMap]
  refine List.filterMap_congr fun s _ => ?_
  cases s <;> simp [Stmt.respell, FunctionDef.respell]

theorem ofDecorators_respell (decorators : List Expr) :
    MethodKind.ofDecorators (Expr.respellAll f decorators) = .ofDecorators decorators := by
  simp only [MethodKind.ofDecorators, Expr.respellAll_eq_map, List.findSome?_map]
  congr 2
  funext e
  simp [MethodKind.ofExpr?]

theorem rebinding?_respell (name : String) (s : Stmt) :
    MethodKind.rebinding? name (s.respell f g) = MethodKind.rebinding? name s := by
  cases s with
  | assign targets value =>
    cases value <;>
      simp [Stmt.respell, Expr.respell, MethodKind.rebinding?, MethodKind.ofExpr?,
        Expr.respellAll_eq_map, Function.comp_def]
  | _ => simp [Stmt.respell, MethodKind.rebinding?]

theorem methodKind_respell (method : Function) :
    (c.respell f g).methodKind (method.respell f g) = c.methodKind method := by
  have rebound : (Stmt.respellBlock f g c.body).filterMap (MethodKind.rebinding? method.name) =
      c.body.filterMap (MethodKind.rebinding? method.name) := by
    rw [Stmt.respellBlock_eq_map, List.filterMap_map]
    exact List.filterMap_congr fun s _ => rebinding?_respell f g method.name s
  simp only [methodKind, respell, FunctionDef.respell, rebound, ofDecorators_respell]

theorem instanceAttributes_respell :
    (c.respell f g).instanceAttributes = c.instanceAttributes := by
  have kinds : (fun m : Function => (c.respell f g).methodKind m == .perInstance) ∘
      FunctionDef.respell f g = fun m => c.methodKind m == .perInstance := by
    funext m
    simp [methodKind_respell]
  simp only [instanceAttributes, instanceMethods, methods_respell, List.filter_map, kinds,
    List.flatMap_map, FunctionDef.receiverAttributes_respell]

end ClassDef

namespace Stmt

variable (f g : FilePath → FilePath)

theorem respell_functionDef (func : Function) :
    (Stmt.functionDef func).respell f g = .functionDef (func.respell f g) := by
  rw [respell, FunctionDef.respell]

theorem respell_classDef (c : Class) :
    (Stmt.classDef c).respell f g = .classDef (c.respell f g) := by
  rw [respell, ClassDef.respell]

end Stmt

/-! ## Modules -/

namespace Module

def respell (f g : FilePath → FilePath) (m : Module) : Module := ⟨Stmt.respellBlock f g m.body⟩

variable (f g : FilePath → FilePath) (m : Module)

theorem names_respell : (m.respell f g).names = m.names := by
  simp [names, respell, Stmt.blockNames_respellBlock]

end Module

end Loom
