import Loom.Proofs.Aspect.Respelling
import Loom.Proofs.Except
import Loom.Proofs.Tree.Respelling
import Loom.Proofs.Weave.WellFormed

/-!
# Weaving respelled worklists

Every step of a weaving commutes with respelling: done with the tidy form of a worklist on a tree
with tidy files, it gives what it gives without, in tidy form. Two worklists that differ in spelling
have one tidy form, so weaving them comes out the same: with the same error, or with trees that are
the same up to the spelling of files and of the directories in the import header.
-/

namespace Loom

open FilePath (tidy)

variable (g : FilePath → FilePath)

/-! ## Edits -/

theorem Reference.woven_tidied (r : Reference) : r.tidied.woven = r.woven.respell tidy := by
  simp [woven, Expr.respell, Woven.respell, tidied, shortName]

theorem Keyword.respellKeywords_set (f : FilePath → FilePath) (arg : String) (value : Expr)
    (ks : List (Keyword Expr)) : Expr.respellKeywords f (set arg value ks) =
      set arg (value.respell f) (Expr.respellKeywords f ks) := by
  induction ks with
  | nil => rfl
  | cons k ks ih =>
    simp only [set, Expr.respellKeywords]
    split
    · rfl
    · rw [Expr.respellKeywords, ih]

namespace Stmt

theorem unbind?_respell (f : FilePath → FilePath) (name : String) (s : Stmt) :
    unbind? name (s.respell f g) = (unbind? name s).map (respell f g) := by
  cases s with
  | assign targets value =>
    have kept : (Expr.respellAll g targets).filter (fun t => !t.isName name) =
        Expr.respellAll g (targets.filter fun t => !t.isName name) := by
      simp [Expr.respellAll_eq_map, List.filter_map, Function.comp_def]
    have none_kept : (Expr.respellAll g (targets.filter fun t => !t.isName name)).isEmpty =
        (targets.filter fun t => !t.isName name).isEmpty := by
      rw [Expr.respellAll_eq_map, List.isEmpty_map]
    simp only [respell, unbind?, kept, none_kept]
    split <;> simp [respell]
  | _ => simp [respell, unbind?]

end Stmt

namespace ClassDef

variable (c : Class)

theorem unbind_respell (f : FilePath → FilePath) (name : String) :
    (c.respell f g).unbind name = (c.unbind name).respell f g := by
  have body : (Stmt.respellBlock f g c.body).filterMap (Stmt.unbind? name) =
      Stmt.respellBlock f g (c.body.filterMap (Stmt.unbind? name)) := by
    rw [Stmt.respellBlock_eq_map, Stmt.respellBlock_eq_map, List.filterMap_map, List.map_filterMap]
    exact List.filterMap_congr fun s _ => Stmt.unbind?_respell g f name s
  simp only [unbind, respell, body]

theorem respellBlock_fillBody (f : FilePath → FilePath) (body : List Stmt) :
    Stmt.respellBlock f g (fillBody body) = fillBody (Stmt.respellBlock f g body) := by
  cases body <;> simp [fillBody, Stmt.respellBlock, Stmt.respell]

theorem setHook_tidied (hook : Reference) :
    (c.respell tidy g).setHook hook.tidied = (c.setHook hook).respell tidy g := by
  rw [setHook, setHook, unbind_respell]
  simp only [respell, respellBlock_fillBody, Keyword.respellKeywords_set, Reference.woven_tidied]

theorem accessorBinding_tidied (attr : String) (getter setter deleter : Option Reference) :
    accessorBinding attr (getter.map Reference.tidied) (setter.map Reference.tidied)
      (deleter.map Reference.tidied) =
        (accessorBinding attr getter setter deleter).respell tidy g := by
  cases getter <;> cases setter <;> cases deleter <;>
    simp [accessorBinding, Stmt.assignName, accessorKeyword, Stmt.respell, Expr.respell,
      Expr.respellAll, Expr.respellKeywords, Reference.woven_tidied]

theorem accessWith_tidied (a : Advice) (attr : String) :
    accessWith a.tidied attr (c.respell tidy g) = (accessWith a attr c).respell tidy g := by
  cases a with
  | accessorTriple p getter setter deleter =>
    simp only [Advice.tidied, Advice.mapReferences, accessWith, setAccessor, unbind_respell,
      accessorBinding_tidied g]
    simp [respell, Stmt.respellBlock_append, Stmt.respellBlock]
  | _ => rfl

end ClassDef

/-! ## Declarations -/

def Test.tidied (t : Test) : Test := ⟨t.advice.tidied, t.address⟩

theorem Test.matched_tidied (t : Test) : t.tidied.matched = t.matched := by
  simp [matched, tidied, Advice.tidied, Advice.isMatch]

/-- A part that is respelled, and the tests in tidy form. -/
def Tried.respell {α : Type} (respell : α → α) (t : Tried α) : Tried α :=
  ⟨respell t.node, t.tests.map Test.tidied⟩

namespace Worklist

variable (w : Worklist)

theorem wrappersAt_tidied (path : String) :
    w.tidied.wrappersAt path = (w.wrappersAt path).map Reference.tidied := by
  simp only [wrappersAt, advices_tidied, List.filterMap_map, List.map_filterMap]
  refine List.filterMap_congr fun a _ => ?_
  cases a with
  | functionWrapper p r =>
    simp only [Function.comp_apply, Advice.tidied, Advice.mapReferences]
    split <;> rfl
  | _ => rfl

theorem hooksAt_tidied (path : String) :
    w.tidied.hooksAt path = (w.hooksAt path).map Reference.tidied := by
  simp only [hooksAt, advices_tidied, List.filterMap_map, List.map_filterMap]
  refine List.filterMap_congr fun a _ => ?_
  cases a with
  | classHook p r =>
    simp only [Function.comp_apply, Advice.tidied, Advice.mapReferences]
    split <;> rfl
  | _ => rfl

end Worklist

variable (w : Worklist) (address : Address)

theorem FunctionDef.weave_tidied (func : Function) :
    (func.respell tidy g).weave w.tidied address =
      (func.weave w address).respell (FunctionDef.respell tidy g) := by
  have wrappers : ((w.wrappersAt address.text).map Reference.tidied).reverse.map Reference.woven =
      Expr.respellAll tidy ((w.wrappersAt address.text).reverse.map Reference.woven) := by
    simp [Expr.respellAll_eq_map, Reference.woven_tidied, Function.comp_def]
  rw [weave_eq, weave_eq, Worklist.wrappersAt_tidied, wrappers, Worklist.functionWrappers,
    Worklist.ofKind_tidied]
  simp [Tried.respell, respell, Expr.respellAll_eq_map, Worklist.functionWrappers, Test.tidied,
    Function.comp_def]

namespace ClassDef

theorem trials_tidied (attributes : List String) :
    trials w.tidied attributes = (trials w attributes).map fun t => (t.1.tidied, t.2) := by
  simp [trials, Worklist.accessorTriples, Worklist.ofKind_tidied, List.flatMap_map,
    List.map_flatMap, Function.comp_def]

theorem foldl_setHook_tidied (c : Class) (hooks : List Reference) :
    (hooks.map Reference.tidied).foldl setHook (c.respell tidy g) =
      (hooks.foldl setHook c).respell tidy g := by
  rw [List.foldl_map]
  exact List.foldl_hom (respell tidy g) fun c hook => setHook_tidied g c hook

theorem foldl_accessWith_tidied (c : Class) (trials : List (Advice × String)) :
    (trials.map fun t => (t.1.tidied, t.2)).foldl (fun c t => accessWith t.1 t.2 c)
        (c.respell tidy g) =
      (trials.foldl (fun c t => accessWith t.1 t.2 c) c).respell tidy g := by
  rw [List.foldl_map]
  exact List.foldl_hom (respell tidy g) fun c t => accessWith_tidied g c t.1 t.2

theorem weave_tidied (c : Class) : (c.respell tidy g).weave w.tidied address =
    (c.weave w address).respell (ClassDef.respell tidy g) := by
  have matching (t : Advice × String) :
      t.1.tidied.isMatch (address.child t.2) = t.1.isMatch (address.child t.2) :=
    Test.matched_tidied ⟨t.1, address.child t.2⟩
  simp only [weave_eq, Worklist.hooksAt_tidied, foldl_setHook_tidied, instanceAttributes_respell,
    trials_tidied, List.filter_map, Function.comp_def, matching, foldl_accessWith_tidied,
    Worklist.classHooks, Worklist.ofKind_tidied, Tried.respell, List.map_append, List.map_map,
    Test.tidied]

end ClassDef

/-! ## The walk -/

namespace Stmt

theorem map_node_respell {body : List Stmt}
    (ih : ∀ s ∈ body, (s.respell tidy g).weave w.tidied address =
      (s.weave w address).respell (Stmt.respell tidy g)) :
    ((respellBlock tidy g body).map fun s => (s.weave w.tidied address).node) =
      respellBlock tidy g (body.map fun s => (s.weave w address).node) := by
  simp only [respellBlock_eq_map, List.map_map]
  refine List.map_congr_left fun s hs => ?_
  simp only [Function.comp_apply, ih s hs, Tried.respell]

theorem flatMap_tests_respell {body : List Stmt}
    (ih : ∀ s ∈ body, (s.respell tidy g).weave w.tidied address =
      (s.weave w address).respell (Stmt.respell tidy g)) :
    ((respellBlock tidy g body).flatMap fun s => (s.weave w.tidied address).tests) =
      (body.flatMap fun s => (s.weave w address).tests).map Test.tidied := by
  simp only [respellBlock_eq_map, List.flatMap_map, List.map_flatMap]
  refine List.flatMap_congr fun s hs => ?_
  simp only [ih s hs, Tried.respell]

/-- A walk with the tidy worklist on a respelled statement gives the respelled result. -/
theorem weave_tidied : ∀ (address : Address) (s : Stmt),
    (s.respell tidy g).weave w.tidied address =
      (s.weave w address).respell (Stmt.respell tidy g) := by
  refine walk_induct w ?function ?cls ?ifElse ?forLoop ?whileLoop ?simple
  case function =>
    intro address func ih
    have name : (func.respell tidy g).name = func.name := rfl
    rw [respell_functionDef, weave_functionDef, weave_functionDef, FunctionDef.weave_tidied, name]
    simp only [Tried.respell, FunctionDef.respell, respell, map_node_respell g w _ ih,
      flatMap_tests_respell g w _ ih, List.map_append]
  case cls =>
    intro address c ih
    have name : (c.respell tidy g).name = c.name := rfl
    rw [respell_classDef, weave_classDef, weave_classDef, ClassDef.weave_tidied, name]
    simp only [Tried.respell, ClassDef.respell, respell, map_node_respell g w _ ih,
      flatMap_tests_respell g w _ ih, List.map_append]
  case ifElse =>
    intro address test body orelse ihBody ihElse
    simp only [respell, weave_ifElse, Tried.respell, map_node_respell g w _ ihBody,
      map_node_respell g w _ ihElse, flatMap_tests_respell g w _ ihBody,
      flatMap_tests_respell g w _ ihElse, List.map_append]
  case forLoop =>
    intro address target iter body ih
    simp only [respell, weave_forLoop, Tried.respell, map_node_respell g w _ ih,
      flatMap_tests_respell g w _ ih]
  case whileLoop =>
    intro address test body ih
    simp only [respell, weave_whileLoop, Tried.respell, map_node_respell g w _ ih,
      flatMap_tests_respell g w _ ih]
  case simple =>
    intro address s hs
    have respelled : (s.respell tidy g).isSimple = true := by
      cases s <;> simp_all [respell, isSimple]
    rw [weave_of_isSimple hs, weave_of_isSimple respelled]
    rfl

end Stmt

namespace Module

variable (m : Module) (localName : String)

theorem walk_tidied : (m.respell tidy g).walk w.tidied localName =
    (m.walk w localName).respell (respell tidy g) := by
  have all : ∀ s ∈ m.body, (s.respell tidy g).weave w.tidied (.root localName) =
      (s.weave w (.root localName)).respell (Stmt.respell tidy g) :=
    fun s _ => Stmt.weave_tidied g w _ s
  simp only [walk, respell, Tried.respell, Stmt.node_weaveBlock, Stmt.tests_weaveBlock,
    Stmt.map_node_respell g w _ all, Stmt.flatMap_tests_respell g w _ all]

theorem transform_tidied : (m.respell tidy g).transform w.tidied localName =
    (m.transform w localName).respell tidy g := by
  rw [transform, walk_tidied, Tried.respell, transform]

theorem matchedInWalk_tidied : (m.respell tidy g).matchedInWalk w.tidied localName =
    (m.matchedInWalk w localName).tidied := by
  have kept : Test.matched ∘ Test.tidied = Test.matched := funext Test.matched_tidied
  rw [matchedInWalk, matchedInWalk, ← Worklist.ofAdvices_map_tidied, tests, walk_tidied,
    Tried.respell, List.filter_map, List.map_map, List.map_map]
  simp only [kept]
  rfl

theorem matched_tidied : (m.respell tidy g).matched w.tidied localName =
    (m.matched w localName).tidied := by
  have kept : (m.matchedInWalk w localName).tidied.contains ∘ Advice.tidied =
      (m.matchedInWalk w localName).contains :=
    funext (Worklist.contains_tidied _)
  rw [matched, matched, matchedInWalk_tidied, Worklist.advices_tidied, List.filter_map, kept,
    Worklist.ofAdvices_map_tidied]

end Module

/-! ## Binding -/

variable {f g : FilePath → FilePath}

theorem Woven.respell_rebind (hf : ∀ p, (f p).Respells p) (x : Woven) :
    (x.rebind w).respell f = (x.respell f).rebind w.tidied := by
  have same : (ModuleKey.mk (f x.sourceFile) x.originModule).same
      ⟨x.sourceFile, x.originModule⟩ = true := by
    rw [ModuleKey.same, Bool.and_eq_true]
    exact ⟨hf x.sourceFile, beq_self_eq_true _⟩
  have found := w.aliasFor?_tidied same
  simp only [rebind, respell, found]
  split <;> rfl

namespace Expr

mutual
theorem respell_rebind (hf : ∀ p, (f p).Respells p) :
    ∀ e : Expr, (e.rebind w).respell f = (e.respell f).rebind w.tidied
  | .name _ | .constant _ => by simp [rebind, respell]
  | .woven x => by simp [rebind, respell, x.respell_rebind w hf]
  | .attribute value _ => by simp [rebind, respell, respell_rebind hf value]
  | .call func args keywords => by
    simp [rebind, respell, respell_rebind hf func, respellAll_rebindAll hf args,
      respellKeywords_rebindKeywords hf keywords]
  | .tuple items => by simp [rebind, respell, respellAll_rebindAll hf items]
  | .list items => by simp [rebind, respell, respellAll_rebindAll hf items]
  | .compare left _ right => by
    simp [rebind, respell, respell_rebind hf left, respell_rebind hf right]
  | .binOp left _ right => by
    simp [rebind, respell, respell_rebind hf left, respell_rebind hf right]

theorem respellAll_rebindAll (hf : ∀ p, (f p).Respells p) :
    ∀ es : List Expr, respellAll f (rebindAll w es) = rebindAll w.tidied (respellAll f es)
  | [] => rfl
  | e :: es => by simp [rebindAll, respellAll, respell_rebind hf e, respellAll_rebindAll hf es]

theorem respellKeywords_rebindKeywords (hf : ∀ p, (f p).Respells p) : ∀ ks : List (Keyword Expr),
    respellKeywords f (rebindKeywords w ks) = rebindKeywords w.tidied (respellKeywords f ks)
  | [] => rfl
  | ⟨_, value⟩ :: ks => by
    simp [rebindKeywords, respellKeywords, respell_rebind hf value,
      respellKeywords_rebindKeywords hf ks]
end

end Expr

theorem Param.respell_rebind (hf : ∀ p, (f p).Respells p) (p : Param) :
    (p.rebind w).respell f = (p.respell f).rebind w.tidied := by
  simp [rebind, respell, Function.comp_def, Expr.respell_rebind w hf]

namespace Stmt

open Loom.Expr (respellAll_rebindAll respellKeywords_rebindKeywords)

mutual
theorem respell_rebind (hf : ∀ p, (f p).Respells p) (hg : ∀ p, (g p).Respells p) :
    ∀ s : Stmt, (s.rebind w).respell f g = (s.respell f g).rebind w.tidied
  | .functionDef ⟨_, params, decorators, body⟩ => by
    simp [rebind, respell, Param.respell_rebind w hf, respellAll_rebindAll w hf,
      respellBlock_rebindBlock hf hg body]
  | .classDef ⟨_, bases, keywords, decorators, body⟩ => by
    simp [rebind, respell, respellAll_rebindAll w hf, respellKeywords_rebindKeywords w hf,
      respellBlock_rebindBlock hf hg body]
  | .assign targets value => by
    simp [rebind, respell, respellAll_rebindAll w hg, Expr.respell_rebind w hf]
  | .expr e => by simp [rebind, respell, Expr.respell_rebind w hf]
  | .ret value => by simp [rebind, respell, Function.comp_def, Expr.respell_rebind w hf]
  | .delete targets => by simp [rebind, respell, respellAll_rebindAll w hg]
  | .pass | .importNames _ | .importFrom .. | .global _ => by simp [rebind, respell]
  | .ifElse test body orelse => by
    simp [rebind, respell, Expr.respell_rebind w hf, respellBlock_rebindBlock hf hg body,
      respellBlock_rebindBlock hf hg orelse]
  | .forLoop target iter body => by
    simp [rebind, respell, Expr.respell_rebind w hf, Expr.respell_rebind w hg,
      respellBlock_rebindBlock hf hg body]
  | .whileLoop test body => by
    simp [rebind, respell, Expr.respell_rebind w hf, respellBlock_rebindBlock hf hg body]

theorem respellBlock_rebindBlock (hf : ∀ p, (f p).Respells p) (hg : ∀ p, (g p).Respells p) :
    ∀ body : List Stmt,
      respellBlock f g (rebindBlock w body) = rebindBlock w.tidied (respellBlock f g body)
  | [] => rfl
  | s :: rest => by
    simp [rebindBlock, respellBlock, respell_rebind hf hg s, respellBlock_rebindBlock hf hg rest]
end

end Stmt

/-! ## Results -/

namespace Stmt

/-- The same statements, when files are compared by their components. -/
def SameBlock (body body' : List Stmt) : Prop :=
  respellBlock tidy tidy body = respellBlock tidy tidy body'

theorem checkBlock_append (body more : List Stmt) :
    checkBlock (body ++ more) = checkBlock body >>= fun _ => checkBlock more := by
  induction body with
  | nil => rfl
  | cons s rest ih =>
    simp only [List.cons_append, checkBlock, ih]
    cases s.check <;> rfl

/-- Targets keep their spelling here, so a flaw shows the same target. -/
theorem checkBlock_eq_of_respell {body body' : List Stmt}
    (h : respellBlock tidy id body = respellBlock tidy id body') :
    checkBlock body = checkBlock body' := by
  rw [← checkBlock_respellBlock tidy body, h, checkBlock_respellBlock tidy body']

/-- The check of a header does not look at its paths. -/
theorem checkBlock_header {paths paths' : List FilePath}
    (h : List.Forall₂ FilePath.Respells paths paths') (modules : List (String × String)) :
    checkBlock (header paths modules) = checkBlock (header paths' modules) := by
  cases h with
  | nil => rfl
  | cons => simp [header, searchPathHeader, checkBlock, check_searchPathLoop]

end Stmt

namespace Module

/-- The same tree up to the spelling of files and of the paths in an import header. -/
def Respells (m m' : Module) : Prop :=
  ∃ before after before' after' paths paths' modules,
    m = ⟨before ++ Stmt.header paths modules ++ after⟩ ∧
    m' = ⟨before' ++ Stmt.header paths' modules ++ after'⟩ ∧
    Stmt.SameBlock before before' ∧ Stmt.SameBlock after after' ∧
    List.Forall₂ FilePath.Respells paths paths'

theorem Respells.refl (m : Module) : m.Respells m :=
  ⟨m.body, [], m.body, [], [], [], [], by simp [Stmt.header, Stmt.searchPathHeader],
    by simp [Stmt.header, Stmt.searchPathHeader], rfl, rfl, .nil⟩

variable {m m' : Module} {v v' : Worklist}

theorem bindModules_of_isEmpty_eq_false (h : v.isEmpty = false) : m.bindModules v =
    ⟨Stmt.rebindBlock v (Stmt.splitPreamble m.body).1 ++ Stmt.header v.searchPaths v.modules ++
      Stmt.rebindBlock v (Stmt.splitPreamble m.body).2⟩ := by
  have header := Stmt.rebindBlock_header v v.searchPaths v.modules
  rw [Stmt.rebindBlock_eq_map] at header
  simp [bindModules_eq, h, addImports, rebind, Stmt.rebindBlock_eq_map, header]

/-- What stands around the header is the same. -/
theorem respellBlock_around (hg : ∀ p, (g p).Respells p)
    (same : m.respell tidy g = m'.respell tidy g) (h : v.Respells v') :
    Stmt.respellBlock tidy g (Stmt.rebindBlock v (Stmt.splitPreamble m.body).1) =
        Stmt.respellBlock tidy g (Stmt.rebindBlock v' (Stmt.splitPreamble m'.body).1) ∧
      Stmt.respellBlock tidy g (Stmt.rebindBlock v (Stmt.splitPreamble m.body).2) =
        Stmt.respellBlock tidy g (Stmt.rebindBlock v' (Stmt.splitPreamble m'.body).2) := by
  have split := congrArg (fun m : Module => Stmt.splitPreamble m.body) same
  simp only [respell, Stmt.splitPreamble_respellBlock, Prod.mk.injEq] at split
  have rebound := fun (w : Worklist) (body : List Stmt) =>
    Stmt.respellBlock_rebindBlock w FilePath.tidy_respells hg body
  rw [rebound, rebound, rebound, rebound, Worklist.tidied_eq_iff.2 h, split.1, split.2]
  exact ⟨rfl, rfl⟩

/-- Bound trees are the same and pass or fail the check in the same way. -/
theorem bindModules_respells
    (same : ∀ g : FilePath → FilePath, m.respell tidy g = m'.respell tidy g)
    (h : v.Respells v') (some : v.isEmpty = false) :
    (m.bindModules v).Respells (m'.bindModules v') ∧
      (m.bindModules v).validate = (m'.bindModules v').validate := by
  have some' : v'.isEmpty = false := by
    rw [← v'.isEmpty_tidied, ← Worklist.tidied_eq_iff.2 h, v.isEmpty_tidied, some]
  have modules : v'.modules = v.modules := by
    rw [← v'.modules_tidied, ← Worklist.tidied_eq_iff.2 h, v.modules_tidied]
  have paths := Worklist.searchPaths_respells h
  rw [bindModules_of_isEmpty_eq_false some, bindModules_of_isEmpty_eq_false some', modules]
  constructor
  · obtain ⟨before, after⟩ := respellBlock_around FilePath.tidy_respells (same tidy) h
    exact ⟨_, _, _, _, _, _, _, rfl, rfl, before, after, paths⟩
  · obtain ⟨before, after⟩ := respellBlock_around (g := id) FilePath.Respells.refl (same id) h
    rw [validate, validate, check, check, Stmt.checkBlock_append, Stmt.checkBlock_append,
      Stmt.checkBlock_append, Stmt.checkBlock_append, Stmt.checkBlock_eq_of_respell before,
      Stmt.checkBlock_eq_of_respell after, Stmt.checkBlock_header paths]

end Module

namespace ModuleFile

/-- Outcomes of weaving respelled worklists into one module: the trees are the same up to spelling,
the matched advices have the same aliases, and the registered directories come in one order. -/
structure Outcome.Respells (o o' : Outcome) : Prop where
  woven : o.woven = o'.woven
  file : o.module.file = o'.module.file
  base : o.module.base = o'.module.base
  localName : o.module.localName = o'.module.localName
  tree : Option.Rel Module.Respells o.module.tree o'.module.tree
  matched : o.module.matched.Respells o'.module.matched
  registry : List.Forall₂ FilePath.Respells o.registry.entries o'.registry.entries

variable {t t' : Module} {v v' w w' : Worklist} {attempts : Nat}

theorem mangle_respells (h : v.Respells v') (names : List String) :
    Except.Agree (fun u u' => u.Respells u' ∧ u.isEmpty = v.isEmpty)
      (v.mangle names attempts).1 (v'.mangle names attempts).1 := by
  have mangled : (v.mangle names attempts).1.map Worklist.tidied =
      (v'.mangle names attempts).1.map Worklist.tidied := by
    rw [← Worklist.mangle_tidied, ← Worklist.mangle_tidied, Worklist.tidied_eq_iff.2 h]
  cases done : (v.mangle names attempts).1 with
  | error e =>
    cases done' : (v'.mangle names attempts).1 with
    | error e' =>
      rw [done, done'] at mangled
      exact Except.error.inj mangled ▸ .error e
    | ok u' => rw [done, done'] at mangled; cases mangled
  | ok u =>
    cases done' : (v'.mangle names attempts).1 with
    | error e' => rw [done, done'] at mangled; cases mangled
    | ok u' =>
      rw [done, done'] at mangled
      exact .ok ⟨Worklist.tidied_eq_iff.1 (Except.ok.inj mangled),
        Worklist.isEmpty_of_mangle_eq_ok done⟩

theorem bindMatched_respells
    (same : ∀ g : FilePath → FilePath, t.respell tidy g = t'.respell tidy g)
    (h : v.Respells v') (some : v.isEmpty = false) :
    Except.Agree (fun r r' => r.1.Respells r'.1 ∧ r.2.Respells r'.2) (bindMatched t v attempts)
      (bindMatched t' v' attempts) := by
  have names : t'.names = t.names := by
    rw [← t'.names_respell tidy id, ← same id, t.names_respell]
  rw [bindMatched, bindMatched, names]
  refine (mangle_respells h t.names).bind ?_
  rintro u u' ⟨mangled, kept⟩
  obtain ⟨bound, validated⟩ := Module.bindModules_respells same mangled (kept.trans some)
  simp only [validated]
  exact (Except.Agree.refl (R := Eq) (fun _ => rfl) _).bind fun _ _ _ => .ok ⟨bound, mangled⟩

/-- Weaving does not depend on how the files of references are spelled. -/
theorem weave_respells (h : w.Respells w') (m : ModuleFile) (registry : Registry)
    (attempts : Nat) :
    Except.Agree Outcome.Respells (m.weave w registry attempts)
      (m.weave w' registry attempts) := by
  rw [weave_eq, weave_eq]
  refine (Except.Agree.refl (R := Eq) (fun _ => rfl) m.loaded).bind ?_
  rintro tree _ rfl
  have edited (g : FilePath → FilePath) : (tree.transform w m.localName).respell tidy g =
      (tree.transform w' m.localName).respell tidy g := by
    rw [← Module.transform_tidied, ← Module.transform_tidied, Worklist.tidied_eq_iff.2 h]
  have matched : (tree.matched w m.localName).Respells (tree.matched w' m.localName) := by
    rw [← Worklist.tidied_eq_iff, ← Module.matched_tidied id, ← Module.matched_tidied id,
      Worklist.tidied_eq_iff.2 h]
  have tree_same : Option.Rel Module.Respells m.tree m.tree := by
    cases m.tree with
    | none => exact .none
    | some t => exact .some (.refl t)
  have registry_same : List.Forall₂ FilePath.Respells registry.entries registry.entries :=
    List.forall₂_same.2 fun p _ => .refl p
  have empty : (tree.matched w' m.localName).isEmpty = (tree.matched w m.localName).isEmpty := by
    rw [← Worklist.isEmpty_tidied, ← Worklist.tidied_eq_iff.2 matched, Worklist.isEmpty_tidied]
  simp only [empty]
  split
  · exact .ok ⟨rfl, rfl, rfl, rfl, tree_same, matched, registry_same⟩
  · next some =>
    refine (bindMatched_respells edited matched (by simpa using some)).bind ?_
    rintro ⟨bound, u⟩ ⟨bound', u'⟩ ⟨bound_same, mangled⟩
    refine .ok ⟨rfl, rfl, rfl, rfl, .some bound_same, mangled, ?_⟩
    rw [Registry.entries_registerAll, Registry.entries_registerAll]
    exact List.rel_append registry_same
      (newPaths_respells registry_same (Worklist.searchPaths_respells mangled))

/-- Two wrappers from one module, whose file is spelled in these two ways. -/
def tracingTwice (file file' : FilePath) : Worklist :=
  .ofAdvices [.functionWrapper ⟨"", .look .start⟩ (.ofParts "log" "traced" file),
    .functionWrapper ⟨"", .look .start⟩ (.ofParts "log" "timed" file')]

theorem advices_tracingTwice (file file' : FilePath) : (tracingTwice file file').advices =
    [.functionWrapper ⟨"", .look .start⟩ (.ofParts "log" "traced" file),
      .functionWrapper ⟨"", .look .start⟩ (.ofParts "log" "timed" file')] := by
  refine Worklist.advices_ofAdvices (List.pairwise_pair.2 ?_)
  have other : (Reference.ofParts "log" "traced" file).same (.ofParts "log" "timed" file') =
      false := by
    rw [← Bool.not_eq_true, Reference.same_iff]
    simp [Reference.identity, Reference.ofParts]
  simp [Advice.same, Advice.slots, Advice.sameSlots, Advice.sameSlot, other]

def spelledApart : Worklist := tracingTwice ⟨"/lib/log.py"⟩ ⟨"//lib/./log.py"⟩

def spelledAlike : Worklist := tracingTwice ⟨"/lib/log.py"⟩ ⟨"/lib/log.py"⟩

/-- Two spellings of a file in one worklist: its module gets one alias, and its directory is
registered once, just as under one spelling. -/
theorem weave_respells_tracing : spelledApart.Respells spelledAlike ∧
    ∃ o o', jobFile.weave spelledApart .empty 1 = .ok o ∧
      jobFile.weave spelledAlike .empty 1 = .ok o' ∧ o.Respells o' ∧
      o.module.matched.references.map (·.shortName) = ["log_", "log_"] ∧
      o.module.matched.references.map (·.searchRoot) = [⟨"/lib"⟩, ⟨"//lib"⟩] ∧
      o.registry.entries = [⟨"/lib"⟩] := by
  have file : FilePath.Respells ⟨"//lib/./log.py"⟩ ⟨"/lib/log.py"⟩ := by
    rw [FilePath.respells_iff]
    decide
  have respelled : spelledApart.Respells spelledAlike := by
    rw [Worklist.Respells, spelledApart, spelledAlike, advices_tracingTwice, advices_tracingTwice]
    exact .cons ⟨rfl, rfl, .cons (.some ⟨rfl, rfl, rfl, .refl _⟩) .nil⟩
      (.cons ⟨rfl, rfl, .cons (.some ⟨rfl, rfl, rfl, file⟩) .nil⟩ .nil)
  have run : ((jobFile.weave spelledApart .empty 1).toOption.any fun o =>
      o.module.matched.references.map (·.shortName) == ["log_", "log_"] &&
        o.module.matched.references.map (·.searchRoot) == [⟨"/lib"⟩, ⟨"//lib"⟩] &&
        o.registry.entries == [⟨"/lib"⟩]) = true := by
    simp only [weave_eq, loaded, jobFile, bindMatched, Module.matched, Module.matchedInWalk,
      Module.tests, Module.transform, walk_job, bind, Except.bind]
    decide +kernel
  have agree := weave_respells respelled jobFile .empty 1
  generalize jobFile.weave spelledApart .empty 1 = result,
    jobFile.weave spelledAlike .empty 1 = result' at run agree ⊢
  cases agree with
  | error e => cases run
  | ok related =>
    simp only [Except.toOption, Option.any_some, Bool.and_eq_true, beq_iff_eq] at run
    obtain ⟨⟨aliases, roots⟩, entries⟩ := run
    exact ⟨respelled, _, _, rfl, rfl, related, aliases, roots, entries⟩

end ModuleFile

end Loom
