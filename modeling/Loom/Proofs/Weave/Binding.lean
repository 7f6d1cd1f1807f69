import Mathlib.Data.List.TakeWhile
import Loom.Proofs.Aspect.Alias
import Loom.Proofs.Weave.Bound

/-!
# What binding leaves alone

Binding the modules of a worklist cuts a body after its longest preamble, puts the header there, and
changes nothing else but aliases: without their aliases (`unaliased`) the trees before and after are
the same, and the woven references at corresponding places (`Stmt.blockWoven`) are those before,
each under the alias of its module if the worklist refers to it.
-/

namespace Loom

/-! ## Trees without aliases -/

/-- The reference, whatever alias it is written under. -/
def Woven.unaliased (r : Woven) : Woven := { r with shortName := "" }

namespace Expr

mutual
def unaliased : Expr → Expr
  | .name id => .name id
  | .attribute value attr => .attribute (unaliased value) attr
  | .call func args keywords =>
    .call (unaliased func) (unaliasedAll args) (unaliasedKeywords keywords)
  | .constant c => .constant c
  | .tuple items => .tuple (unaliasedAll items)
  | .list items => .list (unaliasedAll items)
  | .compare left op right => .compare (unaliased left) op (unaliased right)
  | .binOp left op right => .binOp (unaliased left) op (unaliased right)
  | .woven r => .woven r.unaliased

def unaliasedAll : List Expr → List Expr
  | [] => []
  | e :: es => unaliased e :: unaliasedAll es

def unaliasedKeywords : List (Keyword Expr) → List (Keyword Expr)
  | [] => []
  | ⟨arg, value⟩ :: rest => ⟨arg, unaliased value⟩ :: unaliasedKeywords rest
end

/-- The reference that a woven expression is. -/
def woven? : Expr → Option Woven
  | .woven r => some r
  | _ => none

end Expr

def Param.unaliased (p : Param) : Param := { p with default := p.default.map (·.unaliased) }

namespace Stmt

mutual
def unaliased : Stmt → Stmt
  | .functionDef ⟨name, params, decorators, body⟩ =>
    .functionDef ⟨name, params.map (·.unaliased), Expr.unaliasedAll decorators,
      unaliasedBlock body⟩
  | .classDef ⟨name, bases, keywords, decorators, body⟩ =>
    .classDef ⟨name, Expr.unaliasedAll bases, Expr.unaliasedKeywords keywords,
      Expr.unaliasedAll decorators, unaliasedBlock body⟩
  | .assign targets value => .assign (Expr.unaliasedAll targets) value.unaliased
  | .expr value => .expr value.unaliased
  | .ret value => .ret (value.map (·.unaliased))
  | .delete targets => .delete (Expr.unaliasedAll targets)
  | .pass => .pass
  | .importNames names => .importNames names
  | .importFrom module names => .importFrom module names
  | .ifElse test body orelse =>
    .ifElse test.unaliased (unaliasedBlock body) (unaliasedBlock orelse)
  | .forLoop target iter body =>
    .forLoop target.unaliased iter.unaliased (unaliasedBlock body)
  | .whileLoop test body => .whileLoop test.unaliased (unaliasedBlock body)
  | .global names => .global names

def unaliasedBlock : List Stmt → List Stmt
  | [] => []
  | s :: rest => unaliased s :: unaliasedBlock rest
end

/-- The woven references of a block, at every depth and in the order of a walk. -/
def blockWoven (body : List Stmt) : List Woven := (blockSubterms body).filterMap Expr.woven?

end Stmt

/-! ## Rebinding -/

variable (w : Worklist)

/-- `y` is `x` under the alias of its module if the worklist refers to that, else `x` itself. -/
structure Woven.IsReboundAs (w : Worklist) (x y : Woven) : Prop where
  unaliased : y.unaliased = x.unaliased
  shortName : (∃ r ∈ w.references, r.moduleKey.same x.moduleKey = true) →
    w.aliasFor? x.moduleKey = some y.shortName
  other : (∀ r ∈ w.references, r.moduleKey.same x.moduleKey = false) → y = x

theorem Woven.unaliased_rebind (x : Woven) : (x.rebind w).unaliased = x.unaliased := by
  unfold rebind
  split <;> rfl

theorem Woven.isReboundAs_rebind (x : Woven) : IsReboundAs w x (x.rebind w) where
  unaliased := x.unaliased_rebind w
  shortName := by
    rintro ⟨r, hr, same⟩
    obtain ⟨short, found⟩ := Option.ne_none_iff_exists'.1 (Worklist.aliasFor?_ne_none hr same)
    have taken : (x.rebind w).shortName = short := by
      rw [moduleKey] at found
      rw [rebind, found]
    rw [found, taken]
  other := by
    intro none
    obtain ⟨r, hr, same, -⟩ | ⟨eq, -⟩ := x.rebind_cases w
    · have key : (x.rebind w).moduleKey = x.moduleKey := by unfold rebind; split <;> rfl
      rw [key, none r hr] at same
      cases same
    · exact eq

namespace Expr

mutual
theorem unaliased_rebind : ∀ e : Expr, (e.rebind w).unaliased = e.unaliased
  | .name _ | .constant _ => by simp [rebind, unaliased]
  | .attribute value _ => by simp [rebind, unaliased, unaliased_rebind value]
  | .call func args keywords => by
    simp [rebind, unaliased, unaliased_rebind func, unaliasedAll_rebindAll args,
      unaliasedKeywords_rebindKeywords keywords]
  | .tuple items => by simp [rebind, unaliased, unaliasedAll_rebindAll items]
  | .list items => by simp [rebind, unaliased, unaliasedAll_rebindAll items]
  | .compare left _ right => by
    simp [rebind, unaliased, unaliased_rebind left, unaliased_rebind right]
  | .binOp left _ right => by
    simp [rebind, unaliased, unaliased_rebind left, unaliased_rebind right]
  | .woven r => by simp [rebind, unaliased, r.unaliased_rebind w]

theorem unaliasedAll_rebindAll :
    ∀ es : List Expr, unaliasedAll (rebindAll w es) = unaliasedAll es
  | [] => rfl
  | e :: es => by simp [rebindAll, unaliasedAll, unaliased_rebind e, unaliasedAll_rebindAll es]

theorem unaliasedKeywords_rebindKeywords : ∀ ks : List (Keyword Expr),
    unaliasedKeywords (rebindKeywords w ks) = unaliasedKeywords ks
  | [] => rfl
  | ⟨_, value⟩ :: ks => by
    simp [rebindKeywords, unaliasedKeywords, unaliased_rebind value,
      unaliasedKeywords_rebindKeywords ks]
end

theorem woven?_rebind (e : Expr) : (e.rebind w).woven? = e.woven?.map (Woven.rebind w) := by
  cases e <;> simp [rebind, woven?]

end Expr

theorem Param.unaliased_rebind (p : Param) : (p.rebind w).unaliased = p.unaliased := by
  simp [unaliased, rebind, Function.comp_def, Expr.unaliased_rebind]

namespace Stmt

open Loom.Expr (unaliasedAll_rebindAll unaliasedKeywords_rebindKeywords)

mutual
theorem unaliased_rebind : ∀ s : Stmt, (s.rebind w).unaliased = s.unaliased
  | .functionDef ⟨_, params, decorators, body⟩ => by
    simp [rebind, unaliased, unaliasedAll_rebindAll, Param.unaliased_rebind,
      unaliasedBlock_rebindBlock body]
  | .classDef ⟨_, bases, keywords, decorators, body⟩ => by
    simp [rebind, unaliased, unaliasedAll_rebindAll, unaliasedKeywords_rebindKeywords,
      unaliasedBlock_rebindBlock body]
  | .assign targets value => by
    simp [rebind, unaliased, unaliasedAll_rebindAll, Expr.unaliased_rebind]
  | .expr e => by simp [rebind, unaliased, Expr.unaliased_rebind]
  | .ret value => by simp [rebind, unaliased, Function.comp_def, Expr.unaliased_rebind]
  | .delete targets => by simp [rebind, unaliased, unaliasedAll_rebindAll]
  | .pass | .importNames _ | .importFrom .. | .global _ => by simp [rebind, unaliased]
  | .ifElse test body orelse => by
    simp [rebind, unaliased, Expr.unaliased_rebind, unaliasedBlock_rebindBlock body,
      unaliasedBlock_rebindBlock orelse]
  | .forLoop target iter body => by
    simp [rebind, unaliased, Expr.unaliased_rebind, unaliasedBlock_rebindBlock body]
  | .whileLoop test body => by
    simp [rebind, unaliased, Expr.unaliased_rebind, unaliasedBlock_rebindBlock body]

theorem unaliasedBlock_rebindBlock :
    ∀ body : List Stmt, unaliasedBlock (rebindBlock w body) = unaliasedBlock body
  | [] => rfl
  | s :: rest => by
    simp [rebindBlock, unaliasedBlock, unaliased_rebind s, unaliasedBlock_rebindBlock rest]
end

theorem blockWoven_rebindBlock (body : List Stmt) :
    blockWoven (rebindBlock w body) = (blockWoven body).map (Woven.rebind w) := by
  rw [blockWoven, blockWoven, blockSubterms_rebindBlock, List.filterMap_map, List.map_filterMap]
  exact List.filterMap_congr fun e _ => e.woven?_rebind w

theorem forall₂_isReboundAs (body : List Stmt) :
    List.Forall₂ (Woven.IsReboundAs w) (blockWoven body) (blockWoven (rebindBlock w body)) := by
  rw [blockWoven_rebindBlock, List.forall₂_map_right_iff]
  exact List.forall₂_same.2 fun x _ => x.isReboundAs_rebind w

theorem rebindBlock_append (body rest : List Stmt) :
    rebindBlock w (body ++ rest) = rebindBlock w body ++ rebindBlock w rest := by
  simp only [rebindBlock_eq_map, List.map_append]

/-! ## Preambles -/

/-- An optional documentation string and `__future__` imports. -/
def IsPreamble (body : List Stmt) : Prop :=
  ∃ (doc : Option Stmt) (imports : List Stmt), body = doc.toList ++ imports ∧
    (∀ s ∈ doc, s.isDocString = true) ∧ ∀ s ∈ imports, isFutureImport s = true

theorem isPreamble_splitPreamble (body : List Stmt) : IsPreamble (splitPreamble body).1 := by
  cases body with
  | nil => exact ⟨none, [], rfl, by simp, by simp⟩
  | cons s rest =>
    rw [splitPreamble]
    split
    · next doc => exact ⟨some s, _, rfl, by simpa using doc, fun _ => List.mem_takeWhile_imp⟩
    · exact ⟨none, (s :: rest).takeWhile isFutureImport, rfl, by simp,
        fun _ => List.mem_takeWhile_imp⟩

/-- An import is no documentation. -/
theorem isFutureImport_of_isDocString {s : Stmt} (h : s.isDocString = true) :
    isFutureImport s = false := by
  cases s <;> simp_all [isFutureImport, isDocString]

theorem prefix_takeWhile {p : Stmt → Bool} {part whole : List Stmt}
    (all : ∀ s ∈ part, p s = true) (pre : part <+: whole) : part <+: whole.takeWhile p := by
  obtain ⟨rest, rfl⟩ := pre
  exact ⟨rest.takeWhile p, (List.takeWhile_append_of_pos all).symm⟩

/-- No longer prefix is a preamble. -/
theorem prefix_splitPreamble {part body : List Stmt} (h : IsPreamble part) (pre : part <+: body) :
    part <+: (splitPreamble body).1 := by
  obtain ⟨doc, imports, rfl, docs, future⟩ := h
  cases body with
  | nil => exact pre
  | cons s rest =>
    rw [splitPreamble]
    split
    · next isDoc =>
      cases doc with
      | none =>
        -- Without its documentation the body has no imports in front.
        cases imports with
        | nil => exact List.nil_prefix
        | cons i imports =>
          obtain ⟨rfl, -⟩ := List.cons_prefix_cons.1 pre
          simp [isFutureImport_of_isDocString isDoc] at future
      | some d =>
        obtain ⟨rfl, behind⟩ := List.cons_prefix_cons.1 pre
        exact List.cons_prefix_cons.2 ⟨rfl, prefix_takeWhile future behind⟩
    · next notDoc =>
      cases doc with
      | none => exact prefix_takeWhile future pre
      | some d =>
        obtain ⟨rfl, -⟩ := List.cons_prefix_cons.1 pre
        exact absurd (docs d rfl) notDoc

theorem rebind_of_isDocString {s : Stmt} (h : s.isDocString = true) : s.rebind w = s := by
  unfold isDocString at h
  split at h
  · simp [rebind, Expr.rebind]
  · cases h

theorem rebind_of_isFutureImport {s : Stmt} (h : isFutureImport s = true) : s.rebind w = s := by
  unfold isFutureImport at h
  split at h
  · simp [rebind]
  · cases h

/-- A preamble holds no woven reference, so it stays as it is. -/
theorem rebindBlock_of_isPreamble {body : List Stmt} (h : IsPreamble body) :
    rebindBlock w body = body := by
  obtain ⟨doc, imports, rfl, docs, future⟩ := h
  have each : ∀ s ∈ doc.toList ++ imports, s.rebind w = s := by
    intro s hs
    obtain hs | hs := List.mem_append.1 hs
    · exact rebind_of_isDocString w (docs s (Option.mem_toList.1 hs))
    · exact rebind_of_isFutureImport w (future s hs)
  rw [rebindBlock_eq_map, List.map_congr_left each, List.map_id']

/-! ## Imports -/

/-- `s` imports the module of the pair under its alias, and nothing else. -/
def BindsModule (pair : String × String) (s : Stmt) : Prop :=
  ∃ a : Alias, s = .importNames [a] ∧ a.name = pair.1 ∧ a.boundName = pair.2

/-- Each pair of a worklist is imported. -/
theorem forall₂_bindsModule : List.Forall₂ BindsModule w.modules
    (w.modules.map fun pair => importAs pair.1 pair.2) := by
  refine List.forall₂_map_right_iff.2 (List.forall₂_same.2 fun ⟨module, shortName⟩ mem => ?_)
  obtain ⟨r, -, rfl, rfl⟩ := Worklist.mem_modules.1 mem
  exact exists_importAs_eq r.originModule r.short

end Stmt

namespace Module

/-- Binding the modules of a worklist puts its header after the longest preamble and rebinds the
woven references of its modules; the rest stays. Nothing happens without advices. -/
theorem run_bindIn_frame (w : Worklist) (m : Module) :
    (w.isEmpty = true → (bindIn w).run m = (false, m)) ∧
    (w.isEmpty = false → ∃ preamble paths imports rest rest',
      (bindIn w).run m = (true, ⟨preamble ++ (paths ++ imports) ++ rest'⟩) ∧
      m.body = preamble ++ rest ∧
      Stmt.IsPreamble preamble ∧
      (∀ part, Stmt.IsPreamble part → part <+: m.body → part <+: preamble) ∧
      paths = (if w.searchPaths.isEmpty then []
        else [.importNames [⟨"sys", none⟩],
          .forLoop (.name "path") (.tuple (w.searchPaths.map fun p => .constant (.str p.text)))
            [.ifElse (.compare (.name "path") .notIn (.attribute (.name "sys") "path"))
              [.expr (.call (.attribute (.attribute (.name "sys") "path") "append")
                [.name "path"] [])] []]]) ∧
      List.Forall₂ Stmt.BindsModule w.modules imports ∧
      Stmt.unaliasedBlock rest' = Stmt.unaliasedBlock rest ∧
      List.Forall₂ (Woven.IsReboundAs w) (Stmt.blockWoven rest) (Stmt.blockWoven rest')) := by
  refine ⟨fun none => by rw [run_bindIn, if_pos none], fun some => ?_⟩
  have preamble := Stmt.isPreamble_splitPreamble m.body
  refine ⟨(Stmt.splitPreamble m.body).1, _, w.modules.map fun pair => Stmt.importAs pair.1 pair.2,
    (Stmt.splitPreamble m.body).2, Stmt.rebindBlock w (Stmt.splitPreamble m.body).2, ?_,
    (Stmt.splitPreamble_append m.body).symm, preamble, fun _ => Stmt.prefix_splitPreamble, rfl,
    Stmt.forall₂_bindsModule w, Stmt.unaliasedBlock_rebindBlock w _,
    Stmt.forall₂_isReboundAs w _⟩
  rw [run_bindIn, if_neg (by simp [some]), addImports, rebind, Stmt.rebindBlock_append,
    Stmt.rebindBlock_append, Stmt.rebindBlock_of_isPreamble w preamble, Stmt.rebindBlock_header]
  rfl

end Module

end Loom
