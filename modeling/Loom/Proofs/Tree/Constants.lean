import Loom.Proofs.Tree.Occurrence

/-!
# The constants of a tree

`EveryConstant P` says that all constants of an expression, a statement or a module satisfy `P`, at
every depth; one equation per constructor takes it apart. A module is `FloatFree` when none of its
constants is a double.
-/

namespace Loom

namespace Expr

/-- All constants in the expression satisfy `P`. -/
def EveryConstant (P : Constant → Prop) (e : Expr) : Prop := ∀ c, .constant c ∈ e.subterms → P c

section

variable {P : Constant → Prop}

theorem everyConstant_of_items {items : List Expr} :
    (∀ c, .constant c ∈ subtermsIn items → P c) ↔ ∀ e ∈ items, e.EveryConstant P := by
  simp only [mem_subtermsIn, EveryConstant]
  constructor
  · exact fun h e he c hc => h c ⟨e, he, hc⟩
  · rintro h c ⟨e, he, hc⟩
    exact h e he c hc

theorem everyConstant_of_keywords {keywords : List (Keyword Expr)} :
    (∀ c, .constant c ∈ keywordSubterms keywords → P c) ↔
      ∀ k ∈ keywords, k.value.EveryConstant P := by
  simp only [mem_keywordSubterms, EveryConstant]
  constructor
  · exact fun h k hk c hc => h c ⟨k, hk, hc⟩
  · rintro h c ⟨k, hk, hc⟩
    exact h k hk c hc

@[simp] theorem everyConstant_name (id : String) : (name id).EveryConstant P := by
  simp [EveryConstant, subterms]

@[simp] theorem everyConstant_attribute {value : Expr} {attr : String} :
    (Expr.attribute value attr).EveryConstant P ↔ value.EveryConstant P := by
  simp [EveryConstant, subterms]

@[simp] theorem everyConstant_call {func : Expr} {args : List Expr}
    {keywords : List (Keyword Expr)} :
    (call func args keywords).EveryConstant P ↔ func.EveryConstant P ∧
      (∀ a ∈ args, a.EveryConstant P) ∧ ∀ k ∈ keywords, k.value.EveryConstant P := by
  rw [← everyConstant_of_items, ← everyConstant_of_keywords]
  simp only [EveryConstant, subterms, List.cons_append, List.mem_cons, reduceCtorEq, false_or,
    List.mem_append, or_imp, forall_and]
  exact and_assoc

@[simp] theorem everyConstant_constant {c : Constant} : (constant c).EveryConstant P ↔ P c := by
  simp [EveryConstant, subterms]

@[simp] theorem everyConstant_tuple {items : List Expr} :
    (tuple items).EveryConstant P ↔ ∀ e ∈ items, e.EveryConstant P := by
  rw [← everyConstant_of_items]
  simp [EveryConstant, subterms]

@[simp] theorem everyConstant_list {items : List Expr} :
    (list items).EveryConstant P ↔ ∀ e ∈ items, e.EveryConstant P := by
  rw [← everyConstant_of_items]
  simp [EveryConstant, subterms]

@[simp] theorem everyConstant_compare {left right : Expr} {op : CmpOp} :
    (compare left op right).EveryConstant P ↔ left.EveryConstant P ∧ right.EveryConstant P := by
  simp [EveryConstant, subterms, or_imp, forall_and]

@[simp] theorem everyConstant_binOp {left right : Expr} {op : BinOp} :
    (binOp left op right).EveryConstant P ↔ left.EveryConstant P ∧ right.EveryConstant P := by
  simp [EveryConstant, subterms, or_imp, forall_and]

@[simp] theorem everyConstant_woven (w : Woven) : (woven w).EveryConstant P := by
  simp [EveryConstant, subterms]

end

end Expr

/-- All constants in the default satisfy `P`. -/
def Param.EveryConstant (P : Constant → Prop) (p : Param) : Prop :=
  ∀ e ∈ p.default, e.EveryConstant P

theorem Param.everyConstant_iff {P : Constant → Prop} {p : Param} :
    p.EveryConstant P ↔ ∀ c, .constant c ∈ Expr.optionalSubterms p.default → P c := by
  obtain ⟨name, _ | default⟩ := p <;>
    simp [EveryConstant, Expr.EveryConstant, Expr.optionalSubterms]

namespace Stmt

/-- All constants in the statement satisfy `P`. -/
def EveryConstant (P : Constant → Prop) (s : Stmt) : Prop := ∀ c, .constant c ∈ s.subterms → P c

section

variable {P : Constant → Prop}

theorem everyConstant_block {body : List Stmt} :
    (∀ c, .constant c ∈ blockSubterms body → P c) ↔ ∀ s ∈ body, s.EveryConstant P := by
  simp only [mem_blockSubterms, EveryConstant]
  constructor
  · exact fun h s hs c hc => h c ⟨s, hs, hc⟩
  · rintro h c ⟨s, hs, hc⟩
    exact h s hs c hc

@[simp] theorem everyConstant_functionDef {f : Function} :
    (functionDef f).EveryConstant P ↔ (∀ d ∈ f.decorators, d.EveryConstant P) ∧
      (∀ p ∈ f.params, p.EveryConstant P) ∧ ∀ s ∈ f.body, s.EveryConstant P := by
  have defaults : (∀ c, .constant c ∈ f.params.flatMap (fun p => Expr.optionalSubterms p.default) →
      P c) ↔ ∀ p ∈ f.params, p.EveryConstant P := by
    simp only [List.mem_flatMap, Param.everyConstant_iff]
    constructor
    · exact fun h p hp c hc => h c ⟨p, hp, hc⟩
    · rintro h c ⟨p, hp, hc⟩
      exact h p hp c hc
  rw [← Expr.everyConstant_of_items, ← everyConstant_block, ← defaults]
  simp only [EveryConstant, subterms, List.mem_append, or_imp, forall_and]
  exact and_assoc

@[simp] theorem everyConstant_classDef {c : Class} :
    (classDef c).EveryConstant P ↔ (∀ d ∈ c.decorators, d.EveryConstant P) ∧
      (∀ b ∈ c.bases, b.EveryConstant P) ∧ (∀ k ∈ c.keywords, k.value.EveryConstant P) ∧
      ∀ s ∈ c.body, s.EveryConstant P := by
  rw [← Expr.everyConstant_of_items, ← Expr.everyConstant_of_items,
    ← Expr.everyConstant_of_keywords, ← everyConstant_block]
  simp only [EveryConstant, subterms, List.mem_append, or_imp, forall_and, and_assoc]

@[simp] theorem everyConstant_assign {targets : List Expr} {value : Expr} :
    (assign targets value).EveryConstant P ↔
      (∀ t ∈ targets, t.EveryConstant P) ∧ value.EveryConstant P := by
  rw [← Expr.everyConstant_of_items]
  simp [EveryConstant, Expr.EveryConstant, subterms, or_imp, forall_and]

@[simp] theorem everyConstant_expr {e : Expr} : (expr e).EveryConstant P ↔ e.EveryConstant P :=
  Iff.rfl

@[simp] theorem everyConstant_ret {value : Option Expr} :
    (ret value).EveryConstant P ↔ ∀ e ∈ value, e.EveryConstant P := by
  cases value <;> simp [EveryConstant, Expr.EveryConstant, subterms, Expr.optionalSubterms]

@[simp] theorem everyConstant_delete {targets : List Expr} :
    (delete targets).EveryConstant P ↔ ∀ t ∈ targets, t.EveryConstant P :=
  Expr.everyConstant_of_items

@[simp] theorem everyConstant_pass : pass.EveryConstant P := by
  simp [EveryConstant, subterms]

@[simp] theorem everyConstant_importNames (names : List Alias) :
    (importNames names).EveryConstant P := by
  simp [EveryConstant, subterms]

@[simp] theorem everyConstant_importFrom (module : String) (names : List Alias) :
    (importFrom module names).EveryConstant P := by
  simp [EveryConstant, subterms]

@[simp] theorem everyConstant_global (names : List String) : (global names).EveryConstant P := by
  simp [EveryConstant, subterms]

@[simp] theorem everyConstant_ifElse {test : Expr} {body orelse : List Stmt} :
    (ifElse test body orelse).EveryConstant P ↔ test.EveryConstant P ∧
      (∀ s ∈ body, s.EveryConstant P) ∧ ∀ s ∈ orelse, s.EveryConstant P := by
  rw [← everyConstant_block, ← everyConstant_block]
  simp only [EveryConstant, Expr.EveryConstant, subterms, List.mem_append, or_imp, forall_and]
  exact and_assoc

@[simp] theorem everyConstant_forLoop {target iter : Expr} {body : List Stmt} :
    (forLoop target iter body).EveryConstant P ↔ target.EveryConstant P ∧ iter.EveryConstant P ∧
      ∀ s ∈ body, s.EveryConstant P := by
  rw [← everyConstant_block]
  simp only [EveryConstant, Expr.EveryConstant, subterms, List.mem_append, or_imp, forall_and]
  exact and_assoc

@[simp] theorem everyConstant_whileLoop {test : Expr} {body : List Stmt} :
    (whileLoop test body).EveryConstant P ↔
      test.EveryConstant P ∧ ∀ s ∈ body, s.EveryConstant P := by
  rw [← everyConstant_block]
  simp only [EveryConstant, Expr.EveryConstant, subterms, List.mem_append, or_imp, forall_and]

end

end Stmt

namespace Module

def EveryConstant (P : Constant → Prop) (m : Module) : Prop := ∀ c, .constant c ∈ m.subterms → P c

/-- No constant of the module is a double. -/
def FloatFree (m : Module) : Prop := m.EveryConstant fun c => ∀ x, c ≠ .float x

theorem everyConstant_iff {P : Constant → Prop} {m : Module} :
    m.EveryConstant P ↔ ∀ s ∈ m.body, s.EveryConstant P :=
  Stmt.everyConstant_block

end Module

end Loom
