import Loom.Tree.Check

/-!
# What the check accepts

A check runs through a tree and stops at the first flaw; it accepts a tree exactly if every part of
it is accepted. These are its conditions, constructor by constructor, so that no later proof goes
through the checks themselves.
-/

namespace Loom

open Text (isIdentifier isDottedName)

namespace Checked

@[simp] theorem bind_eq_ok {a b : Checked} :
    (a >>= fun _ => b) = .ok () ↔ a = .ok () ∧ b = .ok () := by
  cases a <;> simp [bind, Except.bind]

/-- A test that raises a flaw when it fails, with what is checked after it. -/
@[simp] theorem test_eq_ok {p : Prop} [Decidable p] {flaw : Flaw} {next : Checked} :
    (if p then (do .ok (); next) else (do .error flaw; next : Checked)) = .ok () ↔
      p ∧ next = .ok () := by
  split <;> simp_all

/-- A test that raises a flaw when it succeeds. -/
@[simp] theorem test_not_eq_ok {p : Prop} [Decidable p] {flaw : Flaw} {next : Checked} :
    (if p then (do .error flaw; next) else (do .ok (); next : Checked)) = .ok () ↔
      ¬p ∧ next = .ok () := by
  split <;> simp_all

end Checked

@[simp] theorem checkName_eq_ok {role : NameRole} {name : String} :
    checkName role name = .ok () ↔ isIdentifier name = true := by
  simp [checkName]

@[simp] theorem checkEach_eq_ok {α : Type} {check : α → Checked} {as : List α} :
    checkEach check as = .ok () ↔ ∀ a ∈ as, check a = .ok () := by
  induction as with
  | nil => simp [checkEach]
  | cons a as ih => simp [checkEach, ih]

/-! ## Expressions -/

namespace Expr

section

attribute [local simp] checkAll checkKeywords checkTargets check checkTarget

@[simp] theorem checkAll_eq_ok {es : List Expr} :
    checkAll es = .ok () ↔ ∀ e ∈ es, e.check = .ok () := by
  induction es with
  | nil => simp
  | cons e es ih => simp [ih]

@[simp] theorem checkKeywords_eq_ok {ks : List (Keyword Expr)} :
    checkKeywords ks = .ok () ↔ ∀ k ∈ ks, isIdentifier k.arg = true ∧ k.value.check = .ok () := by
  induction ks with
  | nil => simp
  | cons k ks ih => simp [ih, and_assoc]

@[simp] theorem checkTargets_eq_ok {es : List Expr} :
    checkTargets es = .ok () ↔ ∀ e ∈ es, e.checkTarget = .ok () := by
  induction es with
  | nil => simp
  | cons e es ih => simp [ih]

@[simp] theorem check_name {id : String} :
    (Expr.name id).check = .ok () ↔ isIdentifier id = true := by
  simp

@[simp] theorem check_attribute {value : Expr} {attr : String} :
    (Expr.attribute value attr).check = .ok () ↔
      isIdentifier attr = true ∧ value.check = .ok () := by
  simp

@[simp] theorem check_call {func : Expr} {args : List Expr} {keywords : List (Keyword Expr)} :
    (Expr.call func args keywords).check = .ok () ↔ func.check = .ok () ∧
      (∀ e ∈ args, e.check = .ok ()) ∧
      ∀ k ∈ keywords, isIdentifier k.arg = true ∧ k.value.check = .ok () := by
  simp

@[simp] theorem check_constant {c : Constant} : (Expr.constant c).check = .ok () := by
  simp

@[simp] theorem check_tuple {items : List Expr} :
    (Expr.tuple items).check = .ok () ↔ ∀ e ∈ items, e.check = .ok () := by
  simp

@[simp] theorem check_list {items : List Expr} :
    (Expr.list items).check = .ok () ↔ ∀ e ∈ items, e.check = .ok () := by
  simp

@[simp] theorem check_compare {left right : Expr} {op : CmpOp} :
    (Expr.compare left op right).check = .ok () ↔ left.check = .ok () ∧ right.check = .ok () := by
  simp

@[simp] theorem check_binOp {left right : Expr} {op : BinOp} :
    (Expr.binOp left op right).check = .ok () ↔ left.check = .ok () ∧ right.check = .ok () := by
  simp

@[simp] theorem check_woven {w : Woven} :
    (Expr.woven w).check = .ok () ↔
      isIdentifier w.shortName = true ∧ isIdentifier w.declName = true := by
  simp

@[simp] theorem checkTarget_name {id : String} :
    (Expr.name id).checkTarget = .ok () ↔ isIdentifier id = true := by
  simp

@[simp] theorem checkTarget_attribute {value : Expr} {attr : String} :
    (Expr.attribute value attr).checkTarget = .ok () ↔
      isIdentifier attr = true ∧ value.check = .ok () := by
  simp

@[simp] theorem checkTarget_tuple {items : List Expr} :
    (Expr.tuple items).checkTarget = .ok () ↔ ∀ e ∈ items, e.checkTarget = .ok () := by
  simp

@[simp] theorem checkTarget_list {items : List Expr} :
    (Expr.list items).checkTarget = .ok () ↔ ∀ e ∈ items, e.checkTarget = .ok () := by
  simp

/-- What else there is cannot be assigned to. -/
theorem isTarget_of_checkTarget {e : Expr} (h : e.checkTarget = .ok ()) :
    (∃ id, e = .name id) ∨ (∃ value attr, e = .attribute value attr) ∨
      (∃ items, e = .tuple items) ∨ ∃ items, e = .list items := by
  cases e <;> simp_all

end

end Expr

/-! ## Parts of statements -/

@[simp] theorem Param.check_eq_ok {p : Param} :
    p.check = .ok () ↔ isIdentifier p.name = true ∧ ∀ e ∈ p.default, e.check = .ok () := by
  obtain ⟨name, default⟩ := p
  cases default <;> simp [Param.check]

@[simp] theorem checkAsName_eq_ok {asName : Option String} :
    checkAsName asName = .ok () ↔ ∀ n ∈ asName, isIdentifier n = true := by
  cases asName <;> simp [checkAsName]

@[simp] theorem Alias.checkModule_eq_ok {a : Alias} :
    a.checkModule = .ok () ↔
      isDottedName a.name = true ∧ ∀ n ∈ a.asName, isIdentifier n = true := by
  simp [Alias.checkModule]

@[simp] theorem Alias.checkMember_eq_ok {a : Alias} :
    a.checkMember = .ok () ↔
      (a.name = "*" ∨ isIdentifier a.name = true) ∧ ∀ n ∈ a.asName, isIdentifier n = true := by
  by_cases star : a.name = "*" <;> simp [Alias.checkMember, star]

@[simp] theorem checkImportFrom_eq_ok {module : String} {names : List Alias} :
    checkImportFrom module names = .ok () ↔
      (withoutLeadingDots module = "" ∨ isDottedName (withoutLeadingDots module) = true) ∧
      names ≠ [] ∧ ∀ a ∈ names, a.checkMember = .ok () := by
  simp [checkImportFrom, -Alias.checkMember_eq_ok]

@[simp] theorem checkNonEmpty_eq_ok {owner : BlockOwner} {body : List Stmt} :
    checkNonEmpty owner body = .ok () ↔ body ≠ [] := by
  simp [checkNonEmpty]

/-! ## Statements -/

namespace Stmt

section

attribute [local simp] check checkBlock

@[simp] theorem checkBlock_eq_ok {body : List Stmt} :
    checkBlock body = .ok () ↔ ∀ s ∈ body, s.check = .ok () := by
  induction body with
  | nil => simp
  | cons s rest ih => simp [ih]

@[simp] theorem check_functionDef {f : Function} :
    (Stmt.functionDef f).check = .ok () ↔ isIdentifier f.name = true ∧
      (∀ p ∈ f.params, p.check = .ok ()) ∧ (∀ e ∈ f.decorators, e.check = .ok ()) ∧
      f.body ≠ [] ∧ ∀ s ∈ f.body, s.check = .ok () := by
  simp [-Param.check_eq_ok]

@[simp] theorem check_classDef {c : Class} :
    (Stmt.classDef c).check = .ok () ↔ isIdentifier c.name = true ∧
      (∀ e ∈ c.bases, e.check = .ok ()) ∧ (∀ e ∈ c.decorators, e.check = .ok ()) ∧
      (∀ k ∈ c.keywords, isIdentifier k.arg = true ∧ k.value.check = .ok ()) ∧
      c.body ≠ [] ∧ ∀ s ∈ c.body, s.check = .ok () := by
  simp

@[simp] theorem check_assign {targets : List Expr} {value : Expr} :
    (Stmt.assign targets value).check = .ok () ↔ targets ≠ [] ∧
      (∀ e ∈ targets, e.checkTarget = .ok ()) ∧ value.check = .ok () := by
  simp

@[simp] theorem check_expr {e : Expr} : (Stmt.expr e).check = .ok () ↔ e.check = .ok () := by
  simp

@[simp] theorem check_ret {value : Option Expr} :
    (Stmt.ret value).check = .ok () ↔ ∀ e ∈ value, e.check = .ok () := by
  cases value <;> simp

@[simp] theorem check_delete {targets : List Expr} :
    (Stmt.delete targets).check = .ok () ↔ ∀ e ∈ targets, e.checkTarget = .ok () := by
  simp

@[simp] theorem check_pass : Stmt.pass.check = .ok () := by
  simp

@[simp] theorem check_importNames {names : List Alias} :
    (Stmt.importNames names).check = .ok () ↔ ∀ a ∈ names, a.checkModule = .ok () := by
  simp [-Alias.checkModule_eq_ok]

@[simp] theorem check_importFrom {module : String} {names : List Alias} :
    (Stmt.importFrom module names).check = .ok () ↔ checkImportFrom module names = .ok () := by
  simp [-checkImportFrom_eq_ok]

@[simp] theorem check_ifElse {test : Expr} {body orelse : List Stmt} :
    (Stmt.ifElse test body orelse).check = .ok () ↔ test.check = .ok () ∧ body ≠ [] ∧
      (∀ s ∈ body, s.check = .ok ()) ∧ ∀ s ∈ orelse, s.check = .ok () := by
  simp

@[simp] theorem check_forLoop {target iter : Expr} {body : List Stmt} :
    (Stmt.forLoop target iter body).check = .ok () ↔ target.checkTarget = .ok () ∧
      iter.check = .ok () ∧ body ≠ [] ∧ ∀ s ∈ body, s.check = .ok () := by
  simp

@[simp] theorem check_whileLoop {test : Expr} {body : List Stmt} :
    (Stmt.whileLoop test body).check = .ok () ↔ test.check = .ok () ∧ body ≠ [] ∧
      ∀ s ∈ body, s.check = .ok () := by
  simp

@[simp] theorem check_global {names : List String} :
    (Stmt.global names).check = .ok () ↔ ∀ n ∈ names, isIdentifier n = true := by
  simp

end

end Stmt

@[simp] theorem Module.check_eq_ok {m : Module} :
    m.check = .ok () ↔ ∀ s ∈ m.body, s.check = .ok () :=
  Stmt.checkBlock_eq_ok

end Loom
