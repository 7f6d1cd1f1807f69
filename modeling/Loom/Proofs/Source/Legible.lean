import Loom.Proofs.Tree.Check
import Loom.Proofs.Tree.Constants
import Loom.Tree.Render

/-!
# Legible trees

A tree is `Legible` when its text can be read back: what stands for an identifier is one, no bare
name is a reserved word, no constant is a double, no block is empty. Every tree that passes the
check, has no doubles and uses no reserved word as a name is legible.
-/

namespace Loom

open Text (isIdentifier isIdentifierPart isDottedName)

/-! ## Reserved words -/

/-- The reserved words that stand for constants. -/
def constantWords : List String := ["None", "True", "False"]

def reservedWords : List String :=
  constantWords ++ ["and", "as", "assert", "async", "await", "break", "class", "continue", "def",
    "del", "elif", "else", "except", "finally", "for", "from", "global", "if", "import", "in", "is",
    "lambda", "nonlocal", "not", "or", "pass", "raise", "return", "try", "while", "with", "yield"]

/-- The identifier that stands alone in an expression, as a name or in front of a woven
declaration. -/
def Expr.bareName? : Expr → Option String
  | .name id => some id
  | .woven w => some w.shortName
  | _ => none

/-- No bare name in the module is a reserved word. Attributes, parameters, keywords and what
statements declare or import may even be reserved words: there a text shows what is meant. -/
def Module.Unreserved (m : Module) : Prop :=
  ∀ e ∈ m.subterms, ∀ id ∈ e.bareName?, id ∉ reservedWords

/-! ## Legible expressions -/

namespace Expr

/-- An expression whose text can be read back. -/
inductive Legible : Expr → Prop
  | name {id : String} (identifier : isIdentifier id = true) (free : id ∉ reservedWords) :
    Legible (.name id)
  | «attribute» {value : Expr} {attr : String} (value_legible : Legible value)
    (identifier : isIdentifier attr = true) : Legible (.attribute value attr)
  | call {func : Expr} {args : List Expr} {keywords : List (Keyword Expr)}
    (func_legible : Legible func) (args_legible : ∀ a ∈ args, Legible a)
    (identifiers : ∀ k ∈ keywords, isIdentifier k.arg = true)
    (values_legible : ∀ k ∈ keywords, Legible k.value) : Legible (.call func args keywords)
  | constant {c : Constant} (notFloat : ∀ x, c ≠ .float x) : Legible (.constant c)
  | tuple {items : List Expr} (items_legible : ∀ e ∈ items, Legible e) : Legible (.tuple items)
  | list {items : List Expr} (items_legible : ∀ e ∈ items, Legible e) : Legible (.list items)
  | compare {left right : Expr} {op : CmpOp} (left_legible : Legible left)
    (right_legible : Legible right) : Legible (.compare left op right)
  | binOp {left right : Expr} {op : BinOp} (left_legible : Legible left)
    (right_legible : Legible right) : Legible (.binOp left op right)
  | woven {w : Woven} (alias_identifier : isIdentifier w.shortName = true)
    (free : w.shortName ∉ reservedWords) (identifier : isIdentifier w.declName = true) :
    Legible (.woven w)

/-- Neither a double nor a bare name that is reserved. -/
structure Clear (e : Expr) : Prop where
  notFloat : ∀ x, e ≠ .constant (.float x)
  free : ∀ id ∈ e.bareName?, id ∉ reservedWords

theorem self_mem_subterms (e : Expr) : e ∈ e.subterms := by
  cases e <;> simp [subterms]

mutual
theorem legible_of_clear : ∀ e : Expr, e.check = .ok () → (∀ x ∈ e.subterms, x.Clear) → e.Legible
  | .name id, checked, clear => by
    have free := (clear _ (self_mem_subterms _)).free id rfl
    exact .name (by simpa using checked) free
  | .attribute value attr, checked, clear => by
    obtain ⟨identifier, checked⟩ := check_attribute.1 checked
    exact .attribute (legible_of_clear value checked fun x hx => clear x (by simp [subterms, hx]))
      identifier
  | .call func args keywords, checked, clear => by
    obtain ⟨hfunc, hargs, hkeywords⟩ := check_call.1 checked
    simp only [subterms, List.cons_append, List.mem_cons, List.mem_append] at clear
    exact .call (legible_of_clear func hfunc fun x hx => clear x (.inr (.inl (.inl hx))))
      (allLegible_of_clear args hargs fun x hx => clear x (.inr (.inl (.inr hx))))
      (fun k hk => (hkeywords k hk).1)
      (keywordsLegible_of_clear keywords (fun k hk => (hkeywords k hk).2)
        fun x hx => clear x (.inr (.inr hx)))
  | .constant c, _, clear => by
    have notFloat := (clear _ (self_mem_subterms _)).notFloat
    exact .constant fun x h => notFloat x (by rw [h])
  | .tuple items, checked, clear =>
    .tuple (allLegible_of_clear items (check_tuple.1 checked) fun x hx =>
      clear x (by simp only [subterms, List.mem_cons, hx, or_true]))
  | .list items, checked, clear =>
    .list (allLegible_of_clear items (check_list.1 checked) fun x hx =>
      clear x (by simp only [subterms, List.mem_cons, hx, or_true]))
  | .compare left op right, checked, clear => by
    obtain ⟨hleft, hright⟩ := check_compare.1 checked
    exact .compare (legible_of_clear left hleft fun x hx => clear x (by simp [subterms, hx]))
      (legible_of_clear right hright fun x hx => clear x (by simp [subterms, hx]))
  | .binOp left op right, checked, clear => by
    obtain ⟨hleft, hright⟩ := check_binOp.1 checked
    exact .binOp (legible_of_clear left hleft fun x hx => clear x (by simp [subterms, hx]))
      (legible_of_clear right hright fun x hx => clear x (by simp [subterms, hx]))
  | .woven w, checked, clear => by
    obtain ⟨shortName, declName⟩ := check_woven.1 checked
    exact .woven shortName ((clear _ (self_mem_subterms _)).free _ rfl) declName

theorem allLegible_of_clear : ∀ es : List Expr, (∀ e ∈ es, e.check = .ok ()) →
    (∀ x ∈ subtermsIn es, x.Clear) → ∀ e ∈ es, e.Legible
  | [], _, _ => by simp
  | e :: es, checked, clear => by
    simp only [subtermsIn, List.mem_append, List.forall_mem_cons] at checked clear ⊢
    exact ⟨legible_of_clear e checked.1 fun x hx => clear x (.inl hx),
      allLegible_of_clear es checked.2 fun x hx => clear x (.inr hx)⟩

theorem keywordsLegible_of_clear : ∀ ks : List (Keyword Expr), (∀ k ∈ ks, k.value.check = .ok ()) →
    (∀ x ∈ keywordSubterms ks, x.Clear) → ∀ k ∈ ks, k.value.Legible
  | [], _, _ => by simp
  | ⟨arg, value⟩ :: ks, checked, clear => by
    simp only [keywordSubterms, List.mem_append, List.forall_mem_cons] at checked clear ⊢
    exact ⟨legible_of_clear value checked.1 fun x hx => clear x (.inl hx),
      keywordsLegible_of_clear ks checked.2 fun x hx => clear x (.inr hx)⟩
end

mutual
/-- What can be assigned to is an expression. -/
theorem check_of_checkTarget : ∀ e : Expr, e.checkTarget = .ok () → e.check = .ok ()
  | .name id, h => by simpa using h
  | .attribute value attr, h => by simpa using h
  | .tuple items, h => by simpa using check_of_checkTargets items (checkTarget_tuple.1 h)
  | .list items, h => by simpa using check_of_checkTargets items (checkTarget_list.1 h)
  | .call .., h => by simp [checkTarget] at h
  | .constant _, h => by simp [checkTarget] at h
  | .compare .., h => by simp [checkTarget] at h
  | .binOp .., h => by simp [checkTarget] at h
  | .woven _, h => by simp [checkTarget] at h

theorem check_of_checkTargets : ∀ es : List Expr, (∀ e ∈ es, e.checkTarget = .ok ()) →
    ∀ e ∈ es, e.check = .ok ()
  | [], _ => by simp
  | e :: es, h => by
    simp only [List.forall_mem_cons] at h ⊢
    exact ⟨check_of_checkTarget e h.1, check_of_checkTargets es h.2⟩
end

end Expr

/-! ## Paths -/

theorem isIdentifierPart_of_mem {s : String} {c : Char} (h : isIdentifier s = true)
    (hc : c ∈ s.toList) : isIdentifierPart c = true := by
  unfold isIdentifier at h
  cases chars : s.toList with
  | nil => simp [chars] at hc
  | cons first rest =>
    simp only [chars, Text.isIdentifierChars, Bool.and_eq_true, List.all_eq_true] at h
    rcases List.mem_cons.1 (chars ▸ hc) with rfl | hc
    · have start := h.1
      simp only [Text.isIdentifierStart, Bool.or_eq_true] at start
      simp only [isIdentifierPart, Unicode.isAlphanumeric, Bool.or_eq_true]
      exact start.imp_right .inl
    · exact h.2 c hc

theorem Text.mem_joinChars {sep c : Char} {segments : List (List Char)}
    (h : c ∈ joinChars sep segments) : c = sep ∨ ∃ s ∈ segments, c ∈ s := by
  fun_induction joinChars sep segments with
  | case1 => simp at h
  | case2 s => exact .inr ⟨s, List.mem_cons_self .., h⟩
  | case3 s segments _ ih =>
    rcases List.mem_append.1 h with h | h
    · exact .inr ⟨s, List.mem_cons_self .., h⟩
    · rcases List.mem_cons.1 h with rfl | h
      · exact .inl rfl
      · obtain rfl | ⟨t, ht, hc⟩ := ih h
        · exact .inl rfl
        · exact .inr ⟨t, List.mem_cons_of_mem _ ht, hc⟩

/-- A character of a module path, of a member name or of the star that stands for all members. -/
def isPathPart (c : Char) : Bool := isIdentifierPart c || c == '.' || c == '*'

theorem isPathPart_of_isIdentifier {s : String} (h : isIdentifier s = true) :
    ∀ c ∈ s.toList, isPathPart c = true := by
  intro c hc
  simp [isPathPart, isIdentifierPart_of_mem h hc]

theorem isPathPart_of_isDottedName {s : String} (h : isDottedName s = true) :
    ∀ c ∈ s.toList, isPathPart c = true := by
  intro c hc
  rw [← Text.joinChars_splitChars '.' s.toList] at hc
  rcases Text.mem_joinChars hc with rfl | ⟨segment, mem, hc⟩
  · decide
  · have identifier : isIdentifier (String.ofList segment) = true :=
      List.all_eq_true.1 h _ (List.mem_map_of_mem mem)
    exact isPathPart_of_isIdentifier identifier c (by simpa using hc)

theorem ne_nil_of_isIdentifier {s : String} (h : isIdentifier s = true) : s.toList ≠ [] := by
  intro empty
  simp [isIdentifier, empty, Text.isIdentifierChars] at h

theorem ne_nil_of_isDottedName {s : String} (h : isDottedName s = true) : s.toList ≠ [] := by
  intro empty
  simp [isDottedName, Text.segments, empty, Text.splitChars, isIdentifier,
    Text.isIdentifierChars] at h

/-! ## Legible statements -/

/-- A parameter whose text can be read back. -/
structure Param.Legible (p : Param) : Prop where
  identifier : isIdentifier p.name = true
  default : ∀ e ∈ p.default, e.Legible

/-- An alias whose text can be read back. -/
structure Alias.Legible (a : Alias) : Prop where
  nonempty : a.name.toList ≠ []
  path : ∀ c ∈ a.name.toList, isPathPart c = true
  asName : ∀ n ∈ a.asName, isIdentifier n = true

namespace Stmt

/-- A statement whose text can be read back. -/
inductive Legible : Stmt → Prop
  | functionDef {f : Function} (identifier : isIdentifier f.name = true)
    (params : ∀ p ∈ f.params, p.Legible) (decorators : ∀ d ∈ f.decorators, d.Legible)
    (nonempty : f.body ≠ []) (body : ∀ s ∈ f.body, Legible s) : Legible (.functionDef f)
  | classDef {c : Class} (identifier : isIdentifier c.name = true)
    (bases : ∀ b ∈ c.bases, b.Legible) (identifiers : ∀ k ∈ c.keywords, isIdentifier k.arg = true)
    (values : ∀ k ∈ c.keywords, k.value.Legible) (decorators : ∀ d ∈ c.decorators, d.Legible)
    (nonempty : c.body ≠ []) (body : ∀ s ∈ c.body, Legible s) : Legible (.classDef c)
  | assign {targets : List Expr} {value : Expr} (nonempty : targets ≠ [])
    (targets_legible : ∀ t ∈ targets, t.Legible) (value_legible : value.Legible) :
    Legible (.assign targets value)
  | expr {e : Expr} (legible : e.Legible) : Legible (.expr e)
  | ret {value : Option Expr} (legible : ∀ e ∈ value, e.Legible) : Legible (.ret value)
  | delete {targets : List Expr} (legible : ∀ t ∈ targets, t.Legible) : Legible (.delete targets)
  | pass : Legible .pass
  | importNames {names : List Alias} (legible : ∀ a ∈ names, a.Legible) :
    Legible (.importNames names)
  | importFrom {module : String} {names : List Alias}
    (path : ∀ c ∈ module.toList, isPathPart c = true) (legible : ∀ a ∈ names, a.Legible) :
    Legible (.importFrom module names)
  | ifElse {test : Expr} {body orelse : List Stmt} (test_legible : test.Legible)
    (nonempty : body ≠ []) (body_legible : ∀ s ∈ body, Legible s)
    (orelse_legible : ∀ s ∈ orelse, Legible s) : Legible (.ifElse test body orelse)
  | forLoop {target iter : Expr} {body : List Stmt} (target_legible : target.Legible)
    (operand : target.isOperation = false) (iter_legible : iter.Legible) (nonempty : body ≠ [])
    (body_legible : ∀ s ∈ body, Legible s) : Legible (.forLoop target iter body)
  | whileLoop {test : Expr} {body : List Stmt} (test_legible : test.Legible)
    (nonempty : body ≠ []) (body_legible : ∀ s ∈ body, Legible s) : Legible (.whileLoop test body)
  | global {names : List String} (identifiers : ∀ n ∈ names, isIdentifier n = true) :
    Legible (.global names)

end Stmt

theorem Param.legible_of_clear {p : Param} (checked : p.check = .ok ())
    (clear : ∀ x ∈ Expr.optionalSubterms p.default, x.Clear) : p.Legible := by
  obtain ⟨identifier, default⟩ := Param.check_eq_ok.1 checked
  refine ⟨identifier, fun e he => Expr.legible_of_clear e (default e he) fun x hx => clear x ?_⟩
  rw [Option.mem_def.1 he]
  exact hx

theorem Alias.legible_of_checkModule {a : Alias} (checked : a.checkModule = .ok ()) :
    a.Legible := by
  obtain ⟨dotted, asName⟩ := Alias.checkModule_eq_ok.1 checked
  exact ⟨ne_nil_of_isDottedName dotted, isPathPart_of_isDottedName dotted, asName⟩

theorem Alias.legible_of_checkMember {a : Alias} (checked : a.checkMember = .ok ()) :
    a.Legible := by
  obtain ⟨star | identifier, asName⟩ := Alias.checkMember_eq_ok.1 checked
  · exact ⟨by simp [star], by simp [star, isPathPart], asName⟩
  · exact ⟨ne_nil_of_isIdentifier identifier, isPathPart_of_isIdentifier identifier, asName⟩

/-- The points in front are part of the path that a relative import names. -/
theorem isPathPart_of_checkImportFrom {module : String} {names : List Alias}
    (checked : checkImportFrom module names = .ok ()) :
    ∀ c ∈ module.toList, isPathPart c = true := by
  intro c hc
  rw [← List.takeWhile_append_dropWhile (p := (· == '.')) (l := module.toList)] at hc
  rcases List.mem_append.1 hc with point | hc
  · have : c = '.' := by simpa using List.all_eq_true.1 List.all_takeWhile c point
    subst this
    decide
  · have absolute : c ∈ (withoutLeadingDots module).toList := by
      simpa [withoutLeadingDots] using hc
    rcases (checkImportFrom_eq_ok.1 checked).1 with empty | dotted
    · simp [empty] at absolute
    · exact isPathPart_of_isDottedName dotted c absolute

namespace Stmt

open Loom.Expr (allLegible_of_clear keywordsLegible_of_clear check_of_checkTarget
  check_of_checkTargets)

mutual
theorem legible_of_clear : ∀ s : Stmt, s.check = .ok () → (∀ x ∈ s.subterms, x.Clear) → s.Legible
  | .functionDef ⟨name, params, decorators, body⟩, checked, clear => by
    obtain ⟨identifier, hparams, hdecorators, nonempty, hbody⟩ := check_functionDef.1 checked
    simp only [subterms, List.mem_append, List.mem_flatMap] at clear
    exact .functionDef identifier
      (fun p hp => Param.legible_of_clear (hparams p hp)
        fun x hx => clear x (.inl (.inr ⟨p, hp, hx⟩)))
      (allLegible_of_clear decorators hdecorators fun x hx => clear x (.inl (.inl hx)))
      nonempty (blockLegible_of_clear body hbody fun x hx => clear x (.inr hx))
  | .classDef ⟨name, bases, keywords, decorators, body⟩, checked, clear => by
    obtain ⟨identifier, hbases, hdecorators, hkeywords, nonempty, hbody⟩ :=
      check_classDef.1 checked
    simp only [subterms, List.mem_append] at clear
    exact .classDef identifier
      (allLegible_of_clear bases hbases fun x hx => clear x (.inl (.inl (.inr hx))))
      (fun k hk => (hkeywords k hk).1)
      (keywordsLegible_of_clear keywords (fun k hk => (hkeywords k hk).2)
        fun x hx => clear x (.inl (.inr hx)))
      (allLegible_of_clear decorators hdecorators fun x hx => clear x (.inl (.inl (.inl hx))))
      nonempty (blockLegible_of_clear body hbody fun x hx => clear x (.inr hx))
  | .assign targets value, checked, clear => by
    obtain ⟨nonempty, htargets, hvalue⟩ := check_assign.1 checked
    simp only [subterms, List.mem_append] at clear
    exact .assign nonempty
      (allLegible_of_clear targets (check_of_checkTargets targets htargets)
        fun x hx => clear x (.inl hx))
      (value.legible_of_clear hvalue fun x hx => clear x (.inr hx))
  | .expr e, checked, clear => .expr (e.legible_of_clear (check_expr.1 checked) clear)
  | .ret none, _, _ => .ret (by simp)
  | .ret (some e), checked, clear => by
    refine .ret fun _ he => ?_
    obtain rfl := Option.mem_some.1 he
    exact e.legible_of_clear (check_ret.1 checked e rfl) clear
  | .delete targets, checked, clear =>
    .delete (allLegible_of_clear targets
      (check_of_checkTargets targets (check_delete.1 checked)) clear)
  | .pass, _, _ => .pass
  | .importNames names, checked, _ =>
    .importNames fun a ha => Alias.legible_of_checkModule (check_importNames.1 checked a ha)
  | .importFrom module names, checked, _ => by
    have checked := check_importFrom.1 checked
    exact .importFrom (isPathPart_of_checkImportFrom checked) fun a ha =>
      Alias.legible_of_checkMember ((checkImportFrom_eq_ok.1 checked).2.2 a ha)
  | .ifElse test body orelse, checked, clear => by
    obtain ⟨htest, nonempty, hbody, horelse⟩ := check_ifElse.1 checked
    simp only [subterms, List.mem_append] at clear
    exact .ifElse (test.legible_of_clear htest fun x hx => clear x (.inl (.inl hx))) nonempty
      (blockLegible_of_clear body hbody fun x hx => clear x (.inl (.inr hx)))
      (blockLegible_of_clear orelse horelse fun x hx => clear x (.inr hx))
  | .forLoop target iter body, checked, clear => by
    obtain ⟨htarget, hiter, nonempty, hbody⟩ := check_forLoop.1 checked
    simp only [subterms, List.mem_append] at clear
    have operand : target.isOperation = false := by
      rcases Expr.isTarget_of_checkTarget htarget with
        ⟨_, rfl⟩ | ⟨_, _, rfl⟩ | ⟨_, rfl⟩ | ⟨_, rfl⟩ <;> rfl
    exact .forLoop (target.legible_of_clear (check_of_checkTarget target htarget)
        fun x hx => clear x (.inl (.inl hx))) operand
      (iter.legible_of_clear hiter fun x hx => clear x (.inl (.inr hx))) nonempty
      (blockLegible_of_clear body hbody fun x hx => clear x (.inr hx))
  | .whileLoop test body, checked, clear => by
    obtain ⟨htest, nonempty, hbody⟩ := check_whileLoop.1 checked
    simp only [subterms, List.mem_append] at clear
    exact .whileLoop (test.legible_of_clear htest fun x hx => clear x (.inl hx)) nonempty
      (blockLegible_of_clear body hbody fun x hx => clear x (.inr hx))
  | .global names, checked, _ => .global (check_global.1 checked)

theorem blockLegible_of_clear : ∀ body : List Stmt, (∀ s ∈ body, s.check = .ok ()) →
    (∀ x ∈ blockSubterms body, x.Clear) → ∀ s ∈ body, s.Legible
  | [], _, _ => by simp
  | s :: rest, checked, clear => by
    simp only [blockSubterms, List.mem_append, List.forall_mem_cons] at checked clear ⊢
    exact ⟨legible_of_clear s checked.1 fun x hx => clear x (.inl hx),
      blockLegible_of_clear rest checked.2 fun x hx => clear x (.inr hx)⟩
end

end Stmt

/-- A checked module without doubles and reserved names can be read back, statement by statement. -/
theorem Module.legible_of_check {m : Module} (checked : m.check = .ok ()) (floatFree : m.FloatFree)
    (unreserved : m.Unreserved) : ∀ s ∈ m.body, s.Legible :=
  Stmt.blockLegible_of_clear m.body (Module.check_eq_ok.1 checked) fun e he =>
    ⟨fun x h => floatFree (.float x) (h ▸ he) x rfl, unreserved e he⟩

end Loom
