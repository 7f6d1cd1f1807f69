import Loom.Proofs.Tree.Check
import Loom.Proofs.Weave.ModuleFile

/-!
# Weaving keeps trees well formed

If a tree passes the check and the references of a worklist are well named, the tree passes it after
every stage of a weaving: after the edits, and after the modules are bound, with or without fresh
aliases. So the check at the end of a weaving never fails.

What the edits put in are woven references, keywords of fixed names, and properties under the names
of instance attributes, which the check has seen as parts of targets.
-/

namespace Loom

open Text (isIdentifier isDottedName isIdentifierChars isIdentifierPart)

/-! ## Names of references -/

/-- The reference can be imported and used: its module is a dotted name, its declaration and its
alias are identifiers. -/
structure Reference.WellNamed (r : Reference) : Prop where
  module : isDottedName r.originModule = true
  declaration : isIdentifier r.declName = true
  short : isIdentifier r.shortName = true

/-- All references of the worklist are well named. -/
def Worklist.WellNamed (w : Worklist) : Prop := ∀ r ∈ w.references, r.WellNamed

namespace ShortName

theorem isIdentifier_ofModule {module : String} (h : isDottedName module = true) :
    isIdentifier (ofModule module).text = true := by
  simp only [isDottedName, List.all_eq_true] at h
  exact h _ (List.mem_map_of_mem (List.getLast_mem (Text.splitChars_ne_nil _ _)))

theorem isIdentifier_underscore {s : ShortName} (h : isIdentifier s.text = true) :
    isIdentifier s.underscore.text = true := by
  have last : isIdentifierPart '_' = true := by decide
  simp only [isIdentifier, underscore, String.toList_append] at h ⊢
  cases hs : s.text.toList with
  | nil => simp [hs, isIdentifierChars] at h
  | cons c cs =>
    rw [hs] at h
    simp only [isIdentifierChars, Bool.and_eq_true] at h
    simp [isIdentifierChars, h.1, h.2, last]

end ShortName

/-- A reference under its default alias is well named if its module and declaration are. -/
theorem Reference.WellNamed.of_default {r : Reference} (module : isDottedName r.originModule = true)
    (declaration : isIdentifier r.declName = true) (default : r.short = .ofModule r.originModule) :
    r.WellNamed := by
  refine ⟨module, declaration, ?_⟩
  rw [shortName, default]
  exact ShortName.isIdentifier_ofModule module

/-! ## Names of aliases -/

theorem isIdentifier_of_freshAlias? {names : List String} {left : Nat} {base fresh : ShortName}
    (h : freshAlias? names left base = some fresh) (hb : isIdentifier base.text = true) :
    isIdentifier fresh.text = true := by
  induction left generalizing base with
  | zero =>
    simp only [freshAlias?] at h
    split at h
    · cases h
    · cases h; exact hb
  | succ left ih =>
    simp only [freshAlias?] at h
    split at h
    · exact ih h (ShortName.isIdentifier_underscore hb)
    · cases h; exact hb

theorem isIdentifier_of_commitAliases {attempts : Nat}
    {keys committed : List (ModuleKey × ShortName)}
    {names : List String} (h : (commitAliases attempts keys names).1 = .ok committed)
    (hk : ∀ k ∈ keys, isIdentifier k.2.text = true) :
    ∀ k ∈ committed, isIdentifier k.2.text = true := by
  induction keys generalizing names committed with
  | nil => cases h; simp
  | cons k rest ih =>
    obtain ⟨key, base⟩ := k
    obtain ⟨hbase, hrest⟩ := List.forall_mem_cons.1 hk
    simp only [commitAliases] at h
    split at h
    · cases h
    · next fresh hfresh =>
      split at h
      · next others names' done =>
        cases h
        refine List.forall_mem_cons.2 ⟨isIdentifier_of_freshAlias? hfresh hbase, ?_⟩
        exact ih (by rw [done]) hrest
      · cases h

namespace Worklist

/-- The modules of a worklist have the aliases of its references. -/
theorem mem_of_mem_moduleKeys {w : Worklist} {k : ModuleKey × ShortName} (h : k ∈ w.moduleKeys) :
    ∃ r ∈ w.references, r.short = k.2 := by
  have grow : ∀ k ∈ w.references.foldl addModule [], ∃ r ∈ w.references, r.short = k.2 := by
    refine List.foldlRecOn w.references addModule
      (motive := fun keys => ∀ k ∈ keys, ∃ r ∈ w.references, r.short = k.2)
      (b := []) (by simp) fun keys ih r hr k hk => ?_
    simp only [addModule] at hk
    split at hk
    · exact ih k hk
    · rcases List.mem_append.1 hk with hk | hk
      · exact ih k hk
      · cases List.mem_singleton.1 hk
        exact ⟨r, hr, rfl⟩
  exact grow k h

theorem WellNamed.mangle {w w' : Worklist} {names : List String} {attempts : Nat}
    (hw : w.WellNamed) (h : (w.mangle names attempts).1 = .ok w') : w'.WellNamed := by
  rw [Worklist.mangle_eq] at h
  split at h
  · next committed names' done =>
    cases h
    have aliases : ∀ k ∈ committed, isIdentifier k.2.text = true := by
      refine isIdentifier_of_commitAliases (congrArg Prod.fst done) fun k hk => ?_
      obtain ⟨r, hr, eq⟩ := mem_of_mem_moduleKeys hk
      exact eq ▸ (hw r hr).short
    rw [WellNamed, references_mapReferences, List.forall_mem_map]
    intro r hr
    simp only [Reference.withAlias]
    split
    · next k short found =>
      exact ⟨(hw r hr).module, (hw r hr).declaration, aliases _ (List.mem_of_find?_eq_some found)⟩
    · exact hw r hr
  · cases h

theorem mem_references_of_mem_wrappersAt {w : Worklist} {path : String} {r : Reference}
    (h : r ∈ w.wrappersAt path) : r ∈ w.references := by
  obtain ⟨a, ha, eq⟩ := List.mem_filterMap.1 h
  refine List.mem_flatMap.2 ⟨a, ha, ?_⟩
  cases a <;> simp_all [Advice.references, Advice.slots]

theorem mem_references_of_mem_hooksAt {w : Worklist} {path : String} {r : Reference}
    (h : r ∈ w.hooksAt path) : r ∈ w.references := by
  obtain ⟨a, ha, eq⟩ := List.mem_filterMap.1 h
  refine List.mem_flatMap.2 ⟨a, ha, ?_⟩
  cases a <;> simp_all [Advice.references, Advice.slots]

/-- The matched advices are some of the worklist's. -/
theorem WellNamed.matched {w : Worklist} (hw : w.WellNamed) (m : Module) (localName : String) :
    (m.matched w localName).WellNamed := by
  intro r hr
  obtain ⟨a, ha, hr⟩ := List.mem_flatMap.1 hr
  have mem := List.mem_filter.1 (Worklist.mem_of_mem_ofAdvices ha)
  exact hw r (List.mem_flatMap.2 ⟨a, mem.1, hr⟩)

end Worklist

theorem Reference.WellNamed.check_woven {r : Reference} (h : r.WellNamed) :
    r.woven.check = .ok () := by
  simp only [woven, Expr.check_woven]
  exact ⟨h.short, h.declaration⟩

/-! ## Instance attributes -/

namespace Expr

mutual
theorem isIdentifier_of_mem_receiverTargets {receiver attr : String} :
    ∀ e : Expr, e.checkTarget = .ok () → attr ∈ e.receiverTargets receiver →
      isIdentifier attr = true
  | .attribute _ _, h, hattr => by
    simp only [receiverTargets] at hattr
    split at hattr
    · cases List.mem_singleton.1 hattr
      exact (checkTarget_attribute.1 h).1
    · cases hattr
  | .tuple items, h, hattr =>
    isIdentifier_of_mem_receiverTargetsIn items (checkTarget_tuple.1 h) hattr
  | .list items, h, hattr =>
    isIdentifier_of_mem_receiverTargetsIn items (checkTarget_list.1 h) hattr
  | .name _, _, hattr | .call .., _, hattr | .constant _, _, hattr | .compare .., _, hattr
  | .binOp .., _, hattr | .woven _, _, hattr => by simp [receiverTargets] at hattr

theorem isIdentifier_of_mem_receiverTargetsIn {receiver attr : String} :
    ∀ es : List Expr, (∀ e ∈ es, e.checkTarget = .ok ()) →
      attr ∈ receiverTargetsIn receiver es → isIdentifier attr = true
  | [], _, hattr => by simp [receiverTargetsIn] at hattr
  | e :: es, h, hattr => by
    obtain ⟨he, hes⟩ := List.forall_mem_cons.1 h
    rcases List.mem_append.1 hattr with hattr | hattr
    · exact isIdentifier_of_mem_receiverTargets e he hattr
    · exact isIdentifier_of_mem_receiverTargetsIn es hes hattr
end

end Expr

namespace Stmt

mutual
theorem isIdentifier_of_mem_receiverAssigns {receiver attr : String} :
    ∀ s : Stmt, s.check = .ok () → attr ∈ s.receiverAssigns receiver → isIdentifier attr = true
  | .assign targets value, h, hattr =>
    Expr.isIdentifier_of_mem_receiverTargetsIn targets (check_assign.1 h).2.1 hattr
  | .ifElse test body orelse, h, hattr => by
    obtain ⟨-, -, hbody, helse⟩ := check_ifElse.1 h
    rcases List.mem_append.1 hattr with hattr | hattr
    · exact isIdentifier_of_mem_blockReceiverAssigns body hbody hattr
    · exact isIdentifier_of_mem_blockReceiverAssigns orelse helse hattr
  | .forLoop target iter body, h, hattr => by
    obtain ⟨htarget, -, -, hbody⟩ := check_forLoop.1 h
    rcases List.mem_append.1 hattr with hattr | hattr
    · exact Expr.isIdentifier_of_mem_receiverTargets target htarget hattr
    · exact isIdentifier_of_mem_blockReceiverAssigns body hbody hattr
  | .whileLoop test body, h, hattr =>
    isIdentifier_of_mem_blockReceiverAssigns body (check_whileLoop.1 h).2.2 hattr
  | .functionDef _, _, hattr | .classDef _, _, hattr | .expr _, _, hattr | .ret _, _, hattr
  | .delete _, _, hattr | .pass, _, hattr | .importNames _, _, hattr | .importFrom .., _, hattr
  | .global _, _, hattr => by simp [receiverAssigns] at hattr

theorem isIdentifier_of_mem_blockReceiverAssigns {receiver attr : String} :
    ∀ body : List Stmt, (∀ s ∈ body, s.check = .ok ()) →
      attr ∈ blockReceiverAssigns receiver body → isIdentifier attr = true
  | [], _, hattr => by simp [blockReceiverAssigns] at hattr
  | s :: rest, h, hattr => by
    obtain ⟨hs, hrest⟩ := List.forall_mem_cons.1 h
    rcases List.mem_append.1 hattr with hattr | hattr
    · exact isIdentifier_of_mem_receiverAssigns s hs hattr
    · exact isIdentifier_of_mem_blockReceiverAssigns rest hrest hattr
end

end Stmt

namespace ClassDef

theorem mem_methods {c : Class} {f : Function} : f ∈ c.methods ↔ .functionDef f ∈ c.body := by
  simp only [methods, List.mem_filterMap]
  constructor
  · rintro ⟨s, hs, eq⟩
    cases s <;> simp_all
  · exact fun h => ⟨_, h, rfl⟩

/-- An instance attribute is assigned through the first parameter of one of the methods. -/
theorem exists_of_mem_instanceAttributes {c : Class} {attr : String}
    (h : attr ∈ c.instanceAttributes) :
    ∃ f receiver, .functionDef f ∈ c.body ∧ attr ∈ Stmt.blockReceiverAssigns receiver f.body := by
  rw [instanceAttributes, mem_distinct, List.mem_flatMap] at h
  obtain ⟨f, hf, hattr⟩ := h
  have method := mem_methods.1 (List.mem_filter.1 hf).1
  simp only [FunctionDef.receiverAttributes] at hattr
  split at hattr
  · cases hattr
  · next receiver _ _ => exact ⟨f, receiver.name, method, hattr⟩

theorem isIdentifier_of_mem_instanceAttributes {c : Class} {attr : String}
    (h : (Stmt.classDef c).check = .ok ()) (hattr : attr ∈ c.instanceAttributes) :
    isIdentifier attr = true := by
  obtain ⟨f, receiver, hf, hattr⟩ := exists_of_mem_instanceAttributes hattr
  have body := (Stmt.check_classDef.1 h).2.2.2.2.2 _ hf
  exact Stmt.isIdentifier_of_mem_blockReceiverAssigns _
    (Stmt.check_functionDef.1 body).2.2.2.2 hattr

end ClassDef

/-! ## Edits -/

theorem Keyword.forall_mem_set {P : Keyword Expr → Prop} {arg : String} {value : Expr}
    {ks : List (Keyword Expr)} (new : P ⟨arg, value⟩) (old : ∀ k ∈ ks, P k) :
    ∀ k ∈ set arg value ks, P k := by
  induction ks with
  | nil => simpa [set] using new
  | cons k ks ih =>
    obtain ⟨hk, hks⟩ := List.forall_mem_cons.1 old
    simp only [set]
    split
    · exact List.forall_mem_cons.2 ⟨new, hks⟩
    · exact List.forall_mem_cons.2 ⟨hk, ih hks⟩

theorem Stmt.check_unbind? {name : String} {s s' : Stmt} (hs : s.check = .ok ())
    (h : s.unbind? name = some s') : s'.check = .ok () := by
  cases s with
  | assign targets value =>
    obtain ⟨-, htargets, hvalue⟩ := check_assign.1 hs
    simp only [unbind?] at h
    split at h
    · cases h
    · next kept =>
      cases h
      refine check_assign.2 ⟨by simpa using kept, fun e he => ?_, hvalue⟩
      exact htargets e (List.mem_filter.1 he).1
  | _ => cases h; exact hs

namespace ClassDef

theorem check_unbind {c : Class} (h : ∀ s ∈ c.body, s.check = .ok ()) (name : String) :
    ∀ s ∈ (c.unbind name).body, s.check = .ok () := by
  intro s hs
  obtain ⟨t, ht, eq⟩ := List.mem_filterMap.1 hs
  exact Stmt.check_unbind? (h t ht) eq

theorem check_fillBody {body : List Stmt} (h : ∀ s ∈ body, s.check = .ok ()) :
    fillBody body ≠ [] ∧ ∀ s ∈ fillBody body, s.check = .ok () := by
  cases body with
  | nil => simp [fillBody]
  | cons => exact ⟨by simp [fillBody], h⟩

theorem check_setHook {c : Class} {hook : Reference} (h : (Stmt.classDef c).check = .ok ())
    (hr : hook.WellNamed) : (Stmt.classDef (c.setHook hook)).check = .ok () := by
  obtain ⟨name, bases, decorators, keywords, -, body⟩ := Stmt.check_classDef.1 h
  have metaclass : isIdentifier "metaclass" = true := by decide
  refine Stmt.check_classDef.2 ⟨name, bases, decorators, ?_, check_fillBody ?_⟩
  · exact Keyword.forall_mem_set ⟨metaclass, hr.check_woven⟩ keywords
  · exact check_unbind body "__metaclass__"

theorem check_accessorKeyword {arg : String} (harg : isIdentifier arg = true)
    {accessor : Option Reference} (ha : ∀ r ∈ accessor, r.WellNamed) {k : Keyword Expr}
    (hk : accessorKeyword arg accessor = some k) :
    isIdentifier k.arg = true ∧ k.value.check = .ok () := by
  obtain ⟨r, hr, rfl⟩ := Option.map_eq_some_iff.1 hk
  exact ⟨harg, (ha r hr).check_woven⟩

theorem check_accessorBinding {attr : String} (hattr : isIdentifier attr = true)
    {getter setter deleter : Option Reference} (hg : ∀ r ∈ getter, r.WellNamed)
    (hs : ∀ r ∈ setter, r.WellNamed) (hd : ∀ r ∈ deleter, r.WellNamed) :
    (accessorBinding attr getter setter deleter).check = .ok () := by
  have target : (Expr.name attr).checkTarget = .ok () := Expr.checkTarget_name.2 hattr
  refine Stmt.check_assign.2 ⟨by simp, by simpa using target, Expr.check_call.2 ⟨?_, by simp, ?_⟩⟩
  · exact Expr.check_name.2 (by decide)
  · intro k hk
    simp only [List.mem_filterMap, id, exists_eq_right, List.mem_cons, List.not_mem_nil,
      or_false] at hk
    rcases hk with hk | hk | hk
    · exact check_accessorKeyword (by decide) hg hk.symm
    · exact check_accessorKeyword (by decide) hs hk.symm
    · exact check_accessorKeyword (by decide) hd hk.symm

theorem check_accessWith {c : Class} {a : Advice} {attr : String}
    (h : (Stmt.classDef c).check = .ok ()) (hattr : isIdentifier attr = true)
    (ha : ∀ r ∈ a.references, r.WellNamed) :
    (Stmt.classDef (accessWith a attr c)).check = .ok () := by
  cases a with
  | accessorTriple p getter setter deleter =>
    obtain ⟨name, bases, decorators, keywords, -, body⟩ := Stmt.check_classDef.1 h
    have slot (x : Option Reference) (hx : x ∈ [getter, setter, deleter]) :
        ∀ r ∈ x, r.WellNamed := fun r hr =>
      ha r (List.mem_filterMap.2 ⟨x, hx, by simpa using hr⟩)
    have binding : (accessorBinding attr getter setter deleter).check = .ok () :=
      check_accessorBinding hattr (slot _ (by simp)) (slot _ (by simp)) (slot _ (by simp))
    refine Stmt.check_classDef.2 ⟨name, bases, decorators, keywords, ?_, fun s hs => ?_⟩
    · simp [accessWith, setAccessor]
    · rcases List.mem_append.1 hs with hs | hs
      · exact check_unbind body attr s hs
      · cases List.mem_singleton.1 hs
        exact binding
  | _ => exact h

/-- The hooks come first, so the attributes that are tried are those of a class that passes the
check. -/
theorem check_weave {c : Class} {w : Worklist} (address : Address) (hw : w.WellNamed)
    (h : (Stmt.classDef c).check = .ok ()) :
    (Stmt.classDef (c.weave w address).node).check = .ok () := by
  rw [weave_eq]
  have hooked : (Stmt.classDef ((w.hooksAt address.text).foldl setHook c)).check = .ok () :=
    List.foldlRecOn (motive := fun c : Class => (Stmt.classDef c).check = .ok ()) _ setHook h
      fun c hc r hr => check_setHook hc (hw r (Worklist.mem_references_of_mem_hooksAt hr))
  refine List.foldlRecOn (motive := fun c : Class => (Stmt.classDef c).check = .ok ()) _ _ hooked
    fun c hc t ht => ?_
  obtain ⟨triple, attr⟩ := mem_trials.1 (List.mem_filter.1 ht).1
  refine check_accessWith hc (isIdentifier_of_mem_instanceAttributes hooked attr) fun r hr => ?_
  exact hw r (List.mem_flatMap.2 ⟨t.1, (List.mem_filter.1 triple).1, hr⟩)

end ClassDef

/-! ## Walks -/

theorem Stmt.check_weave {w : Worklist} (hw : w.WellNamed) : ∀ (address : Address) (s : Stmt),
    s.check = .ok () → (s.weave w address).node.check = .ok () := by
  refine walk_induct w ?function ?cls ?ifElse ?forLoop ?whileLoop ?simple
  case function =>
    intro address f ih h
    obtain ⟨name, params, decorators, nonempty, body⟩ := check_functionDef.1 h
    rw [weave_functionDef, FunctionDef.weave_eq]
    refine check_functionDef.2 ⟨name, params, fun e he => ?_, by simpa using nonempty, ?_⟩
    · rcases List.mem_append.1 he with he | he
      · obtain ⟨r, hr, rfl⟩ := List.mem_map.1 he
        have mem := Worklist.mem_references_of_mem_wrappersAt (List.mem_reverse.1 hr)
        exact (hw r mem).check_woven
      · exact decorators e he
    · exact List.forall_mem_map.2 fun s hs => ih s hs (body s hs)
  case cls =>
    intro address c ih h
    rw [weave_classDef]
    obtain ⟨name, bases, decorators, keywords, nonempty, body⟩ :=
      check_classDef.1 (ClassDef.check_weave (address.child c.name) hw h)
    refine check_classDef.2 ⟨name, bases, decorators, keywords, by simpa using nonempty, ?_⟩
    exact List.forall_mem_map.2 fun s hs => ih s hs (body s hs)
  case ifElse =>
    intro address test body orelse ihBody ihElse h
    obtain ⟨htest, nonempty, hbody, helse⟩ := check_ifElse.1 h
    rw [weave_ifElse]
    exact check_ifElse.2 ⟨htest, by simpa using nonempty,
      List.forall_mem_map.2 fun s hs => ihBody s hs (hbody s hs),
      List.forall_mem_map.2 fun s hs => ihElse s hs (helse s hs)⟩
  case forLoop =>
    intro address target iter body ih h
    obtain ⟨htarget, hiter, nonempty, hbody⟩ := check_forLoop.1 h
    rw [weave_forLoop]
    exact check_forLoop.2 ⟨htarget, hiter, by simpa using nonempty,
      List.forall_mem_map.2 fun s hs => ih s hs (hbody s hs)⟩
  case whileLoop =>
    intro address test body ih h
    obtain ⟨htest, nonempty, hbody⟩ := check_whileLoop.1 h
    rw [weave_whileLoop]
    exact check_whileLoop.2 ⟨htest, by simpa using nonempty,
      List.forall_mem_map.2 fun s hs => ih s hs (hbody s hs)⟩
  case simple =>
    intro address s hs h
    rwa [weave_of_isSimple hs]

theorem Module.check_transform {m : Module} {w : Worklist} (hw : w.WellNamed)
    (h : m.check = .ok ()) (localName : String) : (m.transform w localName).check = .ok () := by
  rw [transform, walk, check_eq_ok, Stmt.node_weaveBlock, List.forall_mem_map]
  exact fun s hs => Stmt.check_weave hw _ s (check_eq_ok.1 h s hs)

/-! ## Aliases in place -/

theorem Woven.isIdentifier_rebind {w : Worklist} (hw : w.WellNamed) {x : Woven}
    (h : isIdentifier x.shortName = true) : isIdentifier (x.rebind w).shortName = true := by
  simp only [rebind]
  split
  · next shortName found =>
    obtain ⟨r, hr, -, rfl⟩ := Worklist.exists_mem_of_aliasFor?_eq_some found
    exact (hw r hr).short
  · exact h

theorem Woven.declName_rebind (w : Worklist) (x : Woven) : (x.rebind w).declName = x.declName := by
  simp only [rebind]
  split <;> rfl

namespace Expr

variable {w : Worklist}

theorem rebindAll_eq_map (w : Worklist) (es : List Expr) : rebindAll w es = es.map (rebind w) := by
  induction es with
  | nil => rfl
  | cons e es ih => simp [rebindAll, ih]

mutual
theorem check_rebind (hw : w.WellNamed) : ∀ e : Expr, e.check = .ok () → (e.rebind w).check = .ok ()
  | .name _, h | .constant _, h => h
  | .attribute value _, h => by
    obtain ⟨attr, hvalue⟩ := check_attribute.1 h
    exact check_attribute.2 ⟨attr, check_rebind hw value hvalue⟩
  | .call func args keywords, h => by
    obtain ⟨hfunc, hargs, hkeywords⟩ := check_call.1 h
    exact check_call.2 ⟨check_rebind hw func hfunc, check_rebindAll hw args hargs,
      check_rebindKeywords hw keywords hkeywords⟩
  | .tuple items, h => check_tuple.2 (check_rebindAll hw items (check_tuple.1 h))
  | .list items, h => check_list.2 (check_rebindAll hw items (check_list.1 h))
  | .compare left _ right, h => by
    obtain ⟨hleft, hright⟩ := check_compare.1 h
    exact check_compare.2 ⟨check_rebind hw left hleft, check_rebind hw right hright⟩
  | .binOp left _ right, h => by
    obtain ⟨hleft, hright⟩ := check_binOp.1 h
    exact check_binOp.2 ⟨check_rebind hw left hleft, check_rebind hw right hright⟩
  | .woven x, h => by
    obtain ⟨short, declaration⟩ := check_woven.1 h
    refine check_woven.2 ⟨Woven.isIdentifier_rebind hw short, ?_⟩
    rwa [Woven.declName_rebind]

theorem check_rebindAll (hw : w.WellNamed) : ∀ es : List Expr, (∀ e ∈ es, e.check = .ok ()) →
    ∀ e ∈ rebindAll w es, e.check = .ok ()
  | [], _ => by simp [rebindAll]
  | e :: es, h => by
    obtain ⟨he, hes⟩ := List.forall_mem_cons.1 h
    exact List.forall_mem_cons.2 ⟨check_rebind hw e he, check_rebindAll hw es hes⟩

theorem check_rebindKeywords (hw : w.WellNamed) : ∀ ks : List (Keyword Expr),
    (∀ k ∈ ks, isIdentifier k.arg = true ∧ k.value.check = .ok ()) →
    ∀ k ∈ rebindKeywords w ks, isIdentifier k.arg = true ∧ k.value.check = .ok ()
  | [], _ => by simp [rebindKeywords]
  | ⟨_, value⟩ :: ks, h => by
    obtain ⟨hk, hks⟩ := List.forall_mem_cons.1 h
    exact List.forall_mem_cons.2
      ⟨⟨hk.1, check_rebind hw value hk.2⟩, check_rebindKeywords hw ks hks⟩
end

mutual
theorem checkTarget_rebind (hw : w.WellNamed) : ∀ e : Expr, e.checkTarget = .ok () →
    (e.rebind w).checkTarget = .ok ()
  | .name _, h => h
  | .attribute value _, h => by
    obtain ⟨attr, hvalue⟩ := checkTarget_attribute.1 h
    exact checkTarget_attribute.2 ⟨attr, check_rebind hw value hvalue⟩
  | .tuple items, h => checkTarget_tuple.2 (checkTargets_rebind hw items (checkTarget_tuple.1 h))
  | .list items, h => checkTarget_list.2 (checkTargets_rebind hw items (checkTarget_list.1 h))
  | .call .., h | .constant _, h | .compare .., h | .binOp .., h | .woven _, h => by
    simp [checkTarget] at h

theorem checkTargets_rebind (hw : w.WellNamed) : ∀ es : List Expr,
    (∀ e ∈ es, e.checkTarget = .ok ()) →
    ∀ e ∈ rebindAll w es, e.checkTarget = .ok ()
  | [], _ => by simp [rebindAll]
  | e :: es, h => by
    obtain ⟨he, hes⟩ := List.forall_mem_cons.1 h
    exact List.forall_mem_cons.2 ⟨checkTarget_rebind hw e he, checkTargets_rebind hw es hes⟩
end

theorem check_optional_rebind (hw : w.WellNamed) {e : Option Expr} (h : ∀ x ∈ e, x.check = .ok ()) :
    ∀ x ∈ e.map (rebind w), x.check = .ok () := by
  cases e with
  | none => simp
  | some e => simpa using check_rebind hw e (by simpa using h)

end Expr

theorem Param.check_rebind {w : Worklist} (hw : w.WellNamed) {p : Param} (h : p.check = .ok ()) :
    (p.rebind w).check = .ok () := by
  obtain ⟨name, default⟩ := Param.check_eq_ok.1 h
  exact Param.check_eq_ok.2 ⟨name, Expr.check_optional_rebind hw default⟩

namespace Stmt

open Loom.Expr (check_rebindAll check_rebindKeywords checkTargets_rebind checkTarget_rebind
  check_optional_rebind)

variable {w : Worklist}

mutual
theorem check_rebind (hw : w.WellNamed) : ∀ s : Stmt, s.check = .ok () → (s.rebind w).check = .ok ()
  | .functionDef ⟨_, _, _, body⟩, h => by
    obtain ⟨name, params, decorators, nonempty, hbody⟩ := check_functionDef.1 h
    refine check_functionDef.2 ⟨name, List.forall_mem_map.2 fun p hp => ?_,
      check_rebindAll hw _ decorators, ?_, checkBlock_rebind hw body hbody⟩
    · exact Param.check_rebind hw (params p hp)
    · simpa [rebindBlock_eq_map] using nonempty
  | .classDef ⟨_, _, _, _, body⟩, h => by
    obtain ⟨name, bases, decorators, keywords, nonempty, hbody⟩ := check_classDef.1 h
    refine check_classDef.2 ⟨name, check_rebindAll hw _ bases, check_rebindAll hw _ decorators,
      check_rebindKeywords hw _ keywords, ?_, checkBlock_rebind hw body hbody⟩
    simpa [rebindBlock_eq_map] using nonempty
  | .assign targets value, h => by
    obtain ⟨nonempty, htargets, hvalue⟩ := check_assign.1 h
    refine check_assign.2 ⟨?_, checkTargets_rebind hw targets htargets,
      Expr.check_rebind hw value hvalue⟩
    simpa [Expr.rebindAll_eq_map] using nonempty
  | .expr e, h => check_expr.2 (Expr.check_rebind hw e (check_expr.1 h))
  | .ret value, h => check_ret.2 (check_optional_rebind hw (check_ret.1 h))
  | .delete targets, h => check_delete.2 (checkTargets_rebind hw targets (check_delete.1 h))
  | .pass, h | .importNames _, h | .importFrom .., h | .global _, h => h
  | .ifElse test body orelse, h => by
    obtain ⟨htest, nonempty, hbody, helse⟩ := check_ifElse.1 h
    refine check_ifElse.2 ⟨Expr.check_rebind hw test htest, ?_, checkBlock_rebind hw body hbody,
      checkBlock_rebind hw orelse helse⟩
    simpa [rebindBlock_eq_map] using nonempty
  | .forLoop target iter body, h => by
    obtain ⟨htarget, hiter, nonempty, hbody⟩ := check_forLoop.1 h
    refine check_forLoop.2 ⟨checkTarget_rebind hw target htarget, Expr.check_rebind hw iter hiter,
      ?_, checkBlock_rebind hw body hbody⟩
    simpa [rebindBlock_eq_map] using nonempty
  | .whileLoop test body, h => by
    obtain ⟨htest, nonempty, hbody⟩ := check_whileLoop.1 h
    refine check_whileLoop.2 ⟨Expr.check_rebind hw test htest, ?_, checkBlock_rebind hw body hbody⟩
    simpa [rebindBlock_eq_map] using nonempty

theorem checkBlock_rebind (hw : w.WellNamed) : ∀ body : List Stmt, (∀ s ∈ body, s.check = .ok ()) →
    ∀ s ∈ rebindBlock w body, s.check = .ok ()
  | [], _ => by simp [rebindBlock]
  | s :: rest, h => by
    obtain ⟨hs, hrest⟩ := List.forall_mem_cons.1 h
    exact List.forall_mem_cons.2 ⟨check_rebind hw s hs, checkBlock_rebind hw rest hrest⟩
end

/-! ## Headers -/

theorem check_searchPathLoop (paths : List FilePath) : (searchPathLoop paths).check = .ok () := by
  have path : isIdentifier "path" = true := by decide
  have sys : isIdentifier "sys" = true := by decide
  have append : isIdentifier "append" = true := by decide
  have list : searchPathList.check = .ok () := by simp [searchPathList, path, sys]
  simp [searchPathLoop, Expr.str, path, append, list]

/-- A header passes the check if its modules are dotted names under identifiers. -/
theorem check_header (paths : List FilePath) {modules : List (String × String)}
    (h : ∀ m ∈ modules, isDottedName m.1 = true ∧ isIdentifier m.2 = true) :
    ∀ s ∈ header paths modules, s.check = .ok () := by
  intro s hs
  rcases List.mem_append.1 hs with hs | hs
  · have sys : isDottedName "sys" = true := by decide
    simp only [searchPathHeader] at hs
    split at hs
    · cases hs
    · simp only [List.mem_cons, List.not_mem_nil, or_false] at hs
      rcases hs with rfl | rfl
      · simp [sys]
      · exact check_searchPathLoop paths
  · obtain ⟨m, hm, rfl⟩ := List.mem_map.1 hs
    obtain ⟨module, short⟩ := h m hm
    simp only [importAs, check_importNames, List.mem_singleton, forall_eq,
      Alias.checkModule_eq_ok]
    refine ⟨module, fun n hn => ?_⟩
    split at hn
    · cases hn
    · cases Option.mem_some_iff.1 hn
      exact short

end Stmt

/-! ## Modules -/

namespace Module

/-- Binding well-named modules keeps a module well formed. -/
theorem check_bindModules {m : Module} {w : Worklist} (hw : w.WellNamed) (h : m.check = .ok ()) :
    (m.bindModules w).check = .ok () := by
  cases hempty : w.isEmpty with
  | true => simpa [bindModules_eq, hempty] using h
  | false =>
    obtain ⟨before, after, rest, body⟩ := m.body_bindModules hempty
    have rebound : ∀ s ∈ before ++ after, s.check = .ok () := by
      rw [rest]
      exact Stmt.checkBlock_rebind hw m.body (check_eq_ok.1 h)
    have header : ∀ s ∈ Stmt.header w.searchPaths w.modules, s.check = .ok () := by
      refine Stmt.check_header _ fun m hm => ?_
      obtain ⟨r, hr, module, short⟩ := Worklist.mem_modules.1 hm
      exact ⟨module ▸ (hw r hr).module, short ▸ (hw r hr).short⟩
    rw [check_eq_ok, body]
    intro s hs
    simp only [List.mem_append] at hs rebound
    rcases hs with (hs | hs) | hs
    · exact rebound s (.inl hs)
    · exact header s hs
    · exact rebound s (.inr hs)

theorem validate_eq_ok {m : Module} : m.validate = .ok () ↔ m.check = .ok () := by
  simp only [validate]
  split <;> simp_all

end Module

namespace ModuleFile

variable {m : ModuleFile} {w : Worklist} {registry : Registry} {attempts : Nat}

/-- Weaving well-named references into a tree that passes the check can fail for want of an alias
only. -/
theorem exists_of_weave_eq_error {tree : Module} {e : WeaveError} (htree : m.tree = some tree)
    (hcheck : tree.check = .ok ()) (hw : w.WellNamed)
    (h : m.weave w registry attempts = .error e) :
    ((tree.matched w m.localName).mangle (tree.transform w m.localName).names attempts).1 =
      .error e := by
  simp only [weave_eq, loaded, htree, bind, Except.bind, bindMatched] at h
  split at h
  · cases h
  · cases hmangle : ((tree.matched w m.localName).mangle
        (tree.transform w m.localName).names attempts).1 with
    | error e' => simpa [hmangle] using h
    | ok matched =>
      have bound : ((tree.transform w m.localName).bindModules matched).check = .ok () :=
        Module.check_bindModules ((hw.matched tree m.localName).mangle hmangle)
          (Module.check_transform hw hcheck m.localName)
      simp [hmangle, Module.validate_eq_ok.2 bound] at h

theorem mangle_ne_malformedTree {names : List String} {flaw : Flaw} :
    (w.mangle names attempts).1 ≠ .error (.malformedTree flaw) := by
  have commit : ∀ (keys : List (ModuleKey × ShortName)) (names : List String),
      (commitAliases attempts keys names).1 ≠ .error (.malformedTree flaw) := by
    intro keys
    induction keys with
    | nil => simp [commitAliases]
    | cons k rest ih =>
      intro names
      simp only [commitAliases]
      split
      · simp
      · next fresh _ =>
        have later := ih (names ++ [fresh.text])
        split
        · simp
        · next e _ done => simpa [done] using later
  have keys := commit w.moduleKeys names
  rw [Worklist.mangle_eq]
  split
  · simp
  · next e _ done => simpa [done] using keys

/-- Weaving keeps trees well formed: if a tree passes the check and every reference names a
declaration by an identifier and its module by a dotted name, under its default alias, then the tree
passes the check after the edits and after its modules are bound as they are, and no weaving of it
is refused for a flaw. -/
theorem weave_keeps_check {tree : Module} (hcheck : tree.check = .ok ()) {w : Worklist}
    (hw : ∀ r ∈ w.references, isDottedName r.originModule = true ∧
      isIdentifier r.declName = true ∧ r = .ofParts r.originModule r.declName r.sourceFile)
    (localName : String) :
    (tree.transform w localName).check = .ok () ∧
    (tree.weaveUnmangled w localName).1.check = .ok () ∧
    ∀ (m : ModuleFile) (registry : Registry) (attempts : Nat) (flaw : Flaw),
      m.tree = some tree → m.localName = localName →
        m.weave w registry attempts ≠ .error (.malformedTree flaw) := by
  have named : w.WellNamed := fun r hr => by
    obtain ⟨module, declaration, parts⟩ := hw r hr
    exact .of_default module declaration (by rw [parts]; rfl)
  have edited := Module.check_transform named hcheck localName
  refine ⟨edited, Module.check_bindModules (named.matched tree localName) edited, ?_⟩
  rintro m registry attempts flaw htree - failed
  exact mangle_ne_malformedTree (exists_of_weave_eq_error htree hcheck named failed)

/-- The module `job` with a worklist that matches its function. -/
theorem weave_keeps_check_job : job.check = .ok () ∧
    (job.matched tracing "job").isEmpty = false ∧
    (job.transform tracing "job").check = .ok () ∧
    (job.weaveUnmangled tracing "job").1.check = .ok () ∧
    ∀ flaw, jobFile.weave tracing .empty 1 ≠ .error (.malformedTree flaw) := by
  have checked : job.check = .ok () := by
    have run : isIdentifier "run" = true := by decide
    have log : isIdentifier "log" = true := by decide
    simp [job, run, log]
  have references : tracing.references = [traced] := by decide +kernel
  have kept := weave_keeps_check checked (w := tracing)
    (by rw [references]; decide +kernel) "job"
  refine ⟨checked, ?_, kept.1, kept.2.1, fun flaw => kept.2.2 jobFile .empty 1 flaw rfl rfl⟩
  simp only [Module.matched, Module.matchedInWalk, Module.tests, walk_job]
  decide +kernel

end ModuleFile

end Loom
