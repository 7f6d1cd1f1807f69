import Loom.Proofs.Weave.Declaration
import Loom.Proofs.Weave.Walk

/-!
# What a walk makes of a tree

`Stmt.Rewritten` says, without a walk, what becomes of a statement: a function gets the wrappers
that match it as decorators, a class the last matching hook as its metaclass and, for every instance
attribute that some accessor triple matches, a property with the accessors of the last such triple;
blocks are rewritten statement by statement, and nothing else changes. The walk computes exactly
this.
-/

namespace Loom

/-! ## Classes -/

namespace Keyword

/-- The first keyword `arg` gets the value, or a new last one if there is none. -/
inductive Put (arg : String) (value : Expr) : List (Keyword Expr) → List (Keyword Expr) → Prop
  | first {before after : List (Keyword Expr)} {old : Expr} : (∀ k ∈ before, k.arg ≠ arg) →
    Put arg value (before ++ ⟨arg, old⟩ :: after) (before ++ ⟨arg, value⟩ :: after)
  | last {ks : List (Keyword Expr)} : (∀ k ∈ ks, k.arg ≠ arg) →
    Put arg value ks (ks ++ [⟨arg, value⟩])

end Keyword

namespace Stmt

/-- A statement with bare names taken from its targets, if it is an assignment; none if that leaves
no target. -/
def withoutTargets (names : List String) : Stmt → Option Stmt
  | .assign targets value =>
    let kept := targets.filter fun t => !names.any fun name => t.isName name
    if kept.isEmpty then none else some (.assign kept value)
  | s => some s

end Stmt

/-- What an accessor triple asks for. -/
structure Accessors where
  pointcut : Pointcut
  getter : Option Reference
  setter : Option Reference
  deleter : Option Reference

namespace Accessors

/-- `attr = property(…)`: a keyword for each accessor there is. -/
def binding (t : Accessors) (attr : String) : Stmt :=
  .assign [.name attr] (.call (.name "property") []
    (t.getter.toList.map (fun r => ⟨"fget", r.woven⟩) ++
      t.setter.toList.map (fun r => ⟨"fset", r.woven⟩) ++
      t.deleter.toList.map fun r => ⟨"fdel", r.woven⟩))

def advice (t : Accessors) : Advice := .accessorTriple t.pointcut t.getter t.setter t.deleter

/-- The attributes that some triple matches. -/
def matching (pathOf : String → String) (attributes : List String) (triples : List Accessors) :
    List String :=
  attributes.filter fun attr => triples.any fun t => t.pointcut.isMatch (pathOf attr)

/-- Each triple with the attributes that it matches and no later one does. -/
def lastMatches (pathOf : String → String) (attributes : List String) :
    List Accessors → List (Accessors × String)
  | [] => []
  | t :: later =>
    (attributes.filter fun attr => t.pointcut.isMatch (pathOf attr) &&
      !later.any fun u => u.pointcut.isMatch (pathOf attr)).map (fun attr => (t, attr)) ++
        lastMatches pathOf attributes later

end Accessors

/-- The accessor triples of a worklist, in order. -/
def Worklist.accessors (w : Worklist) : List Accessors :=
  w.advices.filterMap fun
    | .accessorTriple p getter setter deleter => some ⟨p, getter, setter, deleter⟩
    | _ => none

namespace ClassDef

/-- The class after the hooks that match it: the last one is the metaclass, and no other is left.
A body of which nothing is left is `pass`. -/
def Hooked (hooks : List Reference) (c c' : Class) : Prop :=
  match hooks.getLast? with
  | none => c' = c
  | some hook => ∃ keywords, Keyword.Put "metaclass" hook.woven c.keywords keywords ∧
    c' = { c with
      keywords
      body :=
        match c.body.filterMap (Stmt.withoutTargets ["__metaclass__"]) with
        | [] => [.pass]
        | s :: rest => s :: rest }

/-- The class after the accessors that match its instance attributes: these attributes lose their
own bindings and get a property each. -/
def Accessed (pathOf : String → String) (triples : List Accessors) (c c' : Class) : Prop :=
  let matching := Accessors.matching pathOf c.instanceAttributes triples
  -- Without a match not even an assignment that has no target goes.
  if matching = [] then c' = c
  else
    c' = { c with
      body := c.body.filterMap (Stmt.withoutTargets matching) ++
        (Accessors.lastMatches pathOf c.instanceAttributes triples).map fun t => t.1.binding t.2 }

end ClassDef

/-! ## Statements -/

namespace Stmt

mutual
/-- `Rewritten w localName names s s'`: the statement `s`, which stands inside the declarations
`names` of a module known as `localName`, becomes `s'`. -/
inductive Rewritten (w : Worklist) (localName : String) : List String → Stmt → Stmt → Prop
  | function {names : List String} {f : Function} {body : List Stmt} :
    BlockRewritten w localName (names ++ [f.name]) f.body body →
    Rewritten w localName names (.functionDef f)
      (.functionDef { f with
        decorators := (w.wrappersAt (Address.path localName (names ++ [f.name]))).reverse.map
          Reference.woven ++ f.decorators
        body })
  | cls {names : List String} {c hooked accessed : Class} {body : List Stmt} :
    ClassDef.Hooked (w.hooksAt (Address.path localName (names ++ [c.name]))) c hooked →
    ClassDef.Accessed (fun attr => Address.path localName (names ++ [c.name, attr])) w.accessors
      hooked accessed →
    BlockRewritten w localName (names ++ [c.name]) accessed.body body →
    Rewritten w localName names (.classDef c) (.classDef { accessed with body })
  | ifElse {names : List String} {test : Expr} {body orelse body' orelse' : List Stmt} :
    BlockRewritten w localName names body body' → BlockRewritten w localName names orelse orelse' →
    Rewritten w localName names (.ifElse test body orelse) (.ifElse test body' orelse')
  | forLoop {names : List String} {target iter : Expr} {body body' : List Stmt} :
    BlockRewritten w localName names body body' →
    Rewritten w localName names (.forLoop target iter body) (.forLoop target iter body')
  | whileLoop {names : List String} {test : Expr} {body body' : List Stmt} :
    BlockRewritten w localName names body body' →
    Rewritten w localName names (.whileLoop test body) (.whileLoop test body')
  | simple {names : List String} {s : Stmt} : s.isSimple = true → Rewritten w localName names s s

inductive BlockRewritten (w : Worklist) (localName : String) :
    List String → List Stmt → List Stmt → Prop
  | nil {names : List String} : BlockRewritten w localName names [] []
  | cons {names : List String} {s s' : Stmt} {rest rest' : List Stmt} :
    Rewritten w localName names s s' → BlockRewritten w localName names rest rest' →
    BlockRewritten w localName names (s :: rest) (s' :: rest')
end

end Stmt

/-! ## Metaclasses -/

namespace Keyword

theorem put_set (arg : String) (value : Expr) (ks : List (Keyword Expr)) :
    Put arg value ks (set arg value ks) := by
  induction ks with
  | nil => exact .last (by simp)
  | cons k ks ih =>
    obtain ⟨karg, old⟩ := k
    by_cases hk : karg = arg
    · subst hk
      simp only [set, ↓reduceIte]
      exact @Put.first karg value [] ks old (by simp)
    · simp only [set, hk, ↓reduceIte]
      generalize set arg value ks = ks' at ih
      cases ih with
      | @first before after old' hb =>
        exact @Put.first arg value (⟨karg, old⟩ :: before) after old'
          (List.forall_mem_cons.2 ⟨hk, hb⟩)
      | last hks => exact .last (List.forall_mem_cons.2 ⟨hk, hks⟩)

theorem put_iff {arg : String} {value : Expr} {ks ks' : List (Keyword Expr)} :
    Put arg value ks ks' ↔ ks' = set arg value ks := by
  refine ⟨fun h => ?_, fun h => h ▸ put_set arg value ks⟩
  cases h with
  | @first before after old hb =>
    induction before with
    | nil => simp [set]
    | cons k before ih =>
      obtain ⟨hk, hb⟩ := List.forall_mem_cons.1 hb
      simp [set, hk, ← ih hb]
  | last hk =>
    induction ks with
    | nil => rfl
    | cons k ks ih =>
      obtain ⟨hk, hks⟩ := List.forall_mem_cons.1 hk
      simp [set, hk, ← ih hks]

theorem set_set (arg : String) (value value' : Expr) (ks : List (Keyword Expr)) :
    set arg value' (set arg value ks) = set arg value' ks := by
  induction ks with
  | nil => simp [set]
  | cons k ks ih => by_cases hk : k.arg = arg <;> simp [set, hk, ih]

end Keyword

namespace Stmt

theorem unbind?_eq (name : String) : unbind? name = withoutTargets [name] := by
  funext s
  cases s <;> simp [unbind?, withoutTargets]

theorem withoutTargets_congr {names names' : List String} (h : ∀ n, n ∈ names ↔ n ∈ names') :
    withoutTargets names = withoutTargets names' := by
  have any : ∀ t : Expr, (names.any fun n => t.isName n) = names'.any fun n => t.isName n := by
    intro t
    rw [Bool.eq_iff_iff]
    simp [h]
  funext s
  cases s <;> simp [withoutTargets, any]

/-- Names are taken away all at once or one after the other. -/
theorem filterMap_withoutTargets (names more : List String) (body : List Stmt) :
    (body.filterMap (withoutTargets names)).filterMap (withoutTargets more) =
      body.filterMap (withoutTargets (names ++ more)) := by
  rw [List.filterMap_filterMap]
  congr 1
  funext s
  cases s with
  | assign targets value =>
    have twice : (targets.filter fun t => !(names ++ more).any fun n => t.isName n) =
        (targets.filter fun t => !names.any fun n => t.isName n).filter
          fun t => !more.any fun n => t.isName n := by
      simp [List.filter_filter, Bool.and_comm]
    simp only [withoutTargets, twice]
    split
    · next h => simp [List.isEmpty_iff.1 h]
    · rfl
  | _ => rfl

end Stmt

namespace ClassDef

theorem setHook_setHook (c : Class) (hook hook' : Reference) :
    (c.setHook hook).setHook hook' = c.setHook hook' := by
  have bodies (body : List Stmt) :
      fillBody ((fillBody (body.filterMap (Stmt.withoutTargets ["__metaclass__"]))).filterMap
        (Stmt.withoutTargets ["__metaclass__"])) =
        fillBody (body.filterMap (Stmt.withoutTargets ["__metaclass__"])) := by
    have once : Stmt.withoutTargets (["__metaclass__"] ++ ["__metaclass__"]) =
        Stmt.withoutTargets ["__metaclass__"] := Stmt.withoutTargets_congr (by simp)
    have twice := Stmt.filterMap_withoutTargets ["__metaclass__"] ["__metaclass__"] body
    rw [once] at twice
    cases h : body.filterMap (Stmt.withoutTargets ["__metaclass__"]) with
    | nil => simp [fillBody, Stmt.withoutTargets]
    | cons s rest =>
      rw [h] at twice
      simp [fillBody, twice]
  simp [setHook, unbind, Keyword.set_set, Stmt.unbind?_eq, bodies]

/-- Of several hooks the last one counts. -/
theorem foldl_setHook (hooks : List Reference) (c : Class) :
    hooks.foldl setHook c = (hooks.getLast?.map c.setHook).getD c := by
  induction hooks generalizing c with
  | nil => rfl
  | cons hook rest ih =>
    rw [List.foldl_cons, ih]
    cases h : rest.getLast? <;> simp [List.getLast?_cons, h, setHook_setHook]

theorem fillBody_eq (body : List Stmt) :
    fillBody body = match body with
      | [] => [.pass]
      | s :: rest => s :: rest := by
  cases body <;> rfl

theorem hooked_iff {hooks : List Reference} {c c' : Class} :
    Hooked hooks c c' ↔ c' = hooks.foldl setHook c := by
  rw [foldl_setHook, Hooked]
  cases hooks.getLast? <;> simp [Keyword.put_iff, setHook, unbind, Stmt.unbind?_eq, fillBody_eq]

end ClassDef

/-! ## Properties -/

namespace Accessors

/-- Installing the accessors of a triple binds the attribute to its property. -/
theorem accessorBinding_eq (t : Accessors) (attr : String) :
    ClassDef.accessorBinding attr t.getter t.setter t.deleter = t.binding attr := by
  obtain ⟨pointcut, getter, setter, deleter⟩ := t
  cases getter <;> cases setter <;> cases deleter <;> rfl

/-- What is left when a later setting of an attribute replaces the earlier ones. -/
def lastSettings : List (Accessors × String) → List (Accessors × String)
  | [] => []
  | t :: later =>
    if t.2 ∈ later.map Prod.snd then lastSettings later else t :: lastSettings later

theorem withoutTargets_binding (names : List String) (t : Accessors) (attr : String) :
    Stmt.withoutTargets names (t.binding attr) =
      if attr ∈ names then none else some (t.binding attr) := by
  have bare : (names.any fun name => (Expr.name attr).isName name) = decide (attr ∈ names) := by
    rw [Bool.eq_iff_iff]
    simp [Expr.isName, Expr.asName?]
  by_cases h : attr ∈ names <;> simp [binding, Stmt.withoutTargets, bare, h]

/-- Settings of one triple, then others: those stay that no other replaces. -/
theorem lastSettings_append {t : Accessors} {attributes : List String} (h : attributes.Nodup)
    (later : List (Accessors × String)) :
    lastSettings (attributes.map (fun attr => (t, attr)) ++ later) =
      (attributes.filter (· ∉ later.map Prod.snd)).map (fun attr => (t, attr)) ++
        lastSettings later := by
  induction attributes with
  | nil => rfl
  | cons attr rest ih =>
    obtain ⟨new, rest_nodup⟩ := List.nodup_cons.1 h
    have replaced : attr ∈ (rest.map (fun attr => (t, attr)) ++ later).map Prod.snd ↔
        attr ∈ later.map Prod.snd := by
      simp [new]
    rw [List.map_cons, List.cons_append, lastSettings]
    simp only [replaced, ih rest_nodup]
    by_cases hl : attr ∈ later.map Prod.snd <;> simp [hl]

/-- The settings that a loop over triples and attributes makes. -/
def settings (pathOf : String → String) (attributes : List String) (triples : List Accessors) :
    List (Accessors × String) :=
  triples.flatMap fun t =>
    (attributes.filter fun attr => t.pointcut.isMatch (pathOf attr)).map fun attr => (t, attr)

theorem mem_settings {pathOf : String → String} {attributes : List String}
    {triples : List Accessors} {attr : String} :
    attr ∈ (settings pathOf attributes triples).map Prod.snd ↔
      attr ∈ matching pathOf attributes triples := by
  simp only [settings, matching, List.map_flatMap, List.map_map, List.mem_flatMap, List.mem_map,
    List.mem_filter, List.any_eq_true, Function.comp_apply]
  constructor
  · rintro ⟨t, ht, attr, ⟨hattr, hm⟩, rfl⟩
    exact ⟨hattr, t, ht, hm⟩
  · rintro ⟨hattr, t, ht, hm⟩
    exact ⟨t, ht, attr, ⟨hattr, hm⟩, rfl⟩

/-- There is something to set exactly if some attribute is matched. -/
theorem settings_eq_nil_iff {pathOf : String → String} {attributes : List String}
    {triples : List Accessors} :
    settings pathOf attributes triples = [] ↔ matching pathOf attributes triples = [] := by
  rw [← List.map_eq_nil_iff (f := Prod.snd), List.eq_nil_iff_forall_not_mem,
    List.eq_nil_iff_forall_not_mem]
  simp only [mem_settings]

theorem lastSettings_settings (pathOf : String → String) {attributes : List String}
    (h : attributes.Nodup) (triples : List Accessors) :
    lastSettings (settings pathOf attributes triples) = lastMatches pathOf attributes triples := by
  induction triples with
  | nil => rfl
  | cons t later ih =>
    have first := lastSettings_append (t := t)
      (h.filter fun attr => t.pointcut.isMatch (pathOf attr)) (settings pathOf attributes later)
    rw [lastMatches, ← ih, settings, List.flatMap_cons]
    refine first.trans ?_
    rw [List.filter_filter]
    congr 2
    refine List.filter_congr fun attr hattr => ?_
    rw [Bool.eq_iff_iff]
    simp [mem_settings, matching, hattr, and_comm]

end Accessors

namespace ClassDef

open Accessors (lastSettings settings accessorBinding_eq)

def setAccessors (c : Class) (t : Accessors × String) : Class :=
  c.setAccessor t.2 t.1.getter t.1.setter t.1.deleter

theorem setAccessors_eq (c : Class) (t : Accessors × String) :
    c.setAccessors t =
      { c with body := c.body.filterMap (Stmt.withoutTargets [t.2]) ++ [t.1.binding t.2] } := by
  simp [setAccessors, setAccessor, unbind, Stmt.unbind?_eq, accessorBinding_eq]

/-- Properties set one after the other: each takes away what an earlier one of its attribute has
installed. -/
theorem foldl_setAccessors (ts : List (Accessors × String)) (h : ts ≠ []) (c : Class) :
    ts.foldl setAccessors c =
      { c with
        body := c.body.filterMap (Stmt.withoutTargets (ts.map Prod.snd)) ++
          (lastSettings ts).map fun t => t.1.binding t.2 } := by
  induction ts generalizing c with
  | nil => exact absurd rfl h
  | cons t later ih =>
    rw [List.foldl_cons, setAccessors_eq]
    by_cases hl : later = []
    · simp [hl, lastSettings]
    · rw [ih hl]
      simp only [List.filterMap_append, Stmt.filterMap_withoutTargets, List.filterMap_cons,
        List.filterMap_nil, Accessors.withoutTargets_binding, lastSettings]
      by_cases replaced : t.2 ∈ later.map Prod.snd
      · simp only [if_pos replaced]
        simp
      · simp only [if_neg replaced]
        simp

theorem accessorTriples_eq (w : Worklist) :
    w.accessorTriples = w.accessors.map Accessors.advice := by
  rw [Worklist.accessorTriples, Worklist.ofKind, Worklist.accessors]
  induction w.advices with
  | nil => rfl
  | cons a rest ih =>
    cases a with
    | accessorTriple => rw [List.filter_cons_of_pos rfl, ih]; rfl
    | functionWrapper | classHook => rw [List.filter_cons_of_neg (by simp [Advice.kind]), ih]; rfl

/-- The accessors that a walk installs are the settings of the matching triples. -/
theorem foldl_trials (w : Worklist) (address : Address) (attributes : List String) (c : Class) :
    ((trials w attributes).filter fun t => t.1.isMatch (address.child t.2)).foldl
        (fun c t => accessWith t.1 t.2 c) c =
      (settings (fun attr => (address.child attr).text) attributes w.accessors).foldl
        setAccessors c := by
  have same : (trials w attributes).filter (fun t => t.1.isMatch (address.child t.2)) =
      (settings (fun attr => (address.child attr).text) attributes w.accessors).map
        fun t => (t.1.advice, t.2) := by
    rw [trials, accessorTriples_eq, settings]
    induction w.accessors with
    | nil => rfl
    | cons t rest ih =>
      simp only [List.map_cons, List.flatMap_cons, List.filter_append, ih, List.map_append,
        List.filter_map, List.map_map]
      rfl
  rw [same, List.foldl_map]
  rfl

theorem accessed_iff {pathOf : String → String} {triples : List Accessors} {c c' : Class} :
    Accessed pathOf triples c c' ↔
      c' = (settings pathOf c.instanceAttributes triples).foldl setAccessors c := by
  have once : c.instanceAttributes.Nodup := nodup_distinct _
  simp only [Accessed, ← Accessors.settings_eq_nil_iff]
  split
  · next none => rw [none, List.foldl_nil]
  · next some =>
    rw [foldl_setAccessors _ some, Accessors.lastSettings_settings _ once,
      Stmt.withoutTargets_congr fun _ => Accessors.mem_settings]

/-- The tries on a class come to its last matching hook and its last matching accessors. -/
theorem node_weave_eq_iff {c c' : Class} {w : Worklist} {address : Address} :
    c' = (c.weave w address).node ↔ ∃ hooked, Hooked (w.hooksAt address.text) c hooked ∧
      Accessed (fun attr => (address.child attr).text) w.accessors hooked c' := by
  simp only [hooked_iff, accessed_iff, exists_eq_left, weave_eq, foldl_trials]

end ClassDef

/-! ## Walks -/

namespace Stmt

variable {w : Worklist} {localName : String}

/-- A block is rewritten statement by statement. -/
theorem blockRewritten_iff {names : List String} {g : Stmt → Stmt} {body body' : List Stmt}
    (h : ∀ s ∈ body, ∀ s', Rewritten w localName names s s' ↔ s' = g s) :
    BlockRewritten w localName names body body' ↔ body' = body.map g := by
  induction body generalizing body' with
  | nil =>
    constructor
    · rintro ⟨⟩; rfl
    · rintro rfl; exact .nil
  | cons s rest ih =>
    obtain ⟨hs, hrest⟩ := List.forall_mem_cons.1 h
    constructor
    · rintro (_ | ⟨first, others⟩)
      rw [(hs _).1 first, (ih hrest).1 others, List.map_cons]
    · rintro rfl
      exact .cons ((hs _).2 rfl) ((ih hrest).2 rfl)

/-- The walk computes the rewriting. The induction is along the walk, which goes into the body that
the edits of a class leave, just as `Rewritten.cls` does. -/
theorem rewritten_iff : ∀ (address : Address) (s : Stmt) (names : List String),
    address = (Address.root localName).descend names → ∀ s',
      Rewritten w localName names s s' ↔ s' = (s.weave w address).node := by
  refine walk_induct w ?function ?cls ?ifElse ?forLoop ?whileLoop ?simple
  case function =>
    rintro address f ih names rfl s'
    have place := Address.child_descend (Address.root localName) names f.name
    have block (body' : List Stmt) :
        BlockRewritten w localName (names ++ [f.name]) f.body body' ↔ body' = _ :=
      blockRewritten_iff fun s hs => ih s hs (names ++ [f.name]) place
    simp only [weave_functionDef, FunctionDef.weave_eq]
    rw [place, Address.text_descend_root, ← place]
    constructor
    · rintro (hbody | _ | _ | _ | _ | hs)
      · rw [(block _).1 hbody]
      · cases hs
    · rintro rfl
      exact .function ((block _).2 rfl)
  case cls =>
    rintro address c ih names rfl s'
    have place := Address.child_descend (Address.root localName) names c.name
    have block (body' : List Stmt) :
        BlockRewritten w localName (names ++ [c.name]) _ body' ↔ body' = _ :=
      blockRewritten_iff fun s hs => ih s hs (names ++ [c.name]) place
    have edits (c' : Class) :
        c' = (c.weave w (((Address.root localName).descend names).child c.name)).node ↔
          ∃ hooked,
            ClassDef.Hooked (w.hooksAt (Address.path localName (names ++ [c.name]))) c hooked ∧
            ClassDef.Accessed (fun attr => Address.path localName (names ++ [c.name, attr]))
              w.accessors hooked c' := by
      rw [ClassDef.node_weave_eq_iff]
      simp [Address.child_descend, Address.text_descend_root]
    simp only [weave_classDef]
    constructor
    · rintro (_ | ⟨hooked, accessed, hbody⟩ | _ | _ | _ | hs)
      · have done := (edits _).2 ⟨_, hooked, accessed⟩
        subst done
        rw [(block _).1 hbody]
      · cases hs
    · rintro rfl
      obtain ⟨hooked, h, a⟩ := (edits _).1 rfl
      exact .cls h a ((block _).2 rfl)
  case ifElse =>
    rintro address test body orelse ihBody ihElse names place s'
    have thenBlock (body' : List Stmt) : BlockRewritten w localName names body body' ↔ body' = _ :=
      blockRewritten_iff fun s hs => ihBody s hs names place
    have elseBlock (body' : List Stmt) :
        BlockRewritten w localName names orelse body' ↔ body' = _ :=
      blockRewritten_iff fun s hs => ihElse s hs names place
    rw [weave_ifElse]
    constructor
    · rintro (_ | _ | ⟨hbody, helse⟩ | _ | _ | hs)
      · rw [(thenBlock _).1 hbody, (elseBlock _).1 helse]
      · cases hs
    · rintro rfl
      exact .ifElse ((thenBlock _).2 rfl) ((elseBlock _).2 rfl)
  case forLoop =>
    rintro address target iter body ih names place s'
    have block (body' : List Stmt) : BlockRewritten w localName names body body' ↔ body' = _ :=
      blockRewritten_iff fun s hs => ih s hs names place
    rw [weave_forLoop]
    constructor
    · rintro (_ | _ | _ | hbody | _ | hs)
      · rw [(block _).1 hbody]
      · cases hs
    · rintro rfl
      exact .forLoop ((block _).2 rfl)
  case whileLoop =>
    rintro address test body ih names place s'
    have block (body' : List Stmt) : BlockRewritten w localName names body body' ↔ body' = _ :=
      blockRewritten_iff fun s hs => ih s hs names place
    rw [weave_whileLoop]
    constructor
    · rintro (_ | _ | _ | _ | hbody | hs)
      · rw [(block _).1 hbody]
      · cases hs
    · rintro rfl
      exact .whileLoop ((block _).2 rfl)
  case simple =>
    intro address s hs names _ s'
    rw [weave_of_isSimple hs]
    constructor
    · intro h
      cases h with
      | simple => rfl
      | _ => cases hs
    · rintro rfl
      exact .simple hs

end Stmt

/-! ## Modules -/

/-- Every module, whatever it holds, is transformed into the module that its rewriting describes and
into no other. -/
theorem Module.transform_eq_iff_rewritten (m m' : Module) (w : Worklist) (localName : String) :
    m.transform w localName = m' ↔ Stmt.BlockRewritten w localName [] m.body m'.body := by
  rw [Stmt.blockRewritten_iff fun s _ => Stmt.rewritten_iff (.root localName) s [] rfl, transform,
    walk, Stmt.node_weaveBlock]
  cases m'
  simp [eq_comm]

end Loom
