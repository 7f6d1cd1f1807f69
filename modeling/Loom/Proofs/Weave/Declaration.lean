import Loom.Weave.Transform

/-!
# One declaration

What the tries on a single function or class come to: the list of tests, which depends on the
worklist, the address and the instance attributes alone, and the edits of the advices that match,
one after the other.
-/

namespace Loom

/-! ## The references that match -/

namespace Worklist

/-- The wrappers that match a path, in worklist order. -/
def wrappersAt (w : Worklist) (path : String) : List Reference :=
  w.advices.filterMap fun
    | .functionWrapper p wrapper => if p.isMatch path then some wrapper else none
    | _ => none

/-- The class hooks that match a path, in worklist order. -/
def hooksAt (w : Worklist) (path : String) : List Reference :=
  w.advices.filterMap fun
    | .classHook p hook => if p.isMatch path then some hook else none
    | _ => none

end Worklist

/-! ## Loops of tries -/

/-- A loop over the elements that pass a test, where each of these stands for an element of another
type. -/
theorem foldl_filter_eq_foldl_filterMap {α β γ : Type} {p : α → Bool} {h : α → Option γ}
    {f : β → α → β} {g : β → γ → β} (hit : ∀ b a c, h a = some c → p a = true ∧ f b a = g b c)
    (miss : ∀ a, h a = none → p a = false) (as : List α) (b : β) :
    (as.filter p).foldl f b = (as.filterMap h).foldl g b := by
  induction as generalizing b with
  | nil => rfl
  | cons a as ih =>
    cases ha : h a with
    | none => rw [List.filter_cons_of_neg (by simp [miss a ha]), List.filterMap_cons_none ha, ih]
    | some c =>
      obtain ⟨hp, hf⟩ := hit b a c ha
      rw [List.filter_cons_of_pos hp, List.filterMap_cons_some ha, List.foldl_cons,
        List.foldl_cons, hf, ih]

namespace Tried

/-- A loop of tries notes each of them and makes the edits of those that match. -/
theorem foldl_attempt {α β : Type} (advice : β → Advice) (address : β → Address)
    (edit : β → α → α) (xs : List β) (t : Tried α) :
    xs.foldl (fun t x => t.attempt (advice x) (address x) (edit x)) t =
      ⟨(xs.filter fun x => (advice x).isMatch (address x)).foldl (fun n x => edit x n) t.node,
        t.tests ++ xs.map fun x => ⟨advice x, address x⟩⟩ := by
  induction xs generalizing t with
  | nil => simp
  | cons x xs ih =>
    rw [List.foldl_cons, ih]
    by_cases h : (advice x).isMatch (address x) = true <;> simp [attempt, Test.matched, h]

end Tried

/-! ## Functions -/

namespace FunctionDef

theorem foldl_addWrapper (f : Function) (wrappers : List Reference) :
    wrappers.foldl addWrapper f =
      { f with decorators := wrappers.reverse.map Reference.woven ++ f.decorators } := by
  induction wrappers generalizing f with
  | nil => rfl
  | cons r rest ih => rw [List.foldl_cons, ih]; simp [addWrapper]

theorem foldl_wrapWith (f : Function) (w : Worklist) (address : Address) :
    (w.functionWrappers.filter (·.isMatch address)).foldl (fun f a => wrapWith a f) f =
      (w.wrappersAt address.text).foldl addWrapper f := by
  rw [Worklist.functionWrappers, Worklist.ofKind, List.filter_filter]
  refine foldl_filter_eq_foldl_filterMap (fun f a r h => ?_) (fun a h => ?_) _ _
  · cases a with
    | functionWrapper p wrapper => simp_all [Advice.isMatch, Advice.pointcut, Advice.kind, wrapWith]
    | _ => cases h
  · cases a <;> simp_all [Advice.isMatch, Advice.pointcut, Advice.kind]

/-- A function gets its matching wrappers as decorators, the last one outermost. -/
theorem weave_eq (f : Function) (w : Worklist) (address : Address) :
    f.weave w address =
      ⟨{ f with
          decorators := (w.wrappersAt address.text).reverse.map Reference.woven ++ f.decorators },
        w.functionWrappers.map fun a => ⟨a, address⟩⟩ := by
  rw [weave, Tried.foldl_attempt (fun a => a) (fun _ => address) wrapWith, foldl_wrapWith,
    foldl_addWrapper, List.nil_append]

end FunctionDef

/-! ## Classes -/

namespace ClassDef

theorem foldl_hookWith (c : Class) (w : Worklist) (address : Address) :
    (w.classHooks.filter (·.isMatch address)).foldl (fun c a => hookWith a c) c =
      (w.hooksAt address.text).foldl setHook c := by
  rw [Worklist.classHooks, Worklist.ofKind, List.filter_filter]
  refine foldl_filter_eq_foldl_filterMap (fun c a r h => ?_) (fun a h => ?_) _ _
  · cases a with
    | classHook p hook => simp_all [Advice.isMatch, Advice.pointcut, Advice.kind, hookWith]
    | _ => cases h
  · cases a <;> simp_all [Advice.isMatch, Advice.pointcut, Advice.kind]

theorem weaveHooks_eq (c : Class) (w : Worklist) (address : Address) :
    c.weaveHooks w address =
      ⟨(w.hooksAt address.text).foldl setHook c, w.classHooks.map fun a => ⟨a, address⟩⟩ := by
  rw [weaveHooks, Tried.foldl_attempt (fun a => a) (fun _ => address) hookWith, foldl_hookWith,
    List.nil_append]

/-- The accessor triples with the attributes that they are tried on, in the order of the tries. -/
def trials (w : Worklist) (attributes : List String) : List (Advice × String) :=
  w.accessorTriples.flatMap fun a => attributes.map fun attr => (a, attr)

theorem mem_trials {w : Worklist} {attributes : List String} {a : Advice} {attr : String} :
    (a, attr) ∈ trials w attributes ↔ a ∈ w.accessorTriples ∧ attr ∈ attributes := by
  simp [trials]

/-- A class is given its hooks, then the accessors that match one of its instance attributes. -/
theorem weave_eq (c : Class) (w : Worklist) (address : Address) :
    c.weave w address =
      let hooked := (w.hooksAt address.text).foldl setHook c
      let trials := trials w hooked.instanceAttributes
      ⟨(trials.filter fun t => t.1.isMatch (address.child t.2)).foldl
          (fun c t => accessWith t.1 t.2 c) hooked,
        (w.classHooks.map fun a => ⟨a, address⟩) ++
          trials.map fun t => ⟨t.1, address.child t.2⟩⟩ := by
  have flat := Tried.foldl_attempt Prod.fst (fun t : Advice × String => address.child t.2)
    (fun t => accessWith t.1 t.2)
    (trials w ((w.hooksAt address.text).foldl setHook c).instanceAttributes)
    (c.weaveHooks w address)
  rw [trials, List.foldl_flatMap] at flat
  simp only [List.foldl_map] at flat
  simp only [weave, weaveHooks_eq] at flat ⊢
  exact flat

end ClassDef

end Loom
