import Loom.Proofs.Weave.Injection
import Loom.Proofs.Weave.ModuleFile

/-!
# Bound trees

A tree is bound (`Module.Bound`) if every woven reference in it is written under an alias that the
tree imports the reference's module by, and references to different modules have different aliases.
A tree without woven references is bound, and weaving keeps it so, over and over: references of the
modules that match now get the aliases of the new header, and all others keep theirs, which the new
aliases avoid because an import binds them.
-/

namespace Loom

/-- The module a woven reference belongs to. -/
def Woven.moduleKey (x : Woven) : ModuleKey := ⟨x.sourceFile, x.originModule⟩

namespace Module

/-- The module has an import of its own that binds `shortName` to `module`. -/
def ImportsAs (m : Module) (module shortName : String) : Prop :=
  ∃ aliases, .importNames aliases ∈ m.body ∧
    ∃ a ∈ aliases, a.name = module ∧ a.boundName = shortName

structure Bound (m : Module) : Prop where
  imported : ∀ x, .woven x ∈ m.subterms → m.ImportsAs x.originModule x.shortName
  apart : ∀ x y, .woven x ∈ m.subterms → .woven y ∈ m.subterms →
    x.moduleKey.same y.moduleKey = false → x.shortName ≠ y.shortName

theorem bound_of_no_woven {m : Module} (h : ∀ x, .woven x ∉ m.subterms) : m.Bound :=
  ⟨fun x hx => absurd hx (h x), fun x _ hx => absurd hx (h x)⟩

/-! ## Imports -/

variable {m : Module} {w : Worklist} {module shortName localName : String}

/-- The alias of an import is a name of the module. -/
theorem ImportsAs.mem_names (h : m.ImportsAs module shortName) : shortName ∈ m.names := by
  obtain ⟨aliases, himport, a, ha, -, rfl⟩ := h
  exact Module.mem_names.2 (Stmt.mem_blockNames.2 ⟨_, himport, List.mem_map_of_mem ha⟩)

theorem ImportsAs.transform (h : m.ImportsAs module shortName) :
    (m.transform w localName).ImportsAs module shortName := by
  obtain ⟨aliases, himport, ha⟩ := h
  exact ⟨aliases, mem_body_transform rfl himport, ha⟩

theorem ImportsAs.bindModules (h : m.ImportsAs module shortName) (nonempty : w.isEmpty = false) :
    (m.bindModules w).ImportsAs module shortName := by
  obtain ⟨aliases, himport, ha⟩ := h
  obtain ⟨before, after, rest, body⟩ := m.body_bindModules nonempty
  have kept : .importNames aliases ∈ before ++ after := by
    rw [rest, rebind, Stmt.rebindBlock_eq_map]
    exact List.mem_map.2 ⟨_, himport, rfl⟩
  refine ⟨aliases, ?_, ha⟩
  rw [body]
  simp only [List.mem_append] at kept ⊢
  exact kept.imp_left .inl

/-- The modules of a worklist are imported under its aliases. -/
theorem importsAs_bindModules (nonempty : w.isEmpty = false) {r : Reference}
    (h : r ∈ w.references) : (m.bindModules w).ImportsAs r.originModule r.shortName := by
  obtain ⟨before, after, -, body⟩ := m.body_bindModules nonempty
  have module : (r.originModule, r.short.text) ∈ w.modules :=
    Worklist.mem_modules.2 ⟨r, h, rfl, rfl⟩
  obtain ⟨a, ha, name, bound⟩ := Stmt.importNames_mem_header w.searchPaths module
  refine ⟨[a], ?_, a, List.mem_singleton_self a, name, bound⟩
  rw [body]
  exact List.mem_append_left _ (List.mem_append_right _ ha)

/-! ## Woven references -/

/-- Where the woven references of a bound module come from. -/
theorem exists_of_woven_mem_bindModules (nonempty : w.isEmpty = false) {x : Woven}
    (h : .woven x ∈ (m.bindModules w).subterms) : ∃ y, .woven y ∈ m.subterms ∧ y.rebind w = x := by
  obtain ⟨before, after, rest, body⟩ := m.body_bindModules nonempty
  have old : .woven x ∈ (m.rebind w).subterms := by
    rw [subterms, ← rest]
    rw [subterms, body] at h
    obtain ⟨s, hs, hx⟩ := Stmt.mem_blockSubterms.1 h
    rcases List.mem_append.1 hs with hs | hs
    · rcases List.mem_append.1 hs with hs | hs
      · exact Stmt.mem_blockSubterms.2 ⟨s, List.mem_append_left _ hs, hx⟩
      · exact absurd (Stmt.mem_blockSubterms.2 ⟨s, hs, hx⟩) (Stmt.not_mem_subterms_header _ _ x)
    · exact Stmt.mem_blockSubterms.2 ⟨s, List.mem_append_right _ hs, hx⟩
  rw [subterms, rebind, Stmt.blockSubterms_rebindBlock] at old
  obtain ⟨e, he, eq⟩ := List.mem_map.1 old
  cases e with
  | woven y =>
    simp only [Expr.rebind, Expr.woven.injEq] at eq
    exact ⟨y, he, eq⟩
  | _ => simp [Expr.rebind] at eq

end Module

/-- A woven reference takes the alias of a reference to its module, or stays if there is none. -/
theorem Woven.rebind_cases (w : Worklist) (x : Woven) :
    (∃ r ∈ w.references, r.moduleKey.same (x.rebind w).moduleKey = true ∧
      r.shortName = (x.rebind w).shortName) ∨
    x.rebind w = x ∧ ∀ r ∈ w.references, r.moduleKey.same x.moduleKey = false := by
  simp only [rebind]
  split
  · next shortName found =>
    obtain ⟨r, hr, same, rfl⟩ := Worklist.exists_mem_of_aliasFor?_eq_some found
    exact .inl ⟨r, hr, same, rfl⟩
  · next missing =>
    refine .inr ⟨rfl, fun r hr => ?_⟩
    rw [← Bool.not_eq_true]
    exact fun same => Worklist.aliasFor?_ne_none hr same missing

/-! ## Weaving -/

namespace Module

/-- Binding keeps a module bound that was edited in between: the edits may put in woven references
of the modules that are bound now. -/
theorem Bound.bindModules {m edited : Module} {matched : Worklist} (hm : m.Bound)
    (imports : ∀ {module shortName}, m.ImportsAs module shortName →
      edited.ImportsAs module shortName)
    (injected : ∀ x, .woven x ∈ edited.subterms → .woven x ∈ m.subterms ∨
      ∃ r ∈ matched.references, r.moduleKey.same x.moduleKey = true)
    (fresh : matched.Fresh edited.names) (nonempty : matched.isEmpty = false) :
    (edited.bindModules matched).Bound := by
  -- Every woven reference has the alias of a matched one, or is an old one as it was.
  have origin (x : Woven) (hx : .woven x ∈ (edited.bindModules matched).subterms) :
      (∃ r ∈ matched.references, r.moduleKey.same x.moduleKey = true ∧ r.shortName = x.shortName) ∨
        .woven x ∈ m.subterms := by
    obtain ⟨y, hy, rfl⟩ := exists_of_woven_mem_bindModules nonempty hx
    rcases y.rebind_cases matched with matching | ⟨eq, other⟩
    · exact .inl matching
    · rw [eq]
      rcases injected y hy with old | ⟨r, hr, same⟩
      · exact .inr old
      · simp [other r hr] at same
  have oldAlias {x : Woven} (old : .woven x ∈ m.subterms) : x.shortName ∈ edited.names :=
    (imports (hm.imported x old)).mem_names
  constructor
  · intro x hx
    rcases origin x hx with ⟨r, hr, same, short⟩ | old
    · have module : r.originModule = x.originModule := congrArg Prod.snd (ModuleKey.same_iff.1 same)
      rw [← module, ← short]
      exact importsAs_bindModules nonempty hr
    · exact (imports (hm.imported x old)).bindModules nonempty
  · intro x y hx hy different
    rcases origin x hx with ⟨r, hr, sameX, shortX⟩ | oldX <;>
      rcases origin y hy with ⟨s, hs, sameY, shortY⟩ | oldY
    · rw [← shortX, ← shortY, ne_eq, fresh.shared r hr s hs]
      intro same
      rw [ModuleKey.same_iff] at sameX sameY same
      have : x.moduleKey.same y.moduleKey = true :=
        ModuleKey.same_iff.2 (sameX.symm.trans (same.trans sameY))
      simp [this] at different
    · intro eq
      exact fresh.notAmong r hr (shortX ▸ eq ▸ oldAlias oldY)
    · intro eq
      exact fresh.notAmong s hs (shortY ▸ eq ▸ oldAlias oldX)
    · exact hm.apart x y oldX oldY different

end Module

/-- One weaving: what is woven in, the search paths known before it, and how many underscores may be
tried. -/
structure Weaving where
  worklist : Worklist
  registry : Registry
  attempts : Nat

namespace ModuleFile

/-- The module after a weaving: a failed one leaves it as it is. -/
def after (m : ModuleFile) (c : Weaving) : ModuleFile :=
  match m.weave c.worklist c.registry c.attempts with
  | .ok o => o.module
  | .error _ => m

/-- That is the module the run of the weaving ends with, be it with a result or with an error. -/
theorem after_eq_module_of_run (m : ModuleFile) (c : Weaving) : m.after c =
    match (weaveIn c.worklist c.attempts).run ⟨m, c.registry⟩ with
    | .ok _ s | .error _ s => s.module := by
  rw [after, weave]
  cases run : (weaveIn c.worklist c.attempts).run ⟨m, c.registry⟩ with
  | ok woven s => rfl
  | error e s => rw [state_of_run_weaveIn run]

/-- The tree of the module is bound, if it is loaded. -/
def IsBound (m : ModuleFile) : Prop := ∀ tree, m.tree = some tree → tree.Bound

theorem IsBound.after {m : ModuleFile} (h : m.IsBound) (c : Weaving) : (m.after c).IsBound := by
  simp only [ModuleFile.after]
  split
  · next o done =>
    obtain ⟨tree, htree, ⟨-, rfl⟩ | ⟨hempty, matched, hmangle, -, rfl⟩⟩ := weave_eq_ok_iff.1 done
    · exact h
    · intro bound eq
      cases eq
      refine (h tree htree).bindModules (fun h => h.transform) (fun x hx => ?_)
        (Worklist.fresh_of_mangle_eq_ok hmangle)
        ((Worklist.isEmpty_of_mangle_eq_ok hmangle).trans hempty)
      refine (Module.woven_mem_transform hx).imp_right ?_
      -- An injected reference was matched before its alias was made fresh.
      rintro ⟨r, hr, eq⟩
      have key : r.moduleKey ∈ matched.references.map Reference.moduleKey := by
        rw [Worklist.moduleKeys_of_mangle_eq_ok hmangle]
        exact List.mem_map_of_mem hr
      obtain ⟨r', hr', eq'⟩ := List.mem_map.1 key
      cases eq
      exact ⟨r', hr', ModuleKey.same_iff.2 (congrArg ModuleKey.identity eq')⟩
  · exact h

theorem IsBound.foldl_after {m : ModuleFile} (h : m.IsBound) (cs : List Weaving) :
    (cs.foldl ModuleFile.after m).IsBound := by
  induction cs generalizing m with
  | nil => exact h
  | cons c cs ih => exact ih (h.after c)

/-- Woven references and imports agree over whole runs: a tree without woven references is bound,
one weaving keeps a bound tree bound, whether it succeeds or fails, and so does any run of them. -/
theorem bound_after_weavings :
    (∀ m : Module, (∀ x, .woven x ∉ m.subterms) → m.Bound) ∧
    (∀ (m : ModuleFile) (c : Weaving), m.IsBound → (m.after c).IsBound) ∧
    ∀ (m : ModuleFile) (cs : List Weaving), m.IsBound → (cs.foldl ModuleFile.after m).IsBound :=
  ⟨fun _ => Module.bound_of_no_woven, fun _ c h => h.after c, fun _ cs h => h.foldl_after cs⟩

/-- Two weavings in a row, the second of which finds the alias of the first among the names. -/
theorem bound_jobFile : (∃ o, jobFile.weave tracing .empty 1 = .ok o ∧ o.woven = true) ∧
    ([⟨tracing, .empty, 1⟩, ⟨tracing, .empty, 2⟩].foldl ModuleFile.after jobFile).IsBound := by
  obtain ⟨o, done, woven, -⟩ := weave_jobFile
  refine ⟨⟨o, done, woven⟩, bound_after_weavings.2.2 jobFile _ fun tree eq => ?_⟩
  cases eq
  refine bound_after_weavings.1 job fun x => ?_
  simp [job, Module.subterms, Stmt.blockSubterms, Stmt.subterms, Expr.subterms]

end ModuleFile

end Loom
