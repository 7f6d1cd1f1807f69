import Loom.Proofs.Aspect.Mangling
import Loom.Proofs.Path.Spelling

/-!
# Respelled worklists

Two worklists that differ in how the files of their references are spelled (`Worklist.Respells`)
have one and the same tidy form, in which every file is spelled from its components. What is done
with a worklist is the same for the tidy form, up to that form: which advices are kept of repeated
ones, the modules and their order, and the aliases that mangling finds. The directories that must be
importable are the same up to spelling.
-/

namespace Loom

open FilePath (tidy tidy_eq_iff tidy_respells respells_iff components_tidy)

/-! ## References -/

namespace Reference

/-- The same reference but for the spelling of its file. -/
structure Respells (r s : Reference) : Prop where
  originModule : r.originModule = s.originModule
  declName : r.declName = s.declName
  short : r.short = s.short
  sourceFile : r.sourceFile.Respells s.sourceFile

def tidied (r : Reference) : Reference := { r with sourceFile := r.sourceFile.tidy }

variable {r s : Reference}

theorem tidied_eq_iff : r.tidied = s.tidied ↔ r.Respells s := by
  obtain ⟨_, _, file, _⟩ := r
  obtain ⟨_, _, file', _⟩ := s
  rw [tidied, tidied, mk.injEq, tidy_eq_iff]
  exact ⟨fun ⟨module, name, file, short⟩ => ⟨module, name, short, file⟩,
    fun ⟨module, name, short, file⟩ => ⟨module, name, file, short⟩⟩

theorem identity_tidied (r : Reference) : r.tidied.identity = r.identity := by
  simp [identity, tidied, components_tidy]

theorem same_tidied (r s : Reference) : r.tidied.same s.tidied = r.same s := by
  rw [Bool.eq_iff_iff, same_iff, same_iff, identity_tidied, identity_tidied]

theorem Respells.packageDepth_eq (h : r.Respells s) : r.packageDepth = s.packageDepth := by
  rw [packageDepth, packageDepth, h.originModule, h.sourceFile.fileStem?_eq]

theorem Respells.searchRoot (h : r.Respells s) : r.searchRoot.Respells s.searchRoot := by
  have parents := h.sourceFile.parent?
  rw [Reference.searchRoot, Reference.searchRoot, h.packageDepth_eq]
  revert parents
  generalize r.sourceFile.parent? = dir, s.sourceFile.parent? = dir'
  rintro (dirs | _)
  · have above := dirs.ancestor? s.packageDepth
    simp only
    revert above
    generalize FilePath.ancestor? s.packageDepth _ = root,
      FilePath.ancestor? s.packageDepth _ = root'
    rintro (roots | _)
    · exact roots
    · exact dirs
  · exact .refl _

end Reference

/-! ## Advices -/

namespace Advice

/-- The same advice but for the spelling of the files, slot by slot. -/
structure Respells (a b : Advice) : Prop where
  kind : a.kind = b.kind
  pointcut : a.pointcut = b.pointcut
  slots : List.Forall₂ (Option.Rel Reference.Respells) a.slots b.slots

def tidied (a : Advice) : Advice := a.mapReferences Reference.tidied

variable {a b : Advice}

theorem map_tidied_eq_iff {x y : Option Reference} :
    x.map Reference.tidied = y.map Reference.tidied ↔ Option.Rel Reference.Respells x y := by
  cases x <;> cases y <;> simp [Reference.tidied_eq_iff]

theorem tidied_eq_iff : a.tidied = b.tidied ↔ a.Respells b := by
  constructor
  · intro eq
    have slots : a.slots.map (Option.map Reference.tidied) =
        b.slots.map (Option.map Reference.tidied) := by
      rw [← slots_mapReferences, ← slots_mapReferences]
      exact congrArg slots eq
    refine ⟨?_, ?_, ?_⟩
    · rw [← kind_mapReferences Reference.tidied a, ← kind_mapReferences Reference.tidied b]
      exact congrArg Advice.kind eq
    · rw [← pointcut_mapReferences Reference.tidied a, ← pointcut_mapReferences Reference.tidied b]
      exact congrArg Advice.pointcut eq
    · rw [← List.forall₂_eq_eq_eq, List.forall₂_map_left_iff, List.forall₂_map_right_iff] at slots
      exact slots.imp fun _ _ => map_tidied_eq_iff.1
  · rintro ⟨kind, pointcut, slots⟩
    cases a <;> cases b <;>
      simp_all [Advice.kind, Advice.pointcut, Advice.slots, tidied, mapReferences,
        Reference.tidied_eq_iff, map_tidied_eq_iff]

theorem same_tidied (a b : Advice) : a.tidied.same b.tidied = a.same b :=
  same_mapReferences Reference.same_tidied a b

theorem identity_tidied (a : Advice) : a.tidied.identity = a.identity :=
  Worklist.identity_mapReferences Reference.identity_tidied a

end Advice

/-! ## Worklists -/

namespace Worklist

/-- The same worklist but for the spelling of the files, advice by advice. -/
def Respells (v w : Worklist) : Prop := List.Forall₂ Advice.Respells v.advices w.advices

def tidied (w : Worklist) : Worklist := w.mapReferences Reference.tidied Reference.same_tidied

variable {v w : Worklist}

theorem ext_advices (h : v.advices = w.advices) : v = w := by
  cases v
  cases w
  cases h
  rfl

theorem advices_tidied (w : Worklist) : w.tidied.advices = w.advices.map Advice.tidied := rfl

theorem references_tidied (w : Worklist) :
    w.tidied.references = w.references.map Reference.tidied :=
  references_mapReferences w _ _

theorem tidied_eq_iff : v.tidied = w.tidied ↔ v.Respells w := by
  have advices : v.tidied = w.tidied ↔
      v.advices.map Advice.tidied = w.advices.map Advice.tidied :=
    ⟨congrArg Worklist.advices, fun eq => ext_advices eq⟩
  rw [advices, ← List.forall₂_eq_eq_eq, List.forall₂_map_left_iff, List.forall₂_map_right_iff,
    Respells]
  simp only [Advice.tidied_eq_iff]

theorem isEmpty_tidied (w : Worklist) : w.tidied.isEmpty = w.isEmpty := by
  simp [isEmpty, advices_tidied]

theorem ofKind_tidied (w : Worklist) (kind : AdviceKind) :
    w.tidied.ofKind kind = (w.ofKind kind).map Advice.tidied := by
  have kinds : (fun a : Advice => a.kind == kind) ∘ Advice.tidied = fun a => a.kind == kind := by
    funext a
    simp [Advice.tidied]
  rw [ofKind, ofKind, advices_tidied, List.filter_map, kinds]

theorem contains_tidied (w : Worklist) (a : Advice) :
    w.tidied.contains a.tidied = w.contains a := by
  simp only [contains, advices_tidied, List.any_map, Function.comp_def, Advice.same_tidied]

/-- Advices are dropped as repeated whatever their files are spelled like. -/
theorem ofAdvices_map_tidied (as : List Advice) :
    ofAdvices (as.map Advice.tidied) = (ofAdvices as).tidied := by
  refine ext_advices ?_
  rw [advices_tidied, advices_ofAdvices_eq, advices_ofAdvices_eq,
    eraseDupsBy_map Advice.identifies Advice.identity_tidied]

theorem modules_tidied (w : Worklist) : w.tidied.modules = w.modules := by
  rw [modules, modules, references_tidied, List.map_map]
  rfl

theorem forall₂_references (h : v.Respells w) :
    List.Forall₂ Reference.Respells v.references w.references := by
  have eq := congrArg references (tidied_eq_iff.2 h)
  rw [references_tidied, references_tidied, ← List.forall₂_eq_eq_eq, List.forall₂_map_left_iff,
    List.forall₂_map_right_iff] at eq
  exact eq.imp fun _ _ => Reference.tidied_eq_iff.1

theorem searchPaths_respells (h : v.Respells w) :
    List.Forall₂ FilePath.Respells v.searchPaths w.searchPaths := by
  have roots : List.Forall₂ FilePath.Respells (v.references.map (·.searchRoot))
      (w.references.map (·.searchRoot)) :=
    List.forall₂_map_left_iff.2 (List.forall₂_map_right_iff.2
      ((forall₂_references h).imp fun _ _ => Reference.Respells.searchRoot))
  rw [searchPaths, searchPaths, ← newOnes_of_none_known, ← newOnes_of_none_known]
  exact newPaths_respells .nil roots

end Worklist

/-! ## Mangling -/

def ModuleKey.tidied (k : ModuleKey) : ModuleKey := { k with file := k.file.tidy }

theorem ModuleKey.identity_tidied (k : ModuleKey) : k.tidied.identity = k.identity := by
  simp [identity, tidied, components_tidy]

theorem ModuleKey.same_tidied (k l : ModuleKey) : k.tidied.same l.tidied = k.same l := by
  rw [Bool.eq_iff_iff, same_iff, same_iff, identity_tidied, identity_tidied]

/-- The modules with their aliases, each in tidy form. -/
def tidiedKeys (keys : List (ModuleKey × ShortName)) : List (ModuleKey × ShortName) :=
  keys.map fun k => (k.1.tidied, k.2)

/-- The search for aliases does not look at the modules. -/
theorem commitAliases_tidiedKeys (attempts : Nat) (keys : List (ModuleKey × ShortName))
    (names : List String) : commitAliases attempts (tidiedKeys keys) names =
      ((commitAliases attempts keys names).1.map tidiedKeys,
        (commitAliases attempts keys names).2) := by
  induction keys generalizing names with
  | nil => rfl
  | cons k rest ih =>
    obtain ⟨key, base⟩ := k
    have rest_tidied := fun names => ih names
    simp only [tidiedKeys] at rest_tidied
    simp only [tidiedKeys, List.map_cons, commitAliases]
    cases freshAlias? names attempts base with
    | none => rfl
    | some fresh =>
      simp only [rest_tidied]
      rcases commitAliases attempts rest (names ++ [fresh.text]) with ⟨_ | _, _⟩ <;> rfl

namespace Reference

theorem moduleKey_tidied (r : Reference) : r.tidied.moduleKey = r.moduleKey.tidied := rfl

theorem withAlias_tidiedKeys (committed : List (ModuleKey × ShortName)) (r : Reference) :
    r.tidied.withAlias (tidiedKeys committed) = (r.withAlias committed).tidied := by
  have same : (fun k : ModuleKey × ShortName => k.1.same r.tidied.moduleKey) ∘
      (fun k : ModuleKey × ShortName => (k.1.tidied, k.2)) = fun k => k.1.same r.moduleKey := by
    funext k
    rw [Function.comp_apply, moduleKey_tidied, ModuleKey.same_tidied]
  have found : ((tidiedKeys committed).find? fun k => k.1.same r.tidied.moduleKey) =
      (committed.find? fun k => k.1.same r.moduleKey).map fun k => (k.1.tidied, k.2) := by
    rw [tidiedKeys, List.find?_map, same]
  rw [withAlias, withAlias, found]
  cases committed.find? fun k => k.1.same r.moduleKey <;> rfl

end Reference

namespace Worklist

theorem moduleKeys_tidied (w : Worklist) : w.tidied.moduleKeys = tidiedKeys w.moduleKeys := by
  have identity (r : Reference) : r.tidied.moduleKey.identity = r.moduleKey.identity := by
    rw [Reference.moduleKey_tidied, ModuleKey.identity_tidied]
  rw [moduleKeys_eq, moduleKeys_eq, firstReferences, references_tidied,
    eraseDupsBy_map Reference.identifies_sameModule identity, tidiedKeys, List.map_map,
    List.map_map, firstReferences]
  rfl

/-- Mangling finds the same aliases whatever the files are spelled like. -/
theorem mangle_tidied (w : Worklist) (names : List String) (attempts : Nat) :
    (w.tidied.mangle names attempts).1 = (w.mangle names attempts).1.map tidied := by
  rw [mangle_eq, mangle_eq, moduleKeys_tidied, commitAliases_tidiedKeys]
  obtain ⟨committed | _, _⟩ := commitAliases attempts w.moduleKeys names
  · rfl
  · refine congrArg Except.ok (ext_advices ?_)
    simp only [advices_tidied, mapReferences, List.map_map]
    refine List.map_congr_left fun a _ => ?_
    cases a <;>
      simp [Advice.tidied, Advice.mapReferences, Reference.withAlias_tidiedKeys,
        Function.comp_def]

/-- The alias of a module does not depend on how its file is spelled, here or there. -/
theorem aliasFor?_tidied (w : Worklist) {key key' : ModuleKey} (same : key.same key' = true) :
    w.tidied.aliasFor? key = w.aliasFor? key' := by
  have found : ∀ r : Reference, r.tidied.moduleKey.same key = r.moduleKey.same key' := by
    intro r
    rw [Bool.eq_iff_iff, ModuleKey.same_iff, ModuleKey.same_iff, Reference.moduleKey_tidied,
      ModuleKey.identity_tidied, ModuleKey.same_iff.1 same]
  rw [aliasFor?, aliasFor?, references_tidied, List.find?_map, Option.map_map]
  simp only [Function.comp_def, found]
  rfl

end Worklist

end Loom
