import Mathlib.Data.List.Nodup
import Loom.Aspect.Worklist
import Loom.Proofs.Distinct

/-!
# Worklists as sets

Paths, references and advices are the same when their identities agree: the components of a path,
what a reference names, the kind, the pattern and the slots of an advice. A worklist has at most one
advice of an identity, so looking an advice up by its identity finds that advice itself.
-/

namespace Loom

theorem FilePath.identifies : Identifies FilePath.components FilePath.same :=
  fun _ _ => FilePath.same_iff

namespace ModuleKey

/-- What two keys of the same module have in common. -/
def identity (k : ModuleKey) : List Component × String := (k.file.components, k.module)

theorem same_iff {a b : ModuleKey} : a.same b = true ↔ a.identity = b.identity := by
  simp [same, identity, FilePath.same_iff]

end ModuleKey

namespace Reference

def identity (r : Reference) : String × String × List Component :=
  (r.originModule, r.declName, r.sourceFile.components)

theorem same_iff {r s : Reference} : r.same s = true ↔ r.identity = s.identity := by
  simp [same, identity, FilePath.same_iff, and_assoc]

end Reference

namespace Advice

def identity (a : Advice) :
    AdviceKind × String × List (Option (String × String × List Component)) :=
  (a.kind, a.pattern, a.slots.map (Option.map Reference.identity))

theorem sameSlots_iff {as bs : List (Option Reference)} :
    sameSlots as bs = true ↔
      as.map (Option.map Reference.identity) = bs.map (Option.map Reference.identity) := by
  induction as generalizing bs with
  | nil => cases bs <;> simp [sameSlots]
  | cons a as ih =>
    cases bs with
    | nil => simp [sameSlots]
    | cons b bs => cases a <;> cases b <;> simp [sameSlots, sameSlot, ih, Reference.same_iff]

theorem same_iff {a b : Advice} : a.same b = true ↔ a.identity = b.identity := by
  simp [same, identity, sameSlots_iff, and_assoc]

theorem identifies : Identifies identity same := fun _ _ => same_iff

end Advice

namespace Worklist

theorem contains_iff {w : Worklist} {a : Advice} :
    w.contains a = true ↔ ∃ b ∈ w.advices, b.identity = a.identity := by
  simp [contains, Advice.same_iff]

theorem nodup_identities (w : Worklist) : (w.advices.map Advice.identity).Nodup :=
  List.pairwise_map.2 (w.noRepeats.imp fun h e => by simp [Advice.same_iff.2 e] at h)

/-- No two advices of a worklist have the same identity. -/
theorem eq_of_identity_eq {w : Worklist} {a b : Advice} (ha : a ∈ w.advices) (hb : b ∈ w.advices)
    (h : a.identity = b.identity) : a = b :=
  List.inj_on_of_nodup_map w.nodup_identities ha hb h

theorem contains_append {w : Worklist} {a b : Advice} :
    (w.append a).contains b = true ↔ w.contains b = true ∨ a.identity = b.identity := by
  simp only [append]
  split
  · next h =>
    obtain ⟨c, hc, hca⟩ := contains_iff.1 h
    exact ⟨.inl, fun hb => hb.elim id fun hab => contains_iff.2 ⟨c, hc, hca.trans hab⟩⟩
  · simp [contains_iff, or_and_right, exists_or]

theorem mem_append {w : Worklist} {a b : Advice} (h : b ∈ (w.append a).advices) :
    b ∈ w.advices ∨ b = a := by
  simp only [append] at h
  split at h
  · exact .inl h
  · simpa using h

theorem contains_foldl_append {a : Advice} (as : List Advice) (w : Worklist) :
    (as.foldl append w).contains a = true ↔
      w.contains a = true ∨ ∃ b ∈ as, b.identity = a.identity := by
  induction as generalizing w with
  | nil => simp
  | cons b as ih => simp [ih, contains_append, or_assoc]

theorem mem_of_mem_foldl_append {a : Advice} (as : List Advice) (w : Worklist)
    (h : a ∈ (as.foldl append w).advices) : a ∈ w.advices ∨ a ∈ as := by
  induction as generalizing w with
  | nil => exact .inl h
  | cons b as ih =>
    rcases ih _ h with h | h
    · rcases mem_append h with h | rfl
      · exact .inl h
      · exact .inr (List.mem_cons_self ..)
    · exact .inr (List.mem_cons_of_mem _ h)

/-- Appending advices adds the first of each identity that is not there. -/
theorem advices_foldl_append (as : List Advice) (w : Worklist) :
    (as.foldl append w).advices = w.advices ++ newOnes Advice.same w.advices as := by
  have step (w : Worklist) (a : Advice) :
      addNew Advice.same w.advices a = (w.append a).advices := by
    cases known : w.contains a with
    | true =>
      have any : w.advices.any (·.same a) = true := known
      simp [addNew, append, known, any]
    | false =>
      have any : w.advices.any (·.same a) = false := known
      simp [addNew, append, known, any]
  rw [← foldl_addNew Advice.identifies, List.foldl_hom _ step]

/-- What is there already adds nothing. -/
theorem foldl_append_of_contains {as : List Advice} {w : Worklist}
    (h : ∀ a ∈ as, w.contains a = true) : as.foldl append w = w := by
  induction as with
  | nil => rfl
  | cons a as ih =>
    have there : w.append a = w := by simp [append, h a List.mem_cons_self]
    rw [List.foldl_cons, there, ih fun b hb => h b (List.mem_cons_of_mem _ hb)]

/-- An identity is there exactly if one of the advices has it. -/
theorem contains_ofAdvices {as : List Advice} {a : Advice} :
    (ofAdvices as).contains a = true ↔ ∃ b ∈ as, b.identity = a.identity :=
  (contains_foldl_append as empty).trans (by simp [empty, contains])

theorem mem_of_mem_ofAdvices {as : List Advice} {a : Advice} (h : a ∈ (ofAdvices as).advices) :
    a ∈ as :=
  (mem_of_mem_foldl_append as empty h).resolve_left (by simp [empty])

/-- Of the advices of one identity the first stays, in their order. -/
theorem advices_ofAdvices_eq (as : List Advice) :
    (ofAdvices as).advices = as.eraseDupsBy Advice.same := by
  rw [ofAdvices, advices_foldl_append, ← newOnes_of_none_known]
  rfl

/-- Advices that are among those before them add nothing. -/
theorem ofAdvices_append_of_subset {as again : List Advice} (sub : again ⊆ as)
    (bs : List Advice) : ofAdvices (as ++ (again ++ bs)) = ofAdvices (as ++ bs) := by
  have there : again.foldl append (ofAdvices as) = ofAdvices as :=
    foldl_append_of_contains fun a ha => contains_ofAdvices.2 ⟨a, sub ha, rfl⟩
  simp only [ofAdvices, List.foldl_append] at there ⊢
  rw [there]

/-- Advices of different identities all stay. -/
theorem advices_ofAdvices {as : List Advice} (h : as.Pairwise fun a b => a.same b = false) :
    (ofAdvices as).advices = as :=
  (advices_ofAdvices_eq as).trans (eraseDupsBy_of_pairwise Advice.identifies h)

end Worklist

end Loom
