import Mathlib.Data.Set.Finite.Basic
import Loom.Proofs.Aspect.Alias

/-!
# Which aliases mangling finds

The modules of a worklist come in the order of their first references. The alias settled for each is
the one of that reference with the fewest underscores after it that neither a name nor an earlier
module has (`Settles`). Mangling puts these aliases in place if none takes more underscores than may
be tried; if one does, it fails at the first of them and leaves the worklist as it was.
-/

namespace Loom

/-! ## Fewest underscores -/

namespace ShortName

variable {s : ShortName} {taken : List String} {k : Nat}

/-- The alias with `k` underscores after it. -/
def underscored (s : ShortName) (k : Nat) : ShortName :=
  ⟨s.text ++ String.ofList (List.replicate k '_'), by
    simpa [List.mem_replicate] using s.oneSegment⟩

/-- `k` is the least number of underscores that make `s` none of `taken`. -/
structure LeastFree (taken : List String) (s : ShortName) (k : Nat) : Prop where
  free : (s.underscored k).text ∉ taken
  least : ∀ j < k, (s.underscored j).text ∈ taken

theorem ext_text {s t : ShortName} (h : s.text = t.text) : s = t := by
  cases s
  cases t
  cases h
  rfl

theorem underscored_zero (s : ShortName) : s.underscored 0 = s :=
  ext_text (by simp [underscored])

theorem underscored_succ (s : ShortName) (k : Nat) :
    s.underscored (k + 1) = s.underscore.underscored k :=
  ext_text (by
    rw [← String.toList_inj]
    simp [underscored, underscore, List.replicate_succ])

theorem underscored_injective (s : ShortName) :
    Function.Injective fun k => (s.underscored k).text := by
  intro j k h
  have length := congrArg String.length h
  simpa [underscored] using length

theorem exists_leastFree (taken : List String) (s : ShortName) : ∃ k, LeastFree taken s k := by
  have some_free : ∃ k, (s.underscored k).text ∉ taken := by
    obtain ⟨_, ⟨k, rfl⟩, free⟩ :=
      (Set.infinite_range_of_injective s.underscored_injective).exists_notMem_finset taken.toFinset
    exact ⟨k, by simpa using free⟩
  exact ⟨Nat.find some_free, Nat.find_spec some_free, fun j less => by
    simpa using Nat.find_min some_free less⟩

theorem LeastFree.not_mem (h : LeastFree taken s 0) : s.text ∉ taken := by
  have free := h.free
  rwa [underscored_zero] at free

theorem LeastFree.mem (h : LeastFree taken s (k + 1)) : s.text ∈ taken := by
  have least := h.least 0 k.succ_pos
  rwa [underscored_zero] at least

theorem LeastFree.underscore (h : LeastFree taken s (k + 1)) : LeastFree taken s.underscore k := by
  constructor
  · rw [← underscored_succ]
    exact h.free
  · intro j less
    rw [← underscored_succ]
    exact h.least (j + 1) (by omega)

end ShortName

/-- The search for a fresh alias finds the one with the fewest underscores, if it may try as
many. -/
theorem freshAlias?_eq {names : List String} {base : ShortName} {k : Nat}
    (h : base.LeastFree names k) (left : Nat) :
    freshAlias? names left base = if k ≤ left then some (base.underscored k) else none := by
  induction left generalizing base k with
  | zero =>
    cases k with
    | zero => simp [freshAlias?, h.not_mem, ShortName.underscored_zero]
    | succ k => simp [freshAlias?, h.mem]
  | succ left ih =>
    cases k with
    | zero => simp [freshAlias?, h.not_mem, ShortName.underscored_zero]
    | succ k => simp [freshAlias?, h.mem, ih h.underscore, ShortName.underscored_succ]

/-! ## Settled aliases -/

/-- A module, known by its first reference, and how many underscores its alias gets. -/
structure Settled where
  first : Reference
  underscores : Nat

namespace Settled

def short (m : Settled) : ShortName := m.first.short.underscored m.underscores

/-- The module and its alias as mangling commits them. -/
def committed (m : Settled) : ModuleKey × ShortName := (m.first.moduleKey, m.short)

end Settled

/-- Each of the modules gets the fewest underscores with which its alias is none of the names and no
alias of an earlier module. -/
structure Settles (names : List String) (firsts : List Reference) (settled : List Settled) :
    Prop where
  firsts_eq : settled.map (·.first) = firsts
  least : ∀ before m after, settled = before ++ m :: after →
    m.first.short.LeastFree (names ++ before.map (·.short.text)) m.underscores

theorem settles_nil (names : List String) : Settles names [] [] :=
  ⟨rfl, fun before m after eq => by simp at eq⟩

theorem settles_cons {names : List String} {firsts : List Reference} {m : Settled}
    {settled : List Settled} : Settles names (m.first :: firsts) (m :: settled) ↔
      m.first.short.LeastFree names m.underscores ∧
        Settles (names ++ [m.short.text]) firsts settled := by
  constructor
  · intro h
    refine ⟨by simpa using h.least [] m settled rfl, (List.cons.inj h.firsts_eq).2, ?_⟩
    intro before n after eq
    simpa using h.least (m :: before) n after (by simp [eq])
  · rintro ⟨least, rest⟩
    refine ⟨by simp [rest.firsts_eq], fun before n after eq => ?_⟩
    cases before with
    | nil =>
      obtain ⟨rfl, -⟩ := List.cons.inj eq
      simpa using least
    | cons o before =>
      obtain ⟨rfl, others⟩ := List.cons.inj eq
      simpa using rest.least before n after others

theorem exists_settles (names : List String) (firsts : List Reference) :
    ∃ settled, Settles names firsts settled := by
  induction firsts generalizing names with
  | nil => exact ⟨[], settles_nil names⟩
  | cons r firsts ih =>
    obtain ⟨k, least⟩ := r.short.exists_leastFree names
    obtain ⟨settled, rest⟩ := ih (names ++ [(Settled.mk r k).short.text])
    exact ⟨⟨r, k⟩ :: settled, settles_cons.2 ⟨least, rest⟩⟩

/-- Aliases within the bound are all committed. -/
theorem commitAliases_of_settles {names : List String} {firsts : List Reference}
    {settled : List Settled} {attempts : Nat} (h : Settles names firsts settled)
    (within : ∀ m ∈ settled, m.underscores ≤ attempts) :
    commitAliases attempts (firsts.map fun r => (r.moduleKey, r.short)) names =
      (.ok (settled.map Settled.committed), names ++ settled.map (·.short.text)) := by
  obtain rfl := h.firsts_eq
  induction settled generalizing names with
  | nil => simp [commitAliases]
  | cons m settled ih =>
    obtain ⟨least, rest⟩ := settles_cons.1 h
    have found := freshAlias?_eq least attempts
    rw [if_pos (within m List.mem_cons_self)] at found
    have others := ih (fun n hn => within n (List.mem_cons_of_mem _ hn)) rest
    simp only [Settled.short] at others
    simp only [List.map_cons, commitAliases, found, others]
    simp [Settled.committed, Settled.short]

/-- The first alias beyond the bound is the one that is not found. -/
theorem commitAliases_of_exceeded {names : List String} {firsts : List Reference}
    {before after : List Settled} {m : Settled} {attempts : Nat}
    (h : Settles names firsts (before ++ m :: after))
    (within : ∀ n ∈ before, n.underscores ≤ attempts) (exceeded : attempts < m.underscores) :
    commitAliases attempts (firsts.map fun r => (r.moduleKey, r.short)) names =
      (.error (.aliasExhausted m.first.shortName attempts),
        names ++ before.map (·.short.text)) := by
  obtain rfl := h.firsts_eq
  induction before generalizing names with
  | nil =>
    have missing := freshAlias?_eq (settles_cons.1 h).1 attempts
    rw [if_neg (by omega)] at missing
    simp only [List.nil_append, List.map_cons, commitAliases, missing]
    simp [Reference.shortName]
  | cons n before ih =>
    obtain ⟨least, rest⟩ := settles_cons.1 h
    have found := freshAlias?_eq least attempts
    rw [if_pos (within n List.mem_cons_self)] at found
    have others := ih (fun o ho => within o (List.mem_cons_of_mem _ ho)) rest
    simp only [Settled.short] at others
    simp only [List.cons_append, List.map_cons, commitAliases, found, others]
    simp [Settled.short]

/-! ## Modules in order -/

/-- Whether two references belong to the same module. -/
def Reference.sameModule (r s : Reference) : Bool := r.moduleKey.same s.moduleKey

theorem Reference.identifies_sameModule :
    Identifies (fun r : Reference => r.moduleKey.identity) Reference.sameModule :=
  fun _ _ => ModuleKey.same_iff

namespace Worklist

variable {w : Worklist}

/-- The first reference to each module, in order. -/
def firstReferences (w : Worklist) : List Reference := w.references.eraseDupsBy Reference.sameModule

theorem moduleKeys_eq (w : Worklist) :
    w.moduleKeys = w.firstReferences.map fun r => (r.moduleKey, r.short) := by
  have step (known : List Reference) (r : Reference) :
      addModule (known.map fun r => (r.moduleKey, r.short)) r =
        (addNew Reference.sameModule known r).map fun r => (r.moduleKey, r.short) := by
    simp only [addModule, addNew, List.any_map]
    split <;> rename_i h <;> simp only [Function.comp_def] at h
    · rw [if_pos (by simpa [Reference.sameModule] using h)]
    · rw [if_neg (by simpa [Reference.sameModule] using h), List.map_append]
      rfl
  have fold (known : List Reference) :
      w.references.foldl addModule (known.map fun r => (r.moduleKey, r.short)) =
        (w.references.foldl (addNew Reference.sameModule) known).map fun r =>
          (r.moduleKey, r.short) := List.foldl_hom _ step
  rw [moduleKeys, firstReferences, ← newOnes_of_none_known]
  exact (fold []).trans (by rw [foldl_addNew Reference.identifies_sameModule, List.nil_append])

/-- Every reference belongs to the module of a first one. -/
theorem exists_mem_firstReferences {r : Reference} (h : r ∈ w.references) :
    ∃ s ∈ w.firstReferences, s.moduleKey.same r.moduleKey = true := by
  obtain ⟨k, hk, same⟩ := exists_mem_moduleKeys h
  rw [moduleKeys_eq] at hk
  obtain ⟨s, hs, rfl⟩ := List.mem_map.1 hk
  exact ⟨s, hs, same⟩

end Worklist

/-- A reference of a settled module gets the alias settled for that module, and changes in nothing
else. -/
theorem Reference.withAlias_settled {settled : List Settled} {r : Reference}
    (h : ∃ m ∈ settled, m.first.moduleKey.same r.moduleKey = true) :
    ∃ m ∈ settled, m.first.moduleKey.same r.moduleKey = true ∧
      r.withAlias (settled.map Settled.committed) = { r with short := m.short } := by
  have found : ((settled.map Settled.committed).find? fun k => k.1.same r.moduleKey).isSome := by
    obtain ⟨m, hm, same⟩ := h
    rw [List.find?_isSome]
    exact ⟨m.committed, List.mem_map_of_mem hm, same⟩
  obtain ⟨k, hk⟩ := Option.isSome_iff_exists.1 found
  obtain ⟨m, hm, rfl⟩ := List.mem_map.1 (List.mem_of_find?_eq_some hk)
  have same := List.find?_some hk
  refine ⟨m, hm, same, ?_⟩
  rw [withAlias, hk]
  rfl

namespace Worklist

/-! ## Identities -/

/-- References that keep what they name keep the identities of the advices. -/
theorem identity_mapReferences {f : Reference → Reference}
    (hf : ∀ r, (f r).identity = r.identity) (a : Advice) :
    (a.mapReferences f).identity = a.identity := by
  have slots (o : Option Reference) :
      (o.map f).map Reference.identity = o.map Reference.identity := by
    cases o <;> simp [hf]
  simp [Advice.identity, Advice.pattern, Function.comp_def, slots]

theorem identity_withAlias (committed : List (ModuleKey × ShortName)) (r : Reference) :
    (r.withAlias committed).identity = r.identity := by
  unfold Reference.withAlias
  split <;> rfl

/-- Whatever comes of it, mangling keeps the identities of the advices and their order. -/
theorem identities_of_run_mangleIn {w : Worklist} {names : List String} {attempts : Nat}
    {s : Mangling} (h : (mangleIn attempts).run ⟨w, names⟩ = .ok () s ∨
      ∃ e, (mangleIn attempts).run ⟨w, names⟩ = .error e s) :
    s.worklist.advices.map Advice.identity = w.advices.map Advice.identity := by
  rw [run_mangleIn] at h
  split at h
  · next committed _ _ =>
    obtain h | ⟨e, h⟩ := h
    · cases h
      simp [mapReferences, Function.comp_def,
        identity_mapReferences (identity_withAlias committed)]
    · cases h
  · obtain h | ⟨e, h⟩ := h
    · cases h
    · cases h
      rfl

theorem contains_eq_of_identities {v w : Worklist}
    (h : v.advices.map Advice.identity = w.advices.map Advice.identity) (a : Advice) :
    v.contains a = w.contains a := by
  rw [Bool.eq_iff_iff, contains_iff, contains_iff, ← List.mem_map (f := Advice.identity), h,
    List.mem_map]

/-! ## Mangling -/

/-- What mangling does. With the aliases that settle for the modules of a worklist in the order of
their first references: if none takes more underscores than may be tried, every reference gets the
alias of its module and the aliases are added to the names; then none was among the names before,
and references share one exactly if they share the module. If some take more, mangling fails with
the base of the first of them, the names with the aliases before it, and the worklist as it was.
Either way, the advices keep their order, what they name, and what the worklist contains. -/
theorem run_mangleIn_settled (w : Worklist) (names : List String) (attempts : Nat) :
    ∃ settled, Settles names w.firstReferences settled ∧
      ((∀ m ∈ settled, m.underscores ≤ attempts) → ∃ w' f,
        (mangleIn attempts).run ⟨w, names⟩ = .ok () ⟨w', names ++ settled.map (·.short.text)⟩ ∧
        w'.advices = w.advices.map (Advice.mapReferences f) ∧
        (∀ r ∈ w.references, ∃ m ∈ settled, m.first.moduleKey.same r.moduleKey = true ∧
          f r = { r with short := m.short }) ∧
        w'.Fresh names) ∧
      (∀ before m after, settled = before ++ m :: after →
        (∀ n ∈ before, n.underscores ≤ attempts) → attempts < m.underscores →
        (mangleIn attempts).run ⟨w, names⟩ = .error (.aliasExhausted m.first.shortName attempts)
          ⟨w, names ++ before.map (·.short.text)⟩) ∧
      ∀ s, ((mangleIn attempts).run ⟨w, names⟩ = .ok () s ∨
          ∃ e, (mangleIn attempts).run ⟨w, names⟩ = .error e s) →
        s.worklist.advices.map Advice.identity = w.advices.map Advice.identity ∧
          ∀ a, s.worklist.contains a = w.contains a := by
  obtain ⟨settled, settles⟩ := exists_settles names w.firstReferences
  refine ⟨settled, settles, fun within => ?_, ?_, ?_⟩
  · have done := commitAliases_of_settles settles within
    rw [← moduleKeys_eq] at done
    let committed := settled.map Settled.committed
    refine ⟨w.mapReferences (·.withAlias committed) (Reference.same_withAlias committed),
      (·.withAlias committed), ?_, rfl, ?_, ?_⟩
    · rw [run_mangleIn, done]
    · intro r hr
      refine Reference.withAlias_settled ?_
      obtain ⟨s, hs, same⟩ := exists_mem_firstReferences hr
      rw [← settles.firsts_eq] at hs
      obtain ⟨m, hm, rfl⟩ := List.mem_map.1 hs
      exact ⟨m, hm, same⟩
    · have mangled : (w.mangle names attempts).1 =
          .ok (w.mapReferences (·.withAlias committed) (Reference.same_withAlias committed)) := by
        rw [mangle_eq, done]
      exact fresh_of_mangle_eq_ok mangled
  · rintro before m after rfl within exceeded
    rw [run_mangleIn, moduleKeys_eq, commitAliases_of_exceeded settles within exceeded]
  · intro s h
    have kept := identities_of_run_mangleIn h
    exact ⟨kept, contains_eq_of_identities kept⟩

end Worklist

end Loom
