import Mathlib.Data.Nat.Bitwise
import Mathlib.Logic.Relation
import Loom.Pattern.Reach

/-!
# The relations that rows of bits stand for

`r.Leads p q` says that the bit `q` of the row `p` is set. Every operation on rows is the operation
on relations that its name says: sequence, choice, a number of rounds, any number of rounds. The
rows are taken together bit by bit, which is complete because positions lead to themselves and to
later ones only (`Forward`).
-/

namespace Loom

/-- The relation `R`, `n` times in a row. -/
def Rounds (R : Nat → Nat → Prop) : (n p q : Nat) → Prop
  | 0, p, q => p = q
  | n + 1, p, q => ∃ t, R p t ∧ Rounds R n t q

namespace Rounds

variable {R : Nat → Nat → Prop} {p q : Nat}

theorem add_iff {m n : Nat} : Rounds R (m + n) p q ↔ ∃ t, Rounds R m p t ∧ Rounds R n t q := by
  induction m generalizing p with
  | zero => simp [Rounds]
  | succ m ih =>
    simp only [Nat.succ_add, Rounds, ih]
    constructor
    · rintro ⟨t, first, u, before, after⟩
      exact ⟨u, ⟨t, first, before⟩, after⟩
    · rintro ⟨u, ⟨t, first, before⟩, after⟩
      exact ⟨t, first, u, before, after⟩

theorem one_iff : Rounds R 1 p q ↔ R p q := by simp [Rounds]

/-- Rounds of two at a time. -/
theorem comp_iff {S : Nat → Nat → Prop} (h : ∀ p q, S p q ↔ ∃ t, R p t ∧ R t q) {n : Nat} :
    Rounds S n p q ↔ Rounds R (2 * n) p q := by
  induction n generalizing p with
  | zero => rfl
  | succ n ih =>
    rw [Nat.mul_succ, Nat.add_comm, add_iff]
    simp only [Rounds, h, ih, exists_eq_right]
    constructor
    · rintro ⟨t, ⟨u, first, second⟩, rest⟩
      exact ⟨u, first, t, second, rest⟩
    · rintro ⟨u, first, t, second, rest⟩
      exact ⟨t, ⟨u, first, second⟩, rest⟩

/-- Rounds that may be passed over, among the positions before `size`. -/
theorem optional_iff {S : Nat → Nat → Prop} {n size : Nat}
    (h : ∀ p q, p < size → (S p q ↔ p = q ∨ R p q)) (lt : ∀ {p q}, R p q → q < size)
    (hp : p < size) : Rounds S n p q ↔ ∃ m ≤ n, Rounds R m p q := by
  induction n generalizing p with
  | zero => simp [Rounds]
  | succ n ih =>
    constructor
    · rintro ⟨t, step, rest⟩
      rcases (h p t hp).1 step with rfl | first
      · obtain ⟨m, le, rest⟩ := (ih hp).1 rest
        exact ⟨m, by omega, rest⟩
      · obtain ⟨m, le, rest⟩ := (ih (lt first)).1 rest
        exact ⟨m + 1, by omega, t, first, rest⟩
    · rintro ⟨m, le, rounds⟩
      cases m with
      | zero => exact ⟨p, (h p p hp).2 (.inl rfl), (ih hp).2 ⟨0, by omega, rounds⟩⟩
      | succ m =>
        obtain ⟨t, first, rest⟩ := rounds
        exact ⟨t, (h p t hp).2 (.inr first), (ih (lt first)).2 ⟨m, by omega, rest⟩⟩

theorem lt {n size : Nat} (rounds : Rounds R n p q) (lt : ∀ {p q}, R p q → q < size)
    (hp : p < size) : q < size := by
  induction n generalizing p with
  | zero => exact rounds ▸ hp
  | succ n ih =>
    obtain ⟨t, first, rest⟩ := rounds
    exact ih rest (lt first)

/-- A relation that never leads back gets as far in as many rounds as there are positions
between. -/
theorem shorten {n : Nat} (rounds : Rounds R n p q) (h : ∀ {p q}, R p q → p ≤ q) :
    p ≤ q ∧ ∃ m ≤ n, m ≤ q - p ∧ Rounds R m p q := by
  induction n generalizing p with
  | zero =>
    cases rounds
    exact ⟨le_rfl, 0, le_rfl, by omega, rfl⟩
  | succ n ih =>
    obtain ⟨t, first, rest⟩ := rounds
    obtain ⟨le, m, hm, short, rest⟩ := ih rest
    have step := h first
    refine ⟨step.trans le, ?_⟩
    by_cases same : p = t
    · subst same
      exact ⟨m, by omega, short, rest⟩
    · exact ⟨m + 1, by omega, by omega, t, first, rest⟩

theorem reflTransGen_iff : Relation.ReflTransGen R p q ↔ ∃ n, Rounds R n p q := by
  constructor
  · intro h
    induction h using Relation.ReflTransGen.head_induction_on with
    | refl => exact ⟨0, rfl⟩
    | head first _ ih =>
      obtain ⟨n, rest⟩ := ih
      exact ⟨n + 1, _, first, rest⟩
  · rintro ⟨n, rounds⟩
    induction n generalizing p with
    | zero => cases rounds; exact .refl
    | succ n ih =>
      obtain ⟨t, first, rest⟩ := rounds
      exact .head first (ih rest)

end Rounds

namespace Reach

/-- The position `p` leads to `q`. -/
def Leads (r : Reach) (p q : Nat) : Prop := (r.row p).testBit q = true

/-- There are `size` positions, which lead to themselves and to later ones only. -/
structure Forward (size : Nat) (r : Reach) : Prop where
  size_eq : r.size = size
  le : ∀ {p q}, r.Leads p q → p ≤ q
  lt : ∀ {p q}, r.Leads p q → q < size

/-! ## Rows -/

theorem row_ofFn (size : Nat) (f : Nat → Nat) (p : Nat) :
    (ofFn size f).row p = if p < size then f p else 0 := by
  simp only [row, ofFn, Array.getD_eq_getD_getElem?, List.getElem?_toArray, List.getElem?_map]
  split
  · next h => simp [List.getElem?_range h]
  · next h => simp [h]

@[simp] theorem size_ofFn (size : Nat) (f : Nat → Nat) : (ofFn size f).size = size := by
  simp [Reach.size, ofFn]

theorem leads_ofFn {size : Nat} {f : Nat → Nat} {p q : Nat} :
    (ofFn size f).Leads p q ↔ p < size ∧ (f p).testBit q = true := by
  rw [Leads, row_ofFn]
  split <;> simp [*]

@[simp] theorem testBit_bit (p q : Nat) : (bit p).testBit q = decide (p = q) := by
  rw [bit, Nat.one_shiftLeft, Nat.testBit_two_pow]

theorem leads_same {size p q : Nat} : (same size).Leads p q ↔ p < size ∧ p = q := by
  simp [same, leads_ofFn]

theorem forward_same (size : Nat) : (same size).Forward size where
  size_eq := size_ofFn ..
  le h := (leads_same.1 h).2.le
  lt h := (leads_same.1 h).2 ▸ (leads_same.1 h).1

theorem isNowhere_eq_false_iff {r : Reach} : r.isNowhere = false ↔ ∃ p q, r.Leads p q := by
  rw [isNowhere, Array.all_eq_false]
  constructor
  · rintro ⟨p, hp, nonzero⟩
    obtain ⟨q, hq⟩ := Nat.exists_testBit_of_ne_zero (by simpa using nonzero)
    exact ⟨p, q, by simpa [Leads, row, Array.getD_eq_getD_getElem?, hp] using hq⟩
  · rintro ⟨p, q, leads⟩
    by_cases hp : p < r.rows.size
    · refine ⟨p, hp, ?_⟩
      rintro zero
      simp_all [Leads, row, Array.getD_eq_getD_getElem?]
    · simp [Leads, row, Array.getD_eq_getD_getElem?, hp] at leads

theorem Forward.row_lt {size : Nat} {r : Reach} (h : r.Forward size) (p : Nat) :
    r.row p < 2 ^ size := by
  refine Nat.lt_pow_two_of_testBit _ fun q hq => ?_
  rw [← Bool.not_eq_true]
  exact fun leads => absurd (h.lt leads) (by omega)

/-! ## One after the other -/

theorem testBit_collect {row : Nat → Nat} {fuel ps found q : Nat} (enough : ps < 2 ^ fuel) :
    (collect row fuel ps found).testBit q = true ↔
      found.testBit q = true ∨ ∃ t, ps.testBit t = true ∧ (row t).testBit q = true := by
  induction fuel generalizing ps found with
  | zero =>
    obtain rfl : ps = 0 := by omega
    simp [collect]
  | succ fuel ih =>
    rw [collect]
    split
    · next h => simp [h]
    · next h =>
      have top := Nat.testBit_log2 h
      have top_le : ps.log2 < fuel + 1 := (Nat.log2_lt h).2 enough
      have beyond {t : Nat} (ht : ps.log2 < t) : ps.testBit t = false :=
        Nat.testBit_lt_two_pow ((Nat.log2_lt h).1 ht)
      have rest : ps ^^^ bit ps.log2 < 2 ^ fuel := by
        refine Nat.lt_pow_two_of_testBit _ fun t ht => ?_
        rcases Nat.lt_or_ge ps.log2 t with lt | ge
        · simp [beyond lt, lt.ne]
        · obtain rfl : t = ps.log2 := by omega
          simp [top]
      rw [ih rest]
      simp only [Nat.testBit_or, Nat.testBit_xor, testBit_bit, Bool.or_eq_true]
      constructor
      · rintro ((found | leads) | ⟨t, ht, leads⟩)
        · exact .inl found
        · exact .inr ⟨_, top, leads⟩
        · by_cases eq : ps.log2 = t
          · exact .inr ⟨t, eq ▸ top, leads⟩
          · exact .inr ⟨t, by simpa [eq] using ht, leads⟩
      · rintro (found | ⟨t, ht, leads⟩)
        · exact .inl (.inl found)
        · by_cases eq : ps.log2 = t
          · exact .inl (.inr (eq ▸ leads))
          · exact .inr ⟨t, by simpa [eq] using ht, leads⟩

section

variable {size : Nat} {a b r : Reach} {p q : Nat}

theorem leads_andThen (ha : a.Forward size) (hb : b.Forward size) :
    (a.andThen b).Leads p q ↔ ∃ t, a.Leads p t ∧ b.Leads t q := by
  have enough : a.row p < 2 ^ b.size := by
    rw [hb.size_eq]
    exact ha.row_lt p
  rw [andThen, leads_ofFn, ha.size_eq, after, testBit_collect enough]
  simp only [Nat.zero_testBit, Bool.false_eq_true, false_or, Leads]
  refine and_iff_right_of_imp ?_
  rintro ⟨t, first, -⟩
  exact (ha.le first).trans_lt (ha.lt first)

theorem Forward.andThen (ha : a.Forward size) (hb : b.Forward size) :
    (a.andThen b).Forward size where
  size_eq := by rw [Reach.andThen, size_ofFn, ha.size_eq]
  le h := by
    obtain ⟨t, first, second⟩ := (leads_andThen ha hb).1 h
    exact (ha.le first).trans (hb.le second)
  lt h := by
    obtain ⟨t, -, second⟩ := (leads_andThen ha hb).1 h
    exact hb.lt second

theorem leads_either (ha : a.Forward size) (hb : b.Forward size) :
    (a.either b).Leads p q ↔ a.Leads p q ∨ b.Leads p q := by
  rw [either, leads_ofFn, ha.size_eq]
  simp only [Nat.testBit_or, Bool.or_eq_true, Leads]
  refine and_iff_right_of_imp ?_
  rintro (leads | leads)
  · exact (ha.le leads).trans_lt (ha.lt leads)
  · exact (hb.le leads).trans_lt (hb.lt leads)

theorem Forward.either (ha : a.Forward size) (hb : b.Forward size) :
    (a.either b).Forward size where
  size_eq := by rw [Reach.either, size_ofFn, ha.size_eq]
  le h := ((leads_either ha hb).1 h).elim ha.le hb.le
  lt h := ((leads_either ha hb).1 h).elim ha.lt hb.lt

/-! ## A number of rounds -/

theorem powerAfter_spec {fuel n : Nat} {start : Reach} (hr : r.Forward size)
    (hs : start.Forward size) (enough : n < 2 ^ fuel) :
    (powerAfter fuel r n start).Forward size ∧ ∀ p q, (powerAfter fuel r n start).Leads p q ↔
      ∃ t, start.Leads p t ∧ Rounds r.Leads n t q := by
  induction fuel generalizing r n start with
  | zero =>
    obtain rfl : n = 0 := by omega
    exact ⟨hs, by simp [powerAfter, Rounds]⟩
  | succ fuel ih =>
    rw [powerAfter]
    split
    · next h =>
      subst h
      exact ⟨hs, by simp [Rounds]⟩
    · next h =>
      -- The first round is taken alone if the number of rounds is odd.
      have odd : (if n % 2 = 1 then start.andThen r else start).Forward size ∧
          ∀ p q, (if n % 2 = 1 then start.andThen r else start).Leads p q ↔
            ∃ t, start.Leads p t ∧ Rounds r.Leads (n % 2) t q := by
        split
        · next h => exact ⟨hs.andThen hr, by simp [leads_andThen hs hr, h, Rounds.one_iff]⟩
        · next h =>
          have : n % 2 = 0 := by omega
          exact ⟨hs, by simp [this, Rounds]⟩
      simp only
      split
      · next lt =>
        obtain rfl : n = 1 := by omega
        exact odd
      · obtain ⟨forward, leads⟩ := ih (hr.andThen hr) odd.1 (n := n / 2) (by omega)
        refine ⟨forward, fun p q => ?_⟩
        have pairs (t : Nat) : Rounds (r.andThen r).Leads (n / 2) t q ↔
            Rounds r.Leads (2 * (n / 2)) t q :=
          Rounds.comp_iff fun p q => leads_andThen hr hr
        have halves (t : Nat) : Rounds r.Leads n t q ↔
            ∃ u, Rounds r.Leads (n % 2) t u ∧ Rounds r.Leads (2 * (n / 2)) u q := by
          rw [← Rounds.add_iff, Nat.mod_add_div]
        simp only [leads, odd.2, pairs, halves]
        constructor
        · rintro ⟨u, ⟨t, start, one⟩, rest⟩
          exact ⟨t, start, u, one, rest⟩
        · rintro ⟨t, start, u, one, rest⟩
          exact ⟨u, ⟨t, start, one⟩, rest⟩

theorem Forward.power (hr : r.Forward size) (n : Nat) : (r.power n).Forward size :=
  (powerAfter_spec hr (hr.size_eq ▸ forward_same _) (Nat.lt_log2_self)).1

theorem leads_power (hr : r.Forward size) {n : Nat} :
    (r.power n).Leads p q ↔ p < size ∧ Rounds r.Leads n p q := by
  rw [power, (powerAfter_spec hr (hr.size_eq ▸ forward_same _) (Nat.lt_log2_self)).2]
  simp [leads_same, hr.size_eq, and_assoc]

/-! ## Any number of rounds -/

theorem least_two_mul {n : Nat} (h : n ≠ 0) : least (2 * n) = least n + 1 := by
  have half : (2 * n ^^^ (2 * n - 1)) / 2 = n ^^^ (n - 1) := by
    rw [Nat.xor_div_two, show 2 * n / 2 = n by omega, show (2 * n - 1) / 2 = n - 1 by omega]
  have ne : n ^^^ (n - 1) ≠ 0 := by
    rw [ne_eq, Nat.xor_eq_zero_iff]
    omega
  rw [least, Nat.log2_def, if_pos (by omega), half, least]

theorem least_two_mul_add_one (n : Nat) : least (2 * n + 1) = 0 := by
  have half : ((2 * n + 1) ^^^ (2 * n)) / 2 = 0 := by
    rw [Nat.xor_div_two, show (2 * n + 1) / 2 = n by omega, show 2 * n / 2 = n by omega,
      Nat.xor_self]
  rw [least, Nat.add_sub_cancel, Nat.log2_def, if_neg (by omega)]

/-- The position that `least` gives is in the set, and no other is before it. -/
theorem least_spec {ps : Nat} (h : ps ≠ 0) :
    ps.testBit (least ps) = true ∧ ∀ t, ps.testBit t = true → least ps ≤ t := by
  induction ps using Nat.strongRecOn with
  | ind ps ih =>
    obtain ⟨n, rfl | rfl⟩ : ∃ n, ps = 2 * n ∨ ps = 2 * n + 1 := ⟨ps / 2, by omega⟩
    · have hn : n ≠ 0 := by omega
      obtain ⟨mem, least_le⟩ := ih n (by omega) hn
      rw [least_two_mul hn]
      refine ⟨by simpa [Nat.testBit_succ] using mem, fun t ht => ?_⟩
      cases t with
      | zero => simp at ht
      | succ t =>
        have := least_le t (by simpa [Nat.testBit_succ] using ht)
        omega
    · rw [least_two_mul_add_one]
      exact ⟨by simp, fun t _ => t.zero_le⟩

/-- The rows are those of a closed relation `R` for the positions of the set, which lie in the last
`fuel` before `stop`. -/
theorem testBit_collectClosed {row : Nat → Nat} {R : Nat → Nat → Prop} {fuel ps found q : Nat}
    (stop : Nat)
    (rows : ∀ t, ps.testBit t = true → ∀ v, (row t).testBit v = true ↔ R t v)
    (refl : ∀ t, R t t) (trans : ∀ {t u v}, R t u → R u v → R t v)
    (within : ∀ t, ps.testBit t = true → t < stop ∧ stop ≤ t + fuel)
    (closed : ∀ u v, found.testBit u = true → R u v → found.testBit v = true) :
    (collectClosed row fuel ps found).testBit q = true ↔
      found.testBit q = true ∨ ∃ t, ps.testBit t = true ∧ R t q := by
  induction fuel generalizing ps found with
  | zero =>
    have none : ∀ t, ps.testBit t = false := by
      intro t
      rw [← Bool.not_eq_true]
      exact fun ht => absurd (within t ht) (by omega)
    simp [collectClosed, none]
  | succ fuel ih =>
    rw [collectClosed]
    split
    · next h => simp [h]
    · next h =>
      obtain ⟨mem, least_le⟩ := least_spec h
      have ofLeast := rows _ mem
      have left (t : Nat) : (ps ^^^ (ps &&& (found ||| row (least ps)))).testBit t = true ↔
          ps.testBit t = true ∧ found.testBit t = false ∧ ¬ R (least ps) t := by
        rw [← ofLeast]
        simp only [Nat.testBit_xor, Nat.testBit_and, Nat.testBit_or]
        cases ps.testBit t <;> cases found.testBit t <;> cases (row (least ps)).testBit t <;> simp
      have now (t : Nat) : (found ||| row (least ps)).testBit t = true ↔
          found.testBit t = true ∨ R (least ps) t := by
        rw [← ofLeast]
        simp
      rw [ih (fun t ht => rows t ((left t).1 ht).1) (fun t ht => ?_) fun u v hu huv => ?_, now]
      · constructor
        · rintro ((found | leads) | ⟨t, ht, leads⟩)
          · exact .inl found
          · exact .inr ⟨_, mem, leads⟩
          · exact .inr ⟨t, ((left t).1 ht).1, leads⟩
        · rintro (found | ⟨t, ht, leads⟩)
          · exact .inl (.inl found)
          · by_cases before : found.testBit t = true
            · exact .inl (.inl (closed t q before leads))
            · by_cases covered : R (least ps) t
              · exact .inl (.inr (trans covered leads))
              · exact .inr ⟨t, (left t).2 ⟨ht, by simpa using before, covered⟩, leads⟩
      · obtain ⟨inSet, -, notLeast⟩ := (left t).1 ht
        have ne : least ps ≠ t := fun eq => notLeast (eq ▸ refl _)
        have := within t inSet
        have := within _ mem
        have := least_le t inSet
        omega
      · rw [now] at hu ⊢
        exact hu.imp (closed u v · huv) (trans · huv)

theorem reflTransGen_cases {R : Nat → Nat → Prop} (h : Relation.ReflTransGen R p q) :
    p = q ∨ ∃ t, t ≠ p ∧ R p t ∧ Relation.ReflTransGen R t q := by
  induction h using Relation.ReflTransGen.head_induction_on with
  | refl => exact .inl rfl
  | @head a c first rest ih =>
    by_cases same : c = a
    · exact same ▸ ih
    · exact .inr ⟨c, same, first, rest⟩

theorem Forward.le_of_reflTransGen (hr : r.Forward size) (h : Relation.ReflTransGen r.Leads p q) :
    p ≤ q := by
  induction h with
  | refl => exact le_rfl
  | tail _ last ih => exact ih.trans (hr.le last)

theorem testBit_closedRow (hr : r.Forward size) {later : Array Nat}
    (rows : ∀ t, p < t → t < size → ∀ v, (later.getD (size - 1 - t) 0).testBit v = true ↔
      Relation.ReflTransGen r.Leads t v) :
    (r.closedRow p later).testBit q = true ↔ Relation.ReflTransGen r.Leads p q := by
  have beyond (t : Nat) : (if (r.row p).testBit p then r.row p ^^^ bit p else r.row p).testBit t =
      true ↔ t ≠ p ∧ r.Leads p t := by
    by_cases eq : p = t
    · subst eq
      split <;> simp_all
    · split <;> simp [eq, Leads, Ne.symm eq]
  have later {t : Nat} (h : t ≠ p ∧ r.Leads p t) : p < t ∧ t < size := by
    have := hr.le h.2
    exact ⟨by omega, hr.lt h.2⟩
  rw [closedRow, Nat.testBit_or, Bool.or_eq_true, hr.size_eq,
    testBit_collectClosed (R := Relation.ReflTransGen r.Leads) size
      (fun t ht => rows t (later ((beyond t).1 ht)).1 (later ((beyond t).1 ht)).2)
      (fun _ => .refl) .trans (fun t ht => ⟨(later ((beyond t).1 ht)).2, by omega⟩) (by simp)]
  simp only [Nat.zero_testBit, Bool.false_eq_true, false_or, beyond, testBit_bit, decide_eq_true_eq]
  constructor
  · rintro (⟨t, ⟨-, first⟩, rest⟩ | rfl)
    · exact .head first rest
    · exact .refl
  · intro h
    rcases reflTransGen_cases h with rfl | ⟨t, ne, first, rest⟩
    · exact .inr rfl
    · exact .inl ⟨t, ⟨ne, first⟩, rest⟩

/-- The rows of the last `n` positions in the closure, the last one's first. -/
theorem foldl_closedRow (hr : r.Forward size) {n : Nat} (hn : n ≤ size) :
    let later := (List.range n).foldl
      (fun later n => later.push (r.closedRow (size - 1 - n) later)) #[]
    later.size = n ∧ ∀ i < n, ∀ v, (later.getD i 0).testBit v = true ↔
      Relation.ReflTransGen r.Leads (size - 1 - i) v := by
  induction n with
  | zero => simp
  | succ n ih =>
    obtain ⟨count, before⟩ := ih (by omega)
    simp only [List.range_succ, List.foldl_append, List.foldl_cons, List.foldl_nil]
    refine ⟨by simp [count], fun i hi v => ?_⟩
    rw [Array.getD_eq_getD_getElem?, Array.getElem?_push, count]
    split
    · next eq =>
      subst eq
      refine testBit_closedRow hr fun t above below v => ?_
      have := before (size - 1 - t) (by omega) v
      rwa [show size - 1 - (size - 1 - t) = t by omega] at this
    · have := before i (by omega) v
      rwa [Array.getD_eq_getD_getElem?] at this

theorem size_closure (hr : r.Forward size) : r.closure.size = size := by
  rw [Reach.size, closure, Array.size_reverse, hr.size_eq]
  exact (foldl_closedRow hr le_rfl).1

theorem leads_closure (hr : r.Forward size) :
    r.closure.Leads p q ↔ p < size ∧ Relation.ReflTransGen r.Leads p q := by
  obtain ⟨count, rows⟩ := foldl_closedRow hr le_rfl
  simp only [Leads, row, closure, hr.size_eq, Array.getD_eq_getD_getElem?]
  by_cases hp : p < size
  · have := rows (size - 1 - p) (by omega) q
    rw [Array.getD_eq_getD_getElem?, show size - 1 - (size - 1 - p) = p by omega] at this
    rw [Array.getElem?_reverse (by rw [count]; exact hp), count, this]
    simp [hp]
  · rw [Array.getElem?_eq_none (by rw [Array.size_reverse, count]; omega)]
    simp [hp]

theorem leads_andThenMany (ha : a.Forward size) (hb : b.Forward size) :
    (a.andThenMany b).Leads p q ↔ ∃ t, a.Leads p t ∧ Relation.ReflTransGen b.Leads t q := by
  rw [andThenMany, leads_ofFn, ha.size_eq, size_closure hb,
    testBit_collectClosed (R := Relation.ReflTransGen b.Leads) size
      (fun t ht v => ?_) (fun _ => .refl) .trans (fun t ht => ⟨ha.lt ht, by omega⟩) (by simp)]
  · simp only [Nat.zero_testBit, Bool.false_eq_true, false_or]
    refine and_iff_right_of_imp ?_
    rintro ⟨t, first, -⟩
    exact (ha.le first).trans_lt (ha.lt first)
  · exact (leads_closure hb).trans (and_iff_right (ha.lt ht))

theorem Forward.andThenMany (ha : a.Forward size) (hb : b.Forward size) :
    (a.andThenMany b).Forward size where
  size_eq := by rw [Reach.andThenMany, size_ofFn, ha.size_eq]
  le h := by
    obtain ⟨t, first, rest⟩ := (leads_andThenMany ha hb).1 h
    exact (ha.le first).trans (hb.le_of_reflTransGen rest)
  lt h := by
    obtain ⟨t, first, rest⟩ := (leads_andThenMany ha hb).1 h
    cases rest with
    | refl => exact ha.lt first
    | tail _ last => exact hb.lt last

/-! ## Repetitions -/

theorem Forward.times (hr : r.Forward size) (min : Nat) (max : Option Nat) :
    (r.times min max).Forward size := by
  cases max with
  | none => exact (hr.power min).andThenMany hr
  | some max =>
    have either : ((same r.size).either r).Forward size :=
      (hr.size_eq ▸ forward_same r.size : (same r.size).Forward size).either hr
    exact (hr.power min).andThen (either.power _)

/-- A repetition leads from `p` to `q` if some number of rounds within its bounds does. A maximum
below the minimum does not count. -/
theorem leads_times (hr : r.Forward size) {min : Nat} {max : Option Nat} :
    (r.times min max).Leads p q ↔ p < size ∧ ∃ n, min ≤ n ∧ (∀ m ∈ max, n ≤ min ∨ n ≤ m) ∧
      Rounds r.Leads n p q := by
  cases max with
  | none =>
    rw [times, leads_andThenMany (hr.power min) hr]
    simp only [leads_power hr, Rounds.reflTransGen_iff]
    constructor
    · rintro ⟨t, ⟨hp, first⟩, n, rest⟩
      exact ⟨hp, min + n, by omega, by simp, Rounds.add_iff.2 ⟨t, first, rest⟩⟩
    · rintro ⟨hp, n, le, -, rounds⟩
      rw [← Nat.add_sub_cancel' le, Rounds.add_iff] at rounds
      obtain ⟨t, first, rest⟩ := rounds
      exact ⟨t, ⟨hp, first⟩, _, rest⟩
  | some max =>
    have same : (same r.size).Forward size := hr.size_eq ▸ forward_same r.size
    have optional {t n : Nat} (ht : t < size) :
        Rounds ((Reach.same r.size).either r).Leads n t q ↔ ∃ m ≤ n, Rounds r.Leads m t q := by
      refine Rounds.optional_iff (fun p q hp => ?_) hr.lt ht
      rw [leads_either same hr, leads_same, hr.size_eq, and_iff_right hp]
    rw [times, leads_andThen (hr.power min) ((same.either hr).power _)]
    simp only [leads_power hr, leads_power (same.either hr)]
    constructor
    · rintro ⟨t, ⟨hp, first⟩, ht, rest⟩
      obtain ⟨n, le, rest⟩ := (optional ht).1 rest
      refine ⟨hp, min + n, by omega, ?_, Rounds.add_iff.2 ⟨t, first, rest⟩⟩
      intro m hm
      obtain rfl : max = m := Option.some.inj hm
      have : n ≤ max - min := (Nat.le_min.1 le).1
      omega
    · rintro ⟨hp, n, le, bound, rounds⟩
      rw [← Nat.add_sub_cancel' le, Rounds.add_iff] at rounds
      obtain ⟨t, first, rest⟩ := rounds
      have ht := first.lt hr.lt hp
      have hq := rest.lt hr.lt ht
      have bound := bound max rfl
      -- More rounds than positions lead no further.
      obtain ⟨-, m, hm, short, rest⟩ := rest.shorten hr.le
      refine ⟨t, ⟨hp, first⟩, ht, (optional ht).2 ⟨m, Nat.le_min.2 ⟨?_, ?_⟩, rest⟩⟩
      · omega
      · rw [hr.size_eq]
        omega

end

end Reach

end Loom
