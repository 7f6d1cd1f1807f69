import Loom.Pattern.Build
import Loom.Proofs.Pattern.Reach

/-!
# What a regular expression matches

`r.Spans cs p q` says that a match of `r` in the input `cs` begins at the position `p` and ends at
`q`, by one clause for each form of expression. The rows that matching computes are this relation,
so an expression is found to match exactly if it spans some stretch of the input.
-/

namespace Loom.Regex

mutual
/-- A match of the expression in `cs` begins at one position and ends at another. -/
def Spans (cs : List Char) : Regex → Nat → Nat → Prop
  | .empty => fun p q => p ≤ cs.length ∧ p = q
  | .literal text => fun p q => p ≤ cs.length ∧ text <+: cs.drop p ∧ q = p + text.length
  | .set s _ => fun p q => ∃ c, cs[p]? = some c ∧ s.contains c = true ∧ q = p + 1
  | .look l => fun p q => p ≤ cs.length ∧ l.holds cs p = true ∧ p = q
  | .capture _ r => Spans cs r
  | .times r min max _ => fun p q => p ≤ cs.length ∧
      ∃ n, min ≤ n ∧ (∀ m ∈ max, n ≤ min ∨ n ≤ m) ∧ Rounds (Spans cs r) n p q
  | .concat rs => fun p q => p ≤ cs.length ∧ SpansInTurn cs rs p q
  | .alternation rs => SpansAny cs rs

/-- Matches of the expressions follow one another. -/
def SpansInTurn (cs : List Char) : List Regex → Nat → Nat → Prop
  | [] => fun p q => p = q
  | r :: rs => fun p q => ∃ t, Spans cs r p t ∧ SpansInTurn cs rs t q

def SpansAny (cs : List Char) : List Regex → Nat → Nat → Prop
  | [] => fun _ _ => False
  | r :: rs => fun p q => Spans cs r p q ∨ SpansAny cs rs p q
end

/-- The relation has a row for each position of the input, and is `R`. -/
structure Computes (cs : List Char) (reach : Reach) (R : Nat → Nat → Prop) : Prop where
  forward : reach.Forward (cs.length + 1)
  leads : reach.Leads = R

namespace Computes

variable {cs : List Char} {reach : Reach} {R : Nat → Nat → Prop}

theorem of_leads (size : reach.size = cs.length + 1)
    (leads : ∀ p q, reach.Leads p q ↔ R p q) (le : ∀ p q, R p q → p ≤ q ∧ q ≤ cs.length) :
    Computes cs reach R where
  forward :=
    ⟨size, fun h => (le _ _ ((leads _ _).1 h)).1,
      fun h => Nat.lt_succ_of_le (le _ _ ((leads _ _).1 h)).2⟩
  leads := funext fun p => funext fun q => propext (leads p q)

end Computes

section

variable (cs : List Char)

theorem computes_same : Computes cs (.same (cs.length + 1)) (fun p q => p ≤ cs.length ∧ p = q) := by
  refine .of_leads (Reach.size_ofFn ..) (fun p q => ?_) (by omega)
  rw [Reach.leads_same, Nat.lt_succ_iff]

theorem computes_literal (text : List Char) :
    Computes cs (reach cs (.literal text)) (Spans cs (.literal text)) := by
  refine .of_leads (Reach.size_ofFn ..) (fun p q => ?_) ?_
  · simp only [reach, Reach.leads_ofFn, Nat.lt_succ_iff, Spans, ← List.isPrefixOf_iff_prefix]
    split
    · next h => simp [h, eq_comm]
    · next h => simp [h]
  · rintro p q ⟨hp, ⟨rest, eq⟩, rfl⟩
    have := congrArg List.length eq
    simp only [List.length_append, List.length_drop] at this
    omega

theorem computes_set (s : CharSet) (bytes : Bool) :
    Computes cs (reach cs (.set s bytes)) (Spans cs (.set s bytes)) := by
  refine .of_leads (by simp [reach, Reach.size]) (fun p q => ?_) ?_
  · simp only [Reach.Leads, Reach.row, reach, Spans, Array.getD_eq_getD_getElem?,
      Array.getElem?_push, List.size_toArray, List.length_map, List.length_zipIdx,
      List.getElem?_toArray, List.getElem?_map, List.getElem?_zipIdx]
    by_cases hp : p < cs.length
    · have ne : p ≠ cs.length := by omega
      simp only [ne, List.getElem?_eq_getElem hp]
      by_cases hs : s.contains cs[p] = true
      · simp [hs, eq_comm (a := q)]
      · simp [hs]
    · by_cases eq : p = cs.length <;> simp [eq, hp]
  · rintro p q ⟨c, found, -, rfl⟩
    have := (List.getElem?_eq_some_iff.1 found).1
    omega

theorem computes_look (l : Look) : Computes cs (reach cs (.look l)) (Spans cs (.look l)) := by
  refine .of_leads (Reach.size_ofFn ..) (fun p q => ?_) ?_
  · rw [reach, Reach.leads_ofFn, Nat.lt_succ_iff, Spans]
    split <;> simp [*]
  · rintro p q ⟨hp, -, rfl⟩
    omega

theorem computes_andThen {a b : Reach} {R S : Nat → Nat → Prop} (ha : Computes cs a R)
    (hb : Computes cs b S) : Computes cs (a.andThen b) (fun p q => ∃ t, R p t ∧ S t q) where
  forward := ha.forward.andThen hb.forward
  leads := by
    funext p q
    rw [Reach.leads_andThen ha.forward hb.forward, ha.leads, hb.leads]

mutual
/-- Matching computes the spans. -/
theorem computes_reach : ∀ r : Regex, Computes cs (reach cs r) (Spans cs r)
  | .empty => computes_same cs
  | .literal text => computes_literal cs text
  | .set s bytes => computes_set cs s bytes
  | .look l => computes_look cs l
  | .capture _ r => computes_reach r
  | .times r min max _ => by
    have inner := computes_reach r
    refine ⟨inner.forward.times min max, ?_⟩
    funext p q
    rw [reach, Reach.leads_times inner.forward, inner.leads, Nat.lt_succ_iff, Spans]
  | .concat rs => by
    have whole := computes_reachInTurn rs (computes_same cs)
    refine ⟨whole.forward, whole.leads.trans ?_⟩
    funext p q
    simp only [Spans, and_assoc, exists_and_left, exists_eq_left']
  | .alternation rs => computes_reachOfAny rs

theorem computes_reachInTurn : ∀ (rs : List Regex) {before : Reach} {R : Nat → Nat → Prop},
    Computes cs before R →
    Computes cs (reachInTurn cs rs before) (fun p q => ∃ t, R p t ∧ SpansInTurn cs rs t q)
  | [], _, _, h => by simpa [reachInTurn, SpansInTurn] using h
  | r :: rs, before, R, h => by
    rw [reachInTurn]
    split
    · next nowhere =>
      -- Where nothing leads on, no sequence does.
      have none (p q : Nat) : ¬ R p q := by
        intro leads
        rw [← h.leads] at leads
        simp [Reach.isNowhere_eq_false_iff.2 ⟨p, q, leads⟩] at nowhere
      refine ⟨h.forward, ?_⟩
      funext p q
      simp [h.leads, none]
    · have rest := computes_reachInTurn rs (computes_andThen cs h (computes_reach r))
      refine ⟨rest.forward, rest.leads.trans ?_⟩
      funext p q
      simp only [SpansInTurn, eq_iff_iff]
      constructor
      · rintro ⟨u, ⟨t, before, first⟩, others⟩
        exact ⟨t, before, u, first, others⟩
      · rintro ⟨t, before, u, first, others⟩
        exact ⟨u, ⟨t, before, first⟩, others⟩

theorem computes_reachOfAny : ∀ rs : List Regex,
    Computes cs (reachOfAny cs rs) (SpansAny cs rs)
  | [] => by
    refine .of_leads (Reach.size_ofFn ..) (fun p q => ?_) (fun _ _ => False.elim)
    simp [reachOfAny, Reach.nowhere, Reach.leads_ofFn, SpansAny]
  | r :: rs => by
    have first := computes_reach r
    have others := computes_reachOfAny rs
    refine ⟨first.forward.either others.forward, ?_⟩
    funext p q
    rw [reachOfAny, Reach.leads_either first.forward others.forward, first.leads, others.leads,
      SpansAny]
end

end

/-- An expression is found to match an input exactly if it spans some stretch of it. -/
theorem isMatch_iff {r : Regex} {cs : List Char} :
    r.isMatch cs = true ↔ ∃ p q, r.Spans cs p q := by
  rw [isMatch, Bool.not_eq_true', Reach.isNowhere_eq_false_iff, (computes_reach cs r).leads]

theorem matchesAt_iff {r : Regex} {cs : List Char} {p : Nat} :
    r.matchesAt cs p = true ↔ ∃ q, r.Spans cs p q := by
  rw [matchesAt, bne_iff_ne, ← (computes_reach cs r).leads]
  constructor
  · exact Nat.exists_testBit_of_ne_zero
  · rintro ⟨q, leads⟩ zero
    simp [Reach.Leads, zero] at leads

/-! ## Sequences in short form -/

variable {cs : List Char} {p q : Nat}

theorem Spans.le {r : Regex} (h : r.Spans cs p q) : p ≤ q ∧ q ≤ cs.length := by
  have computes := computes_reach cs r
  rw [← computes.leads] at h
  exact ⟨computes.forward.le h, Nat.le_of_lt_succ (computes.forward.lt h)⟩

theorem spansInTurn_append {as bs : List Regex} :
    SpansInTurn cs (as ++ bs) p q ↔ ∃ t, SpansInTurn cs as p t ∧ SpansInTurn cs bs t q := by
  induction as generalizing p with
  | nil => simp [SpansInTurn]
  | cons r as ih =>
    simp only [List.cons_append, SpansInTurn, ih]
    constructor
    · rintro ⟨t, first, u, others, last⟩
      exact ⟨u, ⟨t, first, others⟩, last⟩
    · rintro ⟨u, ⟨t, first, others⟩, last⟩
      exact ⟨t, first, u, others, last⟩

theorem spansInTurn_singleton {r : Regex} : SpansInTurn cs [r] p q ↔ r.Spans cs p q := by
  simp [SpansInTurn]

theorem spansInTurn_parts {r : Regex} (hp : p ≤ cs.length) :
    SpansInTurn cs r.parts p q ↔ r.Spans cs p q := by
  cases r with
  | empty => simp [parts, SpansInTurn, Spans, hp]
  | concat rs => simp [parts, Spans, hp]
  | _ => exact spansInTurn_singleton

theorem spansInTurn_flatMap_parts {rs : List Regex} (hp : p ≤ cs.length) :
    SpansInTurn cs (rs.flatMap parts) p q ↔ SpansInTurn cs rs p q := by
  induction rs generalizing p with
  | nil => rfl
  | cons r rs ih =>
    rw [List.flatMap_cons, spansInTurn_append, SpansInTurn]
    refine exists_congr fun t => ?_
    rw [spansInTurn_parts hp]
    exact and_congr_right fun first => ih first.le.2

/-- A literal matches where its two halves do, one after the other. -/
theorem spans_literal_append {a b : List Char} :
    (literal (a ++ b)).Spans cs p q ↔
      ∃ t, (literal a).Spans cs p t ∧ (literal b).Spans cs t q := by
  constructor
  · rintro ⟨hp, ⟨rest, eq⟩, rfl⟩
    have dropped : cs.drop (p + a.length) = b ++ rest := by
      rw [← List.drop_drop, ← eq, List.append_assoc, List.drop_left]
    have first : (literal a).Spans cs p (p + a.length) :=
      ⟨hp, ⟨b ++ rest, by rw [← List.append_assoc, eq]⟩, rfl⟩
    refine ⟨_, first, first.le.2, ⟨rest, dropped.symm⟩, ?_⟩
    rw [List.length_append, Nat.add_assoc]
  · rintro ⟨_, ⟨hp, ⟨more, first⟩, rfl⟩, -, ⟨rest, second⟩, rfl⟩
    refine ⟨hp, ⟨rest, ?_⟩, by rw [List.length_append, Nat.add_assoc]⟩
    rw [List.append_assoc, second, ← List.drop_drop, ← first, List.drop_left]

theorem spansInTurn_joinLiterals {rs : List Regex} :
    SpansInTurn cs (joinLiterals rs) p q ↔ SpansInTurn cs rs p q := by
  fun_induction joinLiterals rs generalizing p with
  | case1 => rfl
  | case2 a rest b more eq ih =>
    simp only [SpansInTurn, ← ih, eq, spans_literal_append]
    constructor
    · rintro ⟨t, ⟨u, first, second⟩, others⟩
      exact ⟨u, first, t, second, others⟩
    · rintro ⟨u, first, t, second, others⟩
      exact ⟨t, ⟨u, first, second⟩, others⟩
  | case3 a rest _ ih => simp only [SpansInTurn, ih]
  | case4 r rest _ ih => simp only [SpansInTurn, ih]

/-- A sequence in its short form matches what its parts match one after the other. -/
theorem spans_inTurn {rs : List Regex} (hp : p ≤ cs.length) :
    (inTurn rs).Spans cs p q ↔ SpansInTurn cs rs p q := by
  rw [← spansInTurn_flatMap_parts hp, ← spansInTurn_joinLiterals, inTurn]
  split
  · next eq => simp [eq, Spans, SpansInTurn, hp]
  · next eq => rw [eq, spansInTurn_singleton]
  · simp [Spans, hp]

end Loom.Regex
