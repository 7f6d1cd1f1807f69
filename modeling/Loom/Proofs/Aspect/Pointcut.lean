import Loom.Aspect.Pointcut
import Loom.Proofs.Pattern.Closing
import Loom.Proofs.Pattern.Spans

/-!
# Where pointcuts match

The text of a pattern is put behind a start anchor and into a group before it is read. If it is a
pattern of its own, the group holds that pattern and nothing else, and all matches begin at the
start of the address. A text that only the group makes a pattern can end the group early: what
follows is then not anchored.
-/

namespace Loom

namespace Pattern

/-- Reading what stands behind the anchor and in the group. -/
theorem readItems_anchored (fuel : Nat) (cs : List Char) :
    readItems (fuel + 2) false false .empty .start ('^' :: '(' :: '?' :: ':' :: cs) =
      (readItems fuel false true .empty .start cs).bind fun (inner, groups, rest) =>
        readItems fuel false false groups
          ⟨[], [.group [] inner, .assertion .lineStart]⟩ rest :=
  rfl

/-- What a pattern reads as behind the anchor, unless it ends in a comment, which leaves the group
open, or the group nests it too deep. -/
theorem parse_anchored {pattern : String} {p : Pattern} (own : parse pattern.toList = some p) :
    parse (Pointcut.anchored pattern) = none ∨
      parse (Pointcut.anchored pattern) =
        some (.concat [.assertion .lineStart, .group [] p]) := by
  simp only [parse, Option.bind_eq_bind, Option.bind_eq_some_iff] at own
  obtain ⟨⟨p', groups, rest⟩, read, limited⟩ := own
  obtain ⟨-, rfl⟩ : p'.depth ≤ nestingLimit ∧ p' = p := by simpa using limited
  have enough : pattern.toList.length + 1 ≤ pattern.toList.length + 4 := by omega
  obtain ⟨rfl, inner⟩ := readItems_inGroup enough read
  have size : (Pointcut.anchored pattern).length + 1 = pattern.toList.length + 4 + 2 := by
    simp [Pointcut.anchored]
  have text : Pointcut.anchored pattern =
      '^' :: '(' :: '?' :: ':' :: (pattern.toList ++ [')']) := by
    simp [Pointcut.anchored]
  rw [parse, size, text, readItems_anchored]
  obtain inner | inner := inner
  · exact .inl (by rw [inner]; rfl)
  · rw [inner]
    have last : readItems (pattern.toList.length + 4) false false groups
        ⟨[], [.group [] p', .assertion .lineStart]⟩ [] =
          some (.concat [.assertion .lineStart, .group [] p'], groups, []) := rfl
    simp only [Option.bind_some, last, Option.bind_eq_bind]
    split
    · exact .inr rfl
    · exact .inl rfl

theorem compile_anchored (p : Pattern) :
    compile .default (.concat [.assertion .lineStart, .group [] p]) =
      (compile .default p).map fun v => (Regex.inTurn [.look .start, v.1], .default) := by
  simp only [compile, compileAll, Flags.apply, List.foldl_nil, Option.bind_eq_bind,
    Option.bind_some]
  cases compile .default p <;> rfl

end Pattern

namespace Pointcut

variable {pattern address : String} {p : Pattern} {pointcut : Pointcut}

/-- The regular expression of a pointcut whose text is a pattern of its own: the start of the
address, and that pattern's expression after it. -/
theorem regex_of_parse (own : Pattern.parse pattern.toList = some p)
    (made : ofPattern pattern = .ok pointcut) :
    ∃ v, p.compile .default = some v ∧ pointcut.regex = Regex.inTurn [.look .start, v.1] := by
  simp only [ofPattern, Regex.parse] at made
  obtain eq | eq := Pattern.parse_anchored own
  · simp [eq] at made
  · rw [eq, Option.bind_some, Pattern.compile_anchored] at made
    cases compiled : p.compile .default with
    | none => simp [compiled] at made
    | some v =>
      refine ⟨v, rfl, ?_⟩
      simp only [compiled, Option.map_some] at made
      split at made
      · next found =>
        split at found
        · cases made
          exact (Except.ok.inj found).symm
        · cases found
      · cases made

/-- A pointcut whose text is a pattern of its own matches where that pattern has a match that begins
at the start of the address. -/
theorem spans_iff {cs : List Char} {start stop : Nat} (own : Pattern.parse pattern.toList = some p)
    (made : ofPattern pattern = .ok pointcut) :
    pointcut.regex.Spans cs start stop ↔
      start = 0 ∧ ∃ v, p.compile .default = some v ∧ v.1.Spans cs 0 stop := by
  obtain ⟨v, compiled, eq⟩ := regex_of_parse own made
  have inTurn : Regex.SpansInTurn cs [.look .start, v.1] start stop ↔
      start = 0 ∧ v.1.Spans cs 0 stop := by
    simp only [Regex.SpansInTurn, Regex.Spans, Look.holds, beq_iff_eq]
    constructor
    · rintro ⟨_, ⟨-, rfl, rfl⟩, _, spans, rfl⟩
      exact ⟨rfl, spans⟩
    · rintro ⟨rfl, spans⟩
      exact ⟨0, ⟨Nat.zero_le _, rfl, rfl⟩, stop, spans, rfl⟩
  rw [eq, compiled]
  constructor
  · intro spans
    obtain ⟨begins, spans⟩ := inTurn.1 ((Regex.spans_inTurn (spans.le.1.trans spans.le.2)).1 spans)
    exact ⟨begins, v, rfl, spans⟩
  · rintro ⟨rfl, _, ⟨⟩, spans⟩
    exact (Regex.spans_inTurn (Nat.zero_le _)).2 (inTurn.2 ⟨rfl, spans⟩)

theorem anchored_of_parse (own : (Pattern.parse pattern.toList).isSome)
    (made : ofPattern pattern = .ok pointcut) (matched : pointcut.isMatch address = true) :
    ∃ stop, pointcut.regex.Spans address.toList 0 stop := by
  obtain ⟨p, own⟩ := Option.isSome_iff_exists.1 own
  obtain ⟨start, stop, spans⟩ := Regex.isMatch_iff.1 matched
  obtain rfl : start = 0 := ((spans_iff own made).1 spans).1
  exact ⟨stop, spans⟩

theorem anchored_of_parse_alternation : ∃ pointcut, ofPattern "ab|c" = .ok pointcut ∧
    pointcut.isMatch "cd" = true ∧ ∃ stop, pointcut.regex.Spans "cd".toList 0 stop := by
  have own : (Pattern.parse "ab|c".toList).isSome := by decide +kernel
  refine ⟨_, rfl, ?_, ?_⟩
  · decide +kernel
  · exact anchored_of_parse own rfl (by decide +kernel)

/-- A text that closes the group early is not anchored behind it. -/
theorem not_anchored_of_unbalanced : ∃ pointcut, ofPattern "a)|(?:b" = .ok pointcut ∧
    pointcut.isMatch "xb" = true ∧ ¬ ∃ stop, pointcut.regex.Spans "xb".toList 0 stop := by
  refine ⟨_, rfl, ?_, ?_⟩
  · decide +kernel
  · rw [← Regex.matchesAt_iff]
    decide +kernel

end Pointcut

end Loom
