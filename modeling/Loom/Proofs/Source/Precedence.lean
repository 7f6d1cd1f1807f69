import Loom.Proofs.Source.Meaning

/-!
# Operands and operators

Each level of the grammar reads an operand of an expression up to the token that belongs to it no
more. Operands that are operations are parenthesised, so one level has at most one operator to read
between two of them.
-/

namespace Loom.Grammar

open Source

/-! ## Readers that stop -/

variable {α : Type} {ts rest next : List Token} {t : Token} {o o' : Option Reading}
  {level : Level}

/-- A reader reads `o` and leaves `rest`, unless `o` is none. -/
structure Yields (read : List Token → Option (α × List Token)) (ts : List Token) (o : Option α)
    (rest : List Token) : Prop where
  eq : read ts = o.map (·, rest)
  left : rest.length ≤ ts.length

/-- Nothing that follows belongs to an operand in front of it. -/
def NoTrailer (rest : List Token) : Prop :=
  ∀ t ∈ rest.head?, t ≠ .mark .point ∧ t ≠ .mark .openParen

/-- Nothing that follows belongs to an expression in front of it. -/
def Ends (rest : List Token) : Prop :=
  ∀ t ∈ rest.head?, t ∈ [Token.mark .comma, .mark .closeParen, .mark .closeBracket]

theorem ends_cons (h : t ∈ [Token.mark .comma, .mark .closeParen, .mark .closeBracket])
    (rest : List Token) : Ends (t :: rest) := by
  rintro _ ⟨⟩
  exact h

theorem Ends.stops (h : Ends rest) : ∀ t ∈ rest.head?, t ≠ .mark .point ∧ t ≠ .mark .openParen ∧
    t ≠ .mark .power ∧ ∀ level : Level, level.op? t = none := by
  intro t ht
  have mark := h t ht
  simp only [List.mem_cons, List.not_mem_nil, or_false] at mark
  obtain rfl | rfl | rfl := mark <;>
    exact ⟨by decide, by decide, by decide, fun level => by cases level <;> rfl⟩

theorem Ends.noTrailer (h : Ends rest) : NoTrailer rest :=
  fun t ht => ⟨(h.stops t ht).1, (h.stops t ht).2.1⟩

theorem Ends.no_assign (h : Ends rest) : rest.head? ≠ some (.mark .assign) := by
  intro assign
  have mark := h _ assign
  simp at mark

theorem Ends.readComparator (h : Ends rest) : readComparator rest = none := by
  cases rest with
  | nil => rfl
  | cons t rest =>
    have mark := h t rfl
    simp only [List.mem_cons, List.not_mem_nil, or_false] at mark
    obtain rfl | rfl | rfl := mark <;> rfl

theorem readTrailers_of_noTrailer (r : Reading) (h : NoTrailer rest) :
    readTrailers r rest = some (r, rest) := by
  rw [readTrailers.eq_def]
  split <;> simp_all [NoTrailer]

theorem Yields.level_stop (h : Yields (readItem level) ts o rest)
    (stop : ∀ t ∈ rest.head?, level.op? t = none) : Yields (readLevel level) ts o rest := by
  refine ⟨?_, h.left⟩
  rw [readLevel, h.eq]
  cases o with
  | none => rfl
  | some r =>
    simp only [Option.map_some, Option.bind_eq_bind, Option.bind_some, h.left, if_true]
    cases rest with
    | nil => rw [readOthers]
    | cons t rest => rw [readOthers, stop t rfl]

/-- Two items with an operator of the level between them. -/
theorem Yields.level_op {op : BinOp} (hl : Yields (readItem level) ts o (t :: next))
    (operator : level.op? t = some op) (hr : Yields (readItem level) next o' rest)
    (stop : ∀ t ∈ rest.head?, level.op? t = none) :
    Yields (readLevel level) ts (do some (.binOp (← o) op (← o'))) rest := by
  have left := hl.left
  have right := hr.left
  rw [List.length_cons] at left
  refine ⟨?_, by omega⟩
  rw [readLevel, hl.eq]
  cases o with
  | none => rfl
  | some r =>
    simp only [Option.map_some, Option.bind_eq_bind, Option.bind_some, hl.left, if_true]
    rw [readOthers, operator]
    simp only [hr.eq]
    cases o' with
    | none => rfl
    | some r' =>
      simp only [Option.map_some, Option.bind_eq_bind, Option.bind_some, right, if_true]
      cases rest with
      | nil => rw [readOthers]
      | cons t rest => rw [readOthers, stop t rfl]

theorem readComparisons_of_stop (stop : readComparator rest = none) :
    readComparisons rest = some ([], rest) := by
  rw [readComparisons.eq_def, stop]

theorem Yields.expr_stop (h : Yields (readLevel .sum) ts o rest)
    (stop : readComparator rest = none) : Yields readExpr ts o rest := by
  refine ⟨?_, h.left⟩
  rw [readExpr, h.eq]
  cases o with
  | none => rfl
  | some r => simp [h.left, readComparisons_of_stop stop]

/-- Two sums with a comparison between them. -/
theorem Yields.expr_compare {op : CmpOp} {middle : List Token}
    (hl : Yields (readLevel .sum) ts o middle) (operator : readComparator middle = some (op, next))
    (shorter : next.length < middle.length) (hr : Yields (readLevel .sum) next o' rest)
    (stop : readComparator rest = none) :
    Yields readExpr ts (do some (.compare (← o) [(op, ← o')])) rest := by
  have left := hl.left
  have right := hr.left
  refine ⟨?_, by omega⟩
  rw [readExpr, hl.eq]
  cases o with
  | none => rfl
  | some r =>
    have further : rest.length < middle.length := by omega
    simp only [Option.map_some, Option.bind_eq_bind, Option.bind_some, left, if_true]
    rw [readComparisons, operator]
    simp only [shorter, if_true, hr.eq]
    cases o' with
    | none => rfl
    | some r' => simp [further, readComparisons_of_stop stop]

/-! ## Where operands start -/

/-- A token that an operand can start with after its minus. -/
def Opens : Token → Prop
  | .word w => w ∈ reservedWords → w ∈ constantWords
  | .mark m => m = .openParen ∨ m = .openBracket
  | _ => True

/-- An operand starts here, and no keyword. -/
structure Starts (ts : List Token) : Prop where
  opens : ∃ t next, ts = t :: next ∧ Opens t
  no_keyword : ∀ w next, ts ≠ .word w :: .mark .assign :: next

theorem starts_word {w : String} (free : w ∈ reservedWords → w ∈ constantWords)
    (h : rest.head? ≠ some (.mark .assign)) : Starts (.word w :: rest) := by
  refine ⟨⟨_, _, rfl, free⟩, fun v next eq => h ?_⟩
  rw [(List.cons.inj eq).2]
  rfl

theorem starts_of_opens (opens : Opens t) (h : ∀ w, t ≠ .word w) : Starts (t :: rest) :=
  ⟨⟨_, _, rfl, opens⟩, fun w _ eq => h w (List.cons.inj eq).1⟩

theorem starts_constantTokens {c : Constant} (notFloat : ∀ x, c ≠ .float x)
    (h : rest.head? ≠ some (.mark .assign)) : Starts (constantTokens c ++ rest) := by
  cases c with
  | none => exact starts_word (by decide) h
  | bool value => cases value <;> exact starts_word (by decide) h
  | int i => exact starts_of_opens trivial (by simp)
  | float x => exact absurd rfl (notFloat x)
  | str s => exact starts_of_opens trivial (by simp)

theorem starts_parenthesis (rest : List Token) : Starts (.mark .openParen :: rest) :=
  starts_of_opens (.inl rfl) (by simp)

theorem starts_enclosed {e : Expr} (h : e.Legible) (after : rest.head? ≠ some (.mark .assign)) :
    Starts (enclosed e (body e) ++ rest) := by
  induction h generalizing rest with
  | name _ free => exact starts_word (fun reserved => absurd reserved free) after
  | @«attribute» value attr _ _ ih =>
    rw [enclosed_of_not_isOperation rfl, body]
    unfold pointed
    split
    · exact starts_of_opens trivial (by simp)
    · rw [List.append_assoc, List.append_assoc]
      exact ih (by simp)
  | call _ _ _ _ ih =>
    rw [enclosed_of_not_isOperation rfl, body, List.append_assoc]
    exact ih (by simp)
  | constant notFloat => exact starts_constantTokens notFloat after
  | @tuple items _ _ =>
    by_cases single : ∃ item, items = [item]
    · obtain ⟨item, rfl⟩ := single
      exact starts_parenthesis _
    · rw [enclosed_of_not_isOperation rfl, body_tuple_of_ne (not_exists.1 single)]
      exact starts_parenthesis _
  | list _ _ => exact starts_of_opens (.inr rfl) (by simp)
  | compare _ _ _ _ => exact starts_parenthesis _
  | binOp _ _ _ _ => exact starts_parenthesis _
  | woven _ free _ => exact starts_word (fun reserved => absurd reserved free) (by simp)

/-- No expression starts with a mark that closes something. -/
structure Begins (ts : List Token) : Prop where
  open_paren : ts.head? ≠ some (.mark .closeParen)
  open_bracket : ts.head? ≠ some (.mark .closeBracket)
  no_not : ts.head? ≠ some (.word "not")
  no_keyword : ∀ w next, ts ≠ .word w :: .mark .assign :: next

theorem Starts.begins (h : Starts ts) : Begins ts := by
  obtain ⟨⟨t, next, rfl, opens⟩, no_keyword⟩ := h
  refine ⟨?_, ?_, ?_, no_keyword⟩
  all_goals rintro ⟨⟩
  · simp [Opens] at opens
  · simp [Opens] at opens
  · revert opens
    simp only [Opens]
    decide

theorem begins_operandTokens {e : Expr} (h : e.Legible)
    (after : rest.head? ≠ some (.mark .assign)) : Begins (operandTokens e ++ rest) := by
  rw [operandTokens, sign]
  split
  · exact ⟨by simp, by simp, by simp, by simp⟩
  · exact (starts_enclosed h after).begins

theorem begins_tokens {e : Expr} (h : e.Legible) (rest : List Token)
    (after : rest.head? ≠ some (.mark .assign)) : Begins (tokens e ++ rest) := by
  have apply {left right : Expr} (op : Operator) (legible : left.Legible) :
      Begins (tokens (op.apply left right) ++ rest) := by
    rw [tokens_apply_append]
    refine begins_operandTokens legible ?_
    cases op with
    | compare op => cases op <;> simp [Operator.tokens]
    | binary op => cases op <;> simp [Operator.tokens]
  cases operation : e.isOperation with
  | false =>
    exact operandTokens_of_not_isOperation operation ▸ begins_operandTokens h after
  | true =>
    cases h with
    | compare left _ => exact apply (.compare _) left
    | binOp left _ => exact apply (.binary _) left
    | _ => cases operation

/-! ## Operands -/

theorem readFactor_of_starts (h : Starts ts) : readFactor ts = readPower ts := by
  obtain ⟨⟨t, next, rfl, opens⟩, -⟩ := h
  rw [readFactor.eq_def]
  split
  · next eq =>
    obtain rfl := (List.cons.inj eq).1
    simp [Opens] at opens
  · rfl

/-- An operand is read with whatever follows it that belongs to it. -/
def ReadsOperand (e : Expr) : Prop :=
  ∀ rest, readPrimary (enclosed e (body e) ++ rest) = (meaning? e).bind (readTrailers · rest)

theorem Yields.power_stop (h : Yields readPrimary ts o rest)
    (stop : ∀ t ∈ rest.head?, t ≠ .mark .power) : Yields readPower ts o rest := by
  refine ⟨?_, h.left⟩
  rw [readPower, h.eq]
  cases o with
  | none => rfl
  | some r =>
    simp only [Option.map_some, Option.bind_eq_bind, Option.bind_some]
    split
    · exact absurd rfl (stop _ rfl)
    · rfl

theorem Yields.power (hl : Yields readPrimary ts o (.mark .power :: next))
    (hr : Yields readFactor next o' rest) :
    Yields readPower ts (do some (.binOp (← o) .pow (← o'))) rest := by
  have left := hl.left
  have right := hr.left
  rw [List.length_cons] at left
  refine ⟨?_, by omega⟩
  rw [readPower, hl.eq]
  cases o with
  | none => rfl
  | some r =>
    have shorter : next.length < ts.length := by omega
    simp only [Option.map_some, Option.bind_eq_bind, Option.bind_some, shorter, if_true, hr.eq]
    cases o' <;> rfl

/-- A minus is read after what is raised to a power. -/
theorem Yields.signed {e : Expr} {after : List Token}
    (h : Yields readPower (enclosed e (body e) ++ after) o rest)
    (starts : Starts (enclosed e (body e) ++ after)) :
    Yields readFactor (operandTokens e ++ after) (o.map (signed e)) rest := by
  have left := h.left
  rw [operandTokens, sign]
  cases negative : isNegative e with
  | false =>
    refine ⟨?_, left⟩
    simp only [Bool.false_eq_true, if_false, List.nil_append, readFactor_of_starts starts, h.eq]
    cases o <;> simp [Grammar.signed, negative]
  | true =>
    refine ⟨?_, by simp at left ⊢; omega⟩
    simp only [if_true, List.cons_append, List.nil_append]
    rw [readFactor, readFactor_of_starts starts, h.eq]
    cases o <;> simp [Grammar.signed, negative]

namespace ReadsOperand

variable {e : Expr}

theorem primary (h : ReadsOperand e) (rest : List Token) (stop : NoTrailer rest) :
    Yields readPrimary (enclosed e (body e) ++ rest) (meaning? e) rest := by
  refine ⟨?_, by simp⟩
  rw [h rest]
  cases meaning? e with
  | none => rfl
  | some r => exact readTrailers_of_noTrailer r stop

theorem factor (h : ReadsOperand e) (legible : e.Legible) (rest : List Token)
    (stop : NoTrailer rest)
    (no_power : ∀ t ∈ rest.head?, t ≠ .mark .power)
    (after : rest.head? ≠ some (.mark .assign)) :
    Yields readFactor (operandTokens e ++ rest) (spoken? e) rest :=
  ((h.primary rest stop).power_stop no_power).signed (starts_enclosed legible after)

theorem last_factor (h : ReadsOperand e) (legible : e.Legible) (ends : Ends rest) :
    Yields readFactor (operandTokens e ++ rest) (spoken? e) rest :=
  h.factor legible rest ends.noTrailer (fun t ht => (ends.stops t ht).2.2.1) ends.no_assign

end ReadsOperand

/-! ## Expressions -/

/-- Between operators of no level, an operand is a sum. -/
theorem Yields.term (h : Yields readFactor ts o rest) : Yields (readItem .term) ts o rest :=
  ⟨by rw [readItem, h.eq], h.left⟩

theorem Yields.sum_item (h : Yields readFactor ts o rest)
    (stop : ∀ t ∈ rest.head?, Level.op? .term t = none) : Yields (readItem .sum) ts o rest :=
  have level := h.term.level_stop stop
  ⟨by rw [readItem, level.eq], h.left⟩

theorem Yields.sum (h : Yields readFactor ts o rest)
    (stop : ∀ t ∈ rest.head?, ∀ level : Level, level.op? t = none) :
    Yields (readLevel .sum) ts o rest :=
  (h.sum_item fun t ht => stop t ht .term).level_stop fun t ht => stop t ht .sum

theorem Yields.expr (h : Yields readFactor ts o rest) (ends : Ends rest) :
    Yields readExpr ts o rest :=
  (h.sum fun t ht => (ends.stops t ht).2.2.2).expr_stop ends.readComparator

theorem readPrimary_of_atom (atom : Yields readAtom ts o rest) :
    readPrimary ts = o.bind (readTrailers · rest) := by
  rw [readPrimary, atom.eq]
  cases o with
  | none => rfl
  | some r => simp [atom.left]

/-- In parentheses an expression is an atom. -/
theorem readAtom_parenthesised (begins : Begins ts)
    (inner : Yields readExpr ts o (.mark .closeParen :: rest)) :
    Yields readAtom (.mark .openParen :: ts) o rest := by
  have left := inner.left
  rw [List.length_cons] at left
  refine ⟨?_, by simp only [List.length_cons]; omega⟩
  rw [readAtom_openParen begins.open_paren, inner.eq]
  cases o <;> rfl

/-- The text of `e` is read as what it says, as an operand and on its own. -/
structure ReadsBack (e : Expr) : Prop where
  operand : ReadsOperand e
  expr : ∀ rest, Ends rest → Yields readExpr (tokens e ++ rest) (spoken? e) rest

namespace ReadsBack

variable {e left right : Expr}

theorem of_operand (notOperation : e.isOperation = false) (legible : e.Legible)
    (h : ReadsOperand e) : ReadsBack e := by
  refine ⟨h, fun rest ends => ?_⟩
  rw [← operandTokens_of_not_isOperation notOperation]
  exact (h.last_factor legible ends).expr ends

theorem of_atom (notOperation : e.isOperation = false) (legible : e.Legible)
    (atom : ∀ rest, readAtom (body e ++ rest) = (meaning? e).map (·, rest)) : ReadsBack e :=
  of_operand notOperation legible fun rest => by
    rw [enclosed_of_not_isOperation notOperation]
    exact readPrimary_of_atom ⟨atom rest, by simp⟩

theorem of_operation (operation : e.isOperation = true) (legible : e.Legible)
    (expr : ∀ rest, Ends rest → Yields readExpr (tokens e ++ rest) (spoken? e) rest) :
    ReadsBack e := by
  refine ⟨fun rest => ?_, expr⟩
  have plain : sign e = [] := sign_of_isOperation operation
  have same : tokens e = body e := by rw [tokens, plain, List.nil_append]
  have inner := expr (.mark .closeParen :: rest) (ends_cons (by simp) rest)
  have begins := begins_tokens legible (.mark .closeParen :: rest) (by simp)
  rw [spoken?_eq (isNegative_of_isOperation operation)] at inner
  rw [enclosed_of_isOperation operation, ← same]
  simp only [List.cons_append, List.append_assoc, List.nil_append]
  exact readPrimary_of_atom (readAtom_parenthesised begins inner)

/-! ### Operations -/

section

variable (hl : ReadsBack left) (hr : ReadsBack right) (left_legible : left.Legible)
  (right_legible : right.Legible)
include hl hr left_legible right_legible

theorem expr_power (ends : Ends rest) :
    Yields readExpr (tokens (.binOp left .pow right) ++ rest) (spoken? (.binOp left .pow right))
      rest := by
  have base := hl.operand.primary (.mark .power :: (operandTokens right ++ rest))
    (by rintro _ ⟨⟩; decide)
  have power := (base.power (hr.operand.last_factor right_legible ends)).signed
    (starts_enclosed left_legible (by simp))
  have text : tokens (.binOp left .pow right) ++ rest =
      operandTokens left ++ .mark .power :: (operandTokens right ++ rest) :=
    tokens_apply_append left right (.binary .pow) rest
  rw [text, spoken?_power]
  exact power.expr ends

omit hl hr left_legible right_legible in
/-- Every other operator stands at one level. -/
theorem exists_level {op : BinOp} (h : op ≠ .pow) : ∃ level t,
    (Operator.binary op).tokens = [t] ∧ Level.op? level t = some op ∧
      (level = .sum → Level.op? .term t = none) ∧ t ≠ .mark .point ∧ t ≠ .mark .openParen ∧
      t ≠ .mark .power ∧ t ≠ .mark .assign := by
  cases op with
  | add => exact ⟨.sum, _, rfl, rfl, by decide⟩
  | sub => exact ⟨.sum, _, rfl, rfl, by decide⟩
  | mult => exact ⟨.term, _, rfl, rfl, by decide⟩
  | div => exact ⟨.term, _, rfl, rfl, by decide⟩
  | mod => exact ⟨.term, _, rfl, rfl, by decide⟩
  | pow => exact absurd rfl h

theorem expr_level {op : BinOp} (not_power : op ≠ .pow) (ends : Ends rest) :
    Yields readExpr (tokens (.binOp left op right) ++ rest) (spoken? (.binOp left op right))
      rest := by
  obtain ⟨level, t, symbol, operator, other, no_point, no_paren, no_power, no_assign⟩ :=
    exists_level not_power
  have text : tokens (.binOp left op right) ++ rest =
      operandTokens left ++ t :: (operandTokens right ++ rest) := by
    have whole := tokens_apply_append left right (.binary op) rest
    rwa [symbol] at whole
  have first := hl.operand.factor left_legible (t :: (operandTokens right ++ rest))
    (by rintro _ ⟨⟩; exact ⟨no_point, no_paren⟩) (by rintro _ ⟨⟩; exact no_power)
    (by simpa using no_assign)
  have second := hr.operand.last_factor right_legible ends
  have stops := fun t ht => (ends.stops t ht).2.2.2
  rw [text, spoken?_binOp not_power]
  cases level with
  | sum =>
    have sum := (first.sum_item (by rintro _ ⟨⟩; exact other rfl)).level_op operator
      (second.sum_item fun t ht => stops t ht .term) fun t ht => stops t ht .sum
    exact sum.expr_stop ends.readComparator
  | term =>
    have term := first.term.level_op operator second.term fun t ht => stops t ht .term
    have item : Yields (readItem .sum) _ _ rest := ⟨by rw [readItem, term.eq], term.left⟩
    exact (item.level_stop fun t ht => stops t ht .sum).expr_stop ends.readComparator

omit hl hr left_legible right_legible in
theorem readComparator_tokens (op : CmpOp) (h : ts.head? ≠ some (.word "not")) :
    readComparator ((Operator.compare op).tokens ++ ts) = some (op, ts) := by
  cases op with
  | is =>
    cases ts with
    | nil => rfl
    | cons t ts =>
      rw [Operator.tokens, List.singleton_append, readComparator]
      rintro ts ⟨⟩
      exact h rfl
  | _ => rfl

theorem expr_compare {op : CmpOp} (ends : Ends rest) :
    Yields readExpr (tokens (.compare left op right) ++ rest) (spoken? (.compare left op right))
      rest := by
  have text : tokens (.compare left op right) ++ rest =
      operandTokens left ++ ((Operator.compare op).tokens ++ (operandTokens right ++ rest)) :=
    tokens_apply_append left right (.compare op) rest
  obtain ⟨t, others, symbol, stop⟩ : ∃ t others, (Operator.compare op).tokens = t :: others ∧
      t ≠ .mark .point ∧ t ≠ .mark .openParen ∧ t ≠ .mark .power ∧ t ≠ .mark .assign ∧
      ∀ level : Level, level.op? t = none := by
    cases op <;> exact ⟨_, _, rfl, by decide, by decide, by decide, by decide,
      fun level => by cases level <;> rfl⟩
  have first := hl.operand.factor left_legible
    ((Operator.compare op).tokens ++ (operandTokens right ++ rest))
    (by rw [symbol]; rintro _ ⟨⟩; exact ⟨stop.1, stop.2.1⟩)
    (by rw [symbol]; rintro _ ⟨⟩; exact stop.2.2.1) (by rw [symbol]; simpa using stop.2.2.2.1)
  have begins := begins_operandTokens right_legible ends.no_assign
  have shorter : (operandTokens right ++ rest).length <
      ((Operator.compare op).tokens ++ (operandTokens right ++ rest)).length := by
    rw [symbol]
    simp only [List.length_cons, List.length_append]
    omega
  rw [text, spoken?_compare]
  exact (first.sum (by rw [symbol]; rintro _ ⟨⟩; exact stop.2.2.2.2)).expr_compare
    (readComparator_tokens op begins.no_not) shorter
    ((hr.operand.last_factor right_legible ends).sum fun t ht => (ends.stops t ht).2.2.2) ends.readComparator

end

end ReadsBack

end Loom.Grammar
