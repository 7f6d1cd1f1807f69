import Loom.Proofs.Source.LineReader

/-!
# Reading modules

The block that belongs to a clause is what follows one level deeper, and the second block of an `if`
opens on a line of its own. The text of every legible module is read as the surface of the module,
so two modules have the same text exactly if they have the same surface.
-/

namespace Loom.Source

open Text (isIdentifier)

/-! ## Blocks -/

def indent (depth : Nat) : List Char := List.replicate (4 * depth) ' '

/-- Whether a line follows that is indented at least this deep. -/
def isIndented (depth : Nat) (cs : List Char) : Bool :=
  !cs.isEmpty && (after? (indent depth) cs).isSome

/-- The statement with one more decorator on the outside. -/
def decorate (d : Expr) : Stmt → Stmt
  | .functionDef f => .functionDef { f with decorators := d :: f.decorators }
  | .classDef c => .classDef { c with decorators := d :: c.decorators }
  | s => s

/-- The line that opens the second block of an `if`. -/
def elseLine : List Char := "else:\n".toList

mutual
/-- A statement at `depth`. -/
def readStmt (depth : Nat) (cs : List Char) : Option (Stmt × List Char) := do
  let line ← after? (indent depth) cs
  let (clause, rest) ← readClause line
  if rest.length < cs.length then readRest depth clause rest else none
termination_by 3 * cs.length

/-- The statement that starts with `clause`, from the line after it. -/
def readRest (depth : Nat) (clause : Clause) (cs : List Char) : Option (Stmt × List Char) :=
  match clause with
  | .simple s => some (s, cs)
  | .decorator d => do
    let (s, rest) ← readStmt depth cs
    some (decorate d s, rest)
  | .function name params => do
    let (body, rest) ← readBlock (depth + 1) cs
    some (.functionDef ⟨name, params, [], body⟩, rest)
  | .cls name bases keywords => do
    let (body, rest) ← readBlock (depth + 1) cs
    some (.classDef ⟨name, bases, keywords, [], body⟩, rest)
  | .ifTest test => do
    let (body, rest) ← readBlock (depth + 1) cs
    match after? (indent depth ++ elseLine) rest with
    | none => some (.ifElse test body [], rest)
    | some second =>
      if second.length ≤ cs.length then
        let (orelse, rest) ← readBlock (depth + 1) second
        some (.ifElse test body orelse, rest)
      else none
  | .forEach target iter => do
    let (body, rest) ← readBlock (depth + 1) cs
    some (.forLoop target iter body, rest)
  | .whileTest test => do
    let (body, rest) ← readBlock (depth + 1) cs
    some (.whileLoop test body, rest)
termination_by 3 * cs.length + 2

/-- The statements at `depth`, up to a line that is not indented so far. -/
def readBlock (depth : Nat) (cs : List Char) : Option (List Stmt × List Char) :=
  if isIndented depth cs then do
    let (s, next) ← readStmt depth cs
    if next.length < cs.length then
      let (body, rest) ← readBlock depth next
      some (s :: body, rest)
    else none
  else some ([], cs)
termination_by 3 * cs.length + 1
end

def readModule (text : String) : Option Module :=
  (readBlock 0 text.toList).map fun (body, _) => ⟨body⟩

/-! ## Blocks are read back -/

/-- What starts with neither a mark nor a word is no line. -/
theorem readClause_eq_none {cs : List Char} (first : cs.head? ≠ some '@')
    (word : (readWord cs).1 = "") (atom : readAtom cs = none) : readClause cs = none := by
  have assignment : readAssignment cs = none := by
    rw [readAssignment, readItems, readExpr, readOperand, atom]
    rfl
  rw [readClause_of_head? first, word]
  simp [readWordClause, assignment]

theorem readClause_nil : readClause [] = none :=
  readClause_eq_none (by simp) (by simp [readWord]) (by simp [readAtom, readWord])

/-- No line starts with a blank, as its indentation is read. -/
theorem readClause_blank (cs : List Char) : readClause (' ' :: cs) = none := by
  have word : (readWord (' ' :: cs)).1 = "" := by
    rw [readWord, List.takeWhile_cons_of_neg (by decide)]
  refine readClause_eq_none (by simp) word ?_
  rw [readAtom_word (by decide), word]
  rfl

/-- The line of an `else` is no line of its own. -/
theorem readClause_elseLine (cs : List Char) : readClause (elseLine ++ cs) = none := by
  have atom := readAtom_identifier (by decide : isIdentifier "else" = true)
    (wordEnds_cons (c := ':') (by decide) ('\n' :: cs))
  have expr := readExpr_of_operand (readOperand_of_atom atom (by simp))
    (ends_cons (c := ':') (by decide) ('\n' :: cs))
  have assignment : readAssignment ("else".toList ++ ':' :: '\n' :: cs) = none := by
    rw [readAssignment, readItems, expr]
    rfl
  change readClause ("else".toList ++ ':' :: '\n' :: cs) = none
  rw [readClause_keyword (by decide) (by decide)]
  change (readAssignment _).map _ = none
  rw [assignment]
  rfl

theorem indent_succ (depth : Nat) : indent (depth + 1) = indent depth ++ [' ', ' ', ' ', ' '] := by
  rw [indent, Nat.mul_add, ← List.replicate_append_replicate]
  rfl

theorem isIndented_iff {depth : Nat} {cs : List Char} :
    isIndented depth cs = true ↔ cs ≠ [] ∧ ∃ rest, cs = indent depth ++ rest := by
  simp [isIndented, Option.isSome_iff_exists, after?_eq_some]

/-- What may stand after a statement at `depth`: no line of a deeper block and no second block. -/
structure Follows (depth : Nat) (rest : List Char) : Prop where
  noElse : after? (indent depth ++ elseLine) rest = none
  outer : isIndented (depth + 1) rest = false

theorem follows_of_not_isIndented {depth : Nat} {rest : List Char}
    (h : isIndented depth rest = false) : Follows depth rest := by
  rw [← Bool.not_eq_true, isIndented_iff] at h
  constructor
  · rw [Option.eq_none_iff_forall_ne_some]
    intro tail read
    rw [after?_eq_some, List.append_assoc] at read
    exact h ⟨by simp [read, elseLine], _, read⟩
  · rw [← Bool.not_eq_true, isIndented_iff]
    rintro ⟨nonempty, tail, read⟩
    rw [indent_succ, List.append_assoc] at read
    exact h ⟨nonempty, _, read⟩

/-- A statement may follow any statement at its depth. -/
theorem follows_of_readStmt {depth : Nat} {cs rest : List Char} {s : Stmt}
    (h : readStmt depth cs = some (s, rest)) : Follows depth cs ∧ isIndented depth cs = true := by
  rw [readStmt] at h
  obtain ⟨line, indented, h⟩ := Option.bind_eq_some_iff.1 h
  obtain ⟨clause, read, -⟩ := Option.bind_eq_some_iff.1 h
  rw [after?_eq_some] at indented
  subst indented
  refine ⟨⟨?_, ?_⟩, ?_⟩
  · rw [Option.eq_none_iff_forall_ne_some]
    intro tail second
    rw [after?_eq_some, List.append_assoc, List.append_cancel_left_eq] at second
    rw [second] at read
    simp [readClause_elseLine] at read
  · rw [← Bool.not_eq_true, isIndented_iff]
    rintro ⟨-, tail, deeper⟩
    rw [indent_succ, List.append_assoc, List.append_cancel_left_eq] at deeper
    rw [deeper] at read
    simp [readClause_blank] at read
  · rw [isIndented_iff]
    refine ⟨fun empty => ?_, line, rfl⟩
    rw [(List.append_eq_nil_iff.1 empty).2, readClause_nil] at read
    cases read

/-- The text of lines. -/
def linesText (ls : List Line) : List Char := ls.flatMap fun l => l.render.toList

@[simp] theorem linesText_nil : linesText [] = [] := rfl

@[simp] theorem linesText_append (ls ms : List Line) :
    linesText (ls ++ ms) = linesText ls ++ linesText ms := by
  simp [linesText]

@[simp] theorem linesText_cons (depth : Nat) (text : String) (ls : List Line) :
    linesText (⟨depth, text⟩ :: ls) = indent depth ++ (text.toList ++ '\n' :: linesText ls) := by
  simp [linesText, Line.render, indent]

theorem linesText_lines_ne_nil (s : Stmt) (depth : Nat) : linesText (s.lines depth) ≠ [] := by
  cases s with
  | ifElse test body orelse => cases orelse <;> simp [Stmt.lines]
  | _ => simp [Stmt.lines]

/-- The lines of the statement are read as its surface. -/
def StmtReadsBack (s : Stmt) : Prop :=
  ∀ depth rest, Follows depth rest →
    readStmt depth (linesText (s.lines depth) ++ rest) = some (s.surface, rest)

/-- A block is read back when its statements are, and may stand after a statement. -/
theorem readBlock_lines {body : List Stmt} (h : ∀ s ∈ body, StmtReadsBack s) (depth : Nat)
    {rest : List Char} (outer : isIndented depth rest = false) :
    Follows depth (linesText (Stmt.blockLines depth body) ++ rest) ∧
      readBlock depth (linesText (Stmt.blockLines depth body) ++ rest) =
        some (body.map Stmt.surface, rest) := by
  induction body with
  | nil =>
    simp only [Stmt.blockLines, linesText_nil, List.nil_append]
    refine ⟨follows_of_not_isIndented outer, ?_⟩
    rw [readBlock]
    simp [outer]
  | cons s body ih =>
    obtain ⟨follows, block⟩ := ih fun t ht => h t (List.mem_cons_of_mem _ ht)
    have stmt := h s (List.mem_cons_self ..) depth _ follows
    simp only [Stmt.blockLines, linesText_append, List.append_assoc]
    obtain ⟨next, indented⟩ := follows_of_readStmt stmt
    refine ⟨next, ?_⟩
    rw [readBlock]
    simp [indented, stmt, block, linesText_lines_ne_nil]

/-! ## Statements are read back -/

/-- A statement goes on after its first line as that line says. -/
theorem readStmt_line (depth : Nat) {text : String} {cs : List Char} {clause : Clause}
    (h : readClause (text.toList ++ '\n' :: cs) = some (clause, cs)) :
    readStmt depth (indent depth ++ (text.toList ++ '\n' :: cs)) = readRest depth clause cs := by
  rw [readStmt, after?_append]
  simp only [Option.bind_eq_bind, Option.bind_some, h, List.length_append, List.length_cons]
  rw [if_pos (by omega)]

theorem stmtReadsBack_simple {s : Stmt} (lines : ∀ depth, s.lines depth = [⟨depth, s.simpleText⟩])
    (clause : ∀ rest, readClause (s.simpleText.toList ++ '\n' :: rest) =
      some (.simple s.surface, rest)) : StmtReadsBack s := by
  intro depth rest _
  rw [lines, linesText_cons, linesText_nil, List.append_assoc, List.append_assoc, List.cons_append,
    List.nil_append, readStmt_line depth (clause rest), readRest]

/-- The block under a clause. -/
theorem readBlock_suite {body : List Stmt} (nonempty : body ≠ [])
    (h : ∀ s ∈ body, StmtReadsBack s) {depth : Nat} {rest : List Char}
    (outer : isIndented (depth + 1) rest = false) :
    readBlock (depth + 1) (linesText (Stmt.suite (depth + 1) body) ++ rest) =
      some (body.map Stmt.surface, rest) := by
  have suite : Stmt.suite (depth + 1) body = Stmt.blockLines (depth + 1) body := by
    cases body with
    | nil => exact absurd rfl nonempty
    | cons s body => rw [Stmt.suite, Stmt.blockLines]
  rw [suite]
  exact (readBlock_lines h (depth + 1) outer).2

/-- Decorators are put on from the inside out. -/
theorem readStmt_decoratorLines {decorators : List Expr} (h : ∀ d ∈ decorators, d.Legible)
    {depth : Nat} {cs rest : List Char} {s : Stmt} (read : readStmt depth cs = some (s, rest)) :
    readStmt depth (linesText (decoratorLines depth decorators) ++ cs) =
      some (decorators.foldr (fun d s => decorate d.surface s) s, rest) := by
  induction decorators with
  | nil => exact read
  | cons d ds ih =>
    have inner := ih fun e he => h e (List.mem_cons_of_mem _ he)
    have line : ("@" ++ d.source).toList ++ '\n' :: (linesText (decoratorLines depth ds) ++ cs) =
        '@' :: (d.source.toList ++ '\n' :: (linesText (decoratorLines depth ds) ++ cs)) := by simp
    have clause := readClause_decorator (h d (List.mem_cons_self ..))
      (linesText (decoratorLines depth ds) ++ cs)
    rw [← line] at clause
    have text : linesText (decoratorLines depth (d :: ds)) ++ cs = indent depth ++
        (("@" ++ d.source).toList ++ '\n' :: (linesText (decoratorLines depth ds) ++ cs)) := by
      simp [decoratorLines]
    rw [text, readStmt_line depth clause, readRest, inner]
    rfl

theorem foldr_decorate_functionDef (decorators : List Expr) (f : Function) :
    decorators.foldr (fun d s => decorate d.surface s) (.functionDef f) =
      .functionDef { f with decorators := decorators.map Expr.surface ++ f.decorators } := by
  induction decorators with
  | nil => rfl
  | cons d ds ih => rw [List.foldr_cons, ih, decorate, List.map_cons, List.cons_append]

theorem foldr_decorate_classDef (decorators : List Expr) (c : Class) :
    decorators.foldr (fun d s => decorate d.surface s) (.classDef c) =
      .classDef { c with decorators := decorators.map Expr.surface ++ c.decorators } := by
  induction decorators with
  | nil => rfl
  | cons d ds ih => rw [List.foldr_cons, ih, decorate, List.map_cons, List.cons_append]

theorem stmtReadsBack_functionDef {f : Function} (identifier : isIdentifier f.name = true)
    (params : ∀ p ∈ f.params, p.Legible) (decorators : ∀ d ∈ f.decorators, d.Legible)
    (nonempty : f.body ≠ []) (body : ∀ s ∈ f.body, StmtReadsBack s) :
    StmtReadsBack (.functionDef f) := by
  intro depth rest follows
  have block := readBlock_suite nonempty body follows.outer
  have clause := readClause_function identifier params
    (linesText (Stmt.suite (depth + 1) f.body) ++ rest)
  have undecorated := readStmt_line depth clause
  rw [readRest, block] at undecorated
  have read := readStmt_decoratorLines decorators undecorated
  rw [foldr_decorate_functionDef] at read
  obtain ⟨name, params, decorators, body⟩ := f
  simpa [Stmt.lines, Stmt.surface] using read

theorem stmtReadsBack_classDef {c : Class} (identifier : isIdentifier c.name = true)
    (bases : ∀ b ∈ c.bases, b.Legible) (identifiers : ∀ k ∈ c.keywords, isIdentifier k.arg = true)
    (values : ∀ k ∈ c.keywords, k.value.Legible) (decorators : ∀ d ∈ c.decorators, d.Legible)
    (nonempty : c.body ≠ []) (body : ∀ s ∈ c.body, StmtReadsBack s) :
    StmtReadsBack (.classDef c) := by
  intro depth rest follows
  have block := readBlock_suite nonempty body follows.outer
  have clause := readClause_class identifier bases identifiers values
    (linesText (Stmt.suite (depth + 1) c.body) ++ rest)
  have undecorated := readStmt_line depth clause
  rw [readRest, block] at undecorated
  have read := readStmt_decoratorLines decorators undecorated
  rw [foldr_decorate_classDef] at read
  obtain ⟨name, bases, keywords, decorators, body⟩ := c
  simpa [Stmt.lines, Stmt.surface] using read

/-- The second block opens where the first one ends, and is there only if it is not empty. -/
theorem stmtReadsBack_ifElse {test : Expr} {body orelse : List Stmt} (test_legible : test.Legible)
    (nonempty : body ≠ []) (body_read : ∀ s ∈ body, StmtReadsBack s)
    (orelse_read : ∀ s ∈ orelse, StmtReadsBack s) : StmtReadsBack (.ifElse test body orelse) := by
  intro depth rest follows
  cases orelse with
  | nil =>
    have block := readBlock_suite nonempty body_read follows.outer
    have clause := readClause_if test_legible (linesText (Stmt.suite (depth + 1) body) ++ rest)
    have read := readStmt_line depth clause
    rw [readRest, block] at read
    simpa [Stmt.lines, Stmt.surface, follows.noElse] using read
  | cons s orelse =>
    have second := readBlock_suite (List.cons_ne_nil s orelse) orelse_read follows.outer
    have outer : isIndented (depth + 1) (indent depth ++ elseLine ++
        (linesText (Stmt.suite (depth + 1) (s :: orelse)) ++ rest)) = false := by
      rw [← Bool.not_eq_true, isIndented_iff]
      rintro ⟨-, tail, deeper⟩
      rw [indent_succ, List.append_assoc, List.append_assoc, List.append_cancel_left_eq] at deeper
      simp [elseLine] at deeper
    have first := readBlock_suite nonempty body_read outer
    have clause := readClause_if test_legible (linesText (Stmt.suite (depth + 1) body) ++
      (indent depth ++ elseLine ++
        (linesText (Stmt.suite (depth + 1) (s :: orelse)) ++ rest)))
    have read := readStmt_line depth clause
    rw [readRest, first] at read
    simp only [Option.bind_eq_bind, Option.bind_some, after?_append, second] at read
    rw [if_pos (by simp only [List.length_append]; omega)] at read
    simpa [Stmt.lines, Stmt.suite, Stmt.surface, elseLine] using read

theorem stmtReadsBack_forLoop {target iter : Expr} {body : List Stmt}
    (target_legible : target.Legible) (operand : target.isOperation = false)
    (iter_legible : iter.Legible) (nonempty : body ≠ []) (body_read : ∀ s ∈ body, StmtReadsBack s) :
    StmtReadsBack (.forLoop target iter body) := by
  intro depth rest follows
  have block := readBlock_suite nonempty body_read follows.outer
  have clause := readClause_for target_legible operand iter_legible
    (linesText (Stmt.suite (depth + 1) body) ++ rest)
  have read := readStmt_line depth clause
  rw [readRest, block] at read
  simpa [Stmt.lines, Stmt.surface] using read

theorem stmtReadsBack_whileLoop {test : Expr} {body : List Stmt} (test_legible : test.Legible)
    (nonempty : body ≠ []) (body_read : ∀ s ∈ body, StmtReadsBack s) :
    StmtReadsBack (.whileLoop test body) := by
  intro depth rest follows
  have block := readBlock_suite nonempty body_read follows.outer
  have clause := readClause_while test_legible (linesText (Stmt.suite (depth + 1) body) ++ rest)
  have read := readStmt_line depth clause
  rw [readRest, block] at read
  simpa [Stmt.lines, Stmt.surface] using read

theorem stmtReadsBack {s : Stmt} (h : s.Legible) : StmtReadsBack s := by
  induction h with
  | functionDef identifier params decorators nonempty _ ih =>
    exact stmtReadsBack_functionDef identifier params decorators nonempty ih
  | classDef identifier bases identifiers values decorators nonempty _ ih =>
    exact stmtReadsBack_classDef identifier bases identifiers values decorators nonempty ih
  | assign nonempty targets value =>
    exact stmtReadsBack_simple (fun _ => by simp [Stmt.lines])
      (readClause_assign nonempty targets value)
  | expr legible =>
    exact stmtReadsBack_simple (fun _ => by simp [Stmt.lines]) (readClause_expr legible)
  | ret legible =>
    exact stmtReadsBack_simple (fun _ => by simp [Stmt.lines]) (readClause_ret legible)
  | delete legible =>
    exact stmtReadsBack_simple (fun _ => by simp [Stmt.lines]) (readClause_delete legible)
  | pass => exact stmtReadsBack_simple (fun _ => by simp [Stmt.lines]) readClause_pass
  | importNames legible =>
    exact stmtReadsBack_simple (fun _ => by simp [Stmt.lines]) (readClause_importNames legible)
  | importFrom path legible =>
    exact stmtReadsBack_simple (fun _ => by simp [Stmt.lines]) (readClause_importFrom path legible)
  | ifElse test nonempty _ _ body orelse => exact stmtReadsBack_ifElse test nonempty body orelse
  | forLoop target operand iter nonempty _ ih =>
    exact stmtReadsBack_forLoop target operand iter nonempty ih
  | whileLoop test nonempty _ ih => exact stmtReadsBack_whileLoop test nonempty ih
  | global identifiers =>
    exact stmtReadsBack_simple (fun _ => by simp [Stmt.lines]) (readClause_global identifiers)

/-- The source of a legible module is read as its surface. -/
theorem readModule_source {m : Module} (h : ∀ s ∈ m.body, s.Legible) :
    readModule m.source = some m.surface := by
  have outer : isIndented 0 [] = false := rfl
  have block := (readBlock_lines (fun s hs => stmtReadsBack (h s hs)) 0 outer).2
  have text : m.source.toList = linesText (Stmt.blockLines 0 m.body) ++ [] := by
    simp [Module.source, Module.lines, linesText, List.flatMap_map]
  rw [readModule, text, block]
  rfl

end Loom.Source

namespace Loom.Module

open Text (isIdentifier isDottedName)

/-- Two checked modules without doubles and reserved names have the same text exactly if they are
the same but for woven references and for imports under their own name. -/
theorem source_eq_iff_surface_eq {m₁ m₂ : Module} (checked₁ : m₁.check = .ok ())
    (checked₂ : m₂.check = .ok ()) (floatFree₁ : m₁.FloatFree) (floatFree₂ : m₂.FloatFree)
    (unreserved₁ : m₁.Unreserved) (unreserved₂ : m₂.Unreserved) :
    m₁.source = m₂.source ↔ m₁.surface = m₂.surface := by
  constructor
  · intro same
    have read₁ := Source.readModule_source (legible_of_check checked₁ floatFree₁ unreserved₁)
    have read₂ := Source.readModule_source (legible_of_check checked₂ floatFree₂ unreserved₂)
    rw [same, read₂] at read₁
    exact (Option.some.inj read₁).symm
  · intro same
    rw [← source_surface m₁, same, source_surface]

/-- A module that imports `log` and puts `decorator` on a function. -/
def decoratedRun (asName : Option String) (decorator : Expr) : Module :=
  ⟨[.importNames [⟨"log", asName⟩],
    .functionDef ⟨"run", [⟨"x", some (.constant (.int (-1)))⟩], [decorator],
      [.ifElse (.compare (.name "x") .isNot (.constant .none))
        [.ret (some (.tuple [.name "x"]))]
        [.expr (.call (.attribute (.binOp (.name "x") .add (.name "y")) "run")
          [.str "it's"] [⟨"x", .name "y"⟩])]]⟩]⟩

def wovenRun : Module :=
  decoratedRun (some "log") (.woven ⟨"log", "traced", ⟨"/lib/log.py"⟩, "log"⟩)

def writtenRun : Module := decoratedRun none (.attribute (.name "log") "traced")

theorem source_eq_iff_surface_eq_wovenRun :
    wovenRun.source = writtenRun.source ∧ wovenRun.surface = writtenRun.surface := by
  have log : isIdentifier "log" = true ∧ "log" ∉ reservedWords := by decide
  have x : isIdentifier "x" = true ∧ "x" ∉ reservedWords := by decide
  have y : isIdentifier "y" = true ∧ "y" ∉ reservedWords := by decide
  have names : isDottedName "log" = true ∧ isIdentifier "run" = true ∧
      isIdentifier "traced" = true := by decide
  have sources : wovenRun.source = writtenRun.source := by
    simp [wovenRun, writtenRun, decoratedRun, source, lines, Stmt.blockLines, Stmt.lines,
      Stmt.simpleText, Alias.source, decoratorLines, FunctionDef.header, Expr.source, Expr.operand,
      Expr.isOperation]
  refine ⟨sources, (source_eq_iff_surface_eq ?_ ?_ ?_ ?_ ?_ ?_).1 sources⟩
  · simp [wovenRun, decoratedRun, log, x, y, names, Expr.str]
  · simp [writtenRun, decoratedRun, log, x, y, names, Expr.str]
  · simp [wovenRun, decoratedRun, FloatFree, everyConstant_iff, Param.EveryConstant, Expr.str]
  · simp [writtenRun, decoratedRun, FloatFree, everyConstant_iff, Param.EveryConstant, Expr.str]
  · simp [wovenRun, decoratedRun, Unreserved, subterms, Stmt.subterms, Expr.optionalSubterms,
      Expr.subterms, Expr.bareName?, Expr.str, or_imp, forall_and, log, x, y]
  · simp [writtenRun, decoratedRun, Unreserved, subterms, Stmt.subterms, Expr.optionalSubterms,
      Expr.subterms, Expr.bareName?, Expr.str, or_imp, forall_and, log, x, y]

end Loom.Module
