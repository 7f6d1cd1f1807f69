import Loom.Proofs.Source.ExprReader

/-!
# Reading lines

A line of source text is a simple statement or a clause that stands above others: a decorator, or
what opens a block. Its first word tells which. The line of every legible statement is read back,
with the surfaces of what stands in it.
-/

namespace Loom.Source

open Text (isIdentifier isIdentifierPart)

/-! ## Parts of lines -/

/-- Items with `sep` between them, up to `close`; there is at least one. -/
def readItems {β : Type} (read : List Char → Option (β × List Char)) (sep close cs : List Char) :
    Option (List β × List Char) := do
  let (item, after) ← read cs
  match after? close after with
  | some rest => some ([item], rest)
  | none => do
    let next ← after? sep after
    if next.length < cs.length then
      let (items, rest) ← readItems read sep close next
      some (item :: items, rest)
    else none
termination_by cs.length

/-- Items with commas between them, up to `close`. -/
def readList {β : Type} (read : List Char → Option (β × List Char)) (close cs : List Char) :
    Option (List β × List Char) :=
  match after? close cs with
  | some cs => some ([], cs)
  | none => readItems read [',', ' '] close cs

def readName (cs : List Char) : Option (String × List Char) := some (readWord cs)

def readParam (cs : List Char) : Option (Param × List Char) :=
  match (readWord cs).2 with
  | '=' :: rest => do
    let (default, rest) ← readExpr rest
    some (⟨(readWord cs).1, some default⟩, rest)
  | rest => some (⟨(readWord cs).1, none⟩, rest)

def readPath (cs : List Char) : String × List Char :=
  (String.ofList (cs.takeWhile isPathPart), cs.dropWhile isPathPart)

def readAlias (cs : List Char) : Option (Alias × List Char) :=
  match after? " as ".toList (readPath cs).2 with
  | some rest => some (⟨(readPath cs).1, some (readWord rest).1⟩, (readWord rest).2)
  | none => some (⟨(readPath cs).1, none⟩, (readPath cs).2)

/-! ## Lines -/

/-- What a line says: a simple statement, or what stands above a statement or a block. -/
inductive Clause where
  | simple (s : Stmt)
  | decorator (e : Expr)
  | function (name : String) (params : List Param)
  | cls (name : String) (bases : List Expr) (keywords : List (Keyword Expr))
  | ifTest (test : Expr)
  | forEach (target iter : Expr)
  | whileTest (test : Expr)

/-- The test of an `if` or a `while`. -/
def readTest (cs : List Char) : Option (Expr × List Char) := do
  let cs ← after? [' '] cs
  let (test, cs) ← readExpr cs
  let cs ← after? [':', '\n'] cs
  some (test, cs)

def readFunction (cs : List Char) : Option (Clause × List Char) := do
  let cs ← after? [' '] cs
  let (name, cs) := readWord cs
  let cs ← after? ['('] cs
  let (params, cs) ← readList readParam [')'] cs
  let cs ← after? [':', '\n'] cs
  some (.function name params, cs)

def readClass (cs : List Char) : Option (Clause × List Char) := do
  let cs ← after? [' '] cs
  let (name, cs) := readWord cs
  match cs with
  | '(' :: cs => do
    let (items, cs) ← readArguments [')'] cs
    let cs ← after? [':', '\n'] cs
    some (.cls name (items.filterMap Argument.positional?) (items.filterMap Argument.keyword?), cs)
  | _ => do
    let cs ← after? [':', '\n'] cs
    some (.cls name [] [], cs)

def readFor (cs : List Char) : Option (Clause × List Char) := do
  let cs ← after? [' '] cs
  let (target, cs) ← readOperand cs
  let cs ← after? " in ".toList cs
  let (iter, cs) ← readExpr cs
  let cs ← after? [':', '\n'] cs
  some (.forEach target iter, cs)

def readReturn (cs : List Char) : Option (Stmt × List Char) :=
  match cs with
  | ' ' :: cs => do
    let (value, cs) ← readExpr cs
    let cs ← after? ['\n'] cs
    some (.ret (some value), cs)
  | _ => do
    let cs ← after? ['\n'] cs
    some (.ret none, cs)

def readDelete (cs : List Char) : Option (Stmt × List Char) := do
  let cs ← after? [' '] cs
  match cs with
  | '\n' :: cs => some (.delete [], cs)
  | _ => do
    let (items, cs) ← readArguments ['\n'] cs
    some (.delete (items.filterMap Argument.positional?), cs)

def readImport (cs : List Char) : Option (Stmt × List Char) := do
  let cs ← after? [' '] cs
  let (names, cs) ← readList readAlias ['\n'] cs
  some (.importNames names, cs)

def readFrom (cs : List Char) : Option (Stmt × List Char) := do
  let cs ← after? [' '] cs
  let (module, cs) := readPath cs
  let cs ← after? " import ".toList cs
  let (names, cs) ← readList readAlias ['\n'] cs
  some (.importFrom module names, cs)

def readGlobal (cs : List Char) : Option (Stmt × List Char) := do
  let cs ← after? [' '] cs
  let (names, cs) ← readList readName ['\n'] cs
  some (.global names, cs)

/-- The last expression alone, or assigned to those before it. -/
def ofChain (es : List Expr) : Option Stmt :=
  es.getLast?.map fun value =>
    if es.dropLast.isEmpty then .expr value else .assign es.dropLast value

/-- An expression, or the targets of an assignment and its value. -/
def readAssignment (cs : List Char) : Option (Stmt × List Char) := do
  let (es, cs) ← readItems readExpr [' ', '=', ' '] ['\n'] cs
  (ofChain es).map fun s => (s, cs)

/-- A line by its first word; `rest` is what follows the word and `cs` the line with it. -/
def readWordClause (word : String) (rest cs : List Char) : Option (Clause × List Char) :=
  match word with
  | "def" => readFunction rest
  | "class" => readClass rest
  | "if" => (readTest rest).map fun (test, cs) => (.ifTest test, cs)
  | "for" => readFor rest
  | "while" => (readTest rest).map fun (test, cs) => (.whileTest test, cs)
  | "return" => (readReturn rest).map fun (s, cs) => (.simple s, cs)
  | "del" => (readDelete rest).map fun (s, cs) => (.simple s, cs)
  | "pass" => (after? ['\n'] rest).map fun cs => (.simple .pass, cs)
  | "import" => (readImport rest).map fun (s, cs) => (.simple s, cs)
  | "from" => (readFrom rest).map fun (s, cs) => (.simple s, cs)
  | "global" => (readGlobal rest).map fun (s, cs) => (.simple s, cs)
  | _ => (readAssignment cs).map fun (s, cs) => (.simple s, cs)

/-- A line whose indentation is read, with its end. -/
def readClause (cs : List Char) : Option (Clause × List Char) :=
  match cs with
  | '@' :: cs => do
    let (e, cs) ← readExpr cs
    let cs ← after? ['\n'] cs
    some (.decorator e, cs)
  | _ => readWordClause (readWord cs).1 (readWord cs).2 cs

/-! ## Parts of lines are read back -/

theorem readItems_eq_listStep {β : Type} (read : List Char → Option (β × List Char))
    (sep close cs : List Char) :
    readItems read sep close cs = listStep read sep close (readItems read sep close) cs := by
  rw [readItems]
  rfl

theorem after?_eq_none_of_head? {c : Char} {text cs : List Char} (h : cs.head? ≠ some c) :
    after? (c :: text) cs = none := by
  cases cs with
  | nil => rfl
  | cons d cs => exact if_neg fun same => h (by rw [same]; rfl)

theorem readList_commaList {α β : Type} {read : List Char → Option (β × List Char)} {close : Char}
    {text : α → String} {result : α → β} {items : List α} (apart : close ≠ ',')
    (first : ∀ a ∈ items, ∀ cs, ((text a).toList ++ cs).head? ≠ some close)
    (item : ∀ a ∈ items, ∀ c ∈ [',', close], ∀ cs,
      read ((text a).toList ++ c :: cs) = some (result a, c :: cs)) (rest : List Char) :
    readList read [close] ((Expr.commaList (items.map text)).toList ++ close :: rest) =
      some (items.map result, rest) := by
  rw [toList_commaList, readList]
  cases items with
  | nil => simp [after?]
  | cons a as =>
    have read := readsList (readItems_eq_listStep read [',', ' '] [close]) (by simp)
      (by simp [after?, apart]) text result rest a as
      (fun b hb cs => item b hb ',' (by simp) _)
      (fun b hb => item b hb close (by simp) _)
    have start : ∃ cs, [',', ' '].intercalate ((a :: as).map fun b => (text b).toList) ++
        close :: rest = (text a).toList ++ cs := by
      cases as with
      | nil => exact ⟨_, by rw [List.map_singleton, List.intercalate_singleton]⟩
      | cons b as => exact ⟨_, by
          rw [List.map_cons, List.map_cons, List.intercalate_cons_cons, List.append_assoc,
            List.append_assoc]⟩
    obtain ⟨cs, start⟩ := start
    rw [after?_eq_none_of_head? (start ▸ first a (List.mem_cons_self ..) cs)]
    exact read

theorem readParam_source {p : Param} (h : p.Legible) {c : Char} (hc : c ∈ [',', ')'])
    (cs : List Char) : readParam (p.source.toList ++ c :: cs) = some (p.surface, c :: cs) := by
  have all : ∀ c ∈ [',', ')'], isIdentifierPart c = false ∧ c ≠ '=' ∧ c ∈ terminators :=
    List.forall_iff_forall_mem.1 (by decide)
  obtain ⟨part, equals, mark⟩ := all c hc
  obtain ⟨name, default⟩ := p
  cases default with
  | none =>
    have word := readWord_identifier h.identifier (wordEnds_cons part cs)
    simp [Param.source, readParam, word, equals, Param.surface]
  | some e =>
    have word := readWord_identifier h.identifier
      (wordEnds_cons (c := '=') (by decide) (e.source.toList ++ c :: cs))
    have value := (readsBack (h.default e rfl)).expr _ (ends_cons mark cs)
    simp [Param.source, readParam, word, value, Param.surface]

theorem readPath_append {path : List Char} (parts : ∀ c ∈ path, isPathPart c = true) {c : Char}
    (h : isPathPart c = false) (cs : List Char) :
    readPath (path ++ c :: cs) = (String.ofList path, c :: cs) := by
  obtain ⟨taken, dropped⟩ := Text.takeWhile_dropWhile_append parts
    (by rintro _ ⟨⟩; exact h : ∀ d ∈ (c :: cs).head?, isPathPart d = false)
  rw [readPath, taken, dropped]

theorem isPathPart_blank : isPathPart ' ' = false := by decide

theorem readAlias_source {a : Alias} (h : a.Legible) {c : Char} (hc : c ∈ [',', '\n'])
    (cs : List Char) : readAlias (a.source.toList ++ c :: cs) = some (a.surface, c :: cs) := by
  have all : ∀ c ∈ [',', '\n'], isPathPart c = false ∧ isIdentifierPart c = false ∧ c ≠ ' ' :=
    List.forall_iff_forall_mem.1 (by decide)
  obtain ⟨path, part, blank⟩ := all c hc
  have plain : readAlias (a.name.toList ++ c :: cs) = some (⟨a.name, none⟩, c :: cs) := by
    simp [readAlias, readPath_append h.path path, after?, Ne.symm blank]
  obtain ⟨name, asName⟩ := a
  cases asName with
  | none => simpa [Alias.source, Alias.surface] using plain
  | some asName =>
    by_cases same : asName = name
    · simpa [Alias.source, Alias.surface, same, Option.filter_some] using plain
    · have word := readWord_identifier (h.asName asName rfl) (wordEnds_cons part cs)
      have path := readPath_append h.path (by decide : isPathPart ' ' = false)
        ('a' :: 's' :: ' ' :: (asName.toList ++ c :: cs))
      simp [Alias.source, Alias.surface, same, readAlias, path, after?, word, Option.filter_some]

/-! ## Lines are read back -/

section

attribute [local simp] readWordClause

theorem readClause_of_head? {cs : List Char} (h : cs.head? ≠ some '@') :
    readClause cs = readWordClause (readWord cs).1 (readWord cs).2 cs := by
  rw [readClause.eq_def]
  split <;> simp_all

/-- A line that starts with a keyword and goes on with a mark. -/
theorem readClause_keyword {word : String} (identifier : isIdentifier word = true) {c : Char}
    (h : isIdentifierPart c = false) (cs : List Char) :
    readClause (word.toList ++ c :: cs) =
      readWordClause word (c :: cs) (word.toList ++ c :: cs) := by
  have first : (word.toList ++ c :: cs).head? ≠ some '@' :=
    head?_append_ne (ne_nil_of_isIdentifier identifier)
      (fun _ => isIdentifierPart_of_mem identifier) (by decide)
  rw [readClause_of_head? first, readWord_identifier identifier (wordEnds_cons h cs)]

/-- A line that starts as an expression is an assignment or an expression. -/
theorem readClause_of_starts {cs : List Char} (h : Starts cs) :
    readClause cs = (readAssignment cs).map fun (s, cs) => (.simple s, cs) := by
  rw [readClause_of_head? (h.first '@' (by decide))]
  have word := h.word
  generalize (readWord cs).1 = w at word
  unfold readWordClause
  split
  iterate 11 exact absurd (word (by decide)) (by decide)
  rfl

theorem readClause_chain {e : Expr} {es : List Expr} (h : ∀ x ∈ e :: es, x.Legible)
    (rest : List Char) :
    readClause ([' ', '=', ' '].intercalate ((e :: es).map fun x => x.source.toList) ++
      '\n' :: rest) = (ofChain ((e :: es).map Expr.surface)).map fun s => (.simple s, rest) := by
  have start : Starts ([' ', '=', ' '].intercalate ((e :: es).map fun x => x.source.toList) ++
      '\n' :: rest) := by
    have legible := h e (List.mem_cons_self ..)
    cases es with
    | nil =>
      rw [List.map_singleton, List.intercalate_singleton]
      exact starts_source legible (delimits_cons (by decide) rest)
    | cons f es =>
      rw [List.map_cons, List.map_cons, List.intercalate_cons_cons, List.append_assoc,
        List.append_assoc]
      exact starts_source legible (delimits_cons (by decide) _)
  have items := readsList (readItems_eq_listStep readExpr [' ', '=', ' '] ['\n']) (by simp)
    (by simp [after?]) Expr.source Expr.surface rest e es
    (fun x hx cs => (readsBack (h x hx)).expr _ (ends_assign cs))
    (fun x hx => (readsBack (h x hx)).expr _ (ends_cons (by decide) rest))
  rw [List.singleton_append] at items
  rw [readClause_of_starts start, readAssignment, items]
  simp [Function.comp_def]

theorem ofChain_append {targets : List Expr} (nonempty : targets ≠ []) (value : Expr) :
    ofChain (targets ++ [value]) = some (.assign targets value) := by
  simp [ofChain, nonempty]

/-- The text of an assignment is the chain of its targets and its value. -/
theorem toList_simpleText_assign (targets : List Expr) (value : Expr) :
    (Stmt.assign targets value).simpleText.toList =
      [' ', '=', ' '].intercalate ((targets ++ [value]).map fun x => x.source.toList) := by
  rw [Stmt.simpleText, sources_eq_map]
  induction targets with
  | nil => simp
  | cons t ts ih =>
    simp only [List.map_cons, String.join_cons, String.toList_append, List.append_assoc,
      List.cons_append] at ih ⊢
    rw [ih, List.intercalate_cons_of_ne_nil (by simp)]
    simp

theorem readClause_assign {targets : List Expr} {value : Expr} (nonempty : targets ≠ [])
    (targets_legible : ∀ t ∈ targets, t.Legible) (value_legible : value.Legible)
    (rest : List Char) :
    readClause ((Stmt.assign targets value).simpleText.toList ++ '\n' :: rest) =
      some (.simple (Stmt.assign targets value).surface, rest) := by
  obtain ⟨t, ts, rfl⟩ := List.exists_cons_of_ne_nil nonempty
  have legible : ∀ x ∈ t :: (ts ++ [value]), x.Legible := by
    rw [← List.cons_append]
    exact List.forall_mem_append.2 ⟨targets_legible, by simpa using value_legible⟩
  rw [toList_simpleText_assign, List.cons_append, readClause_chain legible, ← List.cons_append,
    List.map_append, List.map_singleton, ofChain_append (by simp)]
  rfl

theorem readClause_expr {e : Expr} (h : e.Legible) (rest : List Char) :
    readClause ((Stmt.expr e).simpleText.toList ++ '\n' :: rest) =
      some (.simple (Stmt.expr e).surface, rest) := by
  have legible : ∀ x ∈ [e], x.Legible := by simpa using h
  simpa [Stmt.simpleText, ofChain, Stmt.surface] using readClause_chain legible rest

theorem readClause_ret {value : Option Expr} (h : ∀ e ∈ value, e.Legible) (rest : List Char) :
    readClause ((Stmt.ret value).simpleText.toList ++ '\n' :: rest) =
      some (.simple (Stmt.ret value).surface, rest) := by
  cases value with
  | none => exact readClause_keyword (by decide : isIdentifier "return" = true) (by decide) rest
  | some e =>
    have text : (Stmt.ret (some e)).simpleText.toList ++ '\n' :: rest =
        "return".toList ++ ' ' :: (e.source.toList ++ '\n' :: rest) := by simp [Stmt.simpleText]
    have value := (readsBack (h e rfl)).expr _ (ends_cons (c := '\n') (by decide) rest)
    rw [text, readClause_keyword (by decide) (by decide)]
    simp [readReturn, value, after?, Stmt.surface]

theorem readClause_delete {targets : List Expr} (h : ∀ t ∈ targets, t.Legible)
    (rest : List Char) :
    readClause ((Stmt.delete targets).simpleText.toList ++ '\n' :: rest) =
      some (.simple (Stmt.delete targets).surface, rest) := by
  have text : (Stmt.delete targets).simpleText.toList ++ '\n' :: rest =
      "del".toList ++ ' ' :: argumentsText (arguments targets []) '\n' rest := by
    simp [Stmt.simpleText, sources_eq_map_arguments, toList_commaList, argumentsText]
  rw [text, readClause_keyword (by decide) (by decide)]
  by_cases empty : arguments targets [] = []
  · obtain rfl : targets = [] := by simpa [arguments] using empty
    simp [readDelete, after?, argumentsText, arguments, Stmt.surface]
  · obtain ⟨first, read⟩ := readArguments_argumentsText empty
      (readsBack_items h fun t ht => readsBack (h t ht)) (by decide : '\n' ∈ _) rest
    generalize argumentsText (arguments targets []) '\n' rest = cs at first read
    have delete : readDelete (' ' :: cs) =
        some (.delete (targets.map Expr.surface), rest) := by
      simp only [readDelete, after?, if_true, Option.bind_eq_bind, Option.bind_some]
      split
      · simp at first
      · simp [read, map_surface_arguments]
    simp [delete, Stmt.surface]

theorem readClause_pass (rest : List Char) :
    readClause (Stmt.pass.simpleText.toList ++ '\n' :: rest) =
      some (.simple Stmt.pass.surface, rest) := by
  exact readClause_keyword (by decide : isIdentifier "pass" = true) (by decide) rest

theorem readList_aliases {names : List Alias} (h : ∀ a ∈ names, a.Legible) (rest : List Char) :
    readList readAlias ['\n'] ((Expr.commaList (names.map Alias.source)).toList ++ '\n' :: rest) =
      some (names.map Alias.surface, rest) := by
  refine readList_commaList (by decide) (fun a ha cs => ?_)
    (fun a ha c hc cs => readAlias_source (h a ha) hc cs) rest
  have start : ∃ tail, a.source.toList = a.name.toList ++ tail := by
    unfold Alias.source
    split
    · split
      · exact ⟨[], by simp⟩
      · exact ⟨_, by rw [String.toList_append, String.toList_append, List.append_assoc]⟩
    · exact ⟨[], by simp⟩
  obtain ⟨tail, start⟩ := start
  rw [start, List.append_assoc]
  exact head?_append_ne (h a ha).nonempty (h a ha).path (by decide)

theorem readClause_importNames {names : List Alias} (h : ∀ a ∈ names, a.Legible)
    (rest : List Char) :
    readClause ((Stmt.importNames names).simpleText.toList ++ '\n' :: rest) =
      some (.simple (Stmt.importNames names).surface, rest) := by
  have text : (Stmt.importNames names).simpleText.toList ++ '\n' :: rest = "import".toList ++
      ' ' :: ((Expr.commaList (names.map Alias.source)).toList ++ '\n' :: rest) := by
    simp [Stmt.simpleText]
  rw [text, readClause_keyword (by decide) (by decide)]
  simp [readImport, after?, readList_aliases h, Stmt.surface]

theorem readClause_importFrom {module : String} {names : List Alias}
    (path : ∀ c ∈ module.toList, isPathPart c = true) (h : ∀ a ∈ names, a.Legible)
    (rest : List Char) :
    readClause ((Stmt.importFrom module names).simpleText.toList ++ '\n' :: rest) =
      some (.simple (Stmt.importFrom module names).surface, rest) := by
  have text : (Stmt.importFrom module names).simpleText.toList ++ '\n' :: rest = "from".toList ++
      ' ' :: (module.toList ++ ' ' :: 'i' :: 'm' :: 'p' :: 'o' :: 'r' :: 't' :: ' ' ::
        ((Expr.commaList (names.map Alias.source)).toList ++ '\n' :: rest)) := by
    simp [Stmt.simpleText]
  rw [text, readClause_keyword (by decide) (by decide)]
  simp [readFrom, after?, readPath_append path, isPathPart_blank,
    readList_aliases h, Stmt.surface]

theorem readClause_global {names : List String} (h : ∀ n ∈ names, isIdentifier n = true)
    (rest : List Char) :
    readClause ((Stmt.global names).simpleText.toList ++ '\n' :: rest) =
      some (.simple (Stmt.global names).surface, rest) := by
  have text : (Stmt.global names).simpleText.toList ++ '\n' :: rest =
      "global".toList ++ ' ' :: ((Expr.commaList (names.map id)).toList ++ '\n' :: rest) := by
    simp [Stmt.simpleText]
  have all : ∀ c ∈ [',', '\n'], isIdentifierPart c = false :=
    List.forall_iff_forall_mem.1 (by decide)
  have list : readList readName ['\n'] ((Expr.commaList (names.map id)).toList ++ '\n' :: rest) =
      some (names.map id, rest) :=
    readList_commaList (by decide)
      (fun n hn cs => head?_append_ne (ne_nil_of_isIdentifier (h n hn))
        (fun _ => isIdentifierPart_of_mem (h n hn)) (by decide))
      (fun n hn c hc cs => congrArg some
        (readWord_identifier (h n hn) (wordEnds_cons (all c hc) cs))) rest
  rw [text, readClause_keyword (by decide) (by decide)]
  simp only [List.map_id] at list
  simp [readGlobal, after?, list, Stmt.surface]

theorem readClause_decorator {d : Expr} (h : d.Legible) (rest : List Char) :
    readClause ('@' :: (d.source.toList ++ '\n' :: rest)) = some (.decorator d.surface, rest) := by
  have value := (readsBack h).expr _ (ends_cons (c := '\n') (by decide) rest)
  simp [readClause, value, after?]

theorem readClause_function {f : Function} (identifier : isIdentifier f.name = true)
    (params : ∀ p ∈ f.params, p.Legible) (rest : List Char) :
    readClause (f.header.toList ++ '\n' :: rest) =
      some (.function f.name (f.params.map Param.surface), rest) := by
  have text : f.header.toList ++ '\n' :: rest =
      "def".toList ++ ' ' :: (f.name.toList ++ '(' ::
        ((Expr.commaList (f.params.map Param.source)).toList ++ ')' :: ':' :: '\n' :: rest)) := by
    simp [FunctionDef.header]
  have start : ∀ p : Param, ∃ tail, p.source.toList = p.name.toList ++ tail := by
    intro p
    unfold Param.source
    split
    · exact ⟨_, by rw [String.toList_append, String.toList_append, List.append_assoc]⟩
    · exact ⟨[], by simp⟩
  have list := readList_commaList (by decide) (fun p hp cs => by
      obtain ⟨tail, start⟩ := start p
      rw [start, List.append_assoc]
      exact head?_append_ne (ne_nil_of_isIdentifier (params p hp).identifier)
        (fun _ => isIdentifierPart_of_mem (params p hp).identifier) (by decide))
    (fun p hp c hc cs => readParam_source (params p hp) hc cs) (':' :: '\n' :: rest)
  have name := readWord_identifier identifier
    (wordEnds_cons (c := '(') (by decide) ((Expr.commaList (f.params.map Param.source)).toList ++
      ')' :: ':' :: '\n' :: rest))
  rw [text, readClause_keyword (by decide) (by decide)]
  simp [readFunction, after?, name, list]

theorem readClause_class {c : Class} (identifier : isIdentifier c.name = true)
    (bases : ∀ b ∈ c.bases, b.Legible) (identifiers : ∀ k ∈ c.keywords, isIdentifier k.arg = true)
    (values : ∀ k ∈ c.keywords, k.value.Legible) (rest : List Char) :
    readClause (c.header.toList ++ '\n' :: rest) =
      some (.cls c.name (c.bases.map Expr.surface)
        (c.keywords.map fun k => ⟨k.arg, k.value.surface⟩), rest) := by
  have items := readsBack_arguments bases (fun b hb => readsBack (bases b hb)) identifiers
    (fun k hk => readsBack (values k hk))
  by_cases empty : arguments c.bases c.keywords = []
  · obtain ⟨noBases, noKeywords⟩ : c.bases = [] ∧ c.keywords = [] := by
      simpa [arguments] using empty
    have text : c.header.toList ++ '\n' :: rest =
        "class".toList ++ ' ' :: (c.name.toList ++ ':' :: '\n' :: rest) := by
      simp [ClassDef.header, noBases, noKeywords, Expr.sources, Expr.keywordSources]
    have name := readWord_identifier identifier
      (wordEnds_cons (c := ':') (by decide) ('\n' :: rest))
    rw [text, readClause_keyword (by decide) (by decide)]
    simp [readClass, after?, name, noBases, noKeywords]
  · have text : c.header.toList ++ '\n' :: rest = "class".toList ++ ' ' :: (c.name.toList ++
        '(' :: argumentsText (arguments c.bases c.keywords) ')' (':' :: '\n' :: rest)) := by
      simp [ClassDef.header, sources_append_keywordSources, empty, toList_commaList, argumentsText]
    have read := (readArguments_argumentsText empty items (by decide : ')' ∈ _)
      (':' :: '\n' :: rest)).2
    have name := readWord_identifier identifier (wordEnds_cons (c := '(') (by decide)
      (argumentsText (arguments c.bases c.keywords) ')' (':' :: '\n' :: rest)))
    rw [text, readClause_keyword (by decide) (by decide)]
    simp [readClass, after?, name, read, map_surface_arguments]

theorem readTest_source {test : Expr} (h : test.Legible) (rest : List Char) :
    readTest (' ' :: (test.source.toList ++ ':' :: '\n' :: rest)) = some (test.surface, rest) := by
  have value := (readsBack h).expr _ (ends_cons (c := ':') (by decide) ('\n' :: rest))
  simp [readTest, after?, value]

theorem readClause_if {test : Expr} (h : test.Legible) (rest : List Char) :
    readClause (("if " ++ test.source ++ ":").toList ++ '\n' :: rest) =
      some (.ifTest test.surface, rest) := by
  have text : ("if " ++ test.source ++ ":").toList ++ '\n' :: rest =
      "if".toList ++ ' ' :: (test.source.toList ++ ':' :: '\n' :: rest) := by simp
  rw [text, readClause_keyword (by decide) (by decide)]
  simp [readTest_source h]

theorem readClause_while {test : Expr} (h : test.Legible) (rest : List Char) :
    readClause (("while " ++ test.source ++ ":").toList ++ '\n' :: rest) =
      some (.whileTest test.surface, rest) := by
  have text : ("while " ++ test.source ++ ":").toList ++ '\n' :: rest =
      "while".toList ++ ' ' :: (test.source.toList ++ ':' :: '\n' :: rest) := by simp
  rw [text, readClause_keyword (by decide) (by decide)]
  simp [readTest_source h]

/-- The target of a loop is an operand, so the `in` after it is not taken for an operator. -/
theorem readClause_for {target iter : Expr} (target_legible : target.Legible)
    (operand : target.isOperation = false) (iter_legible : iter.Legible) (rest : List Char) :
    readClause (("for " ++ target.source ++ " in " ++ iter.source ++ ":").toList ++ '\n' :: rest) =
      some (.forEach target.surface iter.surface, rest) := by
  have text : ("for " ++ target.source ++ " in " ++ iter.source ++ ":").toList ++ '\n' :: rest =
      "for".toList ++ ' ' :: (operandText target ++ ' ' :: 'i' :: 'n' :: ' ' ::
        (iter.source.toList ++ ':' :: '\n' :: rest)) := by
    simp [operandText_of_not_isOperation operand]
  have first := (readsBack target_legible).operand _ (wordEnds_cons (c := ' ') (by decide)
    ('i' :: 'n' :: ' ' :: (iter.source.toList ++ ':' :: '\n' :: rest)))
  rw [readTrailers_of_noTrailer _ (by rintro _ ⟨⟩; decide)] at first
  have second := (readsBack iter_legible).expr _ (ends_cons (c := ':') (by decide) ('\n' :: rest))
  rw [text, readClause_keyword (by decide) (by decide)]
  simp [readFor, after?, first, second]

end

end Loom.Source
