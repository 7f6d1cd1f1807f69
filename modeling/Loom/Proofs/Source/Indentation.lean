import Loom.Proofs.Number.Numeral
import Loom.Proofs.Path
import Loom.Proofs.Source.ExprReader

/-!
# Lines and indentation

The source text of a checked statement is a sequence of lines: no name, constant or path in it holds
a line break, and every line starts with a visible character after its blanks. A statement that is
written deeper is the same text with more blanks before each line, and a statement that stands in a
block `d` levels down puts its own lines there with four blanks for each of the `d` levels.
-/

namespace Loom

open Text (isIdentifier segments)
open Number (Numeral)

/-! ## Texts for a line -/

/-- A text that may stand on a line: it starts with a visible character and holds no line break. -/
structure IsLine (text : String) : Prop where
  unbroken : '\n' ∉ text.toList
  starts : (text.toList.head?.any fun c => !c.isWhitespace) = true

namespace IsLine

theorem iff_and {text : String} :
    IsLine text ↔
      '\n' ∉ text.toList ∧ (text.toList.head?.any fun c => !c.isWhitespace) = true :=
  ⟨fun h => ⟨h.1, h.2⟩, fun h => ⟨h.1, h.2⟩⟩

instance (text : String) : Decidable (IsLine text) := decidable_of_iff' _ iff_and

theorem append {first rest : String} (h : IsLine first) (unbroken : '\n' ∉ rest.toList) :
    IsLine (first ++ rest) := by
  refine ⟨by simp [h.unbroken, unbroken], ?_⟩
  have starts := h.starts
  rw [String.toList_append]
  cases chars : first.toList with
  | nil => simp [chars] at starts
  | cons c cs => simpa [chars] using starts

theorem append_append {first middle rest : String} (h : IsLine first)
    (unbroken : '\n' ∉ middle.toList) (unbroken' : '\n' ∉ rest.toList) :
    IsLine (first ++ middle ++ rest) :=
  (h.append unbroken).append unbroken'

/-- A text without white space. -/
theorem of_visible {text : String} (nonempty : text.toList ≠ [])
    (visible : ∀ c ∈ text.toList, c.isWhitespace = false) : IsLine text := by
  refine ⟨fun broken => absurd (visible _ broken) (by decide), ?_⟩
  cases chars : text.toList with
  | nil => exact absurd chars nonempty
  | cons c cs => simp [visible c (by simp [chars])]

end IsLine

/-- A character that passes a test which no white space passes. -/
theorem not_isWhitespace_of_test {p : Char → Bool} {c : Char} (h : p c = true)
    (white : (p ' ' || p '\t' || p '\r' || p '\n') = false) : c.isWhitespace = false := by
  simp only [Bool.or_eq_false_iff] at white
  obtain ⟨⟨⟨space, tab⟩, ret⟩, line⟩ := white
  simp only [Char.isWhitespace, Bool.or_eq_false_iff, decide_eq_false_iff_not]
  refine ⟨⟨⟨?_, ?_⟩, ?_⟩, ?_⟩ <;> rintro rfl <;> simp_all

theorem not_isWhitespace_of_isPathPart {c : Char} (h : isPathPart c = true) :
    c.isWhitespace = false :=
  not_isWhitespace_of_test h (by decide)

theorem unbroken_of_isPathPart {text : String} (h : ∀ c ∈ text.toList, isPathPart c = true) :
    '\n' ∉ text.toList :=
  fun broken => absurd (not_isWhitespace_of_isPathPart (h _ broken)) (by decide)

theorem IsLine.of_isIdentifier {name : String} (h : isIdentifier name = true) : IsLine name :=
  .of_visible (ne_nil_of_isIdentifier h) fun c hc =>
    not_isWhitespace_of_isPathPart (isPathPart_of_isIdentifier h c hc)

theorem unbroken_commaList {texts : List String} (h : ∀ t ∈ texts, '\n' ∉ t.toList) :
    '\n' ∉ (Expr.commaList texts).toList := by
  rw [Expr.commaList]
  induction texts with
  | nil => simp
  | cons t texts ih =>
    obtain ⟨first, others⟩ := List.forall_mem_cons.1 h
    cases texts with
    | nil => simpa using first
    | cons u texts =>
      rw [String.intercalate_cons_cons, String.toList_append, String.toList_append,
        List.mem_append, List.mem_append]
      rintro ((broken | broken) | broken)
      · exact first broken
      · simp at broken
      · exact ih others broken

/-! ## Constants and expressions -/

theorem unbroken_escapeChar (c : Char) : '\n' ∉ escapeChar c := by
  unfold escapeChar
  split <;> simp_all [eq_comm]

theorem Number.Numeral.IsSpelled.isLine_text {n : Numeral} (h : n.IsSpelled) : IsLine n.text := by
  refine .of_visible (fun empty => h.text_ne_empty (String.toList_eq_nil_iff.1 empty))
    fun c hc => ?_
  obtain digit | mark := h.of_mem_text hc
  · exact not_isWhitespace_of_test digit (by decide)
  · simp only [List.mem_cons, List.not_mem_nil, or_false] at mark
    obtain rfl | rfl | rfl := mark <;> rfl

theorem Constant.isLine_source (c : Constant) : IsLine c.source := by
  cases c with
  | none => decide
  | bool value => cases value <;> decide
  | int i => exact (Numeral.isSpelled_ofInt i).isLine_text
  | float x => exact (Numeral.isSpelled_ofBinary64 sourceLayout x).isLine_text
  | str s =>
    have escaped : '\n' ∉ (String.ofList (s.toList.flatMap escapeChar)).toList := by
      simp [unbroken_escapeChar]
    exact .append_append (by decide) escaped (by decide)

theorem CmpOp.unbroken_symbol (op : CmpOp) : '\n' ∉ op.symbol.toList := by
  cases op <;> decide

theorem BinOp.unbroken_symbol (op : BinOp) : '\n' ∉ op.symbol.toList := by
  cases op <;> decide

namespace Expr

theorem isLine_operand (e : Expr) {text : String} (h : IsLine text) : IsLine (operand e text) := by
  rw [operand]
  split
  · exact .append_append (by decide) h.unbroken (by decide)
  · exact h

theorem isLine_operation {left right : Expr} {symbol : String} (hleft : IsLine left.source)
    (unbroken : '\n' ∉ symbol.toList) (hright : IsLine right.source) :
    IsLine (operand left left.source ++ " " ++ symbol ++ " " ++ operand right right.source) :=
  ((isLine_operand left hleft).append_append (by decide) unbroken).append_append (by decide)
    (isLine_operand right hright).unbroken

mutual
theorem isLine_source : ∀ e : Expr, e.check = .ok () → IsLine e.source
  | .name id, checked => by
    rw [source]
    exact .of_isIdentifier (check_name.1 checked)
  | .attribute value attr, checked => by
    obtain ⟨identifier, checked⟩ := check_attribute.1 checked
    rw [source]
    exact (isLine_operand value (isLine_source value checked)).append_append (by decide)
      (IsLine.of_isIdentifier identifier).unbroken
  | .call func args keywords, checked => by
    obtain ⟨hfunc, hargs, hkeywords⟩ := check_call.1 checked
    rw [source]
    have func_line := isLine_operand func (isLine_source func hfunc)
    have list_unbroken : '\n' ∉ (commaList (sources args ++ keywordSources keywords)).toList :=
      unbroken_commaList (List.forall_mem_append.2
        ⟨unbroken_sources args hargs, unbroken_keywordSources keywords hkeywords⟩)
    exact (func_line.append_append (by decide) list_unbroken).append (by decide)
  | .constant c, _ => by
    rw [source]
    exact c.isLine_source
  | .tuple [], _ => by
    rw [source]
    · decide
    · nofun
  | .tuple [item], checked => by
    have item_line := isLine_source item (check_tuple.1 checked item List.mem_cons_self)
    rw [source]
    exact .append_append (by decide) item_line.unbroken (by decide)
  | .tuple (first :: second :: items), checked => by
    have list_unbroken := unbroken_commaList
      (unbroken_sources (first :: second :: items) (check_tuple.1 checked))
    rw [source]
    · exact .append_append (by decide) list_unbroken (by decide)
    · nofun
  | .list items, checked => by
    have list_unbroken := unbroken_commaList (unbroken_sources items (check_list.1 checked))
    rw [source]
    exact .append_append (by decide) list_unbroken (by decide)
  | .compare left op right, checked => by
    obtain ⟨hleft, hright⟩ := check_compare.1 checked
    rw [source]
    exact isLine_operation (isLine_source left hleft) op.unbroken_symbol (isLine_source right hright)
  | .binOp left op right, checked => by
    obtain ⟨hleft, hright⟩ := check_binOp.1 checked
    rw [source]
    exact isLine_operation (isLine_source left hleft) op.unbroken_symbol (isLine_source right hright)
  | .woven w, checked => by
    obtain ⟨shortName, declName⟩ := check_woven.1 checked
    rw [source]
    exact (IsLine.of_isIdentifier shortName).append_append (by decide)
      (IsLine.of_isIdentifier declName).unbroken

theorem unbroken_sources : ∀ es : List Expr, (∀ e ∈ es, e.check = .ok ()) →
    ∀ t ∈ sources es, '\n' ∉ t.toList
  | [], _ => nofun
  | e :: es, checked => by
    obtain ⟨first, others⟩ := List.forall_mem_cons.1 checked
    rw [sources]
    exact List.forall_mem_cons.2 ⟨(isLine_source e first).unbroken, unbroken_sources es others⟩

theorem unbroken_keywordSources : ∀ ks : List (Keyword Expr),
    (∀ k ∈ ks, isIdentifier k.arg = true ∧ k.value.check = .ok ()) →
      ∀ t ∈ keywordSources ks, '\n' ∉ t.toList
  | [], _ => nofun
  | ⟨arg, value⟩ :: ks, checked => by
    obtain ⟨⟨identifier, hvalue⟩, others⟩ := List.forall_mem_cons.1 checked
    have arg_line : IsLine arg := .of_isIdentifier identifier
    rw [keywordSources]
    refine List.forall_mem_cons.2 ⟨?_, unbroken_keywordSources ks others⟩
    exact (arg_line.append_append (by decide) (isLine_source value hvalue).unbroken).unbroken
end

theorem unbroken_sources_of_checkTarget {es : List Expr} (h : ∀ e ∈ es, e.checkTarget = .ok ()) :
    ∀ t ∈ sources es, '\n' ∉ t.toList :=
  unbroken_sources es (check_of_checkTargets es h)

end Expr

/-! ## Parts of statements -/

theorem Param.unbroken_source {p : Param} (h : p.check = .ok ()) : '\n' ∉ p.source.toList := by
  obtain ⟨name, default⟩ := p
  obtain ⟨identifier, checked⟩ := Param.check_eq_ok.1 h
  have name_line : IsLine name := .of_isIdentifier identifier
  cases default with
  | none => exact name_line.unbroken
  | some e =>
    have default_line := e.isLine_source (checked e rfl)
    exact (name_line.append_append (by decide) default_line.unbroken).unbroken

theorem Alias.Legible.unbroken_source {a : Alias} (h : a.Legible) : '\n' ∉ a.source.toList := by
  have name_unbroken := unbroken_of_isPathPart h.path
  rw [Alias.source]
  split
  · next other eq =>
    split
    · exact name_unbroken
    · have other_unbroken := (IsLine.of_isIdentifier (h.asName other eq)).unbroken
      simp [name_unbroken, other_unbroken]
  · exact name_unbroken

theorem unbroken_aliases {names : List Alias} (h : ∀ a ∈ names, a.Legible) :
    '\n' ∉ (Expr.commaList (names.map Alias.source)).toList :=
  unbroken_commaList (List.forall_mem_map.2 fun a ha => (h a ha).unbroken_source)

theorem FunctionDef.isLine_header {f : Function} (identifier : isIdentifier f.name = true)
    (params : ∀ p ∈ f.params, p.check = .ok ()) : IsLine f.header := by
  have word : IsLine "def " := by decide
  have params_unbroken : '\n' ∉ (Expr.commaList (f.params.map Param.source)).toList :=
    unbroken_commaList (List.forall_mem_map.2 fun p hp => Param.unbroken_source (params p hp))
  exact (((word.append (IsLine.of_isIdentifier identifier).unbroken).append (by decide)).append
    params_unbroken).append (by decide)

theorem ClassDef.isLine_header {c : Class} (identifier : isIdentifier c.name = true)
    (bases : ∀ e ∈ c.bases, e.check = .ok ())
    (keywords : ∀ k ∈ c.keywords, isIdentifier k.arg = true ∧ k.value.check = .ok ()) :
    IsLine c.header := by
  have word : IsLine "class " := by decide
  have named := word.append (IsLine.of_isIdentifier identifier).unbroken
  have args_unbroken := unbroken_commaList (List.forall_mem_append.2
    ⟨Expr.unbroken_sources c.bases bases, Expr.unbroken_keywordSources c.keywords keywords⟩)
  unfold ClassDef.header
  dsimp only
  split
  · exact named.append (by decide)
  · exact ((named.append (by decide)).append args_unbroken).append (by decide)

/-! ## Statements -/

namespace Stmt

/-- The texts that a statement puts on lines of its own: all but those of its blocks. -/
def ownTexts : Stmt → List String
  | .functionDef f => f.decorators.map (fun d => "@" ++ d.source) ++ [f.header]
  | .classDef c => c.decorators.map (fun d => "@" ++ d.source) ++ [c.header]
  | .ifElse test _ orelse =>
    ("if " ++ test.source ++ ":") :: if orelse.isEmpty then [] else ["else:"]
  | .forLoop target iter _ => ["for " ++ target.source ++ " in " ++ iter.source ++ ":"]
  | .whileLoop test _ => ["while " ++ test.source ++ ":"]
  | s => [s.simpleText]

theorem isLine_decorators {decorators : List Expr} (h : ∀ e ∈ decorators, e.check = .ok ()) :
    ∀ text ∈ decorators.map (fun d => "@" ++ d.source), IsLine text := by
  have mark : IsLine "@" := by decide
  exact List.forall_mem_map.2 fun d hd => mark.append (d.isLine_source (h d hd)).unbroken

theorem isLine_assign {targets : List Expr} {value : Expr}
    (checked_targets : ∀ e ∈ targets, e.check = .ok ()) (checked : value.check = .ok ()) :
    IsLine (Stmt.assign targets value).simpleText := by
  rw [simpleText, Source.sources_eq_map]
  induction targets with
  | nil => simpa [String.join] using value.isLine_source checked
  | cons target targets ih =>
    obtain ⟨first, others⟩ := List.forall_mem_cons.1 checked_targets
    have target_line := target.isLine_source first
    rw [List.map_cons, List.map_cons, String.join_cons, String.append_assoc]
    exact (target_line.append (by decide)).append (ih others).unbroken

theorem isLine_of_mem_ownTexts {s : Stmt} (checked : s.check = .ok ()) :
    ∀ text ∈ s.ownTexts, IsLine text := by
  cases s with
  | functionDef f =>
    obtain ⟨identifier, params, decorators, -⟩ := check_functionDef.1 checked
    exact List.forall_mem_append.2 ⟨isLine_decorators decorators,
      List.forall_mem_singleton.2 (FunctionDef.isLine_header identifier params)⟩
  | classDef c =>
    obtain ⟨identifier, bases, decorators, keywords, -⟩ := check_classDef.1 checked
    exact List.forall_mem_append.2 ⟨isLine_decorators decorators,
      List.forall_mem_singleton.2 (ClassDef.isLine_header identifier bases keywords)⟩
  | assign targets value =>
    obtain ⟨-, htargets, hvalue⟩ := check_assign.1 checked
    have checked_targets := Expr.check_of_checkTargets targets htargets
    exact List.forall_mem_singleton.2 (isLine_assign checked_targets hvalue)
  | expr e => exact List.forall_mem_singleton.2 (e.isLine_source (check_expr.1 checked))
  | ret value =>
    have word : IsLine "return" := by decide
    refine List.forall_mem_singleton.2 ?_
    cases value with
    | none => exact word
    | some e =>
      have value_line := e.isLine_source (check_ret.1 checked e rfl)
      have start : IsLine "return " := by decide
      exact start.append value_line.unbroken
  | delete targets =>
    have word : IsLine "del " := by decide
    exact List.forall_mem_singleton.2 (word.append (unbroken_commaList
      (Expr.unbroken_sources_of_checkTarget (check_delete.1 checked))))
  | pass => exact List.forall_mem_singleton.2 (by decide)
  | importNames names =>
    have word : IsLine "import " := by decide
    exact List.forall_mem_singleton.2 (word.append (unbroken_aliases fun a ha =>
      Alias.legible_of_checkModule (check_importNames.1 checked a ha)))
  | importFrom module names =>
    have checked := check_importFrom.1 checked
    have word : IsLine "from " := by decide
    have module_unbroken := unbroken_of_isPathPart (isPathPart_of_checkImportFrom checked)
    exact List.forall_mem_singleton.2 (((word.append module_unbroken).append (by decide)).append
      (unbroken_aliases fun a ha =>
        Alias.legible_of_checkMember ((checkImportFrom_eq_ok.1 checked).2.2 a ha)))
  | ifElse test body orelse =>
    have word : IsLine "if " := by decide
    have test_line := test.isLine_source (check_ifElse.1 checked).1
    refine List.forall_mem_cons.2 ⟨(word.append test_line.unbroken).append (by decide), ?_⟩
    split
    · nofun
    · exact List.forall_mem_singleton.2 (by decide)
  | forLoop target iter body =>
    obtain ⟨htarget, hiter, -⟩ := check_forLoop.1 checked
    have word : IsLine "for " := by decide
    have target_line := target.isLine_source (Expr.check_of_checkTarget target htarget)
    have iter_line := iter.isLine_source hiter
    exact List.forall_mem_singleton.2 ((((word.append target_line.unbroken).append
      (by decide)).append iter_line.unbroken).append (by decide))
  | whileLoop test body =>
    have word : IsLine "while " := by decide
    have test_line := test.isLine_source (check_whileLoop.1 checked).1
    exact List.forall_mem_singleton.2 ((word.append test_line.unbroken).append (by decide))
  | global names =>
    have word : IsLine "global " := by decide
    exact List.forall_mem_singleton.2 (word.append (unbroken_commaList fun n hn =>
      (IsLine.of_isIdentifier (check_global.1 checked n hn)).unbroken))

theorem check_of_mem_blocks {s t : Stmt} (checked : s.check = .ok ()) (h : t ∈ s.blocks) :
    t.check = .ok () := by
  cases s with
  | functionDef f => exact (check_functionDef.1 checked).2.2.2.2 t h
  | classDef c => exact (check_classDef.1 checked).2.2.2.2.2 t h
  | ifElse test body orelse =>
    obtain ⟨-, -, hbody, horelse⟩ := check_ifElse.1 checked
    exact (List.mem_append.1 h).elim (hbody t) (horelse t)
  | forLoop target iter body => exact (check_forLoop.1 checked).2.2.2 t h
  | whileLoop test body => exact (check_whileLoop.1 checked).2.2 t h
  | assign | expr | ret | delete | pass | importNames | importFrom | global => cases h

/-- `t` is a statement of a block that is nested `d` levels deep in `s`; at level 0 is `s`. -/
inductive Inside : Nat → Stmt → Stmt → Prop where
  | self (s : Stmt) : Inside 0 s s
  | block {d : Nat} {s t u : Stmt} (mem : t ∈ s.blocks) (inside : Inside d t u) :
    Inside (d + 1) s u

theorem Inside.check {d : Nat} {s t : Stmt} (h : Inside d s t) (checked : s.check = .ok ()) :
    t.check = .ok () := by
  induction h with
  | self => exact checked
  | block mem _ ih => exact ih (check_of_mem_blocks checked mem)

/-! ## Lines of a statement -/

theorem suite_of_ne_nil {body : List Stmt} (nonempty : body ≠ []) (depth : Nat) :
    suite depth body = blockLines depth body := by
  cases body with
  | nil => exact absurd rfl nonempty
  | cons s rest => rw [suite, blockLines]

theorem blockLines_eq_flatMap (depth : Nat) (body : List Stmt) :
    blockLines depth body = body.flatMap (lines depth) := by
  induction body with
  | nil => rw [blockLines, List.flatMap_nil]
  | cons s rest ih => rw [blockLines, ih, List.flatMap_cons]

theorem mem_suite {body : List Stmt} (nonempty : body ≠ []) {depth : Nat} {l : Line} :
    l ∈ suite depth body ↔ ∃ t ∈ body, l ∈ t.lines depth := by
  rw [suite_of_ne_nil nonempty, blockLines_eq_flatMap, List.mem_flatMap]

theorem eq_line_iff {l : Line} {depth : Nat} {text : String} :
    l = ⟨depth, text⟩ ↔ l.depth = depth ∧ l.text = text := by
  cases l
  rw [Line.mk.injEq]

theorem mem_decoratorLines {l : Line} {depth : Nat} {decorators : List Expr} :
    l ∈ decoratorLines depth decorators ↔
      l.depth = depth ∧ l.text ∈ decorators.map fun d => "@" ++ d.source := by
  simp only [decoratorLines, List.mem_map, eq_comm (b := l), eq_line_iff]
  constructor
  · rintro ⟨d, hd, rfl, eq⟩
    exact ⟨rfl, d, hd, eq.symm⟩
  · rintro ⟨rfl, d, hd, eq⟩
    exact ⟨d, hd, rfl, eq.symm⟩

/-- The lines of a statement are its own at its depth and those of its blocks one level deeper. -/
theorem mem_lines_step {s : Stmt} (checked : s.check = .ok ()) {depth : Nat} {l : Line} :
    l ∈ s.lines depth ↔
      (l.depth = depth ∧ l.text ∈ s.ownTexts) ∨ ∃ t ∈ s.blocks, l ∈ t.lines (depth + 1) := by
  cases s with
  | functionDef f =>
    obtain ⟨-, -, -, nonempty, -⟩ := check_functionDef.1 checked
    obtain ⟨name, params, decorators, body⟩ := f
    simp only [lines, ownTexts, blocks, List.mem_append, List.mem_cons, List.not_mem_nil, or_false,
      mem_decoratorLines, mem_suite nonempty, eq_line_iff, and_or_left, or_assoc]
  | classDef c =>
    obtain ⟨-, -, -, -, nonempty, -⟩ := check_classDef.1 checked
    obtain ⟨name, bases, keywords, decorators, body⟩ := c
    simp only [lines, ownTexts, blocks, List.mem_append, List.mem_cons, List.not_mem_nil, or_false,
      mem_decoratorLines, mem_suite nonempty, eq_line_iff, and_or_left, or_assoc]
  | ifElse test body orelse =>
    have nonempty := (check_ifElse.1 checked).2.1
    cases orelse with
    | nil =>
      simp [lines, ownTexts, blocks, mem_suite nonempty, eq_line_iff]
    | cons first rest =>
      simp only [lines, ownTexts, blocks, List.isEmpty_cons, Bool.false_eq_true, ↓reduceIte,
        List.cons_append, List.mem_append, List.mem_cons, List.not_mem_nil, or_false,
        mem_suite nonempty, eq_line_iff, blockLines_eq_flatMap, List.mem_flatMap, or_and_right,
        exists_or, exists_eq_left, and_or_left]
      rw [or_assoc]
      exact or_congr_right or_left_comm
  | forLoop target iter body =>
    have nonempty := (check_forLoop.1 checked).2.2.1
    simp only [lines, ownTexts, blocks, List.mem_cons, List.not_mem_nil, or_false,
      mem_suite nonempty, eq_line_iff]
  | whileLoop test body =>
    have nonempty := (check_whileLoop.1 checked).2.1
    simp only [lines, ownTexts, blocks, List.mem_cons, List.not_mem_nil, or_false,
      mem_suite nonempty, eq_line_iff]
  | assign | expr | ret | delete | pass | importNames | importFrom | global =>
    simp [lines, ownTexts, blocks, eq_line_iff]

theorem sizeOf_lt_of_mem_blocks {s t : Stmt} (h : t ∈ s.blocks) : sizeOf t < sizeOf s := by
  cases s with
  | functionDef f =>
    obtain ⟨name, params, decorators, body⟩ := f
    have inside : t ∈ body := h
    have := List.sizeOf_lt_of_mem inside
    simp
    omega
  | classDef c =>
    obtain ⟨name, bases, keywords, decorators, body⟩ := c
    have inside : t ∈ body := h
    have := List.sizeOf_lt_of_mem inside
    simp
    omega
  | ifElse test body orelse =>
    obtain h | h := List.mem_append.1 h
    · have := List.sizeOf_lt_of_mem h
      simp
      omega
    · have := List.sizeOf_lt_of_mem h
      simp
      omega
  | forLoop target iter body =>
    have inside : t ∈ body := h
    have := List.sizeOf_lt_of_mem inside
    simp
    omega
  | whileLoop test body =>
    have inside : t ∈ body := h
    have := List.sizeOf_lt_of_mem inside
    simp
    omega
  | assign | expr | ret | delete | pass | importNames | importFrom | global => cases h

/-- A line belongs to a statement of a block, and stands as deep as the block is nested. -/
theorem exists_inside_of_mem_lines {s : Stmt} (checked : s.check = .ok ()) {depth : Nat} {l : Line}
    (h : l ∈ s.lines depth) :
    ∃ d t, Inside d s t ∧ l.depth = depth + d ∧ l.text ∈ t.ownTexts := by
  obtain ⟨own_depth, own⟩ | ⟨t, ht, h⟩ := (mem_lines_step checked).1 h
  · exact ⟨0, s, .self s, own_depth, own⟩
  · have smaller := sizeOf_lt_of_mem_blocks ht
    obtain ⟨d, u, inside, line_depth, own⟩ :=
      exists_inside_of_mem_lines (check_of_mem_blocks checked ht) h
    exact ⟨d + 1, u, .block ht inside, by omega, own⟩
termination_by sizeOf s

theorem Inside.mem_lines {d : Nat} {s t : Stmt} (h : Inside d s t) (checked : s.check = .ok ())
    {depth : Nat} {text : String} (own : text ∈ t.ownTexts) :
    ⟨depth + d, text⟩ ∈ s.lines depth := by
  induction h generalizing depth with
  | self s => exact (mem_lines_step checked).2 (.inl ⟨rfl, own⟩)
  | @block d s t u mem _ ih =>
    have deeper : ⟨depth + 1 + d, text⟩ ∈ t.lines (depth + 1) :=
      ih (check_of_mem_blocks checked mem) own
    rw [Nat.add_right_comm] at deeper
    exact (mem_lines_step checked).2 (.inr ⟨t, mem, deeper⟩)

/-- The lines of a statement of a block stand together among those of the statement around it. -/
theorem lines_isInfix_of_mem_blocks {s t : Stmt} (checked : s.check = .ok ()) (h : t ∈ s.blocks)
    (depth : Nat) : t.lines (depth + 1) <:+: s.lines depth := by
  have in_block : ∀ body : List Stmt, t ∈ body →
      t.lines (depth + 1) <:+: blockLines (depth + 1) body := fun body ht => by
    obtain ⟨before, after, rfl⟩ := List.append_of_mem ht
    exact ⟨blockLines (depth + 1) before, blockLines (depth + 1) after, by
      simp [blockLines_eq_flatMap]⟩
  have in_suite : ∀ body : List Stmt, t ∈ body →
      t.lines (depth + 1) <:+: suite (depth + 1) body := fun body ht => by
    rw [suite_of_ne_nil (List.ne_nil_of_mem ht)]
    exact in_block body ht
  cases s with
  | functionDef f =>
    obtain ⟨name, params, decorators, body⟩ := f
    simp only [lines]
    exact (in_suite body h).trans ((List.suffix_cons _ _).trans (List.suffix_append _ _)).isInfix
  | classDef c =>
    obtain ⟨name, bases, keywords, decorators, body⟩ := c
    simp only [lines]
    exact (in_suite body h).trans ((List.suffix_cons _ _).trans (List.suffix_append _ _)).isInfix
  | ifElse test body orelse =>
    have in_body := fun ht : t ∈ body =>
      (in_suite body ht).trans (List.suffix_cons ⟨depth, "if " ++ test.source ++ ":"⟩ _).isInfix
    cases orelse with
    | nil =>
      simp only [lines]
      exact (in_body (by simpa [blocks] using h)).trans (List.prefix_append _ _).isInfix
    | cons first rest =>
      simp only [lines]
      obtain h | h := List.mem_append.1 h
      · exact (in_body h).trans (List.prefix_append _ _).isInfix
      · have in_orelse := in_block (first :: rest) h
        rw [blockLines] at in_orelse
        exact in_orelse.trans ((List.suffix_cons _ _).trans (List.suffix_append _ _)).isInfix
  | forLoop target iter body =>
    simp only [lines]
    exact (in_suite body h).trans (List.suffix_cons _ _).isInfix
  | whileLoop test body =>
    simp only [lines]
    exact (in_suite body h).trans (List.suffix_cons _ _).isInfix
  | assign | expr | ret | delete | pass | importNames | importFrom | global => cases h

theorem Inside.lines_isInfix {d : Nat} {s t : Stmt} (h : Inside d s t) (checked : s.check = .ok ())
    (depth : Nat) : t.lines (depth + d) <:+: s.lines depth := by
  induction h generalizing depth with
  | self s => exact List.infix_refl _
  | @block d s t u mem _ ih =>
    have deeper := ih (check_of_mem_blocks checked mem) (depth + 1)
    rw [Nat.add_right_comm] at deeper
    exact deeper.trans (lines_isInfix_of_mem_blocks checked mem depth)

theorem isLine_of_mem_lines {s : Stmt} (checked : s.check = .ok ()) {depth : Nat} {l : Line}
    (h : l ∈ s.lines depth) : IsLine l.text := by
  obtain ⟨d, t, inside, -, own⟩ := exists_inside_of_mem_lines checked h
  exact isLine_of_mem_ownTexts (inside.check checked) _ own

theorem lines_ne_nil (s : Stmt) (depth : Nat) : s.lines depth ≠ [] := by
  cases s with
  | ifElse test body orelse => cases orelse <;> simp [lines]
  | _ => simp [lines]

end Stmt

/-! ## Deeper lines -/

/-- The line `n` levels deeper. -/
def Line.deeper (n : Nat) (l : Line) : Line := ⟨n + l.depth, l.text⟩

namespace Stmt

theorem decoratorLines_add (n depth : Nat) (decorators : List Expr) :
    decoratorLines (n + depth) decorators =
      (decoratorLines depth decorators).map (Line.deeper n) := by
  simp [decoratorLines, Line.deeper]

mutual
theorem lines_add (n depth : Nat) :
    ∀ s : Stmt, lines (n + depth) s = (lines depth s).map (Line.deeper n)
  | .functionDef ⟨name, params, decorators, body⟩ => by
    simp [lines, decoratorLines_add, Line.deeper, ← suite_add n (depth + 1) body, Nat.add_assoc]
  | .classDef ⟨name, bases, keywords, decorators, body⟩ => by
    simp [lines, decoratorLines_add, Line.deeper, ← suite_add n (depth + 1) body, Nat.add_assoc]
  | .ifElse test body [] => by
    simp [lines, Line.deeper, ← suite_add n (depth + 1) body, Nat.add_assoc]
  | .ifElse test body (first :: rest) => by
    simp [lines, Line.deeper, ← suite_add n (depth + 1) body, ← lines_add n (depth + 1) first,
      ← blockLines_add n (depth + 1) rest, Nat.add_assoc]
  | .forLoop target iter body => by
    simp [lines, Line.deeper, ← suite_add n (depth + 1) body, Nat.add_assoc]
  | .whileLoop test body => by
    simp [lines, Line.deeper, ← suite_add n (depth + 1) body, Nat.add_assoc]
  | .assign .. | .expr _ | .ret _ | .delete _ | .pass | .importNames _ | .importFrom ..
  | .global _ => by simp [lines, Line.deeper]

theorem blockLines_add (n depth : Nat) :
    ∀ body : List Stmt, blockLines (n + depth) body = (blockLines depth body).map (Line.deeper n)
  | [] => by simp [blockLines]
  | s :: rest => by simp [blockLines, lines_add n depth s, blockLines_add n depth rest]

theorem suite_add (n depth : Nat) :
    ∀ body : List Stmt, suite (n + depth) body = (suite depth body).map (Line.deeper n)
  | [] => by simp [suite, Line.deeper]
  | s :: rest => by simp [suite, lines_add n depth s, blockLines_add n depth rest]
end

end Stmt

/-! ## Texts of lines -/

def blanks (n : Nat) : String := String.ofList (List.replicate n ' ')

theorem blanks_add (m n : Nat) : blanks (m + n) = blanks m ++ blanks n := by
  rw [blanks, List.replicate_add, String.ofList_append, blanks, blanks]

/-- The lines of a text that ends with a line break. -/
def textLines (text : String) : List String := (segments '\n' text).dropLast

/-- A text with `n` more blanks before each of its lines. -/
def indentText (n : Nat) (text : String) : String :=
  String.join ((textLines text).map fun line => blanks n ++ line ++ "\n")

namespace Line

/-- What stands on the line, up to its line break. -/
def content (l : Line) : String := blanks (4 * l.depth) ++ l.text

theorem render_eq (l : Line) : l.render = l.content ++ "\n" := rfl

theorem content_deeper (n : Nat) (l : Line) :
    (l.deeper n).content = blanks (4 * n) ++ l.content := by
  rw [content, deeper, Nat.mul_add, blanks_add, String.append_assoc]
  rfl

theorem unbroken_content {l : Line} (h : IsLine l.text) : '\n' ∉ l.content.toList := by
  simp [content, blanks, h.unbroken]

/-- Every line break in the text of lines is the end of one of them. -/
theorem segments_join_render {ls : List Line} (h : ∀ l ∈ ls, IsLine l.text) :
    segments '\n' (String.join (ls.map render)) = ls.map content ++ [""] := by
  induction ls with
  | nil => simp [segments, Text.splitChars, String.join]
  | cons l ls ih =>
    obtain ⟨first, others⟩ := List.forall_mem_cons.1 h
    have chars : (String.join ((l :: ls).map render)).toList =
        l.content.toList ++ '\n' :: (String.join (ls.map render)).toList := by
      simp [render_eq]
    have rest := ih others
    rw [segments] at rest
    rw [segments, chars, Text.splitChars_append_sep,
      Text.splitChars_of_not_mem (unbroken_content first), List.map_append, rest]
    simp

theorem textLines_join_render {ls : List Line} (h : ∀ l ∈ ls, IsLine l.text) :
    textLines (String.join (ls.map render)) = ls.map content := by
  rw [textLines, segments_join_render h, List.dropLast_concat]

theorem getLast?_join_render {ls : List Line} (h : ls ≠ []) :
    (String.join (ls.map render)).toList.getLast? = some '\n' := by
  obtain ⟨before, last, rfl⟩ := (List.eq_nil_or_concat' ls).resolve_left h
  simp [render_eq]

end Line

namespace Stmt

/-- The source text of a statement that stands `depth` levels deep. -/
def textAt (depth : Nat) (s : Stmt) : String := String.join ((s.lines depth).map Line.render)

theorem source_eq_textAt (s : Stmt) : s.source = s.textAt 0 := rfl

theorem textAt_eq_indentText {s : Stmt} (checked : s.check = .ok ()) (n : Nat) :
    s.textAt n = indentText (4 * n) s.source := by
  have source_lines : textLines s.source = (s.lines 0).map Line.content := by
    rw [source_eq_textAt]
    exact Line.textLines_join_render fun l => isLine_of_mem_lines checked
  rw [textAt, indentText, source_lines, ← Nat.add_zero n, lines_add, List.map_map, List.map_map]
  congr 1
  refine List.map_congr_left fun l _ => ?_
  rw [Function.comp_apply, Function.comp_apply, Line.render_eq, Line.content_deeper, Nat.add_zero]

/-- The text of a checked statement at `n` levels is its source with four blanks for each level
before every line. It is a sequence of lines with a line break after each and no other line break,
and a line that belongs to a statement in a block `d` levels down starts with four blanks for each
of the `n + d` levels and then a visible character. -/
theorem textAt_of_check {s : Stmt} (checked : s.check = .ok ()) (n : Nat) :
    s.textAt n = indentText (4 * n) s.source ∧
      s.textAt n ≠ "" ∧ (s.textAt n).toList.getLast? = some '\n' ∧
      segments '\n' (s.textAt n) =
        (s.lines n).map (fun l => blanks (4 * l.depth) ++ l.text) ++ [""] ∧
      (∀ l, l ∈ s.lines n ↔ ∃ d t, Inside d s t ∧ l.depth = n + d ∧ l.text ∈ t.ownTexts) ∧
      (∀ l ∈ s.lines n, IsLine l.text) ∧
      ∀ d t, Inside d s t → t.lines (n + d) <:+: s.lines n := by
  have all_lines : ∀ l ∈ s.lines n, IsLine l.text := fun l => isLine_of_mem_lines checked
  have ends := Line.getLast?_join_render (s.lines_ne_nil n)
  refine ⟨textAt_eq_indentText checked n, fun empty => ?_, ends,
    Line.segments_join_render all_lines, fun l => ⟨exists_inside_of_mem_lines checked, ?_⟩,
    all_lines, fun d t inside => inside.lines_isInfix checked n⟩
  · rw [textAt] at empty
    simp [empty] at ends
  · rintro ⟨d, t, inside, line_depth, own⟩
    have line : l = ⟨n + d, l.text⟩ := eq_line_iff.2 ⟨line_depth, rfl⟩
    rw [line]
    exact inside.mem_lines checked own

/-- A loop that reports every shelf, with a line break in a string. -/
def reportLoop : Stmt :=
  .forLoop (.name "shelf") (.name "shelves") [
    .ifElse (.name "shelf") [.expr (.call (.name "report") [.str "full\n"] [])] [.pass]]

/-- Two levels deep in the loop, which itself is written one level deep, stands the call. -/
theorem textAt_reportLoop :
    reportLoop.check = .ok () ∧
      reportLoop.textAt 1 = indentText 4 reportLoop.source ∧
      ⟨3, "report('full\\n')"⟩ ∈ reportLoop.lines 1 := by
  have checked : reportLoop.check = .ok () := rfl
  obtain ⟨indented, -, -, -, lines, -⟩ := textAt_of_check checked 1
  refine ⟨checked, indented, (lines _).2 ⟨2, .expr (.call (.name "report") [.str "full\n"] []), ?_⟩⟩
  refine ⟨.block List.mem_cons_self (.block List.mem_cons_self (.self _)), rfl, ?_⟩
  decide

end Stmt

end Loom
