import Loom.Proofs.Document.Nesting
import Loom.Proofs.Document.Reading
import Loom.Proofs.Tree.Constants
import Loom.Tree.Codec

/-!
# Trees and their documents

Whatever spelling a tree was read from, its document nests no deeper than that spelling and no
deeper than the decoder's allowance (`Decode.Sound`), and a document of a tree that nests within an
allowance is read back under it (`Decode.expr_toDocument`, `Decode.stmt_toDocument`). So the text of
a tree without doubles is read as the tree again, and different trees have different texts.
-/

namespace Loom

open Document (Tight room Record nesting fieldsNesting tight_of_flat nesting_record_le_of_lt
  room_lt_of_variant fields
  variant Decoder)

/-! ## Written documents -/

@[simp] theorem nesting_tagged (tag : String) (d : Document) :
    (tagged tag d).nesting = d.nesting + 1 := by
  simp [tagged, Document.record, nesting, fieldsNesting]

theorem tagged_eq_object (tag : String) (d : Document) :
    tagged tag d = .object [(some tag, d)] := rfl

theorem nesting_tagged_le_iff {tag : String} {d : Document} {n : Nat} :
    (tagged tag d).nesting ≤ n ↔ ∃ k, n = k + 1 ∧ d.nesting ≤ k := by
  rw [nesting_tagged]
  constructor
  · intro h
    exact ⟨n - 1, by omega, by omega⟩
  · rintro ⟨k, rfl, h⟩
    omega

theorem Expr.toDocuments_eq_map (es : List Expr) : toDocuments es = es.map toDocument := by
  induction es with
  | nil => rfl
  | cons e es ih => simp [toDocuments, ih]

/-- The document of a keyword argument. -/
def Keyword.toDocument (k : Keyword Expr) : Document :=
  .record [("arg", .str k.arg), ("value", k.value.toDocument)]

theorem Expr.keywordDocuments_eq_map (ks : List (Keyword Expr)) :
    keywordDocuments ks = ks.map Keyword.toDocument := by
  induction ks with
  | nil => rfl
  | cons k ks ih => simp [keywordDocuments, Keyword.toDocument, ih]

theorem Stmt.toDocuments_eq_map (body : List Stmt) : toDocuments body = body.map toDocument := by
  induction body with
  | nil => rfl
  | cons s rest ih => simp [toDocuments, ih]

theorem Expr.nesting_toDocument_pos (e : Expr) : 0 < e.toDocument.nesting := by
  cases e <;> simp [toDocument]

theorem Woven.nesting_toDocument (w : Woven) : w.toDocument.nesting = 1 := by
  simp [toDocument, Document.record, nesting, fieldsNesting]

/-- Integers are within 64 bits. -/
def Constant.InRange : Constant → Prop
  | .int i => -Int.pow 2 63 ≤ i ∧ i ≤ Int.pow 2 63 - 1
  | _ => True

/-- A constant that its document keeps. -/
def Constant.Storable : Constant → Prop
  | .float _ => False
  | c => c.InRange

theorem variant_tagged (tag : String) (d : Document) :
    variant (tagged tag d) = some (tag, some d) :=
  rfl

/-! ## What is read fits -/

namespace Decode

theorem constant_tight (n : Nat) :
    Tight n (constant n) Constant.toDocument Constant.InRange := by
  intro d c h
  unfold constant at h
  split at h
  · cases h
    exact ⟨Nat.zero_le _, trivial⟩
  · next n tag content =>
    have open_ : 1 ≤ room (n + 1) (.object [(some tag, content)]) := by simp [room, nesting]
    split at h
    · split at h <;> cases h
      exact ⟨Nat.zero_le _, trivial⟩
    · simp only [Option.map_eq_some_iff] at h
      obtain ⟨b, -, rfl⟩ := h
      exact ⟨open_, trivial⟩
    · simp only [Option.map_eq_some_iff] at h
      obtain ⟨i, hi, rfl⟩ := h
      refine ⟨open_, ?_⟩
      unfold Decoder.int64 Decoder.intBetween at hi
      split at hi
      · split at hi
        · simp only [Option.ite_none_right_eq_some, Option.some.injEq] at hi
          obtain ⟨range, rfl⟩ := hi
          exact range
        · cases hi
      · cases hi
    · simp only [Option.map_eq_some_iff] at h
      obtain ⟨x, -, rfl⟩ := h
      exact ⟨open_, trivial⟩
    · simp only [Option.map_eq_some_iff] at h
      obtain ⟨s, -, rfl⟩ := h
      exact ⟨open_, trivial⟩
    · cases h
  · cases h

theorem woven_nesting {n : Nat} {d : Document} {w : Woven} (h : woven n d = some w) :
    w.toDocument.nesting ≤ room n d := by
  cases n with
  | zero => cases h
  | succ n =>
    simp only [woven, Option.bind_eq_bind, Option.bind_eq_some_iff] at h
    obtain ⟨r, hr, originModule, found, -⟩ := h
    have tight : Tight n (Decoder.string n) .str fun _ => True := tight_of_flat fun _ => rfl
    have := (tight.get hr found).1
    rw [Woven.nesting_toDocument]
    omega

/-- All integers of the expression are within 64 bits. -/
abbrev Fits (e : Expr) : Prop := e.EveryConstant Constant.InRange

/-- The decoder of a variant's content: the variant adds one container. -/
def TightContent (n : Nat) (item : Document → Option Expr) : Prop :=
  ∀ d e, item d = some e → e.toDocument.nesting ≤ room n d + 1 ∧ Fits e

/-- With this allowance the decoders of expressions read only what is written back within the room
that was there. -/
structure SoundExpr (n : Nat) : Prop where
  expr : Tight n (expr n) Expr.toDocument Fits
  attributeOf : TightContent n (attributeOf n)
  call : TightContent n (call n)
  compare : TightContent n (compare n)
  binary : TightContent n (binary n)
  exprs : Tight n (exprs n) (fun es => .array (Expr.toDocuments es)) fun es => ∀ e ∈ es, Fits e
  keyword : Tight n (keyword n) Keyword.toDocument fun k => Fits k.value
  keywords : Tight n (keywords n) (fun ks => .array (Expr.keywordDocuments ks))
    fun ks => ∀ k ∈ ks, Fits k.value

namespace SoundExpr

theorem zero : SoundExpr 0 where
  expr d e h := by simp [Decode.expr] at h
  attributeOf d e h := by simp [Decode.attributeOf] at h
  call d e h := by simp [Decode.call] at h
  compare d e h := by simp [Decode.compare] at h
  binary d e h := by simp [Decode.binary] at h
  exprs d es h := by simp [Decode.exprs] at h
  keyword d k h := by simp [Decode.keyword] at h
  keywords d ks h := by simp [Decode.keywords] at h

variable {n : Nat}

theorem string_tight : Tight n (Decoder.string n) .str fun _ => True := tight_of_flat fun _ => rfl

theorem expr_succ (h : SoundExpr n) : Tight (n + 1) (Decode.expr (n + 1)) Expr.toDocument Fits := by
  intro d e he
  have inner : ∀ {tag content}, variant d = some (tag, some content) →
      room n content < room (n + 1) d := room_lt_of_variant
  rw [Decode.expr] at he
  split at he
  · next content hv =>
    simp only [Option.map_eq_some_iff] at he
    obtain ⟨id, -, rfl⟩ := he
    have := inner hv
    exact ⟨by simp only [Expr.toDocument, nesting_tagged, Document.nesting_str]; omega, by simp⟩
  · next content hv =>
    have := inner hv
    obtain ⟨small, ok⟩ := h.attributeOf content e he
    exact ⟨by omega, ok⟩
  · next content hv =>
    have := inner hv
    obtain ⟨small, ok⟩ := h.call content e he
    exact ⟨by omega, ok⟩
  · next content hv =>
    simp only [Option.map_eq_some_iff] at he
    obtain ⟨c, hc, rfl⟩ := he
    have := inner hv
    obtain ⟨small, ok⟩ := constant_tight n content c hc
    exact ⟨by simp only [Expr.toDocument, nesting_tagged]; omega, by simpa [Fits] using ok⟩
  · next content hv =>
    simp only [Option.map_eq_some_iff] at he
    obtain ⟨es, hes, rfl⟩ := he
    have := inner hv
    obtain ⟨small, ok⟩ := h.exprs content es hes
    dsimp only at small
    exact ⟨by simp only [Expr.toDocument, nesting_tagged]; omega, by simpa [Fits] using ok⟩
  · next content hv =>
    simp only [Option.map_eq_some_iff] at he
    obtain ⟨es, hes, rfl⟩ := he
    have := inner hv
    obtain ⟨small, ok⟩ := h.exprs content es hes
    dsimp only at small
    exact ⟨by simp only [Expr.toDocument, nesting_tagged]; omega, by simpa [Fits] using ok⟩
  · next content hv =>
    have := inner hv
    obtain ⟨small, ok⟩ := h.compare content e he
    exact ⟨by omega, ok⟩
  · next content hv =>
    have := inner hv
    obtain ⟨small, ok⟩ := h.binary content e he
    exact ⟨by omega, ok⟩
  · next content hv =>
    simp only [Option.map_eq_some_iff] at he
    obtain ⟨w, hw, rfl⟩ := he
    have := inner hv
    have small := woven_nesting hw
    exact ⟨by simp only [Expr.toDocument, nesting_tagged]; omega, by simp⟩
  · cases he

theorem attributeOf_succ (h : SoundExpr n) : TightContent (n + 1) (Decode.attributeOf (n + 1)) := by
  intro d e he
  simp only [Decode.attributeOf, Option.bind_eq_bind, Option.bind_eq_some_iff] at he
  obtain ⟨r, hr, value, hvalue, attr, hattr, he⟩ := he
  cases he
  obtain ⟨small, ok⟩ := h.expr.get hr hvalue
  refine ⟨?_, by simpa [Fits] using ok⟩
  rw [Expr.toDocument, nesting_tagged]
  refine Nat.succ_le_succ (nesting_record_le_of_lt ?_ (by omega))
  simp
  omega

theorem call_succ (h : SoundExpr n) : TightContent (n + 1) (Decode.call (n + 1)) := by
  intro d e he
  simp only [Decode.call, Option.bind_eq_bind, Option.bind_eq_some_iff] at he
  obtain ⟨r, hr, func, hfunc, args, hargs, keywords, hkeywords, he⟩ := he
  cases he
  obtain ⟨small, ok⟩ := h.expr.get hr hfunc
  have pos := func.nesting_toDocument_pos
  obtain ⟨argsSmall, argsOk⟩ := h.exprs.getD hr hargs
    (by simp only [Expr.toDocuments, nesting, Document.itemsNesting]; omega) (by simp)
  obtain ⟨keywordsSmall, keywordsOk⟩ := h.keywords.getD hr hkeywords
    (by simp only [Expr.keywordDocuments, nesting, Document.itemsNesting]; omega) (by simp)
  refine ⟨?_, Expr.everyConstant_call.2 ⟨ok, argsOk, keywordsOk⟩⟩
  rw [Expr.toDocument, nesting_tagged]
  refine Nat.succ_le_succ (nesting_record_le_of_lt ?_ (by omega))
  simpa using ⟨small, argsSmall, keywordsSmall⟩

theorem compare_succ (h : SoundExpr n) : TightContent (n + 1) (Decode.compare (n + 1)) := by
  intro d e he
  simp only [Decode.compare, Option.bind_eq_bind, Option.bind_eq_some_iff] at he
  obtain ⟨r, hr, left, hleft, op, hop, right, hright, he⟩ := he
  cases he
  obtain ⟨leftSmall, leftOk⟩ := h.expr.get hr hleft
  obtain ⟨rightSmall, rightOk⟩ := h.expr.get hr hright
  refine ⟨?_, Expr.everyConstant_compare.2 ⟨leftOk, rightOk⟩⟩
  rw [Expr.toDocument, nesting_tagged]
  refine Nat.succ_le_succ (nesting_record_le_of_lt ?_ (by omega))
  simp
  omega

theorem binary_succ (h : SoundExpr n) : TightContent (n + 1) (Decode.binary (n + 1)) := by
  intro d e he
  simp only [Decode.binary, Option.bind_eq_bind, Option.bind_eq_some_iff] at he
  obtain ⟨r, hr, left, hleft, op, hop, right, hright, he⟩ := he
  cases he
  obtain ⟨leftSmall, leftOk⟩ := h.expr.get hr hleft
  obtain ⟨rightSmall, rightOk⟩ := h.expr.get hr hright
  refine ⟨?_, Expr.everyConstant_binOp.2 ⟨leftOk, rightOk⟩⟩
  rw [Expr.toDocument, nesting_tagged]
  refine Nat.succ_le_succ (nesting_record_le_of_lt ?_ (by omega))
  simp
  omega

theorem exprs_succ (h : SoundExpr n) : Tight (n + 1) (Decode.exprs (n + 1))
    (fun es => .array (Expr.toDocuments es)) fun es => ∀ e ∈ es, Fits e := by
  intro d es hes
  cases d with
  | array ds =>
    rw [Decode.exprs] at hes
    simp only [Expr.toDocuments_eq_map]
    exact h.expr.items hes
  | null | bool | number | string | object => cases hes

theorem keyword_succ (h : SoundExpr n) :
    Tight (n + 1) (Decode.keyword (n + 1)) Keyword.toDocument fun k => Fits k.value := by
  intro d k hk
  simp only [Decode.keyword, Option.bind_eq_bind, Option.bind_eq_some_iff] at hk
  obtain ⟨r, hr, arg, harg, value, hvalue, hk⟩ := hk
  cases hk
  obtain ⟨small, ok⟩ := h.expr.get hr hvalue
  refine ⟨nesting_record_le_of_lt ?_ (by omega), ok⟩
  simp
  omega

theorem keywords_succ (h : SoundExpr n) : Tight (n + 1) (Decode.keywords (n + 1))
    (fun ks => .array (Expr.keywordDocuments ks)) fun ks => ∀ k ∈ ks, Fits k.value := by
  intro d ks hks
  cases d with
  | array ds =>
    rw [Decode.keywords] at hks
    simp only [Expr.keywordDocuments_eq_map]
    exact h.keyword.items hks
  | null | bool | number | string | object => cases hks

end SoundExpr

theorem soundExpr : ∀ n, SoundExpr n
  | 0 => .zero
  | n + 1 =>
    have h := soundExpr n
    ⟨h.expr_succ, h.attributeOf_succ, h.call_succ, h.compare_succ, h.binary_succ, h.exprs_succ,
      h.keyword_succ, h.keywords_succ⟩

/-! Statements -/

theorem list_tight {α : Type} {n : Nat} {item : Decoder α} {write : α → Document} {good : α → Prop}
    (h : ∀ n, Tight n (item n) write good) : Tight n (Decoder.list item n)
      (fun as => .array (as.map write)) fun as => ∀ a ∈ as, good a := by
  intro d as has
  unfold Decoder.list at has
  split at has
  · exact (h _).items has
  · cases has

theorem optional_tight (n : Nat) :
    Tight n (Decoder.optional expr n) optionalExpr fun v => ∀ e ∈ v, Fits e := by
  intro d v hv
  unfold Decoder.optional at hv
  split at hv
  · cases hv
    exact ⟨Nat.zero_le _, by simp⟩
  · simp only [Option.map_eq_some_iff] at hv
    obtain ⟨e, he, rfl⟩ := hv
    obtain ⟨small, ok⟩ := (soundExpr n).expr d e he
    exact ⟨small, by simpa using ok⟩

theorem importedName_tight (n : Nat) :
    Tight n (importedName n) Alias.toDocument fun _ => True := by
  intro d a ha
  cases n with
  | zero => cases ha
  | succ n =>
    simp only [importedName, Option.bind_eq_bind, Option.bind_eq_some_iff] at ha
    obtain ⟨r, hr, name, hname, asName, -, ha⟩ := ha
    cases ha
    have pos := (SoundExpr.string_tight.get hr hname).1
    refine ⟨nesting_record_le_of_lt ?_ (by omega), trivial⟩
    simp
    omega

theorem param_tight (n : Nat) :
    Tight n (param n) Param.toDocument fun p => p.EveryConstant Constant.InRange := by
  intro d p hp
  cases n with
  | zero => cases hp
  | succ n =>
    simp only [param, Option.bind_eq_bind, Option.bind_eq_some_iff] at hp
    obtain ⟨r, hr, name, hname, default, hdefault, hp⟩ := hp
    cases hp
    have pos := (SoundExpr.string_tight.get hr hname).1
    obtain ⟨small, ok⟩ := (optional_tight n).getD hr hdefault
      (by simp only [optionalExpr, nesting]; omega) (by simp)
    refine ⟨nesting_record_le_of_lt ?_ (by omega), ok⟩
    simp
    omega

/-- All integers of the statement are within 64 bits. -/
abbrev StmtFits (s : Stmt) : Prop := s.EveryConstant Constant.InRange

/-- The decoder of the content of a statement. -/
def TightStmt (n : Nat) {α : Type} (item : Document → Option α) (make : α → Stmt) : Prop :=
  ∀ d a, item d = some a → (make a).toDocument.nesting ≤ room n d + 1 ∧ StmtFits (make a)

theorem assign_tight (n : Nat) : TightStmt n (assign n) id := by
  intro d s hs
  cases n with
  | zero => cases hs
  | succ n =>
    simp only [assign, Option.bind_eq_bind, Option.bind_eq_some_iff] at hs
    obtain ⟨r, hr, targets, htargets, value, hvalue, hs⟩ := hs
    cases hs
    obtain ⟨targetsSmall, targetsOk⟩ := (soundExpr n).exprs.get hr htargets
    obtain ⟨valueSmall, valueOk⟩ := (soundExpr n).expr.get hr hvalue
    refine ⟨?_, Stmt.everyConstant_assign.2 ⟨targetsOk, valueOk⟩⟩
    rw [id, Stmt.toDocument, nesting_tagged]
    refine Nat.succ_le_succ (nesting_record_le_of_lt ?_ (by omega))
    simpa using ⟨targetsSmall, valueSmall⟩

theorem importFrom_tight (n : Nat) : TightStmt n (importFrom n) id := by
  intro d s hs
  cases n with
  | zero => cases hs
  | succ n =>
    simp only [importFrom, Option.bind_eq_bind, Option.bind_eq_some_iff] at hs
    obtain ⟨r, hr, module, hmodule, names, hnames, hs⟩ := hs
    cases hs
    obtain ⟨small, -⟩ := (list_tight importedName_tight).get hr hnames
    refine ⟨?_, by simp⟩
    rw [id, Stmt.toDocument, nesting_tagged]
    refine Nat.succ_le_succ (nesting_record_le_of_lt ?_ (by omega))
    simp
    omega

structure SoundStmt (n : Nat) : Prop where
  stmt : Tight n (stmt n) Stmt.toDocument StmtFits
  functionDef : TightStmt n (functionDef n) .functionDef
  classDef : TightStmt n (classDef n) .classDef
  ifElse : TightStmt n (ifElse n) id
  forLoop : TightStmt n (forLoop n) id
  whileLoop : TightStmt n (whileLoop n) id
  block : Tight n (block n) (fun body => .array (Stmt.toDocuments body))
    fun body => ∀ s ∈ body, StmtFits s

namespace SoundStmt

theorem zero : SoundStmt 0 where
  stmt d s h := by
    unfold Decode.stmt at h
    split at h
    · simp only [Option.ite_none_right_eq_some] at h
      obtain ⟨-, h⟩ := h
      cases h
      exact ⟨Nat.zero_le _, by simp⟩
    · contradiction
    · cases h
  functionDef d f h := by simp [Decode.functionDef] at h
  classDef d c h := by simp [Decode.classDef] at h
  ifElse d s h := by simp [Decode.ifElse] at h
  forLoop d s h := by simp [Decode.forLoop] at h
  whileLoop d s h := by simp [Decode.whileLoop] at h
  block d body h := by simp [Decode.block] at h

variable {n : Nat}

theorem stmt_succ (h : SoundStmt n) :
    Tight (n + 1) (Decode.stmt (n + 1)) Stmt.toDocument StmtFits := by
  intro d s hs
  unfold Decode.stmt at hs
  split at hs
  · simp only [Option.ite_none_right_eq_some] at hs
    obtain ⟨-, hs⟩ := hs
    cases hs
    exact ⟨Nat.zero_le _, by simp⟩
  · next tag content hn =>
    cases hn
    have inner : room n content < room (n + 1) (.object [(some tag, content)]) :=
      room_lt_of_variant rfl
    -- A statement made from content that fits is one container deeper than the content.
    have made : ∀ {α : Type} {item : Document → Option α} {make : α → Stmt} {a : α},
        TightStmt n item make → item content = some a →
        (make a).toDocument.nesting ≤ room (n + 1) (.object [(some tag, content)]) ∧
          StmtFits (make a) := by
      intro α item make a tight read
      obtain ⟨small, ok⟩ := tight content a read
      exact ⟨by omega, ok⟩
    split at hs
    · obtain ⟨f, hf, rfl⟩ := Option.map_eq_some_iff.1 hs
      exact made h.functionDef hf
    · obtain ⟨c, hc, rfl⟩ := Option.map_eq_some_iff.1 hs
      exact made h.classDef hc
    · exact made (assign_tight n) hs
    · obtain ⟨e, he, rfl⟩ := Option.map_eq_some_iff.1 hs
      obtain ⟨small, ok⟩ := (soundExpr n).expr content e he
      exact ⟨by simp only [Stmt.toDocument, nesting_tagged]; omega, ok⟩
    · obtain ⟨v, hv, rfl⟩ := Option.map_eq_some_iff.1 hs
      obtain ⟨small, ok⟩ := optional_tight n content v hv
      exact ⟨by simp only [Stmt.toDocument, nesting_tagged]; omega, Stmt.everyConstant_ret.2 ok⟩
    · obtain ⟨targets, htargets, rfl⟩ := Option.map_eq_some_iff.1 hs
      obtain ⟨small, ok⟩ := (soundExpr n).exprs content targets htargets
      dsimp only at small
      exact ⟨by simp only [Stmt.toDocument, nesting_tagged]; omega, Stmt.everyConstant_delete.2 ok⟩
    · split at hs <;> cases hs
      exact ⟨Nat.zero_le _, by simp⟩
    · obtain ⟨names, hnames, rfl⟩ := Option.map_eq_some_iff.1 hs
      obtain ⟨small, -⟩ := list_tight importedName_tight content names hnames
      dsimp only at small
      exact ⟨by simp only [Stmt.toDocument, nesting_tagged]; omega, by simp⟩
    · exact made (importFrom_tight n) hs
    · exact made h.ifElse hs
    · exact made h.forLoop hs
    · exact made h.whileLoop hs
    · obtain ⟨names, hnames, rfl⟩ := Option.map_eq_some_iff.1 hs
      obtain ⟨small, -⟩ := list_tight (fun _ => SoundExpr.string_tight) content names hnames
      dsimp only at small
      exact ⟨by simp only [Stmt.toDocument, nesting_tagged]; omega, by simp⟩
    · cases hs
  · cases hs

theorem functionDef_succ (h : SoundStmt n) :
    TightStmt (n + 1) (Decode.functionDef (n + 1)) .functionDef := by
  intro d f hf
  simp only [Decode.functionDef, Option.bind_eq_bind, Option.bind_eq_some_iff] at hf
  obtain ⟨r, hr, name, hname, params, hparams, decorators, hdecorators, body, hbody, hf⟩ := hf
  cases hf
  obtain ⟨bodySmall, bodyOk⟩ := h.block.get hr hbody
  have two : 1 < room (n + 1) d := by
    simp only [nesting] at bodySmall
    omega
  obtain ⟨paramsSmall, paramsOk⟩ := (list_tight param_tight).getD hr hparams
    (by simpa [nesting, Document.itemsNesting] using two) (by simp)
  obtain ⟨decoratorsSmall, decoratorsOk⟩ := (soundExpr n).exprs.getD hr hdecorators
    (by simpa [Expr.toDocuments, nesting, Document.itemsNesting] using two) (by simp)
  refine ⟨?_, Stmt.everyConstant_functionDef.2 ⟨decoratorsOk, paramsOk, bodyOk⟩⟩
  rw [Stmt.toDocument, nesting_tagged]
  refine Nat.succ_le_succ (nesting_record_le_of_lt ?_ (by omega))
  simpa using ⟨by omega, paramsSmall, decoratorsSmall, bodySmall⟩

theorem classDef_succ (h : SoundStmt n) :
    TightStmt (n + 1) (Decode.classDef (n + 1)) .classDef := by
  intro d f hf
  simp only [Decode.classDef, Option.bind_eq_bind, Option.bind_eq_some_iff] at hf
  obtain ⟨r, hr, name, hname, bases, hbases, keywords, hkeywords, decorators, hdecorators, body,
    hbody, hf⟩ := hf
  cases hf
  obtain ⟨bodySmall, bodyOk⟩ := h.block.get hr hbody
  have two : 1 < room (n + 1) d := by
    simp only [nesting] at bodySmall
    omega
  obtain ⟨basesSmall, basesOk⟩ := (soundExpr n).exprs.getD hr hbases
    (by simpa [Expr.toDocuments, nesting, Document.itemsNesting] using two) (by simp)
  obtain ⟨keywordsSmall, keywordsOk⟩ := (soundExpr n).keywords.getD hr hkeywords
    (by simpa [Expr.keywordDocuments, nesting, Document.itemsNesting] using two) (by simp)
  obtain ⟨decoratorsSmall, decoratorsOk⟩ := (soundExpr n).exprs.getD hr hdecorators
    (by simpa [Expr.toDocuments, nesting, Document.itemsNesting] using two) (by simp)
  refine ⟨?_, Stmt.everyConstant_classDef.2 ⟨decoratorsOk, basesOk, keywordsOk, bodyOk⟩⟩
  rw [Stmt.toDocument, nesting_tagged]
  refine Nat.succ_le_succ (nesting_record_le_of_lt ?_ (by omega))
  simpa using ⟨by omega, basesSmall, keywordsSmall, decoratorsSmall, bodySmall⟩

theorem ifElse_succ (h : SoundStmt n) : TightStmt (n + 1) (Decode.ifElse (n + 1)) id := by
  intro d s hs
  simp only [Decode.ifElse, Option.bind_eq_bind, Option.bind_eq_some_iff] at hs
  obtain ⟨r, hr, test, htest, body, hbody, orelse, horelse, hs⟩ := hs
  cases hs
  obtain ⟨testSmall, testOk⟩ := (soundExpr n).expr.get hr htest
  obtain ⟨bodySmall, bodyOk⟩ := h.block.get hr hbody
  obtain ⟨orelseSmall, orelseOk⟩ := h.block.getD hr horelse
    (by simp only [Stmt.toDocuments, nesting, Document.itemsNesting] at bodySmall ⊢; omega)
    (by simp)
  refine ⟨?_, Stmt.everyConstant_ifElse.2 ⟨testOk, bodyOk, orelseOk⟩⟩
  rw [id, Stmt.toDocument, nesting_tagged]
  refine Nat.succ_le_succ (nesting_record_le_of_lt ?_ (by omega))
  simpa using ⟨testSmall, bodySmall, orelseSmall⟩

theorem forLoop_succ (h : SoundStmt n) : TightStmt (n + 1) (Decode.forLoop (n + 1)) id := by
  intro d s hs
  simp only [Decode.forLoop, Option.bind_eq_bind, Option.bind_eq_some_iff] at hs
  obtain ⟨r, hr, target, htarget, iter, hiter, body, hbody, hs⟩ := hs
  cases hs
  obtain ⟨targetSmall, targetOk⟩ := (soundExpr n).expr.get hr htarget
  obtain ⟨iterSmall, iterOk⟩ := (soundExpr n).expr.get hr hiter
  obtain ⟨bodySmall, bodyOk⟩ := h.block.get hr hbody
  refine ⟨?_, Stmt.everyConstant_forLoop.2 ⟨targetOk, iterOk, bodyOk⟩⟩
  rw [id, Stmt.toDocument, nesting_tagged]
  refine Nat.succ_le_succ (nesting_record_le_of_lt ?_ (by omega))
  simpa using ⟨targetSmall, iterSmall, bodySmall⟩

theorem whileLoop_succ (h : SoundStmt n) : TightStmt (n + 1) (Decode.whileLoop (n + 1)) id := by
  intro d s hs
  simp only [Decode.whileLoop, Option.bind_eq_bind, Option.bind_eq_some_iff] at hs
  obtain ⟨r, hr, test, htest, body, hbody, hs⟩ := hs
  cases hs
  obtain ⟨testSmall, testOk⟩ := (soundExpr n).expr.get hr htest
  obtain ⟨bodySmall, bodyOk⟩ := h.block.get hr hbody
  refine ⟨?_, Stmt.everyConstant_whileLoop.2 ⟨testOk, bodyOk⟩⟩
  rw [id, Stmt.toDocument, nesting_tagged]
  refine Nat.succ_le_succ (nesting_record_le_of_lt ?_ (by omega))
  simpa using ⟨testSmall, bodySmall⟩

theorem block_succ (h : SoundStmt n) : Tight (n + 1) (Decode.block (n + 1))
    (fun body => .array (Stmt.toDocuments body)) fun body => ∀ s ∈ body, StmtFits s := by
  intro d body hbody
  cases d with
  | array ds =>
    rw [Decode.block] at hbody
    simp only [Stmt.toDocuments_eq_map]
    exact h.stmt.items hbody
  | null | bool | number | string | object => cases hbody

end SoundStmt

theorem soundStmt : ∀ n, SoundStmt n
  | 0 => .zero
  | n + 1 =>
    have h := soundStmt n
    ⟨h.stmt_succ, h.functionDef_succ, h.classDef_succ, h.ifElse_succ, h.forLoop_succ,
      h.whileLoop_succ, h.block_succ⟩

/-- A module that is read nests no deeper than its document and the allowance. -/
theorem module_tight (n : Nat) :
    Tight n (module n) Module.toDocument fun m => m.EveryConstant Constant.InRange := by
  intro d m hm
  cases n with
  | zero => cases hm
  | succ n =>
    simp only [module, Option.bind_eq_bind, Option.bind_eq_some_iff] at hm
    obtain ⟨r, hr, body, hbody, hm⟩ := hm
    cases hm
    obtain ⟨small, ok⟩ := (soundStmt n).block.get hr hbody
    refine ⟨nesting_record_le_of_lt ?_ (by omega), Module.everyConstant_iff.2 ok⟩
    simpa using small

/-! ## What fits is read -/

theorem constant_toDocument {n : Nat} {c : Constant} (storable : c.Storable)
    (h : c.toDocument.nesting ≤ n) : constant n c.toDocument = some c := by
  cases c with
  | none => simp [Constant.toDocument, constant, Document.str]
  | bool b =>
    obtain ⟨k, rfl, -⟩ := Document.nesting_record_le_iff.1 h
    simp [Constant.toDocument, constant, tagged, Document.record, Decoder.bool]
  | int i =>
    obtain ⟨k, rfl, -⟩ := Document.nesting_record_le_iff.1 h
    simp [Constant.toDocument, constant, tagged, Document.record, Decoder.int64,
      Decoder.intBetween, Document.int]
    exact storable
  | float x => exact storable.elim
  | str s =>
    obtain ⟨k, rfl, -⟩ := Document.nesting_record_le_iff.1 h
    simp [Constant.toDocument, constant, tagged, Document.record, Decoder.string, Document.str]

theorem cmpOp_label (n : Nat) (op : CmpOp) : cmpOp n (.str op.label) = some op := by
  cases op <;> rfl

theorem binOp_label (n : Nat) (op : BinOp) : binOp n (.str op.label) = some op := by
  cases op <;> rfl

theorem woven_toDocument {n : Nat} {w : Woven} (h : w.toDocument.nesting ≤ n) :
    woven n w.toDocument = some w := by
  obtain ⟨k, rfl, -⟩ := Document.nesting_record_le_iff.1 h
  simp [Woven.toDocument, woven, Document.fields_record, Record.get, List.lookup_cons,
    Decoder.string, Document.str, path]

abbrev Storable (e : Expr) : Prop := e.EveryConstant Constant.Storable

mutual
theorem expr_toDocument : ∀ (e : Expr) (n : Nat), Storable e → e.toDocument.nesting ≤ n →
    expr n e.toDocument = some e
  | .name id, n, _, h => by
    obtain ⟨k, rfl, -⟩ := Document.nesting_record_le_iff.1 h
    simp [Expr.toDocument, expr, variant_tagged, Decoder.string, Document.str]
  | .attribute value attr, n, ok, h => by
    rw [Expr.toDocument, nesting_tagged_le_iff] at h
    obtain ⟨k, rfl, h⟩ := h
    obtain ⟨k, rfl, parts⟩ := Document.nesting_record_le_iff.1 h
    simp only [List.forall_mem_cons] at parts
    have readValue := expr_toDocument value k (by simpa using ok) parts.1
    simp [Expr.toDocument, expr, variant_tagged, attributeOf, Document.fields_record, Record.get,
      List.lookup_cons, readValue, Decoder.string, Document.str]
  | .call func args keywords, n, ok, h => by
    rw [Expr.toDocument, nesting_tagged_le_iff] at h
    obtain ⟨k, rfl, h⟩ := h
    obtain ⟨k, rfl, parts⟩ := Document.nesting_record_le_iff.1 h
    simp only [List.forall_mem_cons] at parts
    obtain ⟨hfunc, hargs, hkeywords, -⟩ := parts
    obtain ⟨funcOk, argsOk, keywordsOk⟩ := Expr.everyConstant_call.1 ok
    have readFunc := expr_toDocument func k funcOk hfunc
    obtain ⟨k, rfl, argParts⟩ := Document.nesting_array_le_iff.1 hargs
    have readArgs := exprs_toDocuments args k argsOk argParts
    have readKeywords := keywords_toDocuments keywords k keywordsOk
      (Document.nesting_array_le.1 hkeywords)
    have content : call (k + 1 + 1) (.record
        [("func", func.toDocument), ("args", .array (Expr.toDocuments args)),
          ("keywords", .array (Expr.keywordDocuments keywords))]) =
        some (.call func args keywords) := by
      simp [call, Document.fields_record, Record.get, Record.getD, List.lookup_cons, readFunc,
        exprs, Decode.keywords, readArgs, readKeywords]
    simp [Expr.toDocument, expr, variant_tagged, content]
  | .constant c, n, ok, h => by
    rw [Expr.toDocument, nesting_tagged_le_iff] at h
    obtain ⟨k, rfl, h⟩ := h
    have read := constant_toDocument (Expr.everyConstant_constant.1 ok) h
    simp [Expr.toDocument, expr, variant_tagged, read]
  | .tuple items, n, ok, h => by
    rw [Expr.toDocument, nesting_tagged_le_iff] at h
    obtain ⟨k, rfl, h⟩ := h
    obtain ⟨k, rfl, parts⟩ := Document.nesting_array_le_iff.1 h
    have read := exprs_toDocuments items k (Expr.everyConstant_tuple.1 ok) parts
    simp [Expr.toDocument, expr, variant_tagged, exprs, read]
  | .list items, n, ok, h => by
    rw [Expr.toDocument, nesting_tagged_le_iff] at h
    obtain ⟨k, rfl, h⟩ := h
    obtain ⟨k, rfl, parts⟩ := Document.nesting_array_le_iff.1 h
    have read := exprs_toDocuments items k (Expr.everyConstant_list.1 ok) parts
    simp [Expr.toDocument, expr, variant_tagged, exprs, read]
  | .compare left op right, n, ok, h => by
    rw [Expr.toDocument, nesting_tagged_le_iff] at h
    obtain ⟨k, rfl, h⟩ := h
    obtain ⟨k, rfl, parts⟩ := Document.nesting_record_le_iff.1 h
    simp only [List.forall_mem_cons] at parts
    obtain ⟨leftOk, rightOk⟩ := Expr.everyConstant_compare.1 ok
    have readLeft := expr_toDocument left k leftOk parts.1
    have readRight := expr_toDocument right k rightOk parts.2.2.1
    simp [Expr.toDocument, expr, variant_tagged, compare, Document.fields_record, Record.get,
      List.lookup_cons, readLeft, readRight, cmpOp_label]
  | .binOp left op right, n, ok, h => by
    rw [Expr.toDocument, nesting_tagged_le_iff] at h
    obtain ⟨k, rfl, h⟩ := h
    obtain ⟨k, rfl, parts⟩ := Document.nesting_record_le_iff.1 h
    simp only [List.forall_mem_cons] at parts
    obtain ⟨leftOk, rightOk⟩ := Expr.everyConstant_binOp.1 ok
    have readLeft := expr_toDocument left k leftOk parts.1
    have readRight := expr_toDocument right k rightOk parts.2.2.1
    simp [Expr.toDocument, expr, variant_tagged, binary, Document.fields_record, Record.get,
      List.lookup_cons, readLeft, readRight, binOp_label]
  | .woven w, n, ok, h => by
    rw [Expr.toDocument, nesting_tagged_le_iff] at h
    obtain ⟨k, rfl, h⟩ := h
    simp [Expr.toDocument, expr, variant_tagged, woven_toDocument h]

theorem exprs_toDocuments : ∀ (es : List Expr) (n : Nat), (∀ e ∈ es, Storable e) →
    (∀ d ∈ Expr.toDocuments es, d.nesting ≤ n) → (Expr.toDocuments es).mapM (expr n) = some es
  | [], _, _, _ => rfl
  | e :: es, n, ok, h => by
    simp only [Expr.toDocuments, List.forall_mem_cons] at ok h
    have first := expr_toDocument e n ok.1 h.1
    have rest := exprs_toDocuments es n ok.2 h.2
    simp [Expr.toDocuments, first, rest]

theorem keywords_toDocuments : ∀ (ks : List (Keyword Expr)) (n : Nat),
    (∀ k ∈ ks, Storable k.value) → (∀ d ∈ Expr.keywordDocuments ks, d.nesting ≤ n) →
    (Expr.keywordDocuments ks).mapM (keyword n) = some ks
  | [], _, _, _ => rfl
  | ⟨arg, value⟩ :: ks, n, ok, h => by
    simp only [Expr.keywordDocuments, List.forall_mem_cons] at ok h
    obtain ⟨k, rfl, first⟩ := Document.nesting_record_le_iff.1 h.1
    simp only [List.forall_mem_cons] at first
    have readValue := expr_toDocument value k ok.1 first.2.1
    have rest := keywords_toDocuments ks (k + 1) ok.2 h.2
    have readFirst : keyword (k + 1)
        (.record [("arg", .str arg), ("value", value.toDocument)]) = some ⟨arg, value⟩ := by
      simp [keyword, Document.fields_record, Record.get, List.lookup_cons, readValue,
        Decoder.string, Document.str]
    simp [Expr.keywordDocuments, readFirst, rest]
end

theorem optional_toDocument {n : Nat} {v : Option Expr} (ok : ∀ e ∈ v, Storable e)
    (h : (optionalExpr v).nesting ≤ n) : Decoder.optional expr n (optionalExpr v) = some v := by
  cases v with
  | none => rfl
  | some e =>
    have read := expr_toDocument e n (ok e rfl) h
    have shown : e.toDocument ≠ .null := by
      intro null
      have pos := e.nesting_toDocument_pos
      simp [null, nesting] at pos
    unfold optionalExpr Decoder.optional
    split
    · next null => exact absurd null shown
    · simp [read]

theorem importedName_toDocument {n : Nat} {a : Alias} (h : a.toDocument.nesting ≤ n) :
    importedName n a.toDocument = some a := by
  obtain ⟨k, rfl, -⟩ := Document.nesting_record_le_iff.1 h
  obtain ⟨name, _ | asName⟩ := a <;>
    simp [Alias.toDocument, importedName, Document.fields_record, Record.get, Record.getD,
      List.lookup_cons, Decoder.string, Document.str, Decoder.optional, Document.optional]

theorem param_toDocument {n : Nat} {p : Param} (ok : p.EveryConstant Constant.Storable)
    (h : p.toDocument.nesting ≤ n) : param n p.toDocument = some p := by
  obtain ⟨k, rfl, parts⟩ := Document.nesting_record_le_iff.1 h
  simp only [List.forall_mem_cons] at parts
  have read := optional_toDocument ok parts.2.1
  simp [Param.toDocument, param, Document.fields_record, Record.get, Record.getD, List.lookup_cons,
    Decoder.string, Document.str, read]

theorem list_toDocument {α : Type} (item : Decoder α) {write : α → Document} {n : Nat}
    {as : List α} (h : (Document.array (as.map write)).nesting ≤ n)
    (read : ∀ a ∈ as, ∀ k, (write a).nesting ≤ k → item k (write a) = some a) :
    Decoder.list item n (.array (as.map write)) = some as := by
  obtain ⟨k, rfl, parts⟩ := Document.nesting_array_le_iff.1 h
  exact Document.mapM_map_eq_some fun a ha => read a ha k (parts _ (List.mem_map_of_mem ha))

theorem exprs_toDocument {n : Nat} {es : List Expr} (ok : ∀ e ∈ es, Storable e)
    (h : (Document.array (Expr.toDocuments es)).nesting ≤ n) :
    exprs n (.array (Expr.toDocuments es)) = some es := by
  obtain ⟨k, rfl, parts⟩ := Document.nesting_array_le_iff.1 h
  exact exprs_toDocuments es k ok parts

theorem keywords_toDocument {n : Nat} {ks : List (Keyword Expr)} (ok : ∀ k ∈ ks, Storable k.value)
    (h : (Document.array (Expr.keywordDocuments ks)).nesting ≤ n) :
    keywords n (.array (Expr.keywordDocuments ks)) = some ks := by
  obtain ⟨k, rfl, parts⟩ := Document.nesting_array_le_iff.1 h
  exact keywords_toDocuments ks k ok parts

abbrev StmtStorable (s : Stmt) : Prop := s.EveryConstant Constant.Storable

mutual
theorem stmt_toDocument : ∀ (s : Stmt) (n : Nat), StmtStorable s → s.toDocument.nesting ≤ n →
    stmt n s.toDocument = some s
  | .functionDef ⟨name, params, decorators, body⟩, n, ok, h => by
    rw [Stmt.toDocument, nesting_tagged_le_iff] at h
    obtain ⟨k, rfl, h⟩ := h
    obtain ⟨k, rfl, parts⟩ := Document.nesting_record_le_iff.1 h
    simp only [List.forall_mem_cons] at parts
    obtain ⟨-, hparams, hdecorators, hbody, -⟩ := parts
    obtain ⟨decoratorsOk, paramsOk, bodyOk⟩ := Stmt.everyConstant_functionDef.1 ok
    have readParams := list_toDocument param hparams fun p hp k h =>
      param_toDocument (paramsOk p hp) h
    have readDecorators := exprs_toDocument decoratorsOk hdecorators
    have readBody := block_toDocuments body k bodyOk hbody
    have content : functionDef (k + 1) (.record
        [("name", .str name), ("params", .array (params.map Param.toDocument)),
          ("decorators", .array (Expr.toDocuments decorators)),
          ("body", .array (Stmt.toDocuments body))]) =
        some ⟨name, params, decorators, body⟩ := by
      simp [functionDef, Document.fields_record, Record.get, Record.getD, List.lookup_cons,
        Decoder.string, Document.str, readParams, readDecorators, readBody]
    simp [Stmt.toDocument, tagged_eq_object, stmt, content]
  | .classDef ⟨name, bases, keywords, decorators, body⟩, n, ok, h => by
    rw [Stmt.toDocument, nesting_tagged_le_iff] at h
    obtain ⟨k, rfl, h⟩ := h
    obtain ⟨k, rfl, parts⟩ := Document.nesting_record_le_iff.1 h
    simp only [List.forall_mem_cons] at parts
    obtain ⟨-, hbases, hkeywords, hdecorators, hbody, -⟩ := parts
    obtain ⟨decoratorsOk, basesOk, keywordsOk, bodyOk⟩ := Stmt.everyConstant_classDef.1 ok
    have readBases := exprs_toDocument basesOk hbases
    have readKeywords := keywords_toDocument keywordsOk hkeywords
    have readDecorators := exprs_toDocument decoratorsOk hdecorators
    have readBody := block_toDocuments body k bodyOk hbody
    have content : classDef (k + 1) (.record
        [("name", .str name), ("bases", .array (Expr.toDocuments bases)),
          ("keywords", .array (Expr.keywordDocuments keywords)),
          ("decorators", .array (Expr.toDocuments decorators)),
          ("body", .array (Stmt.toDocuments body))]) =
        some ⟨name, bases, keywords, decorators, body⟩ := by
      simp [classDef, Document.fields_record, Record.get, Record.getD, List.lookup_cons,
        Decoder.string, Document.str, readBases, readKeywords, readDecorators, readBody]
    simp [Stmt.toDocument, tagged_eq_object, stmt, content]
  | .assign targets value, n, ok, h => by
    rw [Stmt.toDocument, nesting_tagged_le_iff] at h
    obtain ⟨k, rfl, h⟩ := h
    obtain ⟨k, rfl, parts⟩ := Document.nesting_record_le_iff.1 h
    simp only [List.forall_mem_cons] at parts
    obtain ⟨targetsOk, valueOk⟩ := Stmt.everyConstant_assign.1 ok
    have readTargets := exprs_toDocument targetsOk parts.1
    have readValue := expr_toDocument value k valueOk parts.2.1
    simp [Stmt.toDocument, tagged_eq_object, stmt, assign, Document.fields_record, Record.get,
      List.lookup_cons, readTargets, readValue]
  | .expr e, n, ok, h => by
    rw [Stmt.toDocument, nesting_tagged_le_iff] at h
    obtain ⟨k, rfl, h⟩ := h
    have read := expr_toDocument e k ok h
    simp [Stmt.toDocument, tagged_eq_object, stmt, read]
  | .ret value, n, ok, h => by
    rw [Stmt.toDocument, nesting_tagged_le_iff] at h
    obtain ⟨k, rfl, h⟩ := h
    have read := optional_toDocument (Stmt.everyConstant_ret.1 ok) h
    simp [Stmt.toDocument, tagged_eq_object, stmt, read]
  | .delete targets, n, ok, h => by
    rw [Stmt.toDocument, nesting_tagged_le_iff] at h
    obtain ⟨k, rfl, h⟩ := h
    have read := exprs_toDocument (Stmt.everyConstant_delete.1 ok) h
    simp [Stmt.toDocument, tagged_eq_object, stmt, read]
  | .pass, n, _, _ => by simp [Stmt.toDocument, stmt, Document.str]
  | .importNames names, n, _, h => by
    rw [Stmt.toDocument, nesting_tagged_le_iff] at h
    obtain ⟨k, rfl, h⟩ := h
    have read := list_toDocument importedName h fun a _ k h => importedName_toDocument h
    simp [Stmt.toDocument, tagged_eq_object, stmt, read]
  | .importFrom module names, n, _, h => by
    rw [Stmt.toDocument, nesting_tagged_le_iff] at h
    obtain ⟨k, rfl, h⟩ := h
    obtain ⟨k, rfl, parts⟩ := Document.nesting_record_le_iff.1 h
    simp only [List.forall_mem_cons] at parts
    have read := list_toDocument importedName parts.2.1 fun a _ k h => importedName_toDocument h
    simp [Stmt.toDocument, tagged_eq_object, stmt, importFrom, Document.fields_record, Record.get,
      List.lookup_cons, Decoder.string, Document.str, read]
  | .ifElse test body orelse, n, ok, h => by
    rw [Stmt.toDocument, nesting_tagged_le_iff] at h
    obtain ⟨k, rfl, h⟩ := h
    obtain ⟨k, rfl, parts⟩ := Document.nesting_record_le_iff.1 h
    simp only [List.forall_mem_cons] at parts
    obtain ⟨testOk, bodyOk, orelseOk⟩ := Stmt.everyConstant_ifElse.1 ok
    have readTest := expr_toDocument test k testOk parts.1
    have readBody := block_toDocuments body k bodyOk parts.2.1
    have readOrelse := block_toDocuments orelse k orelseOk parts.2.2.1
    have content : ifElse (k + 1) (.record
        [("test", test.toDocument), ("body", .array (Stmt.toDocuments body)),
          ("orelse", .array (Stmt.toDocuments orelse))]) = some (.ifElse test body orelse) := by
      simp [ifElse, Document.fields_record, Record.get, Record.getD, List.lookup_cons, readTest,
        readBody, readOrelse]
    simp [Stmt.toDocument, tagged_eq_object, stmt, content]
  | .forLoop target iter body, n, ok, h => by
    rw [Stmt.toDocument, nesting_tagged_le_iff] at h
    obtain ⟨k, rfl, h⟩ := h
    obtain ⟨k, rfl, parts⟩ := Document.nesting_record_le_iff.1 h
    simp only [List.forall_mem_cons] at parts
    obtain ⟨targetOk, iterOk, bodyOk⟩ := Stmt.everyConstant_forLoop.1 ok
    have readTarget := expr_toDocument target k targetOk parts.1
    have readIter := expr_toDocument iter k iterOk parts.2.1
    have readBody := block_toDocuments body k bodyOk parts.2.2.1
    have content : forLoop (k + 1) (.record
        [("target", target.toDocument), ("iter", iter.toDocument),
          ("body", .array (Stmt.toDocuments body))]) = some (.forLoop target iter body) := by
      simp [forLoop, Document.fields_record, Record.get, List.lookup_cons, readTarget, readIter,
        readBody]
    simp [Stmt.toDocument, tagged_eq_object, stmt, content]
  | .whileLoop test body, n, ok, h => by
    rw [Stmt.toDocument, nesting_tagged_le_iff] at h
    obtain ⟨k, rfl, h⟩ := h
    obtain ⟨k, rfl, parts⟩ := Document.nesting_record_le_iff.1 h
    simp only [List.forall_mem_cons] at parts
    obtain ⟨testOk, bodyOk⟩ := Stmt.everyConstant_whileLoop.1 ok
    have readTest := expr_toDocument test k testOk parts.1
    have readBody := block_toDocuments body k bodyOk parts.2.1
    have content : whileLoop (k + 1) (.record
        [("test", test.toDocument), ("body", .array (Stmt.toDocuments body))]) =
        some (.whileLoop test body) := by
      simp [whileLoop, Document.fields_record, Record.get, List.lookup_cons, readTest, readBody]
    simp [Stmt.toDocument, tagged_eq_object, stmt, content]
  | .global names, n, _, h => by
    rw [Stmt.toDocument, nesting_tagged_le_iff] at h
    obtain ⟨k, rfl, h⟩ := h
    have read := list_toDocument Decoder.string h fun _ _ _ _ => rfl
    simp [Stmt.toDocument, tagged_eq_object, stmt, read]

theorem block_toDocuments : ∀ (body : List Stmt) (n : Nat), (∀ s ∈ body, StmtStorable s) →
    (Document.array (Stmt.toDocuments body)).nesting ≤ n →
    block n (.array (Stmt.toDocuments body)) = some body
  | body, n, ok, h => by
    obtain ⟨k, rfl, parts⟩ := Document.nesting_array_le_iff.1 h
    exact stmts_toDocuments body k ok parts

theorem stmts_toDocuments : ∀ (body : List Stmt) (n : Nat), (∀ s ∈ body, StmtStorable s) →
    (∀ d ∈ Stmt.toDocuments body, d.nesting ≤ n) →
    (Stmt.toDocuments body).mapM (stmt n) = some body
  | [], _, _, _ => rfl
  | s :: rest, n, ok, h => by
    simp only [Stmt.toDocuments, List.forall_mem_cons] at ok h
    have first := stmt_toDocument s n ok.1 h.1
    have later := stmts_toDocuments rest n ok.2 h.2
    simp [Stmt.toDocuments, first, later]
end

theorem module_toDocument {n : Nat} {m : Module} (ok : m.EveryConstant Constant.Storable)
    (h : m.toDocument.nesting ≤ n) : module n m.toDocument = some m := by
  obtain ⟨k, rfl, parts⟩ := Document.nesting_record_le_iff.1 h
  simp only [List.forall_mem_cons] at parts
  have read := block_toDocuments m.body k (Module.everyConstant_iff.1 ok) parts.1
  simp [Module.toDocument, module, Document.fields_record, Record.get, read]

end Decode

end Loom
