import Loom.Proofs.Document.Reading
import Loom.Proofs.Tree.Codec

/-!
# Trees and their texts

The document of a tree without doubles is plain, so its text is read as that document again, and the
decoder reads the tree back from it. Different trees have different documents, hence different
texts.
-/

namespace Loom

open Document (Plain AllPlain FieldsPlain)

/-! ## Plain documents -/

theorem Document.plain_record {fs : Document.Record} :
    (Document.record fs).Plain ↔ ∀ f ∈ fs, f.2.Plain := by
  have each : ∀ gs : Document.Record,
      FieldsPlain (gs.map fun g => (some g.1, g.2)) ↔ ∀ g ∈ gs, g.2.Plain := by
    intro gs
    induction gs with
    | nil => simp [FieldsPlain]
    | cons g gs ih => simp [FieldsPlain, ih]
  simpa only [Document.record, Plain] using each fs

theorem Document.plain_array {ds : List Document} :
    (Document.array ds).Plain ↔ ∀ d ∈ ds, d.Plain := by
  have each : AllPlain ds ↔ ∀ d ∈ ds, d.Plain := by
    induction ds with
    | nil => simp [AllPlain]
    | cons d ds ih => simp [AllPlain, ih]
  simpa only [Plain] using each

@[simp] theorem Document.plain_str (s : String) : (Document.str s).Plain := rfl

@[simp] theorem Document.plain_optional (s : Option String) : (Document.optional s).Plain := by
  cases s with
  | none => trivial
  | some s => exact plain_str s

@[simp] theorem plain_tagged {tag : String} {d : Document} : (tagged tag d).Plain ↔ d.Plain := by
  simp [tagged, Document.plain_record]

/-- The constant is no double. -/
abbrev Constant.NotFloat (c : Constant) : Prop := ∀ x, c ≠ .float x

theorem Constant.plain_toDocument {c : Constant} (h : c.NotFloat) : c.toDocument.Plain := by
  cases c with
  | none => rfl
  | bool b => simp [toDocument, Plain]
  | int i => simp [toDocument, Document.int, Plain]
  | float x => exact absurd rfl (h x)
  | str s => simp [toDocument]

namespace Expr

mutual
theorem plain_toDocument : ∀ e : Expr, e.EveryConstant Constant.NotFloat → e.toDocument.Plain
  | .name id, _ => by simp [toDocument]
  | .attribute value attr, h => by
    have := plain_toDocument value (by simpa using h)
    simpa [toDocument, Document.plain_record] using this
  | .call func args keywords, h => by
    obtain ⟨hfunc, hargs, hkeywords⟩ := everyConstant_call.1 h
    have := plain_toDocument func hfunc
    have := plain_toDocuments args hargs
    have := plain_keywordDocuments keywords hkeywords
    simp_all [toDocument, Document.plain_record, Document.plain_array]
  | .constant c, h => by
    simpa [toDocument] using Constant.plain_toDocument (everyConstant_constant.1 h)
  | .tuple items, h => by
    simpa [toDocument, Document.plain_array] using plain_toDocuments items (everyConstant_tuple.1 h)
  | .list items, h => by
    simpa [toDocument, Document.plain_array] using plain_toDocuments items (everyConstant_list.1 h)
  | .compare left op right, h => by
    obtain ⟨hleft, hright⟩ := everyConstant_compare.1 h
    simpa [toDocument, Document.plain_record] using
      ⟨plain_toDocument left hleft, plain_toDocument right hright⟩
  | .binOp left op right, h => by
    obtain ⟨hleft, hright⟩ := everyConstant_binOp.1 h
    simpa [toDocument, Document.plain_record] using
      ⟨plain_toDocument left hleft, plain_toDocument right hright⟩
  | .woven w, _ => by simp [toDocument, Woven.toDocument, Document.plain_record]

theorem plain_toDocuments : ∀ es : List Expr, (∀ e ∈ es, e.EveryConstant Constant.NotFloat) →
    ∀ d ∈ toDocuments es, d.Plain
  | [], _ => by simp [toDocuments]
  | e :: es, h => by
    simp only [toDocuments, List.forall_mem_cons] at h ⊢
    exact ⟨plain_toDocument e h.1, plain_toDocuments es h.2⟩

theorem plain_keywordDocuments : ∀ ks : List (Keyword Expr),
    (∀ k ∈ ks, k.value.EveryConstant Constant.NotFloat) → ∀ d ∈ keywordDocuments ks, d.Plain
  | [], _ => by simp [keywordDocuments]
  | ⟨arg, value⟩ :: ks, h => by
    simp only [keywordDocuments, List.forall_mem_cons] at h ⊢
    refine ⟨?_, plain_keywordDocuments ks h.2⟩
    simpa [Document.plain_record] using plain_toDocument value h.1
end

end Expr

theorem plain_optionalExpr {v : Option Expr} (h : ∀ e ∈ v, e.EveryConstant Constant.NotFloat) :
    (optionalExpr v).Plain := by
  cases v with
  | none => trivial
  | some e => exact e.plain_toDocument (h e rfl)

theorem Alias.plain_toDocument (a : Alias) : a.toDocument.Plain := by
  simp [toDocument, Document.plain_record]

theorem Param.plain_toDocument {p : Param} (h : p.EveryConstant Constant.NotFloat) :
    p.toDocument.Plain := by
  simpa [toDocument, Document.plain_record] using plain_optionalExpr h

namespace Stmt

open Loom.Expr (plain_toDocuments plain_keywordDocuments)

mutual
theorem plain_toDocument : ∀ s : Stmt, s.EveryConstant Constant.NotFloat → s.toDocument.Plain
  | .functionDef ⟨name, params, decorators, body⟩, h => by
    obtain ⟨hdecorators, hparams, hbody⟩ := everyConstant_functionDef.1 h
    have plainParams : ∀ p ∈ params, p.toDocument.Plain := fun p hp =>
      Param.plain_toDocument (hparams p hp)
    have plainDecorators := plain_toDocuments decorators hdecorators
    have plainBody := plain_blockDocuments body hbody
    simpa [toDocument, Document.plain_record, Document.plain_array] using
      ⟨plainParams, plainDecorators, plainBody⟩
  | .classDef ⟨name, bases, keywords, decorators, body⟩, h => by
    obtain ⟨hdecorators, hbases, hkeywords, hbody⟩ := everyConstant_classDef.1 h
    have plainBases := plain_toDocuments bases hbases
    have plainKeywords := plain_keywordDocuments keywords hkeywords
    have plainDecorators := plain_toDocuments decorators hdecorators
    have plainBody := plain_blockDocuments body hbody
    simpa [toDocument, Document.plain_record, Document.plain_array] using
      ⟨plainBases, plainKeywords, plainDecorators, plainBody⟩
  | .assign targets value, h => by
    obtain ⟨htargets, hvalue⟩ := everyConstant_assign.1 h
    simpa [toDocument, Document.plain_record, Document.plain_array] using
      ⟨plain_toDocuments targets htargets, value.plain_toDocument hvalue⟩
  | .expr e, h => by simpa [toDocument] using e.plain_toDocument h
  | .ret value, h => by simpa [toDocument] using plain_optionalExpr (everyConstant_ret.1 h)
  | .delete targets, h => by
    simpa [toDocument, Document.plain_array] using
      plain_toDocuments targets (everyConstant_delete.1 h)
  | .pass, _ => by simp [toDocument]
  | .importNames names, _ => by
    simpa [toDocument, Document.plain_array] using fun a (_ : a ∈ names) => a.plain_toDocument
  | .importFrom module names, _ => by
    simpa [toDocument, Document.plain_record, Document.plain_array] using
      fun a (_ : a ∈ names) => a.plain_toDocument
  | .ifElse test body orelse, h => by
    obtain ⟨htest, hbody, horelse⟩ := everyConstant_ifElse.1 h
    simpa [toDocument, Document.plain_record, Document.plain_array] using
      ⟨test.plain_toDocument htest, plain_blockDocuments body hbody,
        plain_blockDocuments orelse horelse⟩
  | .forLoop target iter body, h => by
    obtain ⟨htarget, hiter, hbody⟩ := everyConstant_forLoop.1 h
    simpa [toDocument, Document.plain_record, Document.plain_array] using
      ⟨target.plain_toDocument htarget, iter.plain_toDocument hiter,
        plain_blockDocuments body hbody⟩
  | .whileLoop test body, h => by
    obtain ⟨htest, hbody⟩ := everyConstant_whileLoop.1 h
    simpa [toDocument, Document.plain_record, Document.plain_array] using
      ⟨test.plain_toDocument htest, plain_blockDocuments body hbody⟩
  | .global names, _ => by simp [toDocument, Document.plain_array]

theorem plain_blockDocuments : ∀ body : List Stmt,
    (∀ s ∈ body, s.EveryConstant Constant.NotFloat) → ∀ d ∈ toDocuments body, d.Plain
  | [], _ => by simp [toDocuments]
  | s :: rest, h => by
    simp only [toDocuments, List.forall_mem_cons] at h ⊢
    exact ⟨plain_toDocument s h.1, plain_blockDocuments rest h.2⟩
end

end Stmt

theorem Module.plain_toDocument {m : Module} (h : m.FloatFree) : m.toDocument.Plain := by
  simpa [toDocument, Document.plain_record, Document.plain_array] using
    Stmt.plain_blockDocuments m.body (everyConstant_iff.1 h)

/-! ## Different trees have different documents -/

theorem Document.int_injective {i j : Int} (h : Document.int i = Document.int j) : i = j := by
  have same : Number.Numeral.ofInt i = Number.Numeral.ofInt j := Document.number.inj h
  have read := congrArg Number.Numeral.toInt? same
  simpa using read

theorem Constant.toDocument_injective {c₁ c₂ : Constant} (h₁ : c₁.NotFloat) (h₂ : c₂.NotFloat)
    (h : c₁.toDocument = c₂.toDocument) : c₁ = c₂ := by
  cases c₁ with
  | float x => exact absurd rfl (h₁ x)
  | none =>
    cases c₂ with
    | float x => exact absurd rfl (h₂ x)
    | none => rfl
    | bool | int | str => simp [toDocument, tagged, Document.record, Document.str] at h
  | bool b =>
    cases c₂ with
    | float x => exact absurd rfl (h₂ x)
    | bool b => simpa [toDocument, tagged, Document.record] using h
    | none | int | str => simp [toDocument, tagged, Document.record, Document.str] at h
  | int i =>
    cases c₂ with
    | float x => exact absurd rfl (h₂ x)
    | int j =>
      have same : Document.int i = Document.int j := by
        simpa [toDocument, tagged, Document.record] using h
      rw [Document.int_injective same]
    | none | bool | str => simp [toDocument, tagged, Document.record, Document.str] at h
  | str s =>
    cases c₂ with
    | float x => exact absurd rfl (h₂ x)
    | str t => simpa [toDocument, tagged, Document.record, Document.str] using h
    | none | bool | int => simp [toDocument, tagged, Document.record, Document.str] at h

theorem CmpOp.label_injective {a b : CmpOp} (h : a.label = b.label) : a = b := by
  have read := congrArg (fun text => Decode.cmpOp 0 (.str text)) h
  simpa [Decode.cmpOp_label] using read

theorem BinOp.label_injective {a b : BinOp} (h : a.label = b.label) : a = b := by
  have read := congrArg (fun text => Decode.binOp 0 (.str text)) h
  simpa [Decode.binOp_label] using read

theorem Woven.toDocument_injective {v w : Woven} (h : v.toDocument = w.toDocument) : v = w := by
  have read := congrArg (Decode.woven 1) h
  simpa [Decode.woven_toDocument, Woven.nesting_toDocument] using read

/-- Documents of structures with the same fields are equal field by field. -/
theorem Document.record_inj {fs gs : Document.Record} :
    Document.record fs = Document.record gs ↔ fs = gs := by
  constructor
  · intro h
    have same := Document.object.inj h
    refine List.map_inj_right ?_ |>.1 same
    rintro ⟨k, d⟩ ⟨l, e⟩ h
    simpa using h
  · rintro rfl
    rfl

namespace Expr

mutual
theorem toDocument_injective : ∀ e₁ e₂ : Expr, e₁.EveryConstant Constant.NotFloat →
    e₂.EveryConstant Constant.NotFloat → e₁.toDocument = e₂.toDocument → e₁ = e₂
  | .name id, e₂, _, _, h => by
    cases e₂ with
    | name => simpa [toDocument, tagged_eq_object, Document.str] using h
    | _ => simp [toDocument, tagged_eq_object] at h
  | .attribute value attr, e₂, ok₁, ok₂, h => by
    cases e₂ with
    | «attribute» value₂ attr₂ =>
      simp [toDocument, tagged_eq_object, Document.record_inj, Document.str] at h
      rw [toDocument_injective value value₂ (by simpa using ok₁) (by simpa using ok₂) h.1, h.2]
    | _ => simp [toDocument, tagged_eq_object] at h
  | .call func args keywords, e₂, ok₁, ok₂, h => by
    cases e₂ with
    | call func₂ args₂ keywords₂ =>
      simp [toDocument, tagged_eq_object, Document.record_inj] at h
      rw [everyConstant_call] at ok₁ ok₂
      rw [toDocument_injective func func₂ ok₁.1 ok₂.1 h.1,
        toDocuments_injective args args₂ ok₁.2.1 ok₂.2.1 h.2.1,
        keywordDocuments_injective keywords keywords₂ ok₁.2.2 ok₂.2.2 h.2.2]
    | _ => simp [toDocument, tagged_eq_object] at h
  | .constant c, e₂, ok₁, ok₂, h => by
    cases e₂ with
    | constant c₂ =>
      simp [toDocument, tagged_eq_object] at h
      rw [everyConstant_constant] at ok₁ ok₂
      rw [Constant.toDocument_injective ok₁ ok₂ h]
    | _ => simp [toDocument, tagged_eq_object] at h
  | .tuple items, e₂, ok₁, ok₂, h => by
    cases e₂ with
    | tuple items₂ =>
      simp [toDocument, tagged_eq_object] at h
      rw [everyConstant_tuple] at ok₁ ok₂
      rw [toDocuments_injective items items₂ ok₁ ok₂ h]
    | _ => simp [toDocument, tagged_eq_object] at h
  | .list items, e₂, ok₁, ok₂, h => by
    cases e₂ with
    | list items₂ =>
      simp [toDocument, tagged_eq_object] at h
      rw [everyConstant_list] at ok₁ ok₂
      rw [toDocuments_injective items items₂ ok₁ ok₂ h]
    | _ => simp [toDocument, tagged_eq_object] at h
  | .compare left op right, e₂, ok₁, ok₂, h => by
    cases e₂ with
    | compare left₂ op₂ right₂ =>
      simp [toDocument, tagged_eq_object, Document.record_inj, Document.str] at h
      rw [everyConstant_compare] at ok₁ ok₂
      rw [toDocument_injective left left₂ ok₁.1 ok₂.1 h.1, CmpOp.label_injective h.2.1,
        toDocument_injective right right₂ ok₁.2 ok₂.2 h.2.2]
    | _ => simp [toDocument, tagged_eq_object] at h
  | .binOp left op right, e₂, ok₁, ok₂, h => by
    cases e₂ with
    | binOp left₂ op₂ right₂ =>
      simp [toDocument, tagged_eq_object, Document.record_inj, Document.str] at h
      rw [everyConstant_binOp] at ok₁ ok₂
      rw [toDocument_injective left left₂ ok₁.1 ok₂.1 h.1, BinOp.label_injective h.2.1,
        toDocument_injective right right₂ ok₁.2 ok₂.2 h.2.2]
    | _ => simp [toDocument, tagged_eq_object] at h
  | .woven w, e₂, _, _, h => by
    cases e₂ with
    | woven w₂ =>
      simp [toDocument, tagged_eq_object] at h
      rw [Woven.toDocument_injective h]
    | _ => simp [toDocument, tagged_eq_object] at h

theorem toDocuments_injective : ∀ es₁ es₂ : List Expr,
    (∀ e ∈ es₁, e.EveryConstant Constant.NotFloat) →
    (∀ e ∈ es₂, e.EveryConstant Constant.NotFloat) → toDocuments es₁ = toDocuments es₂ → es₁ = es₂
  | [], [], _, _, _ => rfl
  | [], _ :: _, _, _, h => by simp [toDocuments] at h
  | _ :: _, [], _, _, h => by simp [toDocuments] at h
  | e₁ :: es₁, e₂ :: es₂, ok₁, ok₂, h => by
    simp only [toDocuments, List.cons.injEq] at h
    rw [List.forall_mem_cons] at ok₁ ok₂
    rw [toDocument_injective e₁ e₂ ok₁.1 ok₂.1 h.1, toDocuments_injective es₁ es₂ ok₁.2 ok₂.2 h.2]

theorem keywordDocuments_injective : ∀ ks₁ ks₂ : List (Keyword Expr),
    (∀ k ∈ ks₁, k.value.EveryConstant Constant.NotFloat) →
    (∀ k ∈ ks₂, k.value.EveryConstant Constant.NotFloat) →
    keywordDocuments ks₁ = keywordDocuments ks₂ → ks₁ = ks₂
  | [], [], _, _, _ => rfl
  | [], _ :: _, _, _, h => by simp [keywordDocuments] at h
  | _ :: _, [], _, _, h => by simp [keywordDocuments] at h
  | ⟨arg₁, value₁⟩ :: ks₁, ⟨arg₂, value₂⟩ :: ks₂, ok₁, ok₂, h => by
    simp [keywordDocuments, Document.record_inj, Document.str] at h
    rw [List.forall_mem_cons] at ok₁ ok₂
    rw [toDocument_injective value₁ value₂ ok₁.1 ok₂.1 h.1.2, h.1.1,
      keywordDocuments_injective ks₁ ks₂ ok₁.2 ok₂.2 h.2]
end

end Expr

theorem optionalExpr_injective {v₁ v₂ : Option Expr}
    (ok₁ : ∀ e ∈ v₁, e.EveryConstant Constant.NotFloat)
    (ok₂ : ∀ e ∈ v₂, e.EveryConstant Constant.NotFloat) (h : optionalExpr v₁ = optionalExpr v₂) :
    v₁ = v₂ := by
  have shown : ∀ e : Expr, e.toDocument ≠ .null := by
    intro e null
    have pos := e.nesting_toDocument_pos
    simp [null, Document.nesting] at pos
  cases v₁ with
  | none =>
    cases v₂ with
    | none => rfl
    | some e => exact absurd h.symm (shown e)
  | some e₁ =>
    cases v₂ with
    | none => exact absurd h (shown e₁)
    | some e₂ => rw [e₁.toDocument_injective e₂ (ok₁ e₁ rfl) (ok₂ e₂ rfl) h]

theorem Document.optional_injective {s t : Option String}
    (h : Document.optional s = Document.optional t) : s = t := by
  cases s <;> cases t <;> simp_all [Document.optional, Document.str]

theorem Alias.toDocument_injective {a b : Alias} (h : a.toDocument = b.toDocument) : a = b := by
  obtain ⟨name₁, asName₁⟩ := a
  obtain ⟨name₂, asName₂⟩ := b
  simp [toDocument, Document.record_inj, Document.str] at h
  rw [h.1, Document.optional_injective h.2]

theorem Param.toDocument_injective {p q : Param} (ok₁ : p.EveryConstant Constant.NotFloat)
    (ok₂ : q.EveryConstant Constant.NotFloat) (h : p.toDocument = q.toDocument) : p = q := by
  obtain ⟨name₁, default₁⟩ := p
  obtain ⟨name₂, default₂⟩ := q
  simp [toDocument, Document.record_inj, Document.str] at h
  have default : default₁ = default₂ := optionalExpr_injective ok₁ ok₂ h.2
  rw [h.1, default]

/-- Lists are equal when their images are, for a function injective on what they hold. -/
theorem eq_of_map_eq {α β : Type} {f : α → β} {P : α → Prop}
    (inj : ∀ a b, P a → P b → f a = f b → a = b) : ∀ {as bs : List α}, (∀ a ∈ as, P a) →
    (∀ b ∈ bs, P b) → as.map f = bs.map f → as = bs
  | [], [], _, _, _ => rfl
  | [], _ :: _, _, _, h => by simp at h
  | _ :: _, [], _, _, h => by simp at h
  | a :: as, b :: bs, ha, hb, h => by
    simp only [List.map_cons, List.cons.injEq] at h
    rw [List.forall_mem_cons] at ha hb
    rw [inj a b ha.1 hb.1 h.1, eq_of_map_eq inj ha.2 hb.2 h.2]

namespace Stmt

open Loom.Expr (toDocuments_injective keywordDocuments_injective)

mutual
theorem toDocument_injective : ∀ s₁ s₂ : Stmt, s₁.EveryConstant Constant.NotFloat →
    s₂.EveryConstant Constant.NotFloat → s₁.toDocument = s₂.toDocument → s₁ = s₂
  | .functionDef ⟨name, params, decorators, body⟩, s₂, ok₁, ok₂, h => by
    cases s₂ with
    | functionDef f =>
      obtain ⟨name₂, params₂, decorators₂, body₂⟩ := f
      simp [toDocument, tagged_eq_object, Document.record_inj, Document.str] at h
      rw [everyConstant_functionDef] at ok₁ ok₂
      have sameParams : params = params₂ :=
        eq_of_map_eq (fun _ _ => Param.toDocument_injective) ok₁.2.1 ok₂.2.1 h.2.1
      rw [h.1, sameParams, toDocuments_injective decorators decorators₂ ok₁.1 ok₂.1 h.2.2.1,
        blockDocuments_injective body body₂ ok₁.2.2 ok₂.2.2 h.2.2.2]
    | _ => simp [toDocument, tagged_eq_object, Document.str] at h
  | .classDef ⟨name, bases, keywords, decorators, body⟩, s₂, ok₁, ok₂, h => by
    cases s₂ with
    | classDef c =>
      obtain ⟨name₂, bases₂, keywords₂, decorators₂, body₂⟩ := c
      simp [toDocument, tagged_eq_object, Document.record_inj, Document.str] at h
      rw [everyConstant_classDef] at ok₁ ok₂
      rw [h.1, toDocuments_injective bases bases₂ ok₁.2.1 ok₂.2.1 h.2.1,
        keywordDocuments_injective keywords keywords₂ ok₁.2.2.1 ok₂.2.2.1 h.2.2.1,
        toDocuments_injective decorators decorators₂ ok₁.1 ok₂.1 h.2.2.2.1,
        blockDocuments_injective body body₂ ok₁.2.2.2 ok₂.2.2.2 h.2.2.2.2]
    | _ => simp [toDocument, tagged_eq_object, Document.str] at h
  | .assign targets value, s₂, ok₁, ok₂, h => by
    cases s₂ with
    | assign targets₂ value₂ =>
      simp [toDocument, tagged_eq_object, Document.record_inj] at h
      rw [everyConstant_assign] at ok₁ ok₂
      rw [toDocuments_injective targets targets₂ ok₁.1 ok₂.1 h.1,
        value.toDocument_injective value₂ ok₁.2 ok₂.2 h.2]
    | _ => simp [toDocument, tagged_eq_object, Document.str] at h
  | .expr e, s₂, ok₁, ok₂, h => by
    cases s₂ with
    | expr e₂ =>
      simp [toDocument, tagged_eq_object] at h
      rw [e.toDocument_injective e₂ ok₁ ok₂ h]
    | _ => simp [toDocument, tagged_eq_object, Document.str] at h
  | .ret value, s₂, ok₁, ok₂, h => by
    cases s₂ with
    | ret value₂ =>
      simp [toDocument, tagged_eq_object] at h
      rw [everyConstant_ret] at ok₁ ok₂
      rw [optionalExpr_injective ok₁ ok₂ h]
    | _ => simp [toDocument, tagged_eq_object, Document.str] at h
  | .delete targets, s₂, ok₁, ok₂, h => by
    cases s₂ with
    | delete targets₂ =>
      simp [toDocument, tagged_eq_object] at h
      rw [everyConstant_delete] at ok₁ ok₂
      rw [toDocuments_injective targets targets₂ ok₁ ok₂ h]
    | _ => simp [toDocument, tagged_eq_object, Document.str] at h
  | .pass, s₂, _, _, h => by
    cases s₂ with
    | pass => rfl
    | _ => simp [toDocument, tagged_eq_object, Document.str] at h
  | .importNames names, s₂, _, _, h => by
    cases s₂ with
    | importNames names₂ =>
      simp [toDocument, tagged_eq_object] at h
      rw [List.map_inj_right (fun _ _ => Alias.toDocument_injective) |>.1 h]
    | _ => simp [toDocument, tagged_eq_object, Document.str] at h
  | .importFrom module names, s₂, _, _, h => by
    cases s₂ with
    | importFrom module₂ names₂ =>
      simp [toDocument, tagged_eq_object, Document.record_inj, Document.str] at h
      rw [h.1, List.map_inj_right (fun _ _ => Alias.toDocument_injective) |>.1 h.2]
    | _ => simp [toDocument, tagged_eq_object, Document.str] at h
  | .ifElse test body orelse, s₂, ok₁, ok₂, h => by
    cases s₂ with
    | ifElse test₂ body₂ orelse₂ =>
      simp [toDocument, tagged_eq_object, Document.record_inj] at h
      rw [everyConstant_ifElse] at ok₁ ok₂
      rw [test.toDocument_injective test₂ ok₁.1 ok₂.1 h.1,
        blockDocuments_injective body body₂ ok₁.2.1 ok₂.2.1 h.2.1,
        blockDocuments_injective orelse orelse₂ ok₁.2.2 ok₂.2.2 h.2.2]
    | _ => simp [toDocument, tagged_eq_object, Document.str] at h
  | .forLoop target iter body, s₂, ok₁, ok₂, h => by
    cases s₂ with
    | forLoop target₂ iter₂ body₂ =>
      simp [toDocument, tagged_eq_object, Document.record_inj] at h
      rw [everyConstant_forLoop] at ok₁ ok₂
      rw [target.toDocument_injective target₂ ok₁.1 ok₂.1 h.1,
        iter.toDocument_injective iter₂ ok₁.2.1 ok₂.2.1 h.2.1,
        blockDocuments_injective body body₂ ok₁.2.2 ok₂.2.2 h.2.2]
    | _ => simp [toDocument, tagged_eq_object, Document.str] at h
  | .whileLoop test body, s₂, ok₁, ok₂, h => by
    cases s₂ with
    | whileLoop test₂ body₂ =>
      simp [toDocument, tagged_eq_object, Document.record_inj] at h
      rw [everyConstant_whileLoop] at ok₁ ok₂
      rw [test.toDocument_injective test₂ ok₁.1 ok₂.1 h.1,
        blockDocuments_injective body body₂ ok₁.2 ok₂.2 h.2]
    | _ => simp [toDocument, tagged_eq_object, Document.str] at h
  | .global names, s₂, _, _, h => by
    cases s₂ with
    | global names₂ =>
      simp [toDocument, tagged_eq_object] at h
      rw [List.map_inj_right (fun _ _ h => by simpa [Document.str] using h) |>.1 h]
    | _ => simp [toDocument, tagged_eq_object, Document.str] at h

theorem blockDocuments_injective : ∀ body₁ body₂ : List Stmt,
    (∀ s ∈ body₁, s.EveryConstant Constant.NotFloat) →
    (∀ s ∈ body₂, s.EveryConstant Constant.NotFloat) →
    toDocuments body₁ = toDocuments body₂ → body₁ = body₂
  | [], [], _, _, _ => rfl
  | [], _ :: _, _, _, h => by simp [toDocuments] at h
  | _ :: _, [], _, _, h => by simp [toDocuments] at h
  | s₁ :: rest₁, s₂ :: rest₂, ok₁, ok₂, h => by
    simp only [toDocuments, List.cons.injEq] at h
    rw [List.forall_mem_cons] at ok₁ ok₂
    rw [toDocument_injective s₁ s₂ ok₁.1 ok₂.1 h.1,
      blockDocuments_injective rest₁ rest₂ ok₁.2 ok₂.2 h.2]
end

end Stmt

/-! ## Texts -/

namespace Module

theorem toDocument_injective {m₁ m₂ : Module} (ok₁ : m₁.FloatFree) (ok₂ : m₂.FloatFree)
    (h : m₁.toDocument = m₂.toDocument) : m₁ = m₂ := by
  obtain ⟨body₁⟩ := m₁
  obtain ⟨body₂⟩ := m₂
  simp [toDocument, Document.record_inj] at h
  have same := Stmt.blockDocuments_injective body₁ body₂ (everyConstant_iff.1 ok₁)
    (everyConstant_iff.1 ok₂) h
  rw [same]

theorem parse_toJson {m : Module} (h : m.FloatFree) :
    Document.parse m.toJson = some m.toDocument :=
  Document.parse_pretty m.toDocument (plain_toDocument h)

theorem everyConstant_storable {m : Module} (floats : m.FloatFree)
    (ints : m.EveryConstant Constant.InRange) : m.EveryConstant Constant.Storable := by
  intro c hc
  have range := ints c hc
  cases c with
  | float x => exact absurd rfl (floats _ hc x)
  | none | bool | int | str => exact range

/-- A module without doubles whose integers are within 64 bits is read back from its text exactly
when its document nests within the limit. -/
theorem ofJson?_toJson_iff {m : Module} (floats : m.FloatFree)
    (ints : m.EveryConstant Constant.InRange) :
    ofJson? m.toJson = some m ↔ m.toDocument.nesting ≤ Document.nestingLimit := by
  rw [ofJson?, parse_toJson floats, Option.bind_some, ofDocument?]
  constructor
  · intro h
    have small := (Decode.module_tight _ _ _ h).1
    exact Nat.le_trans small (Nat.min_le_left ..)
  · intro h
    exact Decode.module_toDocument (everyConstant_storable floats ints) h

/-- The text of a tree is a normal form of every text it can be read from: it is read as the same
tree, it nests no deeper than that text and than the decoder allows, and no other tree has it. -/
theorem toJson_normal_form :
    (∀ (text : String) (m : Module), ofJson? text = some m → m.FloatFree →
      ofJson? m.toJson = some m ∧
        ∃ d printed, Document.parse text = some d ∧ Document.parse m.toJson = some printed ∧
          printed.nesting ≤ d.nesting ∧ printed.nesting ≤ Document.nestingLimit) ∧
      ∀ m₁ m₂ : Module, m₁.FloatFree → m₂.FloatFree → m₁.toJson = m₂.toJson → m₁ = m₂ := by
  constructor
  · intro text m read floats
    obtain ⟨d, parsed, decoded⟩ := Option.bind_eq_some_iff.1 read
    obtain ⟨small, ints⟩ := Decode.module_tight _ _ _ decoded
    have allowed : m.toDocument.nesting ≤ Document.nestingLimit :=
      Nat.le_trans small (Nat.min_le_left ..)
    have within : m.toDocument.nesting ≤ d.nesting := Nat.le_trans small (Nat.min_le_right ..)
    exact ⟨(ofJson?_toJson_iff floats ints).2 allowed, d, m.toDocument, parsed,
      parse_toJson floats, within, allowed⟩
  · intro m₁ m₂ ok₁ ok₂ same
    have parsed := parse_toJson ok₁
    rw [same, parse_toJson ok₂] at parsed
    exact toDocument_injective ok₁ ok₂ (Option.some.inj parsed).symm

/-- A spelling that the printer does not use: arrays for structures, a field too many, one missing,
the others out of order, and an object for a variant without content. -/
def passSpelling : Document :=
  .array [.array [tagged "FunctionDef"
    (.record [("x", .null), ("body", .array [tagged "Pass" .null]), ("name", .str "f")])]]

theorem toJson_normal_form_of_passSpelling :
    ofJson? (toJson ⟨[.functionDef ⟨"f", [], [], [.pass]⟩]⟩) =
      some ⟨[.functionDef ⟨"f", [], [], [.pass]⟩]⟩ := by
  have plain : passSpelling.Plain := by
    simp [passSpelling, tagged, Document.record, Document.str, Plain, AllPlain, FieldsPlain]
  have read : ofJson? passSpelling.pretty = some ⟨[.functionDef ⟨"f", [], [], [.pass]⟩]⟩ := by
    rw [ofJson?, Document.parse_pretty _ plain]
    rfl
  exact (toJson_normal_form.1 _ _ read (by simp [FloatFree, everyConstant_iff])).1

end Module

end Loom
