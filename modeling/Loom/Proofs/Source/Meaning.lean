import Loom.Proofs.Source.Grammar

/-!
# What the text of an expression says

An expression says what it is (`Expr.reading`), but its text may say something else to Python: a
minus in front of an operand is read after the attributes, the calls and the power that follow it,
and a point after digits belongs to them. `meaning?` is what is read of an expression after its
minus. The two agree just where no integer constant stands in such a place (`spoken?_eq_iff`).
-/

namespace Loom

open Grammar (Reading)

namespace Expr

/-! ## Properties of all parts -/

/-- The expression and all parts of it satisfy `P`. -/
def Every (P : Expr → Prop) (e : Expr) : Prop := ∀ x ∈ e.subterms, P x

section

variable {P : Expr → Prop}

theorem forall_mem_subtermsIn {es : List Expr} :
    (∀ x ∈ subtermsIn es, P x) ↔ ∀ e ∈ es, e.Every P := by
  simp only [mem_subtermsIn, Every]
  constructor
  · intro h e he x hx
    exact h x ⟨e, he, hx⟩
  · rintro h x ⟨e, he, hx⟩
    exact h e he x hx

theorem forall_mem_keywordSubterms {ks : List (Keyword Expr)} :
    (∀ x ∈ keywordSubterms ks, P x) ↔ ∀ k ∈ ks, k.value.Every P := by
  simp only [mem_keywordSubterms, Every]
  constructor
  · intro h k hk x hx
    exact h x ⟨k, hk, hx⟩
  · rintro h x ⟨k, hk, hx⟩
    exact h k hk x hx

theorem every_name {id : String} : (name id).Every P ↔ P (.name id) := by
  simp [Every, subterms]

theorem every_attribute {value : Expr} {attr : String} :
    (Expr.attribute value attr).Every P ↔ P (.attribute value attr) ∧ value.Every P := by
  simp [Every, subterms]

theorem every_call {func : Expr} {args : List Expr} {keywords : List (Keyword Expr)} :
    (call func args keywords).Every P ↔ P (.call func args keywords) ∧ func.Every P ∧
      (∀ a ∈ args, a.Every P) ∧ ∀ k ∈ keywords, k.value.Every P := by
  rw [← forall_mem_subtermsIn, ← forall_mem_keywordSubterms]
  simp only [Every, subterms, List.cons_append, List.forall_mem_cons, List.forall_mem_append]
  exact and_congr_right fun _ => and_assoc

theorem every_constant {c : Constant} : (constant c).Every P ↔ P (.constant c) := by
  simp [Every, subterms]

theorem every_tuple {items : List Expr} :
    (tuple items).Every P ↔ P (.tuple items) ∧ ∀ e ∈ items, e.Every P := by
  rw [← forall_mem_subtermsIn, Every, subterms, List.forall_mem_cons]

theorem every_list {items : List Expr} :
    (list items).Every P ↔ P (.list items) ∧ ∀ e ∈ items, e.Every P := by
  rw [← forall_mem_subtermsIn, Every, subterms, List.forall_mem_cons]

theorem every_compare {left right : Expr} {op : CmpOp} :
    (compare left op right).Every P ↔
      P (.compare left op right) ∧ left.Every P ∧ right.Every P := by
  simp [Every, subterms, or_imp, forall_and]

theorem every_binOp {left right : Expr} {op : BinOp} :
    (binOp left op right).Every P ↔ P (.binOp left op right) ∧ left.Every P ∧ right.Every P := by
  simp [Every, subterms, or_imp, forall_and]

theorem every_woven {w : Woven} : (woven w).Every P ↔ P (.woven w) := by
  simp [Every, subterms]

end

/-- The identifiers that stand in the expression itself. -/
def ownIdentifiers : Expr → List String
  | .name id => [id]
  | .attribute _ attr => [attr]
  | .call _ _ keywords => keywords.map (·.arg)
  | .woven w => [w.shortName, w.declName]
  | _ => []

/-- No identifier of the expression itself is a reserved word. -/
def OwnFree (e : Expr) : Prop := ∀ id ∈ e.ownIdentifiers, id ∉ reservedWords

end Expr

/-! ## What expressions say -/

/-- A negative integer says that a literal is negated. -/
def Constant.reading : Constant → Reading
  | .int i => if i < 0 then .negative (.constant (.int i.natAbs)) else .constant (.int i)
  | c => .constant c

namespace Expr

mutual
/-- What an expression says: what it is, with woven references as attributes of their alias. -/
def reading : Expr → Reading
  | .name id => .name id
  | .attribute value attr => .attribute (reading value) attr
  | .call func args keywords => .call (reading func) (readings args) (keywordReadings keywords)
  | .constant c => c.reading
  | .tuple items => .tuple (readings items)
  | .list items => .list (readings items)
  | .compare left op right => .compare (reading left) [(op, reading right)]
  | .binOp left op right => .binOp (reading left) op (reading right)
  | .woven w => .attribute (.name w.shortName) w.declName

def readings : List Expr → List Reading
  | [] => []
  | e :: es => reading e :: readings es

def keywordReadings : List (Keyword Expr) → List (Keyword Reading)
  | [] => []
  | ⟨arg, value⟩ :: rest => ⟨arg, reading value⟩ :: keywordReadings rest
end

end Expr

namespace Grammar

open Source

/-! ## What texts say -/

/-- The value under the minus of `e`, if it has one. -/
def signed (e : Expr) (r : Reading) : Reading := if isNegative e then .negative r else r

/-- The constant without its sign. -/
def magnitude : Constant → Constant
  | .int i => .int i.natAbs
  | c => c

theorem signed_of_isNegative {e : Expr} (negative : isNegative e = true) :
    signed e = .negative := by
  funext r
  simp [signed, negative]

theorem signed_of_positive {e : Expr} (positive : isNegative e = false) : signed e = id := by
  funext r
  simp [signed, positive]

mutual
/-- What the text of `e` is read as after its minus. -/
def meaning? : Expr → Option Reading
  | .name id => some (.name id)
  | .attribute (.constant (.int _)) _ => none
  | .attribute value attr => do some (.attribute (← meaning? value) attr)
  | .call func args keywords => do
    some (.call (← meaning? func) (← meanings? args) (← keywordMeanings? keywords))
  | .constant c => some (.constant (magnitude c))
  | .tuple items => do some (.tuple (← meanings? items))
  | .list items => do some (.list (← meanings? items))
  | .compare left op right => do
    some (.compare (signed left (← meaning? left)) [(op, signed right (← meaning? right))])
  | .binOp left .pow right => do
    some (signed left (.binOp (← meaning? left) .pow (signed right (← meaning? right))))
  | .binOp left op right => do
    some (.binOp (signed left (← meaning? left)) op (signed right (← meaning? right)))
  | .woven w => some (.attribute (.name w.shortName) w.declName)

def meanings? : List Expr → Option (List Reading)
  | [] => some []
  | e :: es => do some (signed e (← meaning? e) :: (← meanings? es))

def keywordMeanings? : List (Keyword Expr) → Option (List (Keyword Reading))
  | [] => some []
  | ⟨arg, value⟩ :: rest => do
    some (⟨arg, signed value (← meaning? value)⟩ :: (← keywordMeanings? rest))
end

section

-- The equations are derived here, once, so that no later proof waits for another to derive them.
attribute [local simp] meaning? meanings? keywordMeanings?

end

/-- What the text of `e` is read as. -/
def spoken? (e : Expr) : Option Reading := (meaning? e).map (signed e)

/-- Without a minus what is read is the meaning. -/
theorem spoken?_eq {e : Expr} (positive : isNegative e = false) : spoken? e = meaning? e := by
  rw [spoken?, signed_of_positive positive, Option.map_id_fun, id_eq]

theorem isNegative_of_isOperation {e : Expr} (operation : e.isOperation = true) :
    isNegative e = false := by
  cases e <;> first | rfl | cases operation

theorem meaning?_attribute {value : Expr} (h : ¬ IsInteger value) (attr : String) :
    meaning? (.attribute value attr) =
      (meaning? value).bind fun r => some (.attribute r attr) := by
  rw [meaning?]
  · rfl
  · exact fun i eq => h ⟨i, eq⟩

section

variable {left right : Expr}

theorem spoken?_compare (op : CmpOp) : spoken? (.compare left op right) =
    (do some (Reading.compare (← spoken? left) [(op, ← spoken? right)])) := by
  rw [spoken?_eq rfl, meaning?, spoken?, spoken?]
  cases meaning? left <;> cases meaning? right <;> rfl

theorem spoken?_binOp {op : BinOp} (not_power : op ≠ .pow) : spoken? (.binOp left op right) =
    (do some (Reading.binOp (← spoken? left) op (← spoken? right))) := by
  rw [spoken?_eq rfl, meaning?, spoken?, spoken?]
  · cases meaning? left <;> cases meaning? right <;> rfl
  · exact not_power

/-- A minus on the left of a power is read after it. -/
theorem spoken?_power : spoken? (.binOp left .pow right) =
    (do some (Reading.binOp (← meaning? left) .pow (← spoken? right))).map (signed left) := by
  rw [spoken?_eq rfl, meaning?, spoken?]
  cases meaning? left <;> cases meaning? right <;> rfl

end

/-! ## Where a text says what is meant -/

def IsNegativeInteger (e : Expr) : Prop := ∃ i < 0, e = .constant (.int i)

/-- No integer constant stands where its text is taken apart: in front of a point, or with a minus
in front of a call or a power. -/
def Kept : Expr → Prop
  | .attribute value _ => ¬ IsInteger value
  | .call func _ _ => ¬ IsNegativeInteger func
  | .binOp left .pow _ => ¬ IsNegativeInteger left
  | _ => True

theorem isInteger_of_isNegativeInteger {e : Expr} : IsNegativeInteger e → IsInteger e := by
  rintro ⟨i, -, rfl⟩
  exact ⟨i, rfl⟩

theorem not_isNegativeInteger {e : Expr} (h : isNegative e = false) : ¬ IsNegativeInteger e := by
  rintro ⟨i, small, rfl⟩
  simp [isNegative, small] at h

/-- Where all is kept, a minus is that of a constant. -/
theorem isNegative_iff {e : Expr} (legible : e.Legible) (kept : e.Every Kept) :
    isNegative e = true ↔ IsNegativeInteger e := by
  induction legible with
  | @«attribute» value attr _ _ ih =>
    obtain ⟨own, value_kept⟩ := Expr.every_attribute.1 kept
    rw [isNegative, ih value_kept]
    refine ⟨fun negative => absurd (isInteger_of_isNegativeInteger negative) own, ?_⟩
    rintro ⟨i, -, ⟨⟩⟩
  | @call func args keywords _ _ _ _ ih _ _ =>
    obtain ⟨own, func_kept, -⟩ := Expr.every_call.1 kept
    rw [isNegative, ih func_kept]
    refine ⟨fun negative => absurd negative own, ?_⟩
    rintro ⟨i, -, ⟨⟩⟩
  | @constant c _ => cases c <;> simp [isNegative, IsNegativeInteger]
  | _ => simp [isNegative, IsNegativeInteger]

theorem spoken?_constant (c : Constant) : spoken? (.constant c) = some c.reading := by
  cases c with
  | int i =>
    rw [spoken?, meaning?, magnitude, Option.map_some, Constant.reading, signed, isNegative]
    by_cases negative : i < 0
    · simp [negative]
    · have natural : (i.natAbs : Int) = i := by omega
      simp [negative, natural]
  | _ => rfl

section

variable {es : List Expr} {ks : List (Keyword Expr)}

theorem meanings?_eq_iff (h : ∀ e ∈ es, spoken? e = some e.reading ↔ e.Every Kept) :
    meanings? es = some (Expr.readings es) ↔ ∀ e ∈ es, e.Every Kept := by
  induction es with
  | nil => simp [meanings?, Expr.readings]
  | cons e es ih =>
    have cons : meanings? (e :: es) = (spoken? e).bind fun r => (meanings? es).map (r :: ·) := by
      rw [meanings?, spoken?]
      cases meaning? e <;> cases meanings? es <;> rfl
    rw [List.forall_mem_cons, ← h e List.mem_cons_self,
      ← ih fun x hx => h x (List.mem_cons_of_mem _ hx), cons, Expr.readings]
    cases spoken? e <;> cases meanings? es <;> simp

theorem keywordMeanings?_eq_iff
    (h : ∀ k ∈ ks, spoken? k.value = some k.value.reading ↔ k.value.Every Kept) :
    keywordMeanings? ks = some (Expr.keywordReadings ks) ↔ ∀ k ∈ ks, k.value.Every Kept := by
  induction ks with
  | nil => simp [keywordMeanings?, Expr.keywordReadings]
  | cons k ks ih =>
    obtain ⟨arg, value⟩ := k
    have cons : keywordMeanings? (⟨arg, value⟩ :: ks) =
        (spoken? value).bind fun r => (keywordMeanings? ks).map (⟨arg, r⟩ :: ·) := by
      rw [keywordMeanings?, spoken?]
      cases meaning? value <;> cases keywordMeanings? ks <;> rfl
    rw [List.forall_mem_cons, ← h ⟨arg, value⟩ List.mem_cons_self,
      ← ih fun x hx => h x (List.mem_cons_of_mem _ hx), cons, Expr.keywordReadings]
    cases spoken? value <;> cases keywordMeanings? ks <;> simp

end

/-- What has a minus is no integer, or is not read as itself. -/
theorem not_kept_of_isNegative {e : Expr} (legible : e.Legible)
    (ih : spoken? e = some e.reading ↔ e.Every Kept) (negative : isNegative e = true) :
    ¬ (¬ IsNegativeInteger e ∧ spoken? e = some e.reading) := by
  rintro ⟨no_integer, said⟩
  exact no_integer ((isNegative_iff legible (ih.1 said)).1 negative)

/-- An expression is read as itself just if everything in it is kept. -/
theorem spoken?_eq_iff {e : Expr} (legible : e.Legible) :
    spoken? e = some e.reading ↔ e.Every Kept := by
  induction legible with
  | name _ _ => simp [spoken?, meaning?, signed, isNegative, Expr.reading, Expr.every_name, Kept]
  | @«attribute» value attr legible _ ih =>
    rw [Expr.every_attribute, ← ih, Kept, Expr.reading]
    by_cases integer : IsInteger value
    · obtain ⟨i, rfl⟩ := integer
      simp [spoken?, meaning?, IsInteger]
    · cases negative : isNegative value with
      | false =>
        have plain : isNegative (.attribute value attr) = false := negative
        rw [spoken?_eq plain, spoken?_eq negative, meaning?_attribute integer]
        cases meaning? value <;> simp [integer]
      | true =>
        have minus : isNegative (.attribute value attr) = true := negative
        have lost : spoken? value ≠ some value.reading := fun said =>
          not_kept_of_isNegative legible ih negative
            ⟨mt isInteger_of_isNegativeInteger integer, said⟩
        rw [spoken?, meaning?_attribute integer, signed_of_isNegative minus]
        cases meaning? value <;> simp [lost]
  | @call func args keywords legible _ _ _ ih args_ih values_ih =>
    rw [Expr.every_call, ← ih, ← meanings?_eq_iff args_ih, ← keywordMeanings?_eq_iff values_ih,
      Kept, Expr.reading]
    have meaning : meaning? (.call func args keywords) = (meaning? func).bind fun f =>
        (meanings? args).bind fun rs => (keywordMeanings? keywords).map (.call f rs ·) := by
      rw [meaning?]
      cases meaning? func <;> cases meanings? args <;> cases keywordMeanings? keywords <;> rfl
    cases negative : isNegative func with
    | false =>
      have plain : isNegative (.call func args keywords) = false := negative
      have kept := not_isNegativeInteger negative
      rw [spoken?_eq plain, spoken?_eq negative, meaning]
      cases meaning? func <;> cases meanings? args <;> cases keywordMeanings? keywords <;>
        simp [kept]
    | true =>
      have minus : isNegative (.call func args keywords) = true := negative
      have lost := not_kept_of_isNegative legible ih negative
      rw [spoken?, meaning, signed_of_isNegative minus, ← and_assoc]
      cases meaning? func <;> cases meanings? args <;> cases keywordMeanings? keywords <;>
        simp [lost]
  | @constant c _ =>
    rw [spoken?_constant, Expr.reading]
    simp [Expr.every_constant, Kept]
  | @tuple items _ ih =>
    rw [Expr.every_tuple, ← meanings?_eq_iff ih, Expr.reading, spoken?_eq rfl, meaning?]
    cases meanings? items <;> simp [Kept]
  | @list items _ ih =>
    rw [Expr.every_list, ← meanings?_eq_iff ih, Expr.reading, spoken?_eq rfl, meaning?]
    cases meanings? items <;> simp [Kept]
  | @compare left right op _ _ left_ih right_ih =>
    rw [Expr.every_compare, ← left_ih, ← right_ih, spoken?_compare, Expr.reading]
    cases spoken? left <;> cases spoken? right <;> simp [Kept]
  | @binOp left right op legible _ left_ih right_ih =>
    rw [Expr.every_binOp, ← left_ih, ← right_ih, Expr.reading]
    by_cases power : op = .pow
    · subst power
      rw [spoken?_power, Kept]
      cases negative : isNegative left with
      | false =>
        have kept := not_isNegativeInteger negative
        rw [spoken?_eq negative, signed_of_positive negative]
        cases meaning? left <;> cases spoken? right <;> simp [kept]
      | true =>
        have lost := not_kept_of_isNegative legible left_ih negative
        rw [signed_of_isNegative negative, ← and_assoc]
        cases meaning? left <;> cases spoken? right <;> simp [lost]
    · have kept : Kept (.binOp left op right) := by
        cases op <;> first | exact trivial | exact absurd rfl power
      rw [spoken?_binOp power]
      cases spoken? left <;> cases spoken? right <;> simp [kept]
  | woven _ _ _ =>
    simp [spoken?, meaning?, signed, isNegative, Expr.reading, Expr.every_woven, Kept]

end Grammar

end Loom
