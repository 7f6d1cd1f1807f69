import Loom.Pattern.Parser

/-!
# Patterns in parentheses

What is read from a text is read from it also when a closing parenthesis follows: no reader that
succeeds on the text looks past its end, except that a comment at the end takes the parenthesis in.
-/

namespace Loom.Pattern

/-! ## Two readings -/

/-- The second text is the first with a closing parenthesis after it, or a comment has taken that
parenthesis in and nothing is left of either. -/
inductive Closed : List Char → List Char → Prop
  | paren (cs : List Char) : Closed cs (cs ++ [')'])
  | commented : Closed [] []

/-- The same was read, and what is left is closed. -/
inductive Read {α : Type} : α × List Char → α × List Char → Prop
  | intro {rest rest' : List Char} (v : α) (h : Closed rest rest') : Read (v, rest) (v, rest')

/-- Two things were read, the same ones, and what is left is closed. -/
inductive ReadBoth {α β : Type} : α × β × List Char → α × β × List Char → Prop
  | intro {rest rest' : List Char} (v : α) (w : β) (h : Closed rest rest') :
    ReadBoth (v, w, rest) (v, w, rest')

/-- If the first reading succeeds, so does the second, with a result that agrees. -/
def Carries {α : Type} (R : α → α → Prop) (a b : Option α) : Prop :=
  ∀ v, a = some v → ∃ w, R v w ∧ b = some w

namespace Carries

variable {α β : Type} {R : α → α → Prop} {S : β → β → Prop} {a b : Option α}

theorem none (b : Option α) : Carries R none b := nofun

theorem some {v w : α} (h : R v w) : Carries R (some v) (some w) := by
  rintro _ ⟨⟩
  exact ⟨w, h, rfl⟩

theorem bind {f g : α → Option β} (h : Carries R a b)
    (hfg : ∀ v w, R v w → Carries S (f v) (g w)) : Carries S (a.bind f) (b.bind g) := by
  intro u eq
  obtain ⟨v, first, second⟩ := Option.bind_eq_some_iff.1 eq
  obtain ⟨w, agrees, found⟩ := h v first
  rw [found]
  exact hfg v w agrees u second

theorem map {f g : α → β} (h : Carries R a b) (hfg : ∀ v w, R v w → S (f v) (g w)) :
    Carries S (a.map f) (b.map g) := by
  intro u eq
  obtain ⟨v, first, rfl⟩ := Option.map_eq_some_iff.1 eq
  obtain ⟨w, agrees, found⟩ := h v first
  exact ⟨g w, hfg v w agrees, by rw [found]; rfl⟩

/-- A step that both readings have in common. -/
theorem bind_same {f g : α → Option β} (o : Option α) (hfg : ∀ v, Carries S (f v) (g v)) :
    Carries S (o.bind f) (o.bind g) := by
  cases o with
  | none => exact .none _
  | some v => exact hfg v

theorem ite {c : Prop} [Decidable c] {a₁ a₂ b₁ b₂ : Option α} (h₁ : Carries R a₁ b₁)
    (h₂ : Carries R a₂ b₂) : Carries R (if c then a₁ else a₂) (if c then b₁ else b₂) := by
  split
  · exact h₁
  · exact h₂

end Carries

namespace Closed

variable {cs cs' : List Char}

theorem of_cons {c : Char} {rest : List Char} (h : Closed (c :: rest) cs') :
    cs' = c :: (rest ++ [')']) := by
  cases h
  rfl

theorem length_le (h : Closed cs cs') : cs.length ≤ cs'.length := by
  cases h <;> simp

/-! ### Blanks -/

theorem dropBlanks_and_dropComment (cs : List Char) :
    Closed (dropBlanks cs) (dropBlanks (cs ++ [')'])) ∧
      Closed (dropComment cs) (dropComment (cs ++ [')'])) := by
  induction cs with
  | nil =>
    have solid : Unicode.isWhiteSpace ')' = false := by decide +kernel
    constructor
    · simpa [dropBlanks, solid] using paren []
    · simpa [dropComment] using commented
  | cons c cs ih =>
    simp only [List.cons_append, dropBlanks, dropComment]
    constructor
    · split
      · exact ih.1
      · split
        · exact ih.2
        · exact paren (c :: cs)
    · split
      · exact ih.1
      · exact ih.2

theorem skip (h : Closed cs cs') (x : Bool) : Closed (skip x cs) (Pattern.skip x cs') := by
  cases h with
  | paren =>
    cases x with
    | true => exact (dropBlanks_and_dropComment cs).1
    | false => exact paren cs
  | commented => cases x <;> exact commented

end Closed

theorem length_dropBlanks_le (cs : List Char) :
    (dropBlanks cs).length ≤ cs.length ∧ (dropComment cs).length ≤ cs.length := by
  induction cs with
  | nil => simp [dropBlanks, dropComment]
  | cons c cs ih =>
    simp only [dropBlanks, dropComment, List.length_cons]
    constructor <;> split
    · omega
    · split
      · omega
      · simp
    · omega
    · omega

theorem length_skip_le (x : Bool) (cs : List Char) : (skip x cs).length ≤ cs.length := by
  cases x with
  | true => exact (length_dropBlanks_le cs).1
  | false => exact Nat.le_refl _

variable {cs cs' : List Char} {x : Bool} {fuel fuel' : Nat}

/-! ## Escapes -/

theorem carries_readHexDigits (n value : Nat) (h : Closed cs cs') :
    Carries Read (readHexDigits x n value cs) (readHexDigits x n value cs') := by
  induction n generalizing value cs cs' with
  | zero => exact .some (.intro value h)
  | succ n ih =>
    simp only [readHexDigits]
    have h := h.skip x
    generalize skip x cs = ds, skip x cs' = ds' at h
    cases ds with
    | nil => exact .none _
    | cons c rest =>
      obtain rfl := h.of_cons
      exact .bind_same _ fun d => ih _ (.paren rest)

theorem carries_readHexBrace (count value : Nat) (more : fuel ≤ fuel') (h : Closed cs cs') :
    Carries Read (readHexBrace x fuel count value cs) (readHexBrace x fuel' count value cs') := by
  induction fuel generalizing fuel' count value cs cs' with
  | zero => exact .none _
  | succ fuel ih =>
    obtain ⟨fuel', rfl⟩ : ∃ n, fuel' = n + 1 := ⟨fuel' - 1, by omega⟩
    simp only [readHexBrace]
    have h := h.skip x
    generalize skip x cs = ds, skip x cs' = ds' at h
    cases ds with
    | nil => exact .none _
    | cons c rest =>
      obtain rfl := h.of_cons
      by_cases close : c = '\x7d'
      · subst close
        exact .ite (.none _) (.some (.intro value (.paren rest)))
      · simp only
        exact .bind_same _ fun d => ih _ _ (by omega) (.paren rest)

theorem carries_readHex (digits : Nat) (h : Closed cs cs') :
    Carries Read (readHex x digits cs) (readHex x digits cs') := by
  simp only [readHex]
  have h := h.skip x
  generalize skip x cs = ds, skip x cs' = ds' at h
  cases ds with
  | nil => exact .none _
  | cons c rest =>
    obtain rfl := h.of_cons
    by_cases brace : c = '\x7b'
    · subst brace
      refine .bind (carries_readHexBrace 0 0 (by simp) (.paren rest)) ?_
      rintro _ _ ⟨n, h⟩
      exact .bind_same _ fun c => .some (.intro _ (h.skip x))
    · simp only [List.cons.injEq, brace, false_and, imp_false, not_false_eq_true, implies_true]
      refine .bind (carries_readHexDigits digits 0 (.paren (c :: rest))) ?_
      rintro _ _ ⟨n, h⟩
      exact .bind_same _ fun c => .some (.intro _ (h.skip x))

theorem carries_readBraced (more : fuel ≤ fuel') (h : Closed cs cs') :
    Carries Read (readBraced x fuel cs) (readBraced x fuel' cs') := by
  induction fuel generalizing fuel' cs cs' with
  | zero => exact .none _
  | succ fuel ih =>
    obtain ⟨fuel', rfl⟩ : ∃ n, fuel' = n + 1 := ⟨fuel' - 1, by omega⟩
    simp only [readBraced]
    have h := h.skip x
    generalize skip x cs = ds, skip x cs' = ds' at h
    cases ds with
    | nil => exact .none _
    | cons c rest =>
      obtain rfl := h.of_cons
      by_cases close : c = '\x7d'
      · subst close
        exact .some (.intro [] (.paren rest))
      · simp only
        refine .map (ih (show fuel ≤ fuel' by omega) (.paren rest)) ?_
        rintro _ _ ⟨name, h⟩
        exact .intro (c :: name) h

theorem carries_readProperty (negated : Bool) (h : Closed cs cs') :
    Carries Read (readProperty x negated cs) (readProperty x negated cs') := by
  simp only [readProperty]
  have h := h.skip x
  generalize skip x cs = ds, skip x cs' = ds' at h
  cases ds with
  | nil => exact .none _
  | cons c rest =>
    obtain rfl := h.of_cons
    by_cases brace : c = '\x7b'
    · subst brace
      refine .bind (carries_readBraced (by simp) (.paren rest)) ?_
      rintro _ _ ⟨name, h⟩
      exact .bind_same _ fun set => .some (.intro _ h)
    · simp only
      exact .bind_same _ fun set => .some (.intro _ ((Closed.paren rest).skip x))

/-- Reading a boundary's name stops where the text does: a parenthesis is no part of it. -/
theorem read_readBoundaryName (enough : cs.length < fuel) (enough' : cs'.length < fuel')
    (h : Closed cs cs') : Read (readBoundaryName x fuel cs) (readBoundaryName x fuel' cs') := by
  induction fuel generalizing fuel' cs cs' with
  | zero => omega
  | succ fuel ih =>
    obtain ⟨fuel', rfl⟩ : ∃ n, fuel' = n + 1 := ⟨fuel' - 1, by omega⟩
    simp only [readBoundaryName]
    have shorter := length_skip_le x cs
    have shorter' := length_skip_le x cs'
    have h := h.skip x
    generalize skip x cs = ds, skip x cs' = ds' at h shorter shorter'
    cases h with
    | commented => exact .intro [] .commented
    | paren =>
      cases ds with
      | nil => exact .intro [] (.paren [])
      | cons c rest =>
        simp only [List.length_cons, List.cons_append] at shorter shorter' ⊢
        split
        · have h := ih (by omega) (show (rest ++ [')']).length < fuel' by omega) (.paren rest)
          generalize readBoundaryName x fuel rest = v,
            readBoundaryName x fuel' (rest ++ [')']) = w at h
          obtain ⟨name, h⟩ := h
          exact .intro (c :: name) h
        · exact .intro [] (.paren (c :: rest))

theorem carries_readBoundary (h : Closed cs cs') :
    Carries Read (readBoundary x cs) (readBoundary x cs') := by
  cases h with
  | commented => exact .some (.intro _ .commented)
  | paren =>
    cases cs with
    | nil => exact .some (.intro _ (.paren []))
    | cons c rest =>
      by_cases brace : c = '\x7b'
      · subst brace
        simp only [readBoundary, List.cons_append]
        have skipped := (Closed.paren rest).skip x
        generalize skip x rest = ds, skip x (rest ++ [')']) = ds' at skipped
        cases ds with
        | nil => exact .none _
        | cons d more =>
          obtain rfl := skipped.of_cons
          refine .ite ?_ (.some (.intro _ (.paren ('\x7b' :: rest))))
          have named := read_readBoundaryName (x := x) (Nat.lt_succ_self _) (Nat.lt_succ_self _)
            (.paren rest)
          generalize readBoundaryName x (rest.length + 1) rest = v,
            readBoundaryName x ((rest ++ [')']).length + 1) (rest ++ [')']) = w at named
          obtain @⟨rest, rest', name, h⟩ := named
          cases rest with
          | nil => exact .none _
          | cons e last =>
            obtain rfl := h.of_cons
            by_cases close : e = '\x7d'
            · subst close
              exact .bind_same _ fun a => .some (.intro _ (.paren last))
            · simp only [List.cons.injEq, close, false_and, imp_false, not_false_eq_true,
                implies_true]
              exact .none _
      · simp only [readBoundary, List.cons_append, List.cons.injEq, brace, false_and, imp_false,
          not_false_eq_true, implies_true]
        exact .some (.intro _ (.paren (c :: rest)))

theorem carries_readEscape (h : Closed cs cs') :
    Carries Read (readEscape x cs) (readEscape x cs') := by
  cases cs with
  | nil => exact .none _
  | cons c rest =>
    obtain rfl := h.of_cons
    replace h := Closed.paren rest
    generalize rest ++ [')'] = rest' at h
    unfold readEscape
    split
    case h_1 => exact .none _
    all_goals
      rename_i eq
      cases eq
    -- Code points, properties and boundaries read on; all others end with their character.
    case h_2 => exact carries_readHex 2 h
    case h_3 => exact carries_readHex 4 h
    case h_4 => exact carries_readHex 8 h
    case h_5 => exact carries_readProperty false h
    case h_6 => exact carries_readProperty true h
    case h_21 => exact carries_readBoundary h
    case h_25 =>
      simp only
      exact .ite (.some (.intro _ h)) (.none _)
    all_goals exact .some (.intro _ h)

/-! ## Classes in brackets -/

theorem cutAt_append {sep : Char} (other : sep ≠ ')') (cs : List Char) :
    cutAt sep (cs ++ [')']) = (cutAt sep cs).map fun v => (v.1, v.2 ++ [')']) := by
  induction cs with
  | nil => simp [cutAt, other.symm]
  | cons c cs ih =>
    simp only [List.cons_append, cutAt, ih]
    split
    · rfl
    · cases cutAt sep cs <;> rfl

/-- The name and the end of an ASCII class. -/
theorem asciiName_append (negated : Bool) (cs : List Char) :
    (cutAt ':' (cs ++ [')'])).bind (fun v => match v.2 with
      | ']' :: rest => (asciiClasses.lookup (String.ofList v.1)).bind fun ranges =>
        some (ClassExpr.ascii ranges negated, rest)
      | _ => none) =
    ((cutAt ':' cs).bind fun v => match v.2 with
      | ']' :: rest => (asciiClasses.lookup (String.ofList v.1)).bind fun ranges =>
        some (ClassExpr.ascii ranges negated, rest)
      | _ => none).map fun v => (v.1, v.2 ++ [')']) := by
  rw [cutAt_append (by decide)]
  cases cutAt ':' cs with
  | none => rfl
  | some v =>
    obtain ⟨name, _ | ⟨c, rest⟩⟩ := v
    · rfl
    · by_cases close : c = ']'
      · subst close
        simp only [Option.map_some, Option.bind_some, List.cons_append, Option.map_bind,
          Function.comp_def]
      · simp [close]

theorem readAsciiClass_append (cs : List Char) :
    readAsciiClass (cs ++ [')']) = (readAsciiClass cs).map fun v => (v.1, v.2 ++ [')']) := by
  cases cs with
  | nil => rfl
  | cons c rest =>
    by_cases colon : c = ':'
    · subst colon
      cases rest with
      | nil => rfl
      | cons d rest =>
        by_cases caret : d = '^'
        · subst caret
          exact asciiName_append true rest
        · simp only [readAsciiClass, List.cons_append, List.cons.injEq, caret, false_and, imp_false,
            not_false_eq_true, implies_true]
          exact asciiName_append false (d :: rest)
    · simp only [readAsciiClass, List.cons_append, List.cons.injEq, colon, false_and, imp_false,
        not_false_eq_true, implies_true]
      rfl

theorem carries_readClassAtom (h : Closed cs cs') :
    Carries Read (readClassAtom x cs) (readClassAtom x cs') := by
  cases cs with
  | nil => exact .none _
  | cons c rest =>
    obtain rfl := h.of_cons
    by_cases escape : c = '\\'
    · subst escape
      exact carries_readEscape (.paren rest)
    · simp only [readClassAtom]
      exact .some (.intro _ (.paren rest))

theorem dropWhile_isWhiteSpace_append (cs : List Char) :
    (cs ++ [')']).dropWhile Unicode.isWhiteSpace =
      cs.dropWhile Unicode.isWhiteSpace ++ [')'] := by
  have solid : Unicode.isWhiteSpace ')' = false := by decide +kernel
  induction cs with
  | nil => simp [solid]
  | cons c cs ih =>
    rw [List.cons_append, List.dropWhile_cons, List.dropWhile_cons, ih]
    split <;> rfl

theorem startsRange_append {rest : List Char} (h : afterHyphen x rest ≠ []) :
    startsRange x ('-' :: (rest ++ [')'])) = startsRange x ('-' :: rest) := by
  have after : afterHyphen x (rest ++ [')']) = afterHyphen x rest ++ [')'] := by
    cases x with
    | false => rfl
    | true =>
      simp only [afterHyphen, ↓reduceIte, dropWhile_isWhiteSpace_append] at h ⊢
      cases hd : rest.dropWhile Unicode.isWhiteSpace with
      | nil => simp [hd] at h
      | cons c more =>
        by_cases hash : c = '#'
        · subst hash
          exact dropWhile_isWhiteSpace_append more
        · simp [hash]
  simp only [startsRange, after]
  cases hr : afterHyphen x rest with
  | nil => exact absurd hr h
  | cons c more => split <;> simp_all

/-- Nothing is left of blanks, nor of blanks in a comment. -/
theorem dropBlanks_eq_nil {cs : List Char} (h : cs.dropWhile Unicode.isWhiteSpace = []) :
    dropBlanks cs = [] ∧ dropComment cs = [] := by
  induction cs with
  | nil => exact ⟨by simp [dropBlanks], by simp [dropComment]⟩
  | cons c cs ih =>
    rw [List.dropWhile_cons] at h
    split at h
    · next blank => simp [dropBlanks, dropComment, blank, ih h]
    · cases h

theorem dropBlanks_dropWhile (cs : List Char) :
    dropBlanks (cs.dropWhile Unicode.isWhiteSpace) = dropBlanks cs := by
  induction cs with
  | nil => rfl
  | cons c cs ih =>
    rw [List.dropWhile_cons]
    split
    · next blank => rw [ih, dropBlanks, if_pos blank]
    · rfl

/-- Where nothing follows the hyphen of a range, there is no second half. -/
theorem skip_eq_nil_of_afterHyphen {rest : List Char} (h : afterHyphen x rest = []) :
    skip x rest = [] := by
  cases x with
  | false => exact h
  | true =>
    have solid : Unicode.isWhiteSpace '#' = false := by decide +kernel
    simp only [afterHyphen, ↓reduceIte] at h
    rw [skip, if_pos rfl, ← dropBlanks_dropWhile]
    cases hd : rest.dropWhile Unicode.isWhiteSpace with
    | nil => simp [dropBlanks]
    | cons c more =>
      rw [hd] at h
      by_cases hash : c = '#'
      · subst hash
        simp only [dropBlanks, solid]
        exact (dropBlanks_eq_nil h).2
      · simp [hash] at h

theorem carries_readClassItem (h : Closed cs cs') :
    Carries Read (readClassItem x cs) (readClassItem x cs') := by
  refine .bind (carries_readClassAtom h) ?_
  rintro _ _ @⟨rest, rest', first, h⟩
  simp only
  replace h := h.skip x
  generalize skip x rest = ds, skip x rest' = ds' at h
  cases ds with
  | nil => exact .none _
  | cons c rest =>
    obtain rfl := h.of_cons
    simp only [List.isEmpty_cons, Bool.false_eq_true, ↓reduceIte, List.drop_succ_cons,
      List.drop_zero]
    by_cases ends : c = '-' ∧ afterHyphen x rest = []
    · obtain ⟨rfl, ends⟩ := ends
      have range : startsRange x ('-' :: rest) = true := by simp [startsRange, ends]
      simp only [range, skip_eq_nil_of_afterHyphen ends, readClassAtom]
      exact .none _
    · have range : startsRange x (c :: (rest ++ [')'])) = startsRange x (c :: rest) := by
        by_cases hyphen : c = '-'
        · subst hyphen
          exact startsRange_append fun eq => ends ⟨rfl, eq⟩
        · simp [startsRange, hyphen]
      rw [range]
      refine .ite (.bind (carries_readClassAtom ((Closed.paren rest).skip x)) ?_)
        (.bind_same _ fun a => .some (.intro a h))
      rintro _ _ ⟨second, h⟩
      cases first with
      | literal low =>
        cases second with
        | literal high => exact .ite (.some (.intro _ h)) (.none _)
        | assertion => exact .none _
        | cls => exact .none _
      | assertion => exact .none _
      | cls => exact .none _

/-- A parenthesis is no hyphen. -/
theorem read_readHyphens (enough : cs.length < fuel) (enough' : cs'.length < fuel')
    (h : Closed cs cs') : Read (readHyphens x fuel cs) (readHyphens x fuel' cs') := by
  induction fuel generalizing fuel' cs cs' with
  | zero => omega
  | succ fuel ih =>
    obtain ⟨fuel', rfl⟩ : ∃ n, fuel' = n + 1 := ⟨fuel' - 1, by omega⟩
    simp only [readHyphens]
    have shorter := length_skip_le x cs
    have shorter' := length_skip_le x cs'
    have h := h.skip x
    generalize skip x cs = ds, skip x cs' = ds' at h shorter shorter'
    cases h with
    | commented => exact .intro [] .commented
    | paren =>
      cases ds with
      | nil => exact .intro [] (.paren [])
      | cons c rest =>
        by_cases hyphen : c = '-'
        · subst hyphen
          simp only [List.length_cons, List.cons_append] at shorter shorter' ⊢
          have h := ih (by omega) (show (rest ++ [')']).length < fuel' by omega) (.paren rest)
          generalize readHyphens x fuel rest = v, readHyphens x fuel' (rest ++ [')']) = w at h
          obtain ⟨items, h⟩ := h
          exact .intro (_ :: items) h
        · simp only [List.cons_append, List.cons.injEq, hyphen, false_and, imp_false,
            not_false_eq_true, implies_true]
          exact .intro [] (.paren (c :: rest))

/-- The members of a class that stand for themselves only at its start. -/
theorem readBoth_firstMembers (negated : Bool) (h : Closed cs cs') :
    ReadBoth
      (match (readHyphens x (cs.length + 1) cs).1, skip x (readHyphens x (cs.length + 1) cs).2 with
        | [], ']' :: rest => (negated, [ClassExpr.range ⟨']', false⟩ ⟨']', false⟩], rest)
        | items, cs => (negated, items, cs))
      (match (readHyphens x (cs'.length + 1) cs').1,
          skip x (readHyphens x (cs'.length + 1) cs').2 with
        | [], ']' :: rest => (negated, [ClassExpr.range ⟨']', false⟩ ⟨']', false⟩], rest)
        | items, cs => (negated, items, cs)) := by
  have h := read_readHyphens (x := x) (Nat.lt_succ_self _) (Nat.lt_succ_self _) h
  generalize readHyphens x (cs.length + 1) cs = v, readHyphens x (cs'.length + 1) cs' = w at h
  obtain @⟨rest, rest', items, h⟩ := h
  simp only
  replace h := h.skip x
  generalize skip x rest = ds, skip x rest' = ds' at h
  cases h with
  | commented => cases items <;> exact .intro negated _ .commented
  | paren =>
    cases items with
    | cons item items => exact .intro negated _ (.paren ds)
    | nil =>
      cases ds with
      | nil => exact .intro negated [] (.paren [])
      | cons c rest =>
        by_cases close : c = ']'
        · subst close
          exact .intro negated _ (.paren rest)
        · simp only [List.cons_append, List.cons.injEq, close, false_and, imp_false,
            not_false_eq_true, implies_true]
          exact .intro negated [] (.paren (c :: rest))

theorem readBoth_readClassOpen (h : Closed cs cs') :
    ReadBoth (readClassOpen x cs) (readClassOpen x cs') := by
  simp only [readClassOpen]
  replace h := h.skip x
  generalize skip x cs = ds, skip x cs' = ds' at h
  cases h with
  | commented => exact readBoth_firstMembers false .commented
  | paren =>
    cases ds with
    | nil => exact readBoth_firstMembers false (.paren [])
    | cons c rest =>
      by_cases caret : c = '^'
      · subst caret
        exact readBoth_firstMembers true (.paren rest)
      · simp only [List.cons_append, List.cons.injEq, caret, false_and, imp_false,
          not_false_eq_true, implies_true]
        exact readBoth_firstMembers false (.paren (c :: rest))

theorem setOperator?_append (c : Char) (rest : List Char) :
    setOperator? (c :: (rest ++ [')'])) =
      (setOperator? (c :: rest)).map fun v => (v.1, v.2 ++ [')']) := by
  cases rest with
  | nil => unfold setOperator?; split <;> simp_all
  | cons d rest => unfold setOperator?; split <;> simp_all

theorem carries_readClass {pending : Option (SetOperator × ClassExpr)} {items : List ClassExpr}
    (more : fuel ≤ fuel') (h : Closed cs cs') :
    Carries Read (readClass x fuel pending items cs) (readClass x fuel' pending items cs') := by
  induction fuel generalizing fuel' pending items cs cs' with
  | zero => exact .none _
  | succ fuel ih =>
    obtain ⟨fuel', rfl⟩ : ∃ n, fuel' = n + 1 := ⟨fuel' - 1, by omega⟩
    simp only [readClass]
    replace h := h.skip x
    generalize skip x cs = ds, skip x cs' = ds' at h
    cases ds with
    | nil => exact .none _
    | cons c rest =>
      obtain rfl := h.of_cons
      by_cases close : c = ']'
      · subst close
        exact .some (.intro _ (.paren rest))
      by_cases bracket : c = '['
      · subst bracket
        simp only [readAsciiClass_append]
        cases readAsciiClass rest with
        | some v => exact ih (by omega) (.paren v.2)
        | none =>
          have opened := readBoth_readClassOpen (x := x) (.paren rest)
          simp only [Option.map_none]
          generalize readClassOpen x rest = v, readClassOpen x (rest ++ [')']) = w at opened
          obtain ⟨negated, first, h⟩ := opened
          refine .bind (ih (show fuel ≤ fuel' by omega) h) ?_
          rintro _ _ ⟨inner, h⟩
          exact ih (by omega) h
      · simp only [List.cons.injEq, close, bracket, false_and, imp_false, not_false_eq_true,
          implies_true, setOperator?_append]
        cases setOperator? (c :: rest) with
        | some v => exact ih (by omega) (.paren v.2)
        | none =>
          refine .bind (carries_readClassItem (.paren (c :: rest))) ?_
          rintro _ _ ⟨item, h⟩
          exact ih (by omega) h

theorem carries_readBracket (h : Closed cs cs') :
    Carries Read (readBracket x cs) (readBracket x cs') := by
  have opened := readBoth_readClassOpen (x := x) h
  simp only [readBracket]
  generalize readClassOpen x cs = v, readClassOpen x cs' = w at opened
  obtain ⟨negated, first, h⟩ := opened
  refine .bind (carries_readClass (by simpa using h.length_le) h) ?_
  rintro _ _ ⟨inner, h⟩
  exact .some (.intro _ h)

/-! ## Repetitions -/

theorem read_readEager (h : Closed cs cs') : Read (readEager cs) (readEager cs') := by
  cases h with
  | commented => exact .intro true .commented
  | paren =>
    cases cs with
    | nil => exact .intro true (.paren [])
    | cons c rest =>
      by_cases mark : c = '?'
      · subst mark
        exact .intro false (.paren rest)
      · simp only [readEager, List.cons_append, List.cons.injEq, mark, false_and, imp_false,
          not_false_eq_true, implies_true]
        exact .intro true (.paren (c :: rest))

theorem Closed.dropSpaces (h : Closed cs cs') :
    Closed (dropSpaces cs) (Pattern.dropSpaces cs') := by
  cases h with
  | commented => exact .commented
  | paren =>
    rw [Pattern.dropSpaces, Pattern.dropSpaces, dropWhile_isWhiteSpace_append]
    exact .paren _

/-- A parenthesis is no digit. -/
theorem read_readCountDigits (enough : cs.length < fuel) (enough' : cs'.length < fuel')
    (h : Closed cs cs') : Read (readCountDigits x fuel cs) (readCountDigits x fuel' cs') := by
  induction fuel generalizing fuel' cs cs' with
  | zero => omega
  | succ fuel ih =>
    obtain ⟨fuel', rfl⟩ : ∃ n, fuel' = n + 1 := ⟨fuel' - 1, by omega⟩
    cases h with
    | commented => exact .intro [] .commented
    | paren =>
      cases cs with
      | nil => exact .intro [] (.paren [])
      | cons c rest =>
        simp only [readCountDigits, List.cons_append, List.length_cons] at enough enough' ⊢
        have shorter := length_skip_le x rest
        have shorter' := length_skip_le x (rest ++ [')'])
        split
        · have h := ih (by omega) (show (skip x (rest ++ [')'])).length < fuel' by omega)
            ((Closed.paren rest).skip x)
          generalize readCountDigits x fuel (skip x rest) = v,
            readCountDigits x fuel' (skip x (rest ++ [')'])) = w at h
          obtain ⟨digits, h⟩ := h
          exact .intro (c :: digits) h
        · exact .intro [] (.paren (c :: rest))

theorem carries_readCount (h : Closed cs cs') :
    Carries Read (readCount x cs) (readCount x cs') := by
  have shorter (cs : List Char) : (dropSpaces cs).length < cs.length + 1 :=
    Nat.lt_succ_of_le (List.dropWhile_sublist _).length_le
  have read := read_readCountDigits (x := x) (shorter cs) (shorter cs') h.dropSpaces
  simp only [readCount]
  generalize readCountDigits x (cs.length + 1) (dropSpaces cs) = v,
    readCountDigits x (cs'.length + 1) (dropSpaces cs') = w at read
  obtain @⟨rest, rest', digits, h⟩ := read
  cases digits with
  | nil => exact .none _
  | cons d digits => exact .ite (.some (.intro _ h.dropSpaces)) (.none _)

theorem carries_readBounds (h : Closed cs cs') :
    Carries ReadBoth (readBounds x cs) (readBounds x cs') := by
  refine .bind (carries_readCount (h.skip x)) ?_
  rintro _ _ @⟨rest, rest', min, h⟩
  simp only
  cases rest with
  | nil => exact .none _
  | cons c rest =>
    obtain rfl := h.of_cons
    by_cases close : c = '\x7d'
    · subst close
      exact .some (.intro min _ ((Closed.paren rest).skip x))
    by_cases comma : c = ','
    · subst comma
      replace h := (Closed.paren rest).skip x
      simp only
      generalize skip x rest = ds, skip x (rest ++ [')']) = ds' at h
      cases ds with
      | nil => exact .none _
      | cons d rest =>
        obtain rfl := h.of_cons
        by_cases close : d = '\x7d'
        · subst close
          exact .some (.intro min _ ((Closed.paren rest).skip x))
        · simp only [List.cons.injEq, close, false_and, imp_false, not_false_eq_true, implies_true]
          refine .bind (carries_readCount h) ?_
          rintro _ _ @⟨rest, rest', max, h⟩
          simp only
          cases rest with
          | nil => exact .none _
          | cons e rest =>
            obtain rfl := h.of_cons
            by_cases close : e = '\x7d'
            · subst close
              exact .ite (.some (.intro min _ ((Closed.paren rest).skip x))) (.none _)
            · simp only [List.cons.injEq, close, false_and, imp_false, not_false_eq_true,
                implies_true]
              exact .none _
    · simp only [List.cons.injEq, close, comma, false_and, imp_false, not_false_eq_true,
        implies_true]
      exact .none _

theorem carries_readRepetition (h : Closed cs cs') :
    Carries ReadBoth (readRepetition x cs) (readRepetition x cs') := by
  cases cs with
  | nil => exact .none _
  | cons c rest =>
    obtain rfl := h.of_cons
    replace h := Closed.paren rest
    generalize rest ++ [')'] = rest' at h
    unfold readRepetition
    split
    case h_5 => exact .none _
    all_goals
      rename_i eq
      cases eq
    case h_4 => exact carries_readBounds h
    all_goals exact .some (.intro _ _ h)

/-! ## Groups -/

theorem carries_readGroupName (h : Closed cs cs') :
    Carries Read (readGroupName cs) (readGroupName cs') := by
  cases h with
  | commented => exact .none _
  | paren =>
    simp only [readGroupName, cutAt_append (show '>' ≠ ')' by decide)]
    cases cutAt '>' cs with
    | none => exact .none _
    | some v =>
      obtain ⟨_ | ⟨c, more⟩, rest⟩ := v
      · exact .none _
      · exact .ite (.some (.intro _ (.paren rest))) (.none _)

theorem carries_readFlags {settings : FlagSettings} {negated afterMinus : Bool}
    (h : Closed cs cs') : Carries ReadBoth (readFlags settings negated afterMinus cs)
      (readFlags settings negated afterMinus cs') := by
  cases h with
  | commented => exact .none _
  | paren =>
    induction cs generalizing settings negated afterMinus with
    | nil => exact .none _
    | cons c rest ih =>
      simp only [readFlags, List.cons_append]
      refine .ite (.ite (.none _) (.some (.intro _ _ (.paren rest)))) (.ite (.ite (.none _) ih) ?_)
      cases Flag.ofChar? c with
      | none => exact .none _
      | some flag => exact .ite (.none _) ih

theorem carries_readOpening (h : Closed cs cs') :
    Carries Read (readOpening x cs) (readOpening x cs') := by
  simp only [readOpening]
  replace h := h.skip x
  generalize skip x cs = ds, skip x cs' = ds' at h
  cases h with
  | commented => exact .some (.intro _ .commented)
  | paren =>
    have named (cs : List Char) : Carries Read
        ((readGroupName cs).bind fun v => some (Opening.capture (some v.1), v.2))
        ((readGroupName (cs ++ [')'])).bind fun v => some (Opening.capture (some v.1), v.2)) := by
      refine .bind (carries_readGroupName (.paren cs)) ?_
      rintro _ _ ⟨name, h⟩
      exact .some (.intro _ h)
    have flagged (cs : List Char) : Carries Read
        ((readFlags [] false false cs).bind fun v =>
          if v.2.1 = ':' then some (Opening.scoped v.1, v.2.2)
          else if v.1.isEmpty then none else some (.flags v.1, v.2.2))
        ((readFlags [] false false (cs ++ [')'])).bind fun v =>
          if v.2.1 = ':' then some (Opening.scoped v.1, v.2.2)
          else if v.1.isEmpty then none else some (.flags v.1, v.2.2)) := by
      refine .bind (carries_readFlags (.paren cs)) ?_
      rintro _ _ ⟨settings, last, h⟩
      exact .ite (.some (.intro _ h)) (.ite (.none _) (.some (.intro _ h)))
    split
    case h_1 => exact .none _
    case h_2 => exact .none _
    case h_3 => exact .none _
    case h_4 => exact .none _
    case h_5 rest => exact named rest
    -- The parenthesis might have made one of the forms above of `?<`, or of `?`, but it does not.
    case h_6 rest look behind =>
      cases rest with
      | nil => exact .none _
      | cons e rest =>
        have look : e ≠ '=' := fun eq => look rest (by rw [eq])
        have behind : e ≠ '!' := fun eq => behind rest (by rw [eq])
        simp only [List.cons_append, List.cons.injEq, look, behind, false_and, imp_false,
          not_false_eq_true, implies_true]
        exact named (e :: rest)
    case h_7 rest look behind _ _ name angle =>
      cases rest with
      | nil => exact .none _
      | cons d rest =>
        have look : d ≠ '=' := fun eq => look rest (by rw [eq])
        have behind : d ≠ '!' := fun eq => behind rest (by rw [eq])
        have angle : d ≠ '<' := fun eq => angle rest (by rw [eq])
        have name : ∀ more, ¬(d = 'P' ∧ rest ++ [')'] = '<' :: more) := by
          rintro more ⟨rfl, eq⟩
          cases rest with
          | nil => cases eq
          | cons e rest => exact name rest (by rw [(List.cons.inj eq).1])
        simp only [List.cons_append, List.cons.injEq, look, behind, angle, name, false_and,
          imp_false, not_false_eq_true, implies_true]
        exact flagged (d :: rest)
    case h_8 other =>
      cases ds with
      | nil => exact .some (.intro _ (.paren []))
      | cons c rest =>
        have other : c ≠ '?' := fun eq => other rest (by rw [eq])
        simp only [List.cons_append, List.cons.injEq, other, false_and, imp_false,
          not_false_eq_true, implies_true]
        exact .some (.intro _ (.paren (c :: rest)))

/-! ## Whole patterns -/

/-- How a group that holds a text is read, next to a group that starts with the text or, if
`inGroup` is false, next to the text alone: then the group ends where the text does, unless a
comment has taken its parenthesis in. -/
def Follows (inGroup : Bool) (a b : Option (Pattern × Captures × List Char)) : Prop :=
  if inGroup then Carries ReadBoth a b
  else ∀ v, a = some v → v.2.2 = [] ∧ (b = none ∨ b = some v)

namespace Follows

variable {α : Type} {R : α → α → Prop} {inGroup : Bool} {a b : Option α}

theorem none (b : Option (Pattern × Captures × List Char)) : Follows inGroup none b := by
  cases inGroup <;> exact nofun

theorem bind {f g : α → Option (Pattern × Captures × List Char)} (h : Carries R a b)
    (hfg : ∀ v w, R v w → Follows inGroup (f v) (g w)) :
    Follows inGroup (a.bind f) (b.bind g) := by
  cases inGroup with
  | true => exact Carries.bind h hfg
  | false =>
    intro u eq
    obtain ⟨v, first, second⟩ := Option.bind_eq_some_iff.1 eq
    obtain ⟨w, agrees, found⟩ := h v first
    rw [found]
    exact hfg v w agrees u second

theorem bind_same {f g : α → Option (Pattern × Captures × List Char)} (o : Option α)
    (hfg : ∀ v, Follows inGroup (f v) (g v)) : Follows inGroup (o.bind f) (o.bind g) := by
  cases o with
  | none => exact .none _
  | some v => exact hfg v

theorem ite {c : Prop} [Decidable c] {a₁ a₂ b₁ b₂ : Option (Pattern × Captures × List Char)}
    (h₁ : Follows inGroup a₁ b₁) (h₂ : Follows inGroup a₂ b₂) :
    Follows inGroup (if c then a₁ else a₂) (if c then b₁ else b₂) := by
  split
  · exact h₁
  · exact h₂

end Follows

theorem follows_readItems {inGroup : Bool} {groups : Captures} {b : Draft} (more : fuel ≤ fuel')
    (h : Closed cs cs') :
    Follows inGroup (readItems fuel x inGroup groups b cs)
      (readItems fuel' x true groups b cs') := by
  induction fuel generalizing fuel' x inGroup groups b cs cs' with
  | zero => exact .none _
  | succ fuel ih =>
    obtain ⟨fuel', rfl⟩ : ∃ n, fuel' = n + 1 := ⟨fuel' - 1, by omega⟩
    replace more : fuel ≤ fuel' := by omega
    have inner {x : Bool} {groups : Captures} {b : Draft} {cs cs' : List Char} (h : Closed cs cs') :
        Follows true (readItems fuel x true groups b cs) (readItems fuel' x true groups b cs') :=
      ih more h
    unfold readItems
    replace h := h.skip x
    generalize skip x cs = ds, skip x cs' = ds' at h
    cases ds with
    | nil =>
      cases inGroup with
      | true => exact .none _
      | false =>
        rintro _ ⟨⟩
        cases h with
        | paren => exact ⟨rfl, .inr rfl⟩
        | commented => exact ⟨rfl, .inl rfl⟩
    | cons c rest =>
      obtain rfl := h.of_cons
      replace h := Closed.paren rest
      split
      case h_1 eq => cases eq
      -- The end of a group; alone, the text has none that is left to end.
      case h_2 eq =>
        cases eq
        cases inGroup with
        | true => exact Carries.some (.intro _ _ h)
        | false => exact .none _
      -- Another alternative.
      case h_3 eq =>
        cases eq
        exact ih more h
      -- A group in the text: its inside is in parentheses in both readings.
      case h_4 eq =>
        cases eq
        refine .bind (carries_readOpening h) ?_
        rintro _ _ ⟨opening, h⟩
        cases opening with
        | flags settings => exact ih more h
        | «scoped» settings =>
          refine .bind (R := ReadBoth) (inner h) ?_
          rintro _ _ ⟨p, groups, h⟩
          exact ih more h
        | capture name =>
          refine .bind_same _ fun opened => ?_
          refine .bind (R := ReadBoth) (inner h) ?_
          rintro _ _ ⟨p, groups, h⟩
          exact ih more h
      -- Classes and escapes.
      case h_5 eq =>
        cases eq
        refine .bind (carries_readBracket h) ?_
        rintro _ _ ⟨item, h⟩
        exact ih more h
      case h_6 eq =>
        cases eq
        refine .bind (carries_readEscape h) ?_
        rintro _ _ ⟨atom, h⟩
        exact ih more h
      -- The dot and the anchors.
      case h_7 eq =>
        cases eq
        exact ih more h
      case h_8 eq =>
        cases eq
        exact ih more h
      case h_9 eq =>
        cases eq
        exact ih more h
      -- A repetition, or a character that stands for itself.
      case h_10 eq =>
        cases eq
        simp only
        refine .ite ?_ (ih more h)
        refine .bind (carries_readRepetition (.paren (c :: rest))) ?_
        rintro _ _ @⟨rest, rest', min, max, h⟩
        replace h := read_readEager h
        simp only
        generalize readEager rest = v, readEager rest' = w at h
        obtain ⟨eager, h⟩ := h
        exact .bind_same _ fun items => ih more h

/-- A text that reads as a pattern reads as the same pattern in a group. -/
theorem readItems_inGroup {groups groups' : Captures} {b : Draft} {p : Pattern} {rest : List Char}
    (more : fuel ≤ fuel')
    (read : readItems fuel x false groups b cs = some (p, groups', rest)) :
    rest = [] ∧ (readItems fuel' x true groups b (cs ++ [')']) = none ∨
      readItems fuel' x true groups b (cs ++ [')']) = some (p, groups', rest)) := by
  have follows : Follows false (readItems fuel x false groups b cs)
      (readItems fuel' x true groups b (cs ++ [')'])) := follows_readItems more (.paren cs)
  exact follows _ read

end Loom.Pattern
