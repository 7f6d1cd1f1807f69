import Loom.Proofs.Source.Precedence

/-!
# Reading the tokens of an expression

The tokens of an expression are read as what they say (`readsBack`), constructor by constructor, so
its text is read as the expression unless an integer constant in it is taken apart
(`read_source_iff`).
-/

namespace Loom.Grammar

open Source

variable {ts rest : List Token}

/-! ## Arguments -/

/-- What an argument is read as. -/
def argumentMeaning? : Source.Argument → Option Argument
  | .positional e => do some (none, ← spoken? e)
  | .keyword k => do some (some k.arg, ← spoken? k.value)

/-- The text of an argument is read as what it says. -/
structure ArgumentReadsBack (a : Source.Argument) : Prop where
  begins : ∀ rest, rest.head? ≠ some (.mark .assign) →
    (a.tokens ++ rest).head? ≠ some (.mark .closeParen) ∧
      (a.tokens ++ rest).head? ≠ some (.mark .closeBracket)
  read : ∀ rest, Ends rest → Yields readArgument (a.tokens ++ rest) (argumentMeaning? a) rest

theorem readsBack_positional {e : Expr} (h : ReadsBack e) (legible : e.Legible) :
    ArgumentReadsBack (.positional e) where
  begins rest after :=
    have begins := begins_tokens legible rest after
    ⟨begins.open_paren, begins.open_bracket⟩
  read rest ends := by
    have begins := begins_tokens legible rest ends.no_assign
    have expr := h.expr rest ends
    refine ⟨?_, by simp [Source.Argument.tokens]⟩
    rw [Source.Argument.tokens, readArgument.eq_def]
    split
    · next eq => exact absurd eq (begins.no_keyword _ _)
    · rw [expr.eq, argumentMeaning?]
      cases spoken? e <;> rfl

theorem readsBack_keyword {k : Keyword Expr} (free : k.arg ∉ reservedWords)
    (h : ReadsBack k.value) : ArgumentReadsBack (.keyword k) where
  begins rest _ := by simp [Source.Argument.tokens]
  read rest ends := by
    refine ⟨?_, by simp [Source.Argument.tokens]; omega⟩
    rw [Source.Argument.tokens, List.cons_append, List.cons_append, readArgument, if_neg free,
      (h.expr rest ends).eq, argumentMeaning?]
    cases spoken? k.value <;> rfl

/-- No list of arguments starts with the mark that closes it. -/
theorem head?_commaTokens_ne (close : Mark) (closer : close ∈ [Mark.closeParen, .closeBracket])
    {a : Source.Argument} (h : ArgumentReadsBack a) (items : List Source.Argument)
    (rest : List Token) :
    (commaTokens ((a :: items).map Source.Argument.tokens) ++ .mark close :: rest).head? ≠
      some (.mark close) := by
  have first (after : List Token) (no_assign : after.head? ≠ some (.mark .assign)) :
      (a.tokens ++ after).head? ≠ some (.mark close) := by
    rcases List.mem_pair.1 closer with rfl | rfl
    · exact (h.begins after no_assign).1
    · exact (h.begins after no_assign).2
  cases items with
  | nil =>
    rw [commaTokens, List.map_singleton, List.intercalate_singleton]
    refine first _ ?_
    rcases List.mem_pair.1 closer with rfl | rfl <;> simp
  | cons b items =>
    rw [commaTokens, List.map_cons, List.map_cons, List.intercalate_cons_cons, List.append_assoc,
      List.append_assoc]
    exact first _ (by simp)

/-- Arguments are read up to the mark that closes them. -/
theorem readArguments_commaTokens (close : Mark) (closer : close ∈ [Mark.closeParen, .closeBracket])
    (items : List Source.Argument) (some_items : items ≠ [])
    (h : ∀ a ∈ items, ArgumentReadsBack a) (rest : List Token) :
    readArguments close (commaTokens (items.map Source.Argument.tokens) ++ .mark close :: rest) =
      (items.mapM argumentMeaning?).map (·, rest) := by
  have closes : Token.mark close ∈ [Token.mark .comma, .mark .closeParen, .mark .closeBracket] := by
    rcases List.mem_pair.1 closer with rfl | rfl <;> simp
  match items with
  | [] => exact absurd rfl some_items
  | [a] =>
    have last := (h a List.mem_cons_self).read (.mark close :: rest) (ends_cons closes rest)
    rw [List.map_singleton, commaTokens, List.intercalate_singleton, readArguments, last.eq,
      List.mapM_cons, List.mapM_nil]
    cases argumentMeaning? a <;> simp
  | a :: b :: items =>
    have others : ∀ c ∈ b :: items, ArgumentReadsBack c :=
      fun c hc => h c (List.mem_cons_of_mem _ hc)
    have tail := readArguments_commaTokens close closer (b :: items) (by simp) others rest
    have no_end := head?_commaTokens_ne close closer (others b List.mem_cons_self) items rest
    have not_close : Mark.comma ≠ close := by
      rcases List.mem_pair.1 closer with rfl | rfl <;> decide
    have text : commaTokens ((a :: b :: items).map Source.Argument.tokens) ++ .mark close :: rest =
        a.tokens ++ .mark .comma :: (commaTokens ((b :: items).map Source.Argument.tokens) ++
          .mark close :: rest) := by
      simp [commaTokens, List.intercalate_cons_cons]
    rw [text, List.mapM_cons]
    generalize commaTokens ((b :: items).map Source.Argument.tokens) ++ .mark close :: rest = next
      at tail no_end
    have first := (h a List.mem_cons_self).read (.mark .comma :: next) (ends_cons (by simp) _)
    have shorter : next.length < (a.tokens ++ .mark .comma :: next).length := by
      simp
      omega
    rw [readArguments, first.eq]
    cases argumentMeaning? a with
    | none => rfl
    | some value =>
      simp only [Option.map_some, Option.bind_eq_bind, Option.bind_some, not_close, if_false,
        shorter, and_self, if_true, no_end, tail]
      cases List.mapM argumentMeaning? (b :: items) <;> rfl

/-! ## Values of arguments -/

theorem mapM_positional (es : List Expr) :
    (es.map Source.Argument.positional).mapM argumentMeaning? =
      (meanings? es).map (·.map (none, ·)) := by
  induction es with
  | nil => rfl
  | cons e es ih =>
    rw [List.map_cons, List.mapM_cons, ih, meanings?, argumentMeaning?, spoken?]
    cases meaning? e <;> cases meanings? es <;> rfl

theorem mapM_keyword (ks : List (Keyword Expr)) :
    (ks.map Source.Argument.keyword).mapM argumentMeaning? =
      (keywordMeanings? ks).map (·.map fun k => (some k.arg, k.value)) := by
  induction ks with
  | nil => rfl
  | cons k ks ih =>
    rw [List.map_cons, List.mapM_cons, ih, keywordMeanings?, argumentMeaning?, spoken?]
    cases meaning? k.value <;> cases keywordMeanings? ks <;> rfl

theorem positional?_map (rs : List Reading) : positional? (rs.map (none, ·)) = some rs := by
  induction rs with
  | nil => rfl
  | cons r rs ih =>
    rw [positional?] at ih ⊢
    rw [List.map_cons, List.mapM_cons, ih]
    rfl

theorem keywords?_map (ks : List (Keyword Reading)) :
    keywords? (ks.map fun k => (some k.arg, k.value)) = some ks := by
  induction ks with
  | nil => rfl
  | cons k ks ih =>
    rw [keywords?] at ih ⊢
    rw [List.map_cons, List.mapM_cons, ih]
    rfl

theorem bind_positional?_arguments (items : List Expr) :
    ((arguments items []).mapM argumentMeaning?).bind positional? = meanings? items := by
  rw [arguments, List.map_nil, List.append_nil, mapM_positional]
  cases meanings? items with
  | none => rfl
  | some rs => exact positional?_map rs

theorem callArguments?_append (rs : List Reading) (ks : List (Keyword Reading)) :
    callArguments? (rs.map (none, ·) ++ ks.map fun k => (some k.arg, k.value)) = some (rs, ks) := by
  have plain : ∀ a ∈ rs.map (fun r => ((none, r) : Argument)), a.1.isNone = true := by simp
  have taken : (ks.map fun k => ((some k.arg, k.value) : Argument)).takeWhile (·.1.isNone) =
      [] := by
    cases ks <;> simp
  have kept : (ks.map fun k => ((some k.arg, k.value) : Argument)).dropWhile (·.1.isNone) =
      ks.map fun k => (some k.arg, k.value) := by
    cases ks <;> simp
  rw [callArguments?, List.takeWhile_append_of_pos plain, List.dropWhile_append_of_pos plain, taken,
    kept, List.append_nil, positional?_map, keywords?_map]
  rfl

theorem bind_callArguments?_arguments (args : List Expr) (keywords : List (Keyword Expr)) :
    ((arguments args keywords).mapM argumentMeaning?).bind callArguments? =
      (meanings? args).bind fun rs => (keywordMeanings? keywords).map fun ks => (rs, ks) := by
  rw [arguments, List.mapM_append, mapM_positional, mapM_keyword]
  cases meanings? args with
  | none => rfl
  | some rs =>
    cases keywordMeanings? keywords with
    | none => rfl
    | some ks => exact callArguments?_append rs ks

/-! ## Constructors -/

theorem readsBack_arguments {args : List Expr} {keywords : List (Keyword Expr)}
    (args_legible : ∀ a ∈ args, a.Legible) (args_read : ∀ a ∈ args, ReadsBack a)
    (free : ∀ k ∈ keywords, k.arg ∉ reservedWords)
    (values_read : ∀ k ∈ keywords, ReadsBack k.value) :
    ∀ a ∈ arguments args keywords, ArgumentReadsBack a := by
  intro a ha
  simp only [arguments, List.mem_append, List.mem_map] at ha
  obtain ⟨e, he, rfl⟩ | ⟨k, hk, rfl⟩ := ha
  · exact readsBack_positional (args_read e he) (args_legible e he)
  · exact readsBack_keyword (free k hk) (values_read k hk)

theorem wordReading?_of_free {id : String} (h : id ∉ reservedWords) :
    wordReading? id = some (.name id) := by
  have notNone : id ≠ "None" := by rintro rfl; exact h (by decide)
  have notTrue : id ≠ "True" := by rintro rfl; exact h (by decide)
  have notFalse : id ≠ "False" := by rintro rfl; exact h (by decide)
  rw [wordReading?, if_neg notNone, if_neg notTrue, if_neg notFalse, if_neg h]

theorem readTrailers_attribute (r : Reading) {attr : String} (free : attr ∉ reservedWords)
    (rest : List Token) :
    readTrailers r (.mark .point :: .word attr :: rest) =
      readTrailers (.attribute r attr) rest := by
  rw [readTrailers, if_neg free]

theorem readTrailers_openParen (r : Reading) (h : ts.head? ≠ some (.mark .closeParen)) :
    readTrailers r (.mark .openParen :: ts) = (do
      let (items, rest) ← readArguments .closeParen ts
      let (args, keywords) ← callArguments? items
      if rest.length ≤ ts.length then readTrailers (.call r args keywords) rest else none) := by
  rw [readTrailers.eq_def]
  split <;> simp_all

theorem readTrailers_call (r : Reading) {args : List Expr} {keywords : List (Keyword Expr)}
    (h : ∀ a ∈ arguments args keywords, ArgumentReadsBack a) (rest : List Token) :
    readTrailers r (.mark .openParen ::
        (commaTokens ((arguments args keywords).map Source.Argument.tokens) ++
          .mark .closeParen :: rest)) =
      (meanings? args).bind fun rs => (keywordMeanings? keywords).bind fun ks =>
        readTrailers (.call r rs ks) rest := by
  by_cases empty : arguments args keywords = []
  · obtain ⟨rfl, rfl⟩ : args = [] ∧ keywords = [] := by simpa [arguments] using empty
    simp [arguments, commaTokens, readTrailers, meanings?, keywordMeanings?]
  · obtain ⟨a, items, cons⟩ := List.exists_cons_of_ne_nil empty
    have items_read := readArguments_commaTokens .closeParen (by simp) _ empty h rest
    have no_end := head?_commaTokens_ne .closeParen (by simp)
      (h a (by rw [cons]; exact List.mem_cons_self)) items rest
    have values := bind_callArguments?_arguments args keywords
    have shorter : rest.length ≤ (commaTokens ((arguments args keywords).map
        Source.Argument.tokens) ++ .mark .closeParen :: rest).length := by
      simp
      omega
    rw [← cons] at no_end
    generalize commaTokens ((arguments args keywords).map Source.Argument.tokens) ++
      .mark .closeParen :: rest = next at items_read no_end shorter
    rw [readTrailers_openParen r no_end, items_read]
    cases said : (arguments args keywords).mapM argumentMeaning? with
    | none =>
      rw [said] at values
      cases args_said : meanings? args with
      | none => rfl
      | some rs =>
        cases keywords_said : keywordMeanings? keywords with
        | none => rfl
        | some ks => simp [args_said, keywords_said] at values
    | some items =>
      rw [said, Option.bind_some] at values
      simp only [Option.map_some, Option.bind_eq_bind, Option.bind_some, values, shorter, if_true]
      cases meanings? args with
      | none => rfl
      | some rs => cases keywordMeanings? keywords <;> rfl

theorem readAtom_openBracket (h : ts.head? ≠ some (.mark .closeBracket)) :
    readAtom (.mark .openBracket :: ts) = (do
      let (items, rest) ← readArguments .closeBracket ts
      let items ← positional? items
      some (.list items, rest)) := by
  rw [readAtom.eq_def]
  split <;> simp_all

theorem readAtom_list {items : List Expr} (h : ∀ a ∈ arguments items [], ArgumentReadsBack a)
    (rest : List Token) :
    readAtom (body (.list items) ++ rest) = (meaning? (.list items)).map (·, rest) := by
  rw [body, tokensIn_eq_map, List.cons_append, List.append_assoc, List.singleton_append, meaning?]
  by_cases empty : arguments items [] = []
  · obtain rfl : items = [] := by simpa [arguments] using empty
    simp [arguments, commaTokens, readAtom, meanings?]
  · obtain ⟨a, others, cons⟩ := List.exists_cons_of_ne_nil empty
    have items_read := readArguments_commaTokens .closeBracket (by simp) _ empty h rest
    have no_end := head?_commaTokens_ne .closeBracket (by simp)
      (h a (by rw [cons]; exact List.mem_cons_self)) others rest
    have values := bind_positional?_arguments items
    rw [← cons] at no_end
    rw [readAtom_openBracket no_end, items_read]
    cases said : (arguments items []).mapM argumentMeaning? with
    | none => rw [← values, said]; rfl
    | some more =>
      rw [said, Option.bind_some] at values
      simp only [Option.map_some, Option.bind_eq_bind, Option.bind_some, values]
      cases meanings? items <;> rfl

theorem readAtom_tuple {items : List Expr} (legible : ∀ e ∈ items, e.Legible)
    (h : ∀ e ∈ items, ReadsBack e) (rest : List Token) :
    readAtom (body (.tuple items) ++ rest) = (meaning? (.tuple items)).map (·, rest) := by
  match items with
  | [] =>
    rw [body_tuple_of_ne (by simp)]
    simp [tokensIn, commaTokens, readAtom, meaning?, meanings?]
  | [item] =>
    have begins := begins_tokens (legible item List.mem_cons_self)
      (.mark .comma :: .mark .closeParen :: rest) (by simp)
    have first := (h item List.mem_cons_self).expr (.mark .comma :: .mark .closeParen :: rest)
      (ends_cons (by simp) _)
    have text : body (.tuple [item]) ++ rest = .mark .openParen ::
        (tokens item ++ .mark .comma :: .mark .closeParen :: rest) := by
      simp [body, tokens]
    rw [text, readAtom_openParen begins.open_paren, first.eq, meaning?, meanings?, meanings?,
      spoken?]
    cases meaning? item <;> rfl
  | item :: second :: items =>
    have others : ∀ a ∈ arguments (second :: items) [], ArgumentReadsBack a :=
      readsBack_arguments (fun e he => legible e (List.mem_cons_of_mem _ he))
        (fun e he => h e (List.mem_cons_of_mem _ he)) (by simp) (by simp)
    have items_read := readArguments_commaTokens .closeParen (by simp) _
      (by simp [arguments]) others rest
    have no_end := head?_commaTokens_ne .closeParen (by simp)
      (others (.positional second) (by simp [arguments])) (items.map .positional) rest
    have values := bind_positional?_arguments (second :: items)
    have text : body (.tuple (item :: second :: items)) ++ rest = .mark .openParen ::
        (tokens item ++ .mark .comma :: (commaTokens ((arguments (second :: items) []).map
          Source.Argument.tokens) ++ .mark .closeParen :: rest)) := by
      rw [body_tuple_of_ne (by simp), tokensIn_eq_map]
      simp [arguments, commaTokens, List.intercalate_cons_cons, Source.Argument.tokens]
    have cons : Source.Argument.positional second :: items.map .positional =
        arguments (second :: items) [] := by simp [arguments]
    rw [cons] at no_end
    rw [text]
    generalize commaTokens ((arguments (second :: items) []).map Source.Argument.tokens) ++
      .mark .closeParen :: rest = next at items_read no_end
    have begins := begins_tokens (legible item List.mem_cons_self) (.mark .comma :: next)
      (by simp)
    have first := (h item List.mem_cons_self).expr (.mark .comma :: next) (ends_cons (by simp) _)
    rw [readAtom_openParen begins.open_paren, first.eq, meaning?, meanings?, ← values, spoken?]
    cases meaning? item with
    | none => rfl
    | some r =>
      simp only [Option.map_some, Option.bind_eq_bind, Option.bind_some]
      split
      · next eq => cases eq
      · next eq =>
        rw [(List.cons.inj eq).2] at no_end
        exact absurd rfl no_end
      · next eq =>
        obtain rfl := (List.cons.inj eq).2
        rw [if_pos (by simp; omega), items_read]
        cases (arguments (second :: items) []).mapM argumentMeaning? with
        | none => rfl
        | some more =>
          simp only [Option.map_some, Option.bind_some]
          cases positional? more <;> rfl
      · next other => exact absurd rfl (other _)

/-- The text of a legible expression without reserved words is read as what it says. -/
theorem readsBack {e : Expr} (h : e.Legible) (free : e.Every Expr.OwnFree) : ReadsBack e := by
  induction h with
  | @name id identifier not_reserved =>
    refine .of_atom rfl (.name identifier not_reserved) fun rest => ?_
    simp [body, readAtom, wordReading?_of_free not_reserved, meaning?]
  | @«attribute» value attr legible identifier ih =>
    obtain ⟨own, value_free⟩ := Expr.every_attribute.1 free
    have attr_free : attr ∉ reservedWords := own attr (by simp [Expr.ownIdentifiers])
    refine .of_operand rfl (.attribute legible identifier) fun rest => ?_
    rw [enclosed_of_not_isOperation rfl, body]
    by_cases integer : IsInteger value
    · obtain ⟨i, rfl⟩ := integer
      have atom : readAtom (.decimal i.natAbs :: .word attr :: rest) = none := by
        rw [readAtom.eq_def]
      rw [pointed, List.singleton_append, List.cons_append, List.singleton_append, readPrimary,
        atom, meaning?]
      rfl
    · rw [pointed_of_not_isInteger integer, List.append_assoc, List.append_assoc,
        (ih value_free).operand, meaning?_attribute integer]
      simp only [List.singleton_append, readTrailers_attribute _ attr_free, Option.bind_assoc]
      cases meaning? value <;> rfl
  | @call func args keywords func_legible args_legible identifiers values_legible func_ih args_ih
      values_ih =>
    obtain ⟨own, func_free, args_free, values_free⟩ := Expr.every_call.1 free
    have items := readsBack_arguments args_legible (fun a ha => args_ih a ha (args_free a ha))
      (fun k hk => own k.arg (List.mem_map_of_mem hk))
      fun k hk => values_ih k hk (values_free k hk)
    have legible := Expr.Legible.call func_legible args_legible identifiers values_legible
    refine .of_operand rfl legible fun rest => ?_
    rw [enclosed_of_not_isOperation rfl, body, tokensIn_append_keywordTokens, List.append_assoc,
      List.cons_append, List.append_assoc, List.singleton_append, (func_ih func_free).operand,
      meaning?]
    simp only [readTrailers_call _ items]
    cases meaning? func with
    | none => rfl
    | some f =>
      cases meanings? args with
      | none => rfl
      | some rs => cases keywordMeanings? keywords <;> rfl
  | @constant c notFloat =>
    refine .of_atom rfl (.constant notFloat) fun rest => ?_
    rw [body, meaning?]
    cases c with
    | none => simp [constantTokens, readAtom, wordReading?, magnitude]
    | bool value => cases value <;> simp [constantTokens, readAtom, wordReading?, magnitude]
    | int i => simp [constantTokens, readAtom, magnitude]
    | float x => exact absurd rfl (notFloat x)
    | str s => simp [constantTokens, readAtom, magnitude]
  | @tuple items legible ih =>
    obtain ⟨-, items_free⟩ := Expr.every_tuple.1 free
    exact .of_atom rfl (.tuple legible)
      (readAtom_tuple legible fun e he => ih e he (items_free e he))
  | @list items legible ih =>
    obtain ⟨-, items_free⟩ := Expr.every_list.1 free
    exact .of_atom rfl (.list legible) (readAtom_list (readsBack_arguments legible
      (fun e he => ih e he (items_free e he)) (by simp) (by simp)))
  | @compare left right op left_legible right_legible left_ih right_ih =>
    obtain ⟨-, left_free, right_free⟩ := Expr.every_compare.1 free
    exact .of_operation rfl (.compare left_legible right_legible) fun rest ends =>
      (left_ih left_free).expr_compare (right_ih right_free) left_legible right_legible ends
  | @binOp left right op left_legible right_legible left_ih right_ih =>
    obtain ⟨-, left_free, right_free⟩ := Expr.every_binOp.1 free
    refine .of_operation rfl (.binOp left_legible right_legible) fun rest ends => ?_
    by_cases power : op = .pow
    · subst power
      exact (left_ih left_free).expr_power (right_ih right_free) left_legible right_legible ends
    · exact (left_ih left_free).expr_level (right_ih right_free) left_legible right_legible power
        ends
  | @woven w alias_identifier not_reserved identifier =>
    have own := Expr.every_woven.1 free
    refine .of_operand rfl (.woven alias_identifier not_reserved identifier) fun rest => ?_
    have atom : Yields readAtom (body (.woven w) ++ rest) (some (.name w.shortName))
        (.mark .point :: .word w.declName :: rest) := by
      refine ⟨?_, by simp [body]⟩
      rw [body, List.cons_append, readAtom, wordReading?_of_free not_reserved]
      rfl
    rw [enclosed_of_not_isOperation rfl, readPrimary_of_atom atom, Option.bind_some,
      readTrailers_attribute _ (own w.declName (by simp [Expr.ownIdentifiers])), meaning?]
    rfl

/-! ## Texts -/

/-- The text of an expression is read to its end. -/
theorem read_source {e : Expr} (h : e.Legible) (free : e.Every Expr.OwnFree) :
    read e.source = spoken? e := by
  have cut := lex_source h [] ⟨by simp [WordEnds], by simp⟩
  rw [List.append_nil, lex_nil, Option.map_some, List.append_nil] at cut
  have parsed := ((readsBack h free).expr [] (by simp [Ends])).eq
  rw [List.append_nil] at parsed
  rw [read, cut, Option.bind_eq_bind, Option.bind_some, parsed]
  cases spoken? e <;> rfl

/-- Without doubles and reserved words, the text of a checked expression is read as the expression
just if no integer constant in it is taken apart. -/
theorem read_source_iff {e : Expr} (checked : e.check = .ok ())
    (float_free : e.EveryConstant fun c => ∀ x, c ≠ .float x) (free : e.Every Expr.OwnFree) :
    read e.source = some e.reading ↔ e.Every Kept := by
  have clear : ∀ x ∈ e.subterms, x.Clear := fun x hx =>
    ⟨fun f eq => float_free (.float f) (eq ▸ hx) f rfl, fun id bare => free x hx id (by
      cases x with
      | name _ => simpa [Expr.bareName?, Expr.ownIdentifiers, eq_comm] using bare
      | woven w => exact List.mem_cons.2 (.inl (Option.some.inj bare).symm)
      | _ => cases bare)⟩
  have legible := e.legible_of_clear checked clear
  rw [read_source legible free, spoken?_eq_iff legible]

/-- A call raised to a power, with a woven reference among its arguments. -/
def poweredCall : Expr :=
  .binOp (.call (.attribute (.name "f") "g") [.constant (.int (-2))]
    [⟨"key", .woven ⟨"m", "d", ⟨"/m.py"⟩, "m_"⟩⟩]) .pow (.constant (.int (-2)))

theorem read_source_iff_poweredCall :
    poweredCall.check = .ok () ∧ (poweredCall.EveryConstant fun c => ∀ x, c ≠ .float x) ∧
      poweredCall.Every Expr.OwnFree ∧ poweredCall.source = "f.g(-2, key=m_.d) ** -2" ∧
      read poweredCall.source = some poweredCall.reading := by
  have checked : poweredCall.check = .ok () := rfl
  have float_free : poweredCall.EveryConstant fun c => ∀ x, c ≠ .float x := by
    simp [poweredCall]
  have free : poweredCall.Every Expr.OwnFree := by
    simp only [poweredCall, Expr.every_binOp, Expr.every_call, Expr.every_attribute,
      Expr.every_name, Expr.every_constant, Expr.every_woven, List.forall_mem_singleton,
      Expr.OwnFree, Expr.ownIdentifiers]
    decide
  have kept : poweredCall.Every Kept := by
    simp [poweredCall, Expr.every_binOp, Expr.every_call, Expr.every_attribute, Expr.every_name,
      Expr.every_constant, Expr.every_woven, Kept, IsInteger, IsNegativeInteger]
  exact ⟨checked, float_free, free, by decide +kernel,
    (read_source_iff checked float_free free).2 kept⟩

/-- The minus of the constant is read after the power. -/
theorem read_power_of_negative :
    let e : Expr := .binOp (.constant (.int (-2))) .pow (.constant (.int 2))
    e.check = .ok () ∧ (e.EveryConstant fun c => ∀ x, c ≠ .float x) ∧ e.Every Expr.OwnFree ∧
      e.source = "-2 ** 2" ∧ read e.source ≠ some e.reading ∧
      read e.source = some (.negative (.binOp (.constant (.int 2)) .pow (.constant (.int 2)))) := by
  intro e
  have legible : e.Legible := .binOp (.constant (by simp)) (.constant (by simp))
  have free : e.Every Expr.OwnFree := by
    simp [e, Expr.every_binOp, Expr.every_constant, Expr.OwnFree, Expr.ownIdentifiers]
  have said : read e.source =
      some (.negative (.binOp (.constant (.int 2)) .pow (.constant (.int 2)))) := by
    rw [read_source legible free]
    rfl
  refine ⟨rfl, by simp [e], free, by decide +kernel, ?_, said⟩
  rw [said]
  simp [e, Expr.reading]

end Loom.Grammar
