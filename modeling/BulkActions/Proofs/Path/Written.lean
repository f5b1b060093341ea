import BulkActions.Proofs.Path.Way

/-! The text of a way is read back as the way: a name that is written bare ends at the next step,
and a quoted one at its own quote, which it does not hold. -/

namespace BulkActions.Path

/-- The tokens a text consists of, however much fuel there is beyond its length. -/
def Reads (cs : List Char) (tokens : List Token) : Prop :=
  ∀ fuel, cs.length ≤ fuel → (lexFrom fuel cs).lexemes.map (·.token) = tokens

theorem reads_nil : Reads [] [] := by
  intro fuel _
  cases fuel <;> rfl

theorem Reads.cons {c : Char} {cs rest : List Char} {token : Token} {tokens : List Token}
    (tail : Reads rest tokens) (read : readToken c cs = .token token rest)
    (shorter : rest.length ≤ cs.length) : Reads (c :: cs) (token :: tokens) := by
  intro fuel enough
  cases fuel with
  | zero => simp at enough
  | succ fuel =>
    simp only [List.length_cons] at enough
    simp only [lexFrom, read, List.map_cons, tail fuel (by omega)]

/-! Bare names. -/

theorem toNat_of_isNamePart {c : Char} (part : isNamePart c = true) :
    (48 ≤ c.toNat ∧ c.toNat ≤ 57) ∨ (65 ≤ c.toNat ∧ c.toNat ≤ 90) ∨ c.toNat = 95 ∨
      (97 ≤ c.toNat ∧ c.toNat ≤ 122) := by
  have ranges : ((decide (65 ≤ c.val ∧ c.val ≤ 90) ||
      (decide (97 ≤ c.val) && decide (c.val ≤ 122))) ||
      (decide (48 ≤ c.val) && decide (c.val ≤ 57)) || c == '_') = true := part
  simp only [Bool.or_eq_true, Bool.and_eq_true, decide_eq_true_eq, beq_iff_eq,
    UInt32.le_iff_toNat_le] at ranges
  rcases ranges with ((upper | lower) | digit) | line
  · exact .inr (.inl upper)
  · exact .inr (.inr (.inr lower))
  · exact .inl digit
  · exact .inr (.inr (.inl (by rw [line]; rfl)))

theorem isBlank_of_isNamePart {c : Char} (part : isNamePart c = true) : Text.isBlank c = false := by
  have range := toNat_of_isNamePart part
  simp only [Text.isBlank, Bool.or_eq_false_iff, Bool.and_eq_false_iff, decide_eq_false_iff_not,
    beq_eq_false_iff_ne]
  omega

theorem ne_of_isNamePart {c : Char} (part : isNamePart c = true) (mark : Char)
    (none : isNamePart mark = false) : c ≠ mark := by
  rintro rfl
  rw [part] at none
  cases none

theorem isStop_of_isNamePart {c : Char} (part : isNamePart c = true) : isStop c = false := by
  rw [Bool.eq_false_iff]
  intro stop
  have none : (['.', '*', '[', ']', '(', ')', '@', '?', ',', ':', '<', '>', '=', '&', '|',
      '!'].all fun mark => !isNamePart mark) = true := rfl
  have outside := List.all_eq_true.mp none c (List.contains_iff_mem.mp stop)
  exact ne_of_isNamePart part c (by simpa using outside) rfl

theorem continuesKey_of_isNamePart {c : Char} (part : isNamePart c = true) :
    continuesKey c = true := by
  simp [continuesKey, isStop_of_isNamePart part, isBlank_of_isNamePart part,
    ne_of_isNamePart part '$' rfl]

theorem isNamePart_of_isNameStart {c : Char} (start : isNameStart c = true) :
    isNamePart c = true := by
  rcases Bool.or_eq_true_iff.mp start with letter | line
  · simp [isNamePart, Char.isAlphanum, letter]
  · simp [isNamePart, line]

/-- What may stand in a name begins no other token. -/
theorem readToken_of_isNamePart {c : Char} (part : isNamePart c = true) (cs : List Char) :
    readToken c cs = .token (.key (String.ofList (c :: cs.takeWhile continuesKey)))
      (cs.dropWhile continuesKey) := by
  have noStop := isStop_of_isNamePart part
  simp only [isStop, List.contains_eq_mem, List.mem_cons, List.not_mem_nil, or_false,
    decide_eq_false_iff_not, not_or] at noStop
  simp [readToken, noStop, isBlank_of_isNamePart part, ne_of_isNamePart part '$' rfl,
    ne_of_isNamePart part '\'' rfl, ne_of_isNamePart part '"' rfl]

/-- No bare name goes on into this text. -/
def Ends (rest : List Char) : Prop := ∀ c ∈ rest.head?, isStop c = true

theorem ends_nil : Ends [] := by simp [Ends]

theorem ends_cons {c : Char} (stop : isStop c = true) (rest : List Char) : Ends (c :: rest) := by
  simpa [Ends] using stop

/-- What goes on at no stop takes a whole name and nothing of what follows it. -/
theorem span_of_ends {goesOn : Char → Bool} (stops : ∀ c, isStop c = true → goesOn c = false)
    {name rest : List Char} (inside : ∀ c ∈ name, goesOn c = true) (ends : Ends rest) :
    (name ++ rest).takeWhile goesOn = name ∧ (name ++ rest).dropWhile goesOn = rest := by
  rw [List.takeWhile_append_of_pos inside, List.dropWhile_append_of_pos inside]
  cases rest with
  | nil => simp
  | cons c rest =>
    have stopped := stops c (by simpa [Ends] using ends)
    simp [stopped]

theorem readToken_key {name rest : List Char} (bare : isName name = true) (ends : Ends rest) :
    ∃ c cs, name ++ rest = c :: cs ∧
      readToken c cs = .token (.key (String.ofList name)) rest := by
  cases name with
  | nil => simp [isName] at bare
  | cons c more =>
    obtain ⟨start, parts⟩ := Bool.and_eq_true_iff.mp bare
    have inside : ∀ d ∈ more, continuesKey d = true := fun d member =>
      continuesKey_of_isNamePart (List.all_eq_true.mp parts d member)
    obtain ⟨taken, left⟩ := span_of_ends (fun d stop => by simp [continuesKey, stop]) inside ends
    refine ⟨c, more ++ rest, rfl, ?_⟩
    rw [readToken_of_isNamePart (isNamePart_of_isNameStart start), taken, left]

theorem readToken_root {rest : List Char} (ends : Ends rest) :
    readToken '$' rest = .token .root rest := by
  have stops : ∀ c, isStop c = true → continuesDollar c = false := by
    intro c stop
    simp [continuesDollar, stop]
  have taken : ([] ++ rest).takeWhile continuesDollar = [] :=
    (span_of_ends stops (by simp) ends).1
  rw [List.nil_append] at taken
  simp [readToken, taken]

/-! Quoted names. -/

theorem quotedName_of_free {quote : Char} {name : List Char} (free : quote ∉ name)
    (last : name.getLast? ≠ some '\\') (rest : List Char) :
    quotedName quote (name ++ quote :: rest) = .token (.quoted (String.ofList name)) rest := by
  have inside : ∀ c ∈ name, (c != quote) = true := by
    intro c member
    have differs : c ≠ quote := by
      rintro rfl
      exact free member
    simpa using differs
  have first : (name ++ quote :: rest).takeWhile (· != quote) = name := by
    rw [List.takeWhile_append_of_pos inside]
    simp
  have left : (name ++ quote :: rest).dropWhile (· != quote) = quote :: rest := by
    rw [List.dropWhile_append_of_pos inside]
    simp
  simp only [quotedName, first, left, last, ↓reduceIte]

/-- A member is written bare, or between quotes that its name does not hold. -/
theorem memberStep?_cases {name step : String} (stepped : memberStep? name = some step) :
    (isName name.toList = true ∧ step.toList = '.' :: name.toList) ∨
    (isName name.toList = false ∧ name.toList.getLast? ≠ some '\\' ∧
      ∃ quote, (quote = '\'' ∨ quote = '"') ∧ quote ∉ name.toList ∧
        step.toList = '[' :: quote :: (name.toList ++ [quote, ']'])) := by
  simp only [memberStep?] at stepped
  split at stepped
  · rename_i bare
    cases stepped
    exact .inl ⟨bare, by simp⟩
  · rename_i notBare
    split at stepped
    · cases stepped
    · rename_i last
      refine .inr ⟨by simpa using notBare, last, ?_⟩
      split at stepped
      · rename_i free
        cases stepped
        exact ⟨'\'', .inl rfl, by simpa using free, by simp⟩
      · split at stepped
        · rename_i free
          cases stepped
          exact ⟨'"', .inr rfl, by simpa using free, by simp⟩
        · cases stepped

/-! Ways. -/

namespace Step

/-- The walk takes this step. -/
def Addressable : Step → Prop
  | .member name => (memberStep? name).isSome
  | _ => True

def tokens : Step → List Token
  | .member name =>
    if isName name.toList then [.dot, .key name] else [.openBracket, .quoted name, .closeBracket]
  | .first => [.openBracket, .key "0", .closeBracket]
  | .every => [.openBracket, .star, .closeBracket]

theorem reads_bare {name rest : List Char} {tokens : List Token} (bare : isName name = true)
    (ends : Ends rest) (tail : Reads rest tokens) :
    Reads (name ++ rest) (.key (String.ofList name) :: tokens) := by
  obtain ⟨c, cs, split, read⟩ := readToken_key bare ends
  have sizes := congrArg List.length split
  have some : name ≠ [] := by
    rintro rfl
    simp [isName] at bare
  have longer := List.length_pos_iff.mpr some
  simp only [List.length_append, List.length_cons] at sizes
  rw [split]
  exact .cons tail read (by omega)

theorem reads_text {step : Step} (addressable : step.Addressable) {rest : List Char}
    {tokens : List Token} (ends : Ends rest) (tail : Reads rest tokens) :
    Reads (step.text.toList ++ rest) (step.tokens ++ tokens) := by
  have closed : Reads (']' :: rest) (.closeBracket :: tokens) := tail.cons rfl (Nat.le_refl _)
  cases step with
  | member name =>
    obtain ⟨text, stepped⟩ := Option.isSome_iff_exists.mp addressable
    rcases memberStep?_cases stepped with
      ⟨bare, written⟩ | ⟨notBare, last, quote, kind, free, written⟩
    · simp only [Step.text, stepped, Option.getD_some, written, Step.tokens, bare, ↓reduceIte]
      have name := reads_bare bare ends tail
      rw [String.ofList_toList] at name
      exact name.cons rfl (Nat.le_refl _)
    · simp only [Step.text, stepped, Option.getD_some, written, Step.tokens, notBare,
        Bool.false_eq_true, ↓reduceIte]
      have read : readToken quote (name.toList ++ quote :: ']' :: rest) =
          .token (.quoted name) (']' :: rest) := by
        have quoted := quotedName_of_free free last (']' :: rest)
        rw [String.ofList_toList] at quoted
        rcases kind with rfl | rfl <;> exact quoted
      have inner := closed.cons read (by simp only [List.length_append, List.length_cons]; omega)
      have opened : Reads ('[' :: quote :: (name.toList ++ quote :: ']' :: rest))
          (.openBracket :: .quoted name :: .closeBracket :: tokens) :=
        inner.cons rfl (Nat.le_refl _)
      simpa using opened
  | first =>
    have inner : Reads ('0' :: ']' :: rest) (.key "0" :: .closeBracket :: tokens) :=
      closed.cons rfl (by simp)
    exact inner.cons rfl (Nat.le_refl _)
  | every =>
    have inner : Reads ('*' :: ']' :: rest) (.star :: .closeBracket :: tokens) :=
      closed.cons rfl (Nat.le_refl _)
    exact inner.cons rfl (Nat.le_refl _)

theorem ends_text {step : Step} (addressable : step.Addressable) (rest : List Char) :
    Ends (step.text.toList ++ rest) := by
  cases step with
  | member name =>
    obtain ⟨text, stepped⟩ := Option.isSome_iff_exists.mp addressable
    rcases memberStep?_cases stepped with ⟨_, written⟩ | ⟨_, _, quote, _, _, written⟩
    · simp only [Step.text, stepped, Option.getD_some, written]
      exact ends_cons rfl _
    · simp only [Step.text, stepped, Option.getD_some, written]
      exact ends_cons rfl _
  | first => exact ends_cons rfl _
  | every => exact ends_cons rfl _

end Step

variable {way : List Step}

theorem ends_textOf (addressable : ∀ step ∈ way, step.Addressable) : Ends (textOf way).toList := by
  cases way with
  | nil => exact ends_nil
  | cons step rest =>
    rw [textOf_cons, String.toList_append]
    exact Step.ends_text (addressable step List.mem_cons_self) _

theorem reads_textOf (addressable : ∀ step ∈ way, step.Addressable) :
    Reads (textOf way).toList (way.flatMap Step.tokens) := by
  induction way with
  | nil => exact reads_nil
  | cons step rest ih =>
    obtain ⟨first, later⟩ := List.forall_mem_cons.mp addressable
    rw [textOf_cons, String.toList_append, List.flatMap_cons]
    exact Step.reads_text first (ends_textOf later) (ih later)

/-- The tokens of a whole path. -/
theorem reads_path (addressable : ∀ step ∈ way, step.Addressable) :
    Reads ("$" ++ textOf way).toList (.root :: way.flatMap Step.tokens) := by
  rw [String.toList_append]
  exact (reads_textOf addressable).cons (readToken_root (ends_textOf addressable)) (Nat.le_refl _)

/-! Expressions. -/

/-- The expression of a way goes on by a step. -/
def Step.extend (base : Expr) : Step → Expr
  | .member name =>
    if isName name.toList then .child base (.key name) else .subscript base (.key name)
  | .first => .subscript base (.number (Float.ofInt 0))
  | .every => .subscript base .all

/-- The tokens ahead, one by one. -/
theorem ahead_cons {ahead : List Lexeme} {token : Token} {tokens : List Token}
    (lexed : ahead.map (·.token) = token :: tokens) :
    ∃ before after rest, ahead = ⟨token, before, after⟩ :: rest ∧
      rest.map (·.token) = tokens := by
  obtain ⟨⟨_, before, after⟩, rest, rfl, rfl, later⟩ := List.map_eq_cons_iff.mp lexed
  exact ⟨before, after, rest, rfl, later⟩

section Reading

variable {before after left : List Char} {rest : List Lexeme} {token : Token}

@[simp] theorem peek_cons : Cursor.peek ⟨left, ⟨token, before, after⟩ :: rest⟩ = some token := rfl

@[simp] theorem advance_cons :
    Cursor.advance ⟨left, ⟨token, before, after⟩ :: rest⟩ = ⟨after, rest⟩ := rfl

theorem skipBlanks_cons (solid : token ≠ .blank) :
    Cursor.skipBlanks ⟨left, ⟨token, before, after⟩ :: rest⟩ =
      ⟨left, ⟨token, before, after⟩ :: rest⟩ := by
  simp [Cursor.skipBlanks, Cursor.skipBlanks.go, solid]

theorem expect_cons :
    Cursor.expect ⟨left, ⟨token, before, after⟩ :: rest⟩ token = .ok ⟨after, rest⟩ := by
  simp [Cursor.expect]

theorem subscriptValue_quoted {name : String} (free : rest.head?.map (·.token) ≠ some .comma) :
    subscriptValue ⟨left, ⟨.quoted name, before, after⟩ :: rest⟩ =
      .ok (.key name, ⟨after, rest⟩) := by
  simp [subscriptValue, quotedNames, Cursor.takeQuoted, Cursor.peek, free, bind, Except.bind, pure,
    Except.pure]

theorem subscriptValue_first {closing : Lexeme} (closed : closing.token = .closeBracket) :
    subscriptValue ⟨left, ⟨.key "0", before, after⟩ :: closing :: rest⟩ =
      .ok (.number (Float.ofInt 0), ⟨after, closing :: rest⟩) := by
  have zero : Decimal.index? ['0'] = some 0 := by decide
  have taken : Cursor.takeNumber Decimal.index?
      ⟨left, ⟨.key "0", before, after⟩ :: closing :: rest⟩ = .ok (0, ⟨after, closing :: rest⟩) := by
    simp [Cursor.takeNumber, Cursor.takeKey, zero, bind, Except.bind]
  simp [subscriptValue, taken, Cursor.skipBlanks, Cursor.skipBlanks.go, Cursor.peek, closed, bind,
    Except.bind, pure, Except.pure]

/-- A subscript around one value. -/
theorem subscript_of_value {c : Cursor} {e : Expr} {inner : List Char} (fuel : Nat) (base : Expr)
    (noFilter : c.peek ≠ some .question) (noStar : c.peek ≠ some .star)
    (value : subscriptValue c = .ok (e, ⟨inner, ⟨.closeBracket, before, after⟩ :: rest⟩)) :
    subscript (fuel + 1) base c = .ok (.subscript base e, ⟨after, rest⟩) := by
  simp [subscript, value, skipBlanks_cons, expect_cons, bind, Except.bind, pure,
    Except.pure]

theorem subscript_every {innerBefore inner : List Char} (fuel : Nat) (base : Expr) :
    subscript (fuel + 1) base
        ⟨left, ⟨.star, innerBefore, inner⟩ :: ⟨.closeBracket, before, after⟩ :: rest⟩ =
      .ok (.subscript base .all, ⟨after, rest⟩) := by
  simp [subscript, skipBlanks_cons, expect_cons, bind, Except.bind, pure, Except.pure]

theorem steps_of_subscript {c : Cursor} {e : Expr} {fuel : Nat} {base : Expr}
    (read : subscript fuel base (Cursor.skipBlanks ⟨after, rest⟩) = .ok (e, c)) :
    steps (fuel + 1) base ⟨left, ⟨.openBracket, before, after⟩ :: rest⟩ = steps fuel e c := by
  simp [steps, read, bind, Except.bind]

theorem steps_of_dot {c : Cursor} {e : Expr} {fuel : Nat} {base : Expr}
    (read : dotStep fuel base ⟨after, rest⟩ = .ok (e, c)) :
    steps (fuel + 1) base ⟨left, ⟨.dot, before, after⟩ :: rest⟩ = steps fuel e c := by
  simp [steps, read, bind, Except.bind]

end Reading

/-- One step is read with one unit of fuel for what comes after it. -/
theorem Step.steps_extend (step : Step) (fuel : Nat) (base : Expr) (left : List Char)
    {ahead : List Lexeme} {tokens : List Token}
    (lexed : ahead.map (·.token) = step.tokens ++ tokens) :
    ∃ c : Cursor, c.ahead.map (·.token) = tokens ∧
      steps (fuel + 2) base ⟨left, ahead⟩ = steps (fuel + 1) (step.extend base) c := by
  cases step with
  | member name =>
    by_cases bare : isName name.toList = true
    · simp only [Step.tokens, bare, ↓reduceIte] at lexed
      obtain ⟨_, _, _, rfl, named⟩ := ahead_cons lexed
      obtain ⟨_, after, rest, rfl, later⟩ := ahead_cons named
      refine ⟨⟨after, rest⟩, later, steps_of_dot ?_⟩
      simp [dotStep, Step.extend, bare]
    · simp only [Step.tokens, bare] at lexed
      obtain ⟨_, _, _, rfl, named⟩ := ahead_cons lexed
      obtain ⟨_, _, _, rfl, closed⟩ := ahead_cons named
      obtain ⟨_, after, rest, rfl, later⟩ := ahead_cons closed
      refine ⟨⟨after, rest⟩, later, steps_of_subscript ?_⟩
      rw [skipBlanks_cons (by simp), Step.extend, if_neg bare]
      exact subscript_of_value _ _ (by simp) (by simp) (subscriptValue_quoted (by simp))
  | first =>
    obtain ⟨_, _, _, rfl, indexed⟩ := ahead_cons lexed
    obtain ⟨_, _, _, rfl, closed⟩ := ahead_cons indexed
    obtain ⟨_, after, rest, rfl, later⟩ := ahead_cons closed
    refine ⟨⟨after, rest⟩, later, steps_of_subscript ?_⟩
    rw [skipBlanks_cons (by simp)]
    exact subscript_of_value _ _ (by simp) (by simp) (subscriptValue_first rfl)
  | every =>
    obtain ⟨_, _, _, rfl, starred⟩ := ahead_cons lexed
    obtain ⟨_, _, _, rfl, closed⟩ := ahead_cons starred
    obtain ⟨_, after, rest, rfl, later⟩ := ahead_cons closed
    refine ⟨⟨after, rest⟩, later, steps_of_subscript ?_⟩
    rw [skipBlanks_cons (by simp)]
    exact subscript_every _ _

/-- A way is read step by step; nothing is left after it. -/
theorem steps_foldl_extend (way : List Step) (fuel : Nat) (enough : way.length < fuel) (base : Expr)
    (left : List Char) {ahead : List Lexeme}
    (lexed : ahead.map (·.token) = way.flatMap Step.tokens) :
    ∃ c, steps (fuel + 1) base ⟨left, ahead⟩ = .ok (way.foldl Step.extend base, c) := by
  induction way generalizing fuel base left ahead with
  | nil =>
    have done : ahead = [] := List.map_eq_nil_iff.mp lexed
    subst done
    exact ⟨⟨left, []⟩, by simp [steps, Cursor.peek]⟩
  | cons step rest ih =>
    cases fuel with
    | zero => simp at enough
    | succ fuel =>
      obtain ⟨⟨left, ahead⟩, later, read⟩ := step.steps_extend fuel base left lexed
      obtain ⟨c, done⟩ := ih fuel (by simpa using enough) (step.extend base) left later
      exact ⟨c, by rw [read, done, List.foldl_cons]⟩

theorem length_le_tokens (way : List Step) : way.length ≤ (way.flatMap Step.tokens).length := by
  induction way with
  | nil => simp
  | cons step rest ih =>
    have some : 0 < step.tokens.length := by
      cases step with
      | member name => by_cases bare : isName name.toList = true <;> simp [Step.tokens, bare]
      | first => simp [Step.tokens]
      | every => simp [Step.tokens]
    simp only [List.length_cons, List.flatMap_cons, List.length_append]
    omega

/-- The path of a way is the expression of the way. -/
theorem expression?_path {way : List Step} (addressable : ∀ step ∈ way, step.Addressable) :
    expression? ("$" ++ textOf way) = .ok (way.foldl Step.extend .root) := by
  have lexed := reads_path addressable _ (Nat.le_refl _)
  obtain ⟨before, after, rest, split, later⟩ := ahead_cons lexed
  have longer := length_le_tokens way
  rw [← later, List.length_map] at longer
  obtain ⟨c, read⟩ :=
    steps_foldl_extend way (8 * (rest.length + 1) + 7) (by omega) .root after later
  simp only [expression?, parseExpr, lex, split, peek_cons, advance_cons, List.length_cons, read]
  rfl

end BulkActions.Path
