import QueryTemplates.Proofs.Template.Mentions

/-! # Tokenizing line by line

Each line of a body is matched alone, and what stands in one line changes nothing in another. The tokens of
two texts with a line feed between them are those of the first text and of the second one, with the given line
break between them. Nor does it matter how the breaks are written: the tokens depend on the lines alone, so
that tokenizing again what tokens are printed as gives the same tokens.
-/

namespace QueryTemplates

variable {placeholder : Placeholder} {newLine : Text} {query : Option Text} {pieces : List Piece}
  {tokens : List Token}

/-! ## The pieces of several lines -/

namespace Piece

theorem tokens_append (query : Option Text) (first second : List Piece) :
    Piece.tokens query (first ++ second) = do
      let before ← Piece.tokens query first
      let after ← Piece.tokens query second
      return before ++ after := by
  simp only [tokens_eq_mapM, List.mapM_append]

/-- The pieces of a body with one more break in it are those in front of it and those behind it. -/
theorem ofBody_append_break {first : Text} (closed : first.getLast? ≠ some '\r') (second : Text) :
    ofBody placeholder newLine (first ++ '\n' :: second) =
      ofBody placeholder newLine first ++ .text newLine :: ofBody placeholder newLine second := by
  have some_line (text : Text) : text.lines.map (ofLine placeholder) ≠ [] :=
    mt List.map_eq_nil_iff.mp (Text.lines_ne_nil text)
  rw [ofBody, Text.lines_append_break closed, List.map_append,
    intercalate_append _ (some_line first) (some_line second), List.append_assoc]
  rfl

/-- Which query it is makes no difference to what its pieces are read as. -/
theorem token_of_other_query {piece : Piece} {token : Token} (read : piece.token query = .ok token)
    (other : Option Text) : piece.token other = .ok token := by
  cases piece with
  | text plain => exact read
  | placeholder content written =>
    simp only [Piece.token, reference] at read ⊢
    split at read
    · next digits =>
      rw [if_pos digits]
      split at read
      · cases read
      · next short =>
        rw [if_neg short]
        split at read
        · exact read
        · cases read
    · next name =>
      rw [if_neg name]
      exact read

theorem tokens_of_other_query (read : Piece.tokens query pieces = .ok tokens) (other : Option Text) :
    Piece.tokens other pieces = .ok tokens := by
  rw [tokens_eq_mapM, mapM_eq_ok_iff] at read ⊢
  exact read.imp fun _ _ one => token_of_other_query one other

end Piece

theorem tokenize_of_other_query {body : Text} (tokenized : tokenize placeholder newLine query body = .ok tokens)
    (other : Option Text) : tokenize placeholder newLine other body = .ok tokens := by
  obtain ⟨pieces, read, rfl⟩ := tokenize_eq_ok.mp tokenized
  exact tokenize_eq_ok.mpr ⟨pieces, Piece.tokens_of_other_query read other, rfl⟩

theorem tokenize_of_same_lines {first second : Text} (same : first.lines = second.lines) :
    tokenize placeholder newLine query first = tokenize placeholder newLine query second := by
  rw [tokenize, tokenize, Piece.ofBody, Piece.ofBody, same]

/-! ## References stay in their lines -/

theorem Piece.unbroken_of_mem_ofBody {body content written : Text}
    (member : .placeholder content written ∈ ofBody placeholder newLine body) : written.Unbroken := by
  obtain ⟨line, among, member⟩ :
      ∃ line ∈ body.lines, .placeholder content written ∈ ofLine placeholder line := by
    rcases mem_of_mem_intercalate member with between | ⟨cut, among, member⟩
    · cases List.mem_singleton.mp between
    · obtain ⟨line, present, rfl⟩ := List.mem_map.mp among
      exact ⟨line, present, member⟩
  have inside : written <:+: line := by
    rw [← source_ofLine placeholder line]
    obtain ⟨before, after, whole⟩ := List.append_of_mem member
    rw [whole, List.flatMap_append, List.flatMap_cons, ← List.append_assoc]
    exact ⟨_, _, rfl⟩
  exact fun c present => Text.unbroken_of_mem_lines among c (inside.subset present)

theorem Piece.exists_of_mem_tokens (read : Piece.tokens query pieces = .ok tokens) {token : Token}
    (member : token ∈ tokens) : ∃ piece ∈ pieces, piece.token query = .ok token := by
  rw [tokens_eq_mapM, mapM_eq_ok_iff] at read
  exact exists_of_mem_right read member

/-- No placeholder spans a break. -/
theorem unbroken_of_mem_tokenize {body : Text} (tokenized : tokenize placeholder newLine query body = .ok tokens)
    {token : Token} (member : token ∈ tokens) (referring : token.isLiteral = false) : token.source.Unbroken := by
  obtain ⟨pieces, read, rfl⟩ := tokenize_eq_ok.mp tokenized
  have held : .inr token ∈ unitsOf (coalesce pieces) :=
    List.mem_flatMap.mpr ⟨token, member, Token.units_of_reference referring ▸ List.mem_singleton_self _⟩
  rw [unitsOf_coalesce] at held
  obtain ⟨piece, among, own⟩ := Piece.exists_of_mem_tokens read (mem_of_mem_unitsOf held)
  rw [Piece.source_of_token own]
  cases piece with
  | text plain =>
    cases own
    cases referring
  | placeholder content written => exact Piece.unbroken_of_mem_ofBody among

/-! ## Two texts with a break between them -/

/-- The tokens of a text, the break, and the tokens of the text behind it are merged. -/
theorem tokenize_append_break {first : Text} (closed : first.getLast? ≠ some '\r') (second : Text) :
    tokenize placeholder newLine query (first ++ '\n' :: second) = do
      let before ← tokenize placeholder newLine query first
      let after ← tokenize placeholder newLine query second
      return coalesce (before ++ .literal newLine :: after) := by
  rw [tokenize, tokenize, tokenize, Piece.ofBody_append_break closed, Piece.tokens_append]
  cases Piece.tokens query (Piece.ofBody placeholder newLine first) with
  | error malformation => rfl
  | ok before =>
    rw [Piece.tokens]
    cases Piece.tokens query (Piece.ofBody placeholder newLine second) with
    | error malformation => rfl
    | ok after =>
      have same : unitsOf (before ++ .literal newLine :: after) =
          unitsOf (coalesce before ++ .literal newLine :: coalesce after) := by
        simp only [unitsOf_append, unitsOf_cons, unitsOf_coalesce]
      exact congrArg Except.ok (coalesce_congr same)

/-- The tokens of several lines are those of each line alone, with the break between them. -/
theorem tokenize_joinWith {lines : List Text} (some_line : lines ≠ [])
    (unbroken : ∀ line ∈ lines, Text.Unbroken line) :
    tokenize placeholder newLine query (Text.joinWith ['\n'] lines) = do
      let parts ← lines.mapM (tokenize placeholder newLine query)
      return coalesce ([Token.literal newLine].intercalate parts) := by
  induction lines with
  | nil => exact absurd rfl some_line
  | cons line rest ih =>
    obtain ⟨own, others⟩ := List.forall_mem_cons.mp unbroken
    rw [List.mapM_cons]
    by_cases last : rest = []
    · subst last
      rw [Text.joinWith, List.intercalate_singleton]
      cases tokenized : tokenize placeholder newLine query line with
      | error malformation => rfl
      | ok tokens =>
        have same : unitsOf tokens = unitsOf ([Token.literal newLine].intercalate [tokens]) := by
          rw [List.intercalate_singleton]
        exact congrArg Except.ok (mergesTo_iff.mp ⟨canonical_of_tokenize tokenized, same⟩)
    · have closed : line.getLast? ≠ some '\r' := fun ends => (own _ (List.mem_of_getLast? ends)).1 rfl
      have joined : Text.joinWith ['\n'] (line :: rest) = line ++ '\n' :: Text.joinWith ['\n'] rest := by
        rw [Text.joinWith_cons ['\n'] line last, List.append_assoc, List.singleton_append]
      rw [joined, tokenize_append_break closed, ih last others]
      cases tokenize placeholder newLine query line with
      | error malformation => rfl
      | ok tokens =>
        cases each : rest.mapM (tokenize placeholder newLine query) with
        | error malformation => rfl
        | ok parts =>
          have some_part : parts ≠ [] := by
            rintro rfl
            exact last (List.forall₂_nil_right_iff.mp (mapM_eq_ok_iff.mp each))
          have same : unitsOf (tokens ++ .literal newLine :: coalesce ([Token.literal newLine].intercalate parts)) =
              unitsOf ([Token.literal newLine].intercalate (tokens :: parts)) := by
            rw [List.intercalate_cons_of_ne_nil some_part]
            simp only [unitsOf_append, unitsOf_cons, unitsOf_coalesce, List.append_assoc, List.singleton_append]
          exact congrArg Except.ok (coalesce_congr same)

/-- Tokenizing works line by line. Two texts with a line feed between them, which does not complete a break of
the first one, have the tokens of the first text, then the given break as literal text, then the tokens of the
second one, where adjacent literals are merged and empty ones left out. If the first text cannot be tokenized,
its error is that of the whole, and otherwise that of the second one is, if there is any. So the tokens of a
body come from its lines, each tokenized alone, and no reference goes beyond its line. -/
theorem tokenize_line_by_line (placeholder : Placeholder) (newLine : Text) (query : Option Text) :
    (∀ first second : Text, first.getLast? ≠ some '\r' →
      let whole := tokenize placeholder newLine query (first ++ '\n' :: second)
      match tokenize placeholder newLine query first, tokenize placeholder newLine query second with
      | .error failure, _ => whole = .error failure
      | .ok _, .error failure => whole = .error failure
      | .ok before, .ok after =>
        ∃ tokens, whole = .ok tokens ∧ MergesTo (before ++ .literal newLine :: after) tokens) ∧
    ∀ body,
      (match body.lines.mapM (tokenize placeholder newLine query) with
      | .error failure => tokenize placeholder newLine query body = .error failure
      | .ok parts => ∃ tokens, tokenize placeholder newLine query body = .ok tokens ∧
        MergesTo ([Token.literal newLine].intercalate parts) tokens) ∧
      ∀ tokens, tokenize placeholder newLine query body = .ok tokens →
        ∀ token ∈ tokens, token.isLiteral = false → token.source.Unbroken := by
  refine ⟨fun first second closed => ?_, fun body => ⟨?_, fun tokens tokenized token => ?_⟩⟩
  · rw [tokenize_append_break closed]
    cases tokenize placeholder newLine query first with
    | error failure => rfl
    | ok before =>
      cases tokenize placeholder newLine query second with
      | error failure => rfl
      | ok after => exact ⟨_, rfl, mergesTo_iff.mpr rfl⟩
  · rw [tokenize_of_same_lines body.lines_normalizeBreaks.symm, Text.normalizeBreaks,
      tokenize_joinWith (Text.lines_ne_nil body) fun _ member => Text.unbroken_of_mem_lines member]
    cases body.lines.mapM (tokenize placeholder newLine query) with
    | error failure => rfl
    | ok parts => exact ⟨_, rfl, mergesTo_iff.mpr rfl⟩
  · exact unbroken_of_mem_tokenize tokenized

/-- What opens a placeholder at the end of a line is not closed in the next one, although the standard pattern
lets line feeds be part of a name. -/
theorem tokenize_line_by_line_unclosed :
    Placeholder.compile Placeholder.standardText = .ok Placeholder.standard ∧
      "$\x7b7\x7d $\x7ba".toList.getLast? ≠ some '\r' ∧ ∃ tokens,
      tokenize Placeholder.standard ['|'] none "$\x7b7\x7d $\x7ba\nb\x7d$\x7b01\x7d".toList = .ok tokens ∧
        MergesTo [.positional ⟨7, by decide +kernel⟩ (some "$\x7b7\x7d".toList), .literal " $\x7ba".toList,
          .literal ['|'], .literal "b\x7d".toList, .positional .first (some "$\x7b01\x7d".toList)]
          tokens ∧
        ∀ token ∈ tokens, token.isLiteral = false → token.source.Unbroken := by
  have before : tokenize Placeholder.standard ['|'] none "$\x7b7\x7d $\x7ba".toList =
      .ok [.positional ⟨7, by decide +kernel⟩ (some "$\x7b7\x7d".toList), .literal " $\x7ba".toList] := by
    decide +kernel
  have after : tokenize Placeholder.standard ['|'] none "b\x7d$\x7b01\x7d".toList =
      .ok [.literal "b\x7d".toList, .positional .first (some "$\x7b01\x7d".toList)] := by
    decide +kernel
  have closed : "$\x7b7\x7d $\x7ba".toList.getLast? ≠ some '\r' := by decide
  obtain ⟨split, lines⟩ := tokenize_line_by_line Placeholder.standard ['|'] none
  have parts := split _ "b\x7d$\x7b01\x7d".toList closed
  rw [before, after] at parts
  obtain ⟨tokens, whole, merges⟩ := parts
  exact ⟨Placeholder.compile_standardText, closed, tokens, whole, merges, (lines _).2 tokens whole⟩

/-! ## Texts with the same lines -/

/-- The tokens depend on the lines alone, however these end. If lines are written with any of the breaks that
end a line, the text that tokens are printed as has the same tokens again, with the same written forms. -/
theorem tokenize_again (placeholder : Placeholder) (newLine : Text) (query : Option Text) :
    (∀ first second lines, Text.ConsistsOf first lines → Text.ConsistsOf second lines →
        tokenize placeholder newLine query first = tokenize placeholder newLine query second) ∧
      ∀ body tokens, newLine ∈ Text.lineBreaks → tokenize placeholder newLine query body = .ok tokens →
        ∀ other, tokenize placeholder newLine other (toSource tokens) = .ok tokens := by
  refine ⟨fun first second lines consists also => ?_, fun body tokens ends tokenized other => ?_⟩
  · exact tokenize_of_same_lines ((Text.consistsOf_iff.mp consists).trans (Text.consistsOf_iff.mp also).symm)
  · apply tokenize_of_other_query
    rw [toSource_eq_joinWith_lines tokenized, ← tokenized]
    apply tokenize_of_same_lines
    exact Text.lines_joinWith ends (Text.lines_ne_nil body) fun _ member => Text.unbroken_of_mem_lines member

/-- Breaks of all kinds next to each other and at the end, where the pattern also matches the empty text at the
edges of words. -/
theorem tokenize_again_mixedBreaks :
    Text.ConsistsOf "a\n\rb7\r\r\n\r".toList [['a'], [], "b7".toList, [], [], []] ∧
      tokenize wordPattern ['\r', '\n'] none "a\n\rb7\r\r\n\r".toList =
        tokenize wordPattern ['\r', '\n'] none "a\r\n\nb7\n\n\n".toList ∧
      ∃ tokens, tokenize wordPattern ['\r', '\n'] none "a\n\rb7\r\r\n\r".toList = .ok tokens ∧
        toSource tokens = "a\r\n\r\nb7\r\n\r\n\r\n".toList ∧
        tokenize wordPattern ['\r', '\n'] none (toSource tokens) = .ok tokens := by
  have first : Text.ConsistsOf "a\n\rb7\r\r\n\r".toList [['a'], [], "b7".toList, [], [], []] :=
    Text.consistsOf_iff.mpr (by decide)
  have second : Text.ConsistsOf "a\r\n\nb7\n\n\n".toList [['a'], [], "b7".toList, [], [], []] :=
    Text.consistsOf_iff.mpr (by decide)
  have tokenized : tokenize wordPattern ['\r', '\n'] none "a\n\rb7\r\r\n\r".toList =
      .ok [.named ['a'] (some ['a']), .literal "\r\n\r\n".toList, .named "b7".toList (some "b7".toList),
        .literal "\r\n\r\n\r\n".toList] := by
    decide +kernel
  obtain ⟨same, again⟩ := tokenize_again wordPattern ['\r', '\n'] none
  exact ⟨first, same _ _ _ first second, _, tokenized, by decide, again _ _ (by decide) tokenized none⟩

end QueryTemplates
