import QueryTemplates.Proofs.Rendering.Parameters

/-! # Renderings as substitutions

A rendered text is that of the template, with the text of its argument in the place of each reference, and
these texts are not looked at again. If some reference has no text, the rendering fails as the first one does.
-/

namespace QueryTemplates

/-- The call supplies a value for a parameter. Null counts as no value. -/
inductive Arguments.Supplies (arguments : Arguments) : Parameter → Value → Prop
  | positional {index : Index} {value : Value} (present : arguments.positional[index.value - 1]? = some value)
    (some_value : value ≠ .null) : Supplies arguments (.positional index) value
  | named {name : Text} {value : Value} (present : arguments.named.lookup name = some value)
    (some_value : value ≠ .null) : Supplies arguments (.named name) value

/-- The text that a token yields: a literal its own, and a reference that of the value that is supplied, or
the one that stands for a missing value. -/
inductive Token.Yields (processor : Processor) (id : Text) (arguments : Arguments) : Token → Text → Prop
  | literal (text : Text) : Yields processor id arguments (.literal text) text
  | supplied {token : Token} {parameter : Parameter} {value : Value} {text : Text}
    (refers : token.parameter? = some parameter) (supplied : arguments.Supplies parameter value)
    (formatted : processor.format parameter.key id value = .ok text) : Yields processor id arguments token text
  | substituted {token : Token} {parameter : Parameter} {text : Text}
    (refers : token.parameter? = some parameter) (absent : ∀ value, ¬ arguments.Supplies parameter value)
    (stands : processor.substitute parameter.key id = .ok (some text)) : Yields processor id arguments token text

/-- Why a token yields no text: the processor fails, or nothing stands for a missing value. -/
inductive Token.Fails (processor : Processor) (id : Text) (arguments : Arguments) :
    Token → RenderFailure → Prop
  | unformatted {token : Token} {parameter : Parameter} {value : Value} {failure : RenderFailure}
    (refers : token.parameter? = some parameter) (supplied : arguments.Supplies parameter value)
    (failed : processor.format parameter.key id value = .error failure) :
    Fails processor id arguments token failure
  | unsubstituted {token : Token} {parameter : Parameter} {failure : RenderFailure}
    (refers : token.parameter? = some parameter) (absent : ∀ value, ¬ arguments.Supplies parameter value)
    (failed : processor.substitute parameter.key id = .error failure) :
    Fails processor id arguments token failure
  | missing {token : Token} {parameter : Parameter}
    (refers : token.parameter? = some parameter) (absent : ∀ value, ¬ arguments.Supplies parameter value)
    (nothing : processor.substitute parameter.key id = .ok none) :
    Fails processor id arguments token (.error (parameter.missing id))

variable {processor : Processor} {id key : Text} {arguments : Arguments} {tokens : List Token}
  {token : Token} {parameter : Parameter} {value : Value} {text : Text} {failure : RenderFailure}

/-! ## What is supplied -/

theorem getD_null_eq_iff {found : Option Value} (some_value : value ≠ .null) :
    found.getD .null = value ↔ found = some value := by
  cases found with
  | none => simp [Ne.symm some_value]
  | some other => simp

theorem supplies_iff : arguments.Supplies parameter value ↔ parameter.given arguments = value ∧ value ≠ .null := by
  constructor
  · intro supplies
    cases supplies with
    | positional present some_value => exact ⟨(getD_null_eq_iff some_value).mpr present, some_value⟩
    | named present some_value => exact ⟨(getD_null_eq_iff some_value).mpr present, some_value⟩
  · rintro ⟨given, some_value⟩
    cases parameter with
    | positional index => exact .positional ((getD_null_eq_iff some_value).mp given) some_value
    | named name => exact .named ((getD_null_eq_iff some_value).mp given) some_value

theorem not_supplies_iff : (∀ value, ¬ arguments.Supplies parameter value) ↔ parameter.given arguments = .null := by
  simp only [supplies_iff, not_and, not_not, forall_eq']

/-! ## One token -/

/-- A token is rendered to the text that it yields. -/
theorem Token.Yields.render_eq (yields : token.Yields processor id arguments text) :
    token.render processor id arguments = .ok text := by
  cases yields with
  | literal => rfl
  | supplied refers supplied formatted =>
    obtain ⟨given, some_value⟩ := supplies_iff.mp supplied
    rw [render_of_parameter refers, given, Processor.argument_of_ne_null some_value, formatted]
  | substituted refers absent stands =>
    rw [render_of_parameter refers, not_supplies_iff.mp absent, Processor.argument_of_null, stands]

theorem Token.Fails.render_eq (fails : token.Fails processor id arguments failure) :
    token.render processor id arguments = .error failure := by
  cases fails with
  | unformatted refers supplied failed =>
    obtain ⟨given, some_value⟩ := supplies_iff.mp supplied
    rw [render_of_parameter refers, given, Processor.argument_of_ne_null some_value, failed]
  | unsubstituted refers absent failed =>
    rw [render_of_parameter refers, not_supplies_iff.mp absent, Processor.argument_of_null, failed]
  | missing refers absent nothing =>
    rw [render_of_parameter refers, not_supplies_iff.mp absent, Processor.argument_of_null, nothing]

/-- Each token yields a text or fails. -/
theorem Token.yields_or_fails (processor : Processor) (id : Text) (arguments : Arguments) (token : Token) :
    (∃ text, token.Yields processor id arguments text) ∨
      ∃ failure, token.Fails processor id arguments failure := by
  cases refers : token.parameter? with
  | none =>
    obtain ⟨text, rfl⟩ := exists_literal refers
    exact .inl ⟨text, .literal text⟩
  | some parameter =>
    by_cases null : parameter.given arguments = .null
    · have absent := not_supplies_iff.mpr null
      cases substituted : processor.substitute parameter.key id with
      | error failure => exact .inr ⟨failure, .unsubstituted refers absent substituted⟩
      | ok text? =>
        cases text? with
        | none => exact .inr ⟨_, .missing refers absent substituted⟩
        | some text => exact .inl ⟨text, .substituted refers absent substituted⟩
    · have supplied := supplies_iff.mpr ⟨rfl, null⟩
      cases formatted : processor.format parameter.key id (parameter.given arguments) with
      | error failure => exact .inr ⟨failure, .unformatted refers supplied formatted⟩
      | ok text => exact .inl ⟨text, .supplied refers supplied formatted⟩

theorem Token.render_eq_ok_iff : token.render processor id arguments = .ok text ↔
    token.Yields processor id arguments text := by
  refine ⟨fun done => ?_, Yields.render_eq⟩
  rcases token.yields_or_fails processor id arguments with ⟨other, yields⟩ | ⟨failure, fails⟩
  · have same := yields.render_eq.symm.trans done
    cases same
    exact yields
  · rw [fails.render_eq] at done
    cases done

theorem Token.render_eq_error_iff : token.render processor id arguments = .error failure ↔
    token.Fails processor id arguments failure := by
  refine ⟨fun failed => ?_, Fails.render_eq⟩
  rcases token.yields_or_fails processor id arguments with ⟨text, yields⟩ | ⟨other, fails⟩
  · rw [yields.render_eq] at failed
    cases failed
  · have same := fails.render_eq.symm.trans failed
    cases same
    exact fails

/-- A token fails exactly if it yields no text. -/
theorem Token.exists_yields_iff : (∃ text, token.Yields processor id arguments text) ↔
    ∀ failure, ¬ token.Fails processor id arguments failure := by
  simp only [← render_eq_ok_iff, ← render_eq_error_iff]
  cases token.render processor id arguments with
  | error failure => simp
  | ok text => simp

theorem Token.Fails.not_yields (fails : token.Fails processor id arguments failure) (text : Text) :
    ¬ token.Yields processor id arguments text :=
  fun yields => exists_yields_iff.mp ⟨text, yields⟩ failure fails

/-! ## All tokens -/

/-- Tokens are rendered to the texts that they yield, one after another. -/
theorem renderTokens_eq_flatten_iff : renderTokens processor id arguments tokens = .ok text ↔
    ∃ texts, List.Forall₂ (Token.Yields processor id arguments) tokens texts ∧ text = texts.flatten := by
  simp only [renderTokens_eq_ok_iff, Token.render_eq_ok_iff]

theorem exists_renderTokens_iff_yields : (∃ text, renderTokens processor id arguments tokens = .ok text) ↔
    ∀ token ∈ tokens, ∃ text, token.Yields processor id arguments text := by
  simp only [exists_renderTokens_iff, Token.render_eq_ok_iff]

/-- Tokens fail as the first of them does that yields no text. -/
theorem renderTokens_eq_error_iff_fails : renderTokens processor id arguments tokens = .error failure ↔
    ∃ earlier token later, tokens = earlier ++ token :: later ∧ token.Fails processor id arguments failure ∧
      ∀ other ∈ earlier, ∃ text, other.Yields processor id arguments text := by
  simp only [renderTokens_eq_error_iff, FirstFailure, Token.render_eq_error_iff, Token.exists_yields_iff]

/-- Rendering is substitution. It succeeds exactly if each token of the query yields a text, and what it
gives is these texts, one after another. Otherwise it fails as the first token does that yields none, whatever
the later ones would do. -/
theorem render_substitutes {registry : Registry} (known : registry.tokens? id = some tokens)
    (processor : Processor) (arguments : Arguments) :
    ((∃ text, registry.render processor id arguments = .ok text) ↔
      ∀ token ∈ tokens, ∃ text, token.Yields processor id arguments text) ∧
    (∀ text, registry.render processor id arguments = .ok text ↔ ∃ texts,
      List.Forall₂ (Token.Yields processor id arguments) tokens texts ∧ text = texts.flatten) ∧
    ∀ failure, registry.render processor id arguments = .error failure ↔ ∃ earlier token later,
      tokens = earlier ++ token :: later ∧
        (∀ other ∈ earlier, ∃ text, other.Yields processor id arguments text) ∧
        (∀ text, ¬ token.Yields processor id arguments text) ∧
        token.Fails processor id arguments failure := by
  simp only [Registry.render, known]
  refine ⟨exists_renderTokens_iff_yields, fun text => renderTokens_eq_flatten_iff, fun failure => ?_⟩
  rw [renderTokens_eq_error_iff_fails]
  refine exists_congr fun earlier => exists_congr fun token => exists_congr fun later => ?_
  refine and_congr_right fun _ => ⟨?_, ?_⟩
  · rintro ⟨fails, sound⟩
    exact ⟨sound, fails.not_yields, fails⟩
  · rintro ⟨sound, -, fails⟩
    exact ⟨fails, sound⟩

/-- An argument that imitates placeholders is written as it is. Where three arguments are at fault, the call
fails with the first of them in the query, which is the last one of the call. -/
theorem render_substitutes_mixed :
    mixedRegistry.tokens? ['q'] = some mixedTokens ∧
      mixedRegistry.render Configurable.standard.processor ['q']
          ⟨[.text "$\x7by\x7d".toList, .null, .int 3],
            [(['x'], .text "$\x7b1\x7d".toList), (['y'], .bool true)]⟩ =
        .ok "f(3'$\x7b1\x7d''$\x7by\x7d'true'$\x7b1\x7d')".toList ∧
      mixedRegistry.render Configurable.standard.processor ['q']
          ⟨[.null, .null, .record []], [(['x'], .null)]⟩ =
        .error (Processor.unsupported ['3'] ['q'] (.record [])) ∧
      mixedRegistry.render Configurable.standard.processor ['q'] ⟨[.list [], .null, .int 3], []⟩ =
        .error (.error (.missingNamed ['q'] ['x'])) := by
  have known : mixedRegistry.tokens? ['q'] = some mixedTokens := rfl
  refine ⟨known, ?_, ?_, ?_⟩
  · refine ((render_substitutes known _ _).2.1 _).mpr ⟨["f(".toList, ['3'], "'$\x7b1\x7d'".toList,
      "'$\x7by\x7d'".toList, "true".toList, "'$\x7b1\x7d'".toList, [')']], ?_, by decide⟩
    refine .cons (.literal _) (.cons ?_ (.cons ?_ (.cons ?_ (.cons ?_ (.cons ?_ (.cons (.literal _) .nil))))))
    · exact .supplied rfl (.positional rfl Value.noConfusion) (by decide +kernel)
    · exact .supplied rfl (.named rfl Value.noConfusion) (by decide +kernel)
    · exact .supplied rfl (.positional rfl Value.noConfusion) (by decide +kernel)
    · exact .supplied rfl (.named rfl Value.noConfusion) (by decide +kernel)
    · exact .supplied rfl (.named rfl Value.noConfusion) (by decide +kernel)
  · have fails : (Token.positional (.small 3 (by decide)) none).Fails Configurable.standard.processor ['q']
        ⟨[.null, .null, .record []], [(['x'], .null)]⟩ (Processor.unsupported ['3'] ['q'] (.record [])) :=
      .unformatted rfl (.positional rfl Value.noConfusion) (by decide +kernel)
    refine ((render_substitutes known _ _).2.2 _).mpr ⟨[_], _, _, rfl, ?_, fails.not_yields, fails⟩
    exact List.forall_mem_singleton.mpr ⟨_, .literal _⟩
  · have absent : ∀ value, ¬ Arguments.Supplies ⟨[.list [], .null, .int 3], []⟩ (.named ['x']) value :=
      not_supplies_iff.mpr rfl
    have fails : (Token.named ['x'] none).Fails Configurable.standard.processor ['q']
        ⟨[.list [], .null, .int 3], []⟩ (.error (.missingNamed ['q'] ['x'])) :=
      .missing rfl absent rfl
    refine ((render_substitutes known _ _).2.2 _).mpr ⟨[_, _], _, _, rfl, ?_, fails.not_yields, fails⟩
    refine List.forall_mem_cons.mpr ⟨⟨_, .literal _⟩, List.forall_mem_singleton.mpr ⟨['3'], ?_⟩⟩
    exact .supplied rfl (.positional rfl Value.noConfusion) (by decide +kernel)

end QueryTemplates
