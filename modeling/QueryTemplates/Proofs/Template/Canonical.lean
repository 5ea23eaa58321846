import Mathlib.Data.List.Chain
import QueryTemplates.Proofs.Template.Source

/-! # Canonical token sequences

Literals that are empty or next to each other could be written in more than one way. Tokenizing leaves
none: each literal has some text, and between two literals there is a reference. Such a sequence is known by
the characters and the references that it holds, whatever way they are divided among tokens.
-/

namespace QueryTemplates

/-- Literal text. -/
def Token.isLiteral : Token → Bool
  | .literal _ => true
  | _ => false

/-- No literal is empty, and no two literals are next to each other. -/
structure Canonical (tokens : List Token) : Prop where
  no_empty : Token.literal [] ∉ tokens
  separated : tokens.IsChain fun first second => ¬ (first.isLiteral = true ∧ second.isLiteral = true)

namespace Canonical

theorem nil : Canonical [] := ⟨List.not_mem_nil, .nil⟩

theorem tail {token : Token} {rest : List Token} (canonical : Canonical (token :: rest)) :
    Canonical rest :=
  ⟨fun member => canonical.no_empty (List.mem_cons_of_mem _ member), canonical.separated.tail⟩

/-- A canonical sequence stays one when its first literal is replaced by another that has some text. -/
theorem replace_literal {text more : Text} {rest : List Token} (some_text : text ≠ [])
    (canonical : Canonical (.literal more :: rest)) : Canonical (.literal text :: rest) := by
  constructor
  · intro member
    rcases List.mem_cons.mp member with same | member
    · exact some_text (Token.literal.inj same).symm
    · exact canonical.tail.no_empty member
  · have separated := canonical.separated
    rw [List.isChain_cons] at separated ⊢
    exact ⟨fun next first => separated.1 next first, separated.2⟩

theorem joinTo (token : Token) {rest : List Token} (canonical : Canonical rest) :
    Canonical (token.joinTo rest) := by
  fun_cases Token.joinTo token rest with
  | case1 => exact canonical
  | case2 text more rest some_text =>
    exact canonical.replace_literal fun none => some_text (List.append_eq_nil_iff.mp none).1
  | case3 token rest some_text other =>
    constructor
    · intro member
      rcases List.mem_cons.mp member with same | member
      · exact some_text same.symm
      · exact canonical.no_empty member
    · rw [List.isChain_cons]
      refine ⟨fun next first both => ?_, canonical.separated⟩
      obtain ⟨literal, second⟩ := both
      cases token with
      | literal text =>
        cases next with
        | literal more =>
          obtain ⟨others, rfl⟩ : ∃ others, rest = .literal more :: others := by
            cases rest with
            | nil => cases first
            | cons head others => exact ⟨others, by rw [Option.some.inj first]⟩
          exact other text more others rfl rfl
        | positional index written => cases second
        | named name written => cases second
      | positional index written => cases literal
      | named name written => cases literal

theorem coalesce (tokens : List Token) : Canonical (coalesce tokens) := by
  induction tokens with
  | nil => exact nil
  | cons token rest ih => exact ih.joinTo token

end Canonical

/-! ## What tokens hold -/

/-- The characters of a literal, or a reference as a whole. -/
def Token.units : Token → List (Char ⊕ Token)
  | .literal text => text.map .inl
  | token => [.inr token]

/-- The characters and the references in tokens, in order. -/
def unitsOf (tokens : List Token) : List (Char ⊕ Token) := tokens.flatMap Token.units

@[simp] theorem unitsOf_cons (token : Token) (rest : List Token) :
    unitsOf (token :: rest) = token.units ++ unitsOf rest := rfl

@[simp] theorem unitsOf_append (first second : List Token) :
    unitsOf (first ++ second) = unitsOf first ++ unitsOf second := List.flatMap_append

theorem Token.units_of_reference {token : Token} (referring : token.isLiteral = false) :
    token.units = [.inr token] := by
  cases token with
  | literal => cases referring
  | positional => rfl
  | named => rfl

theorem Token.eq_of_units_of_literal {first second : Token} (literal : first.isLiteral = true)
    (also : second.isLiteral = true) (same : first.units = second.units) : first = second := by
  cases first with
  | literal text =>
    cases second with
    | literal more => exact congrArg Token.literal (List.map_injective_iff.mpr (fun _ _ => Sum.inl.inj) same)
    | positional => cases also
    | named => cases also
  | positional => cases literal
  | named => cases literal

theorem mem_of_mem_unitsOf {tokens : List Token} {token : Token} (member : .inr token ∈ unitsOf tokens) :
    token ∈ tokens := by
  obtain ⟨other, present, held⟩ := List.mem_flatMap.mp member
  cases other with
  | literal text =>
    obtain ⟨c, -, same⟩ := List.mem_map.mp held
    cases same
  | positional =>
    cases List.mem_singleton.mp held
    exact present
  | named =>
    cases List.mem_singleton.mp held
    exact present

theorem unitsOf_joinTo (token : Token) (rest : List Token) :
    unitsOf (token.joinTo rest) = token.units ++ unitsOf rest := by
  fun_cases Token.joinTo token rest with
  | case1 => rfl
  | case2 text more rest => simp [Token.units]
  | case3 => rfl

/-- Merging literals keeps what the tokens hold. -/
theorem unitsOf_coalesce (tokens : List Token) : unitsOf (coalesce tokens) = unitsOf tokens := by
  induction tokens with
  | nil => rfl
  | cons token rest ih =>
    change unitsOf (token.joinTo (coalesce rest)) = _
    rw [unitsOf_joinTo, ih, unitsOf_cons]

namespace Canonical

variable {token other : Token} {first second rest : List Token}

theorem units_ne_nil (canonical : Canonical (token :: rest)) : token.units ≠ [] := by
  cases token with
  | literal text =>
    intro none
    rw [Token.units, List.map_eq_nil_iff] at none
    subst none
    exact canonical.no_empty (List.mem_cons_self ..)
  | positional => exact List.cons_ne_nil _ _
  | named => exact List.cons_ne_nil _ _

/-- The text of a literal ends where the next reference stands, and a reference begins with no text. -/
theorem takeWhile_unitsOf (canonical : Canonical (token :: rest)) :
    (unitsOf (token :: rest)).takeWhile Sum.isLeft = if token.isLiteral then token.units else [] := by
  cases literal : token.isLiteral with
  | false =>
    rw [unitsOf_cons, Token.units_of_reference literal]
    rfl
  | true =>
    have characters : ∀ held ∈ token.units, held.isLeft = true := by
      cases token with
      | literal text =>
        intro held member
        obtain ⟨c, -, rfl⟩ := List.mem_map.mp member
        rfl
      | positional => cases literal
      | named => cases literal
    rw [unitsOf_cons, List.takeWhile_append_of_pos characters]
    cases rest with
    | nil => exact List.append_nil _
    | cons next others =>
      have referring : next.isLiteral = false :=
        Bool.eq_false_iff.mpr fun also => (List.isChain_cons.mp canonical.separated).1 next rfl ⟨literal, also⟩
      rw [unitsOf_cons, Token.units_of_reference referring]
      exact List.append_nil _

/-- The first token is known by what the tokens hold. -/
theorem head_eq (canonical : Canonical (token :: first)) (also : Canonical (other :: second))
    (same : unitsOf (token :: first) = unitsOf (other :: second)) : token = other := by
  have start := congrArg (List.takeWhile Sum.isLeft) same
  rw [canonical.takeWhile_unitsOf, also.takeWhile_unitsOf] at start
  cases literal : token.isLiteral with
  | false =>
    cases kind : other.isLiteral with
    | false =>
      rw [unitsOf_cons, unitsOf_cons, Token.units_of_reference literal, Token.units_of_reference kind] at same
      exact Sum.inr.inj (List.cons.inj same).1
    | true =>
      rw [literal, kind] at start
      exact absurd start.symm also.units_ne_nil
  | true =>
    cases kind : other.isLiteral with
    | false =>
      rw [literal, kind] at start
      exact absurd start canonical.units_ne_nil
    | true =>
      rw [literal, kind] at start
      exact Token.eq_of_units_of_literal literal kind start

/-- There is only one canonical sequence that holds the same. -/
theorem eq_of_unitsOf (canonical : Canonical first) (also : Canonical second)
    (same : unitsOf first = unitsOf second) : first = second := by
  induction first generalizing second with
  | nil =>
    cases second with
    | nil => rfl
    | cons other others => exact absurd (List.append_eq_nil_iff.mp same.symm).1 also.units_ne_nil
  | cons token rest ih =>
    cases second with
    | nil => exact absurd (List.append_eq_nil_iff.mp same).1 canonical.units_ne_nil
    | cons other others =>
      obtain rfl := canonical.head_eq also same
      rw [unitsOf_cons, unitsOf_cons, List.append_cancel_left_eq] at same
      rw [ih canonical.tail also.tail same]

end Canonical

/-- The second sequence is the first one with adjacent literals merged and empty ones left out: it holds the
same characters and references in the same order, and is canonical. -/
structure MergesTo (tokens merged : List Token) : Prop extends Canonical merged where
  holds_same : unitsOf merged = unitsOf tokens

theorem mergesTo_iff {tokens merged : List Token} : MergesTo tokens merged ↔ merged = coalesce tokens := by
  constructor
  · intro merges
    refine merges.toCanonical.eq_of_unitsOf (Canonical.coalesce tokens) ?_
    rw [merges.holds_same, unitsOf_coalesce]
  · rintro rfl
    exact ⟨Canonical.coalesce tokens, unitsOf_coalesce tokens⟩

/-- Merging does the same to tokens that hold the same. -/
theorem coalesce_congr {first second : List Token} (same : unitsOf first = unitsOf second) :
    coalesce first = coalesce second := by
  rw [← mergesTo_iff]
  refine ⟨Canonical.coalesce first, ?_⟩
  rw [unitsOf_coalesce, same]

/-- The tokens of a body are canonical. -/
theorem canonical_of_tokenize {placeholder : Placeholder} {newLine body : Text} {query : Option Text}
    {tokens : List Token} (tokenized : tokenize placeholder newLine query body = .ok tokens) :
    Canonical tokens := by
  obtain ⟨pieces, -, rfl⟩ := tokenize_eq_ok.mp tokenized
  exact Canonical.coalesce pieces

end QueryTemplates
