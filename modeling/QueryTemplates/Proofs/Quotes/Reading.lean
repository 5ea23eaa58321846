import QueryTemplates.Text.Delimiter

/-! # Reading quoted text

A quote reader tells the code of a query from the strings in it. Outside a string every character is
code, but a single quote opens a string; inside, two single quotes are one that belongs to the string, and
a single one closes it. Texts that end outside a string are read one after another, unless a quote at the
end of one meets a quote at the start of the next; and a wrapped text reads as one string.
-/

namespace QueryTemplates.Quotes

/-- A part of a text, as a quote reader tells it. -/
inductive Part
  /-- a character outside strings -/
  | code (c : Char)
  /-- a string that is closed, with its content -/
  | string (content : Text)
  /-- a string that the text ends in -/
  | unfinished (content : Text)
deriving DecidableEq

/-- The parts of a text that is read from outside a string, or from inside one with the content so
far. -/
def readFrom : (inside : Option Text) → Text → List Part
  | none, [] => []
  | none, c :: rest => if c = '\'' then readFrom (some []) rest else .code c :: readFrom none rest
  | some content, [] => [.unfinished content]
  | some content, '\'' :: '\'' :: rest => readFrom (some (content ++ ['\''])) rest
  | some content, c :: rest =>
    if c = '\'' then .string content :: readFrom none rest else readFrom (some (content ++ [c])) rest

/-- The parts of a text that is read alone. -/
def reading (text : Text) : List Part := readFrom none text

/-- Reading the text alone does not end inside a string. -/
def EndsOutside (text : Text) : Prop := ∀ content, Part.unfinished content ∉ reading text

/-- The part is a string that is not closed. -/
def Part.isUnfinished : Part → Bool
  | .unfinished _ => true
  | _ => false

instance (text : Text) : Decidable (EndsOutside text) :=
  decidable_of_iff (∀ part ∈ reading text, part.isUnfinished = false) <| by
    constructor
    · intro closed content member
      exact Bool.noConfusion (closed _ member)
    · intro closed part member
      cases part with
      | unfinished content => exact (closed content member).elim
      | code _ | string _ => rfl

/-- No quote at the end of the first text meets one at the start of the second. -/
def Apart (first second : Text) : Prop := first.getLast? ≠ some '\'' ∨ second.head? ≠ some '\''

/-- Characters that are all code. -/
def code (text : Text) : List Part := text.map Part.code

/-! ## One step of the reader -/

theorem readFrom_inside_plain {c : Char} (plain : c ≠ '\'') (content rest : Text) :
    readFrom (some content) (c :: rest) = readFrom (some (content ++ [c])) rest := by
  rw [readFrom]
  · rw [if_neg plain]
  · rintro more rfl
    exact absurd rfl plain

theorem readFrom_inside_quote {rest : Text} (single : rest.head? ≠ some '\'') (content : Text) :
    readFrom (some content) ('\'' :: rest) = .string content :: readFrom none rest := by
  rw [readFrom]
  · rw [if_pos rfl]
  · rintro more - rfl
    exact single rfl

/-! ## Texts one after another -/

theorem Apart.of_cons {c : Char} {first second : Text} (apart : Apart (c :: first) second) :
    Apart first second := by
  cases first with
  | nil => exact .inl (by simp)
  | cons d first => simpa [Apart] using apart

private theorem readFrom_append {inside : Option Text} {first second : Text}
    (closed : ∀ content, Part.unfinished content ∉ readFrom inside first) (apart : Apart first second) :
    readFrom inside (first ++ second) = readFrom inside first ++ reading second := by
  fun_induction readFrom inside first with
  | case1 => rfl
  | case2 rest ih =>
    rw [List.cons_append, readFrom, if_pos rfl]
    exact ih closed apart.of_cons
  | case3 c rest plain ih =>
    rw [List.cons_append, readFrom, if_neg plain, List.cons_append]
    refine congrArg (Part.code c :: ·) (ih (fun content member => ?_) apart.of_cons)
    exact closed content (List.mem_cons_of_mem _ member)
  | case4 content => exact (closed content (List.mem_singleton_self _)).elim
  | case5 content rest ih => exact ih closed apart.of_cons.of_cons
  | case6 content rest single ih =>
    have next : (rest ++ second).head? ≠ some '\'' := by
      cases rest with
      | nil => exact apart.resolve_left (fun free => free rfl)
      | cons d rest =>
        intro quote
        rw [List.cons_append, List.head?_cons, Option.some.injEq] at quote
        exact single rest rfl (quote ▸ rfl)
    rw [List.cons_append, readFrom_inside_quote next, List.cons_append]
    refine congrArg (Part.string content :: ·) (ih (fun other member => ?_) apart.of_cons)
    exact closed other (List.mem_cons_of_mem _ member)
  | case7 content c rest _ plain ih =>
    rw [List.cons_append, readFrom_inside_plain plain]
    exact ih closed apart.of_cons

/-- A text that ends outside a string and another one are read one after the other. -/
theorem reading_append {first second : Text} (closed : EndsOutside first) (apart : Apart first second) :
    reading (first ++ second) = reading first ++ reading second :=
  readFrom_append closed apart

theorem EndsOutside.append {first second : Text} (closed : EndsOutside first) (apart : Apart first second)
    (other : EndsOutside second) : EndsOutside (first ++ second) := by
  intro content member
  rw [reading_append closed apart] at member
  exact (List.mem_append.mp member).elim (closed content) (other content)

/-! ## Code and strings -/

theorem reading_of_quote_free {text : Text} (free : '\'' ∉ text) : reading text = code text := by
  induction text with
  | nil => rfl
  | cons c text ih =>
    obtain ⟨plain, rest⟩ := not_or.mp fun quote => free (List.mem_cons.mpr quote)
    rw [reading, readFrom, if_neg (Ne.symm plain)]
    exact congrArg (Part.code c :: ·) (ih rest)

theorem endsOutside_of_quote_free {text : Text} (free : '\'' ∉ text) : EndsOutside text := by
  intro content member
  rw [reading_of_quote_free free, code, List.mem_map] at member
  obtain ⟨c, -, different⟩ := member
  cases different

private theorem double_quote_cons (c : Char) (text : Text) :
    Text.double ['\''] (c :: text) =
      if c = '\'' then '\'' :: '\'' :: Text.double ['\''] text else c :: Text.double ['\''] text := by
  by_cases quote : c = '\''
  · subst quote
    rfl
  · have other : List.isPrefixOf ['\''] (c :: text) = false := by
      simpa [List.isPrefixOf] using Ne.symm quote
    rw [if_neg quote, Text.double, Text.doubleFrom, other]
    rfl

private theorem readFrom_double (content text : Text) :
    readFrom (some content) (Text.double ['\''] text ++ ['\'']) = [.string (content ++ text)] := by
  induction text generalizing content with
  | nil => simp [Text.double, Text.doubleFrom, readFrom]
  | cons c text ih =>
    rw [double_quote_cons]
    split
    · next quote =>
      subst quote
      rw [List.cons_append, List.cons_append, readFrom, ih, List.append_assoc]
      rfl
    · next plain =>
      rw [List.cons_append, readFrom_inside_plain plain, ih, List.append_assoc]
      rfl

/-- A wrapped text reads as one string that holds exactly this text. -/
theorem reading_wrap (text : Text) : reading (Text.wrap ['\''] text) = [.string text] := by
  change readFrom none ('\'' :: (Text.double ['\''] text ++ ['\''])) = _
  rw [readFrom, if_pos rfl, readFrom_double, List.nil_append]

theorem endsOutside_wrap (text : Text) : EndsOutside (Text.wrap ['\''] text) := by
  intro content member
  rw [reading_wrap, List.mem_singleton] at member
  cases member

end QueryTemplates.Quotes
