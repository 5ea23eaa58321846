import QueryTemplates.Proofs.Json.Values
import QueryTemplates.Proofs.Processor.Support
import QueryTemplates.Proofs.Text.Delimiter
import QueryTemplates.Proofs.Text.Utf8
import QueryTemplates.Server.Body

/-! # Surrogates that stand alone

In a text, each surrogate that stands alone in a string of a body is replaced. The processors of this library put
all characters of an argument into the text of a query. So where a surrogate stands alone in what a query refers
to, the text holds a replacement, and it is not by mistake that the service does not send it.
-/

namespace QueryTemplates

open Json (Codes Document)

/-! ## Wrapped texts -/

namespace Text

variable {delimiter text : Text} {c : Char}

theorem mem_double (some_delimiter : delimiter ≠ []) (present : c ∈ text) : c ∈ double delimiter text := by
  induction text using delimiter_induction some_delimiter with
  | nil => cases present
  | found rest ih =>
    rw [double_delimiter_append some_delimiter]
    rcases List.mem_append.mp present with own | later
    · exact List.mem_append_left _ (List.mem_append_left _ own)
    · exact List.mem_append_right _ (ih later)
  | plain first rest plain ih =>
    rw [double_cons plain]
    rcases List.mem_cons.mp present with rfl | later
    · exact List.mem_cons_self ..
    · exact List.mem_cons_of_mem _ (ih later)

/-- A text between delimiters keeps its characters. -/
theorem mem_wrap (present : c ∈ text) : c ∈ wrap delimiter text := by
  rw [wrap]
  split
  · exact present
  · next some_delimiter =>
    have doubled := mem_double (mt List.isEmpty_iff.mpr some_delimiter) present
    exact List.mem_append_left _ (List.mem_append_right _ doubled)

end Text

/-! ## Documents -/

namespace Json

theorem Codes.replaced {codes : Codes} (unpaired : codes.isPlain = false) : '\uFFFD' ∈ codes.text := by
  obtain ⟨code, present, invalid⟩ := List.all_eq_false.mp unpaired
  exact List.mem_map.mpr ⟨code, present, if_neg (mt decide_eq_true invalid)⟩

/-- A text is the string of its own characters only. -/
theorem Codes.ofText_eq_iff {text : Text} {codes : Codes} :
    ofText text = codes ↔ codes.isPlain = true ∧ codes.text = text := by
  constructor
  · rintro rfl
    constructor
    · refine List.all_eq_true.mpr fun code present => ?_
      obtain ⟨c, -, rfl⟩ := List.mem_map.mp present
      exact decide_eq_true c.valid
    · rw [Codes.text, ofText, List.map_map]
      refine (List.map_congr_left fun c _ => ?_).trans (List.map_id _)
      exact (if_pos c.valid).trans (Char.ofNat_toNat c)
  · rintro ⟨plain, rfl⟩
    rw [ofText, Codes.text, List.map_map]
    refine (List.map_congr_left fun code present => ?_).trans (List.map_id _)
    have valid := of_decide_eq_true (List.all_eq_true.mp plain code present)
    exact (congrArg Char.toNat (if_pos valid)).trans (Utf8.toNat_val_ofNat valid)

theorem Document.exists_of_allPlain {members : List Document} (unpaired : allPlain members = false) :
    ∃ member ∈ members, member.isPlain = false := by
  induction members with
  | nil => cases unpaired
  | cons member rest ih =>
    rw [allPlain, Bool.and_eq_false_iff] at unpaired
    rcases unpaired with own | later
    · exact ⟨member, List.mem_cons_self .., own⟩
    · obtain ⟨other, present, own⟩ := ih later
      exact ⟨other, List.mem_cons_of_mem _ present, own⟩

end Json

/-! ## Processors -/

variable {key id : Text} {processor : Processor} {stock : List Value}

/-- By induction on the document: the part of a list that is not plain is written into the text of the list. -/
theorem Sql.replaced_of_format (words : Sql) : (document : Document) → document.isPlain = false → {text : Text} →
    words.format key id document.value = .ok text → '\uFFFD' ∈ text
  | .string codes, unpaired, _, done => by
    cases done
    exact Text.mem_wrap (Codes.replaced unpaired)
  | .list members, unpaired, _, done => by
    obtain ⟨member, present, own⟩ := Document.exists_of_allPlain unpaired
    obtain ⟨texts, each, rfl⟩ := format_collection_eq_ok done
    rw [Document.values_eq_map] at each
    obtain ⟨part, listed, formatted⟩ := exists_of_mem_left each (List.mem_map_of_mem present)
    exact (infix_collectionText listed).subset (words.replaced_of_format member own formatted)
  | .record _, _, _, done => by cases done
termination_by document => document
decreasing_by
  have smaller := List.sizeOf_lt_of_mem present
  simp
  omega

theorem Configurable.replaced_of_format (settings : Configurable) {document : Document} {text : Text}
    (unpaired : document.isPlain = false) (done : settings.format key id document.value = .ok text) :
    '\uFFFD' ∈ text := by
  cases document with
  | string codes =>
    cases done
    have replaced := Codes.replaced unpaired
    rw [characters]
    split
    · exact replaced
    · split
      · exact replaced
      · split
        · exact replaced
        · exact Text.mem_wrap replaced
  | list | record => cases done
  | _ => cases unpaired

/-- What a processor of this library writes for a document keeps the replacements. -/
theorem BuiltIn.replaced_of_argument (built_in : BuiltIn stock processor) {document : Document} {text : Text}
    {missing : RenderError} (unpaired : document.isPlain = false)
    (done : processor.argument key id document.value missing = .ok text) : '\uFFFD' ∈ text := by
  have some_value : document.value ≠ .null := by
    intro null
    cases document with
    | null => cases unpaired
    | _ => cases null
  rw [Processor.argument_of_ne_null some_value] at done
  cases built_in with
  | sql words => exact words.replaced_of_format document unpaired done
  | configurable settings => exact settings.replaced_of_format unpaired done

/-! ## Queries -/

namespace Body

variable {body : Body} {document : Document}

theorem atIndex_arguments {index : Index} (found : body.positional[index.offset]? = some document) :
    body.arguments.atIndex index = document.value := by
  rw [Arguments.atIndex, arguments, List.getElem?_map, found]
  rfl

theorem named_arguments_cons (positional : List Document) (own : Codes) (value : Document)
    (rest : List (Codes × Document)) : (arguments ⟨positional, (own, value) :: rest⟩).named =
      if own.isPlain then (own.text, value.value) :: (arguments ⟨positional, rest⟩).named
      else (arguments ⟨positional, rest⟩).named := by
  cases plain : own.isPlain with
  | true => simp [arguments, plain]
  | false => simp [arguments, plain]

/-- A parameter has the argument that stands in the body under its name. -/
theorem atName_arguments {name : Text} (found : body.named.lookup (Codes.ofText name) = some document) :
    body.arguments.atName name = document.value := by
  obtain ⟨positional, named⟩ := body
  have all : (arguments ⟨positional, named⟩).named.lookup name = some document.value := by
    induction named with
    | nil => cases found
    | cons field rest ih =>
      obtain ⟨own, value⟩ := field
      rw [List.lookup_cons] at found
      rw [named_arguments_cons]
      split at found
      · next same =>
        obtain ⟨plain, rfl⟩ := Codes.ofText_eq_iff.mp (beq_iff_eq.mp same)
        cases found
        rw [if_pos plain, Dictionary.lookup_cons, if_pos rfl]
      · next other =>
        split
        · next plain =>
          have different : name ≠ own.text := by
            rintro rfl
            exact beq_eq_false_iff_ne.mp other (Codes.ofText_eq_iff.mpr ⟨plain, rfl⟩)
          rw [Dictionary.lookup_cons, if_neg different]
          exact ih found
        · exact ih found
  rw [Arguments.atName, all]
  rfl

theorem replaced_of_token (built_in : BuiltIn stock processor) {token : Token} {text : Text}
    (found : body.document? token = some document) (unpaired : document.isPlain = false)
    (done : token.render processor id body.arguments = .ok text) : '\uFFFD' ∈ text := by
  cases token with
  | literal => cases found
  | positional index _ =>
    rw [Token.render, atIndex_arguments found] at done
    exact built_in.replaced_of_argument unpaired done
  | named name _ =>
    rw [Token.render, atName_arguments found] at done
    exact built_in.replaced_of_argument unpaired done

/-- Where a surrogate stands alone in what a query refers to, its text holds a replacement. -/
theorem replaced_of_render (built_in : BuiltIn stock processor) {registry : Registry} {text : Text}
    (unpaired : body.isPlainFor ((registry.tokens? id).getD []) = false)
    (done : registry.render processor id body.arguments = .ok text) : '\uFFFD' ∈ text := by
  obtain ⟨token, present, own⟩ := List.all_eq_false.mp unpaired
  rw [Registry.render] at done
  split at done
  · cases done
  · next tokens known =>
    rw [known] at present
    obtain ⟨texts, each, rfl⟩ := renderTokens_eq_ok_iff.mp done
    obtain ⟨part, listed, rendered⟩ := exists_of_mem_left each present
    cases found : body.document? token with
    | none => simp [found] at own
    | some document =>
      have unpaired : document.isPlain = false := by simpa [found] using own
      exact List.mem_flatten_of_mem listed (replaced_of_token built_in found unpaired rendered)

end Body

end QueryTemplates
