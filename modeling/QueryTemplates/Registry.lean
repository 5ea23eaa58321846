import QueryTemplates.Dictionary
import QueryTemplates.Template.Query
import QueryTemplates.Template.Piece

/-! # Registries

A registry holds the tokens of each query under its identifier, in the order of the definitions that it
was built from. Building one tokenizes the bodies in order, and the first error ends it.
-/

namespace QueryTemplates

/-- The tokens of queries, by identifier. -/
structure Registry where
  queries : Dictionary (List Token)

namespace Registry

/-- No queries. -/
def empty : Registry := ⟨Dictionary.empty⟩

/-- The registry of definitions, which are bodies by identifier. -/
def build (placeholder : Placeholder) (newLine : Text) (definitions : Dictionary Text) :
    Except Malformation Registry :=
  (definitions.traverse fun id body => tokenize placeholder newLine (some id) body).map Registry.mk

/-- The tokens of a query. -/
def tokens? (registry : Registry) (id : Text) : Option (List Token) := registry.queries.get? id

/-- The query with an identifier. -/
def query? (registry : Registry) (id : Text) : Option Query := (registry.tokens? id).map (⟨id, ·⟩)

/-- There is a query with the identifier. -/
def contains (registry : Registry) (id : Text) : Bool := (registry.tokens? id).isSome

/-- The number of queries. -/
def count (registry : Registry) : Nat := registry.queries.size

/-- The identifiers in the order of the definitions. -/
def ids (registry : Registry) : List Text := registry.queries.keys

/-- The identifiers in the order by code points. -/
def sortedIds (registry : Registry) : List Text := registry.queries.sortedKeys

/-- The form in which a registry is shown. -/
def shown (registry : Registry) : Text :=
  ("QueryRegistry(" ++ toString registry.count ++ " queries)").toList

end Registry

end QueryTemplates
