/-!
# What goes wrong while building

The causes for which a schema is not compiled, or an operation on a node is refused, and the words
of each.
-/

namespace SchemaNodes

/-- Why a schema does not compile or an operation is refused. -/
inductive BuildError where
  /-- An attribute refers to a type that is not declared. -/
  | unresolvedReference (type attr reference : String) (suggestion? : Option String)
  /-- There is no type of the name. -/
  | unknownType (name : String) (suggestion? : Option String)
  /-- No attribute of the kind answers to the name. -/
  | unknownAccessor (kind name : String) (suggestion? : Option String)
  /-- A value does not belong where it is put. -/
  | typeMismatch (attr expected found : String)
  /-- A block is given for a value that is not a node. -/
  | notANode (attr : String)
  deriving DecidableEq, Repr, Inhabited

namespace BuildError

/-- The words of a suggestion, if there is one. -/
def hint : Option String → String
  | some name => s!" (did you mean '{name}'?)"
  | none => ""

/-- The words of an error. -/
def message : BuildError → String
  | .unresolvedReference type attr reference suggestion? =>
    s!"Unresolved type reference: {type}.{attr} references undeclared type '{reference}'"
      ++ hint suggestion?
  | .unknownType name suggestion? => s!"Unknown type: '{name}'" ++ hint suggestion?
  | .unknownAccessor kind name suggestion? =>
    s!"Unknown accessor: {kind} has no attribute '{name}'" ++ hint suggestion?
  | .typeMismatch attr expected found =>
    s!"Type mismatch: {attr} expects {expected}, got {found}"
  | .notANode attr => s!"Cannot configure {attr}: installed value is not a node"

/-- The name of the kind of error in reports. -/
def label : BuildError → String
  | .unresolvedReference .. => "UnresolvedTypeReference"
  | .unknownType .. => "UnknownType"
  | .unknownAccessor .. => "UnknownAccessor"
  | .typeMismatch .. => "TypeMismatch"
  | .notANode .. => "NotANode"

end BuildError

end SchemaNodes
