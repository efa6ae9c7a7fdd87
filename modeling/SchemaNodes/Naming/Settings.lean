import SchemaNodes.Dict

/-!
# Naming settings

What can be chosen about the callable names of attributes.
-/

namespace SchemaNodes

/-- The choices about callable names. -/
structure NamingSettings where
  /-- Whether a name is also bound with its first letter swapped. -/
  caseAliases : Bool
  /-- Further words whose singular and plural are the same. -/
  uncountable : List String
  /-- Further irregular words, singular to plural. -/
  irregular : Dict String
  deriving DecidableEq

namespace NamingSettings

/-- Case aliases, and no words beyond those known anyway. -/
def default : NamingSettings := ⟨true, [], .empty⟩

instance : Inhabited NamingSettings := ⟨default⟩

end NamingSettings

end SchemaNodes
