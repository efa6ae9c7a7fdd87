import SchemaNodes.Sha256
import SchemaNodes.Json.Writer

/-!
# Checksums

The fingerprint of a text, of bytes or of a document: its SHA-256 digest in lower-case hexadecimal
digits. A document is fingerprinted through its compact text, which is canonical because documents
keep their keys sorted.
-/

namespace SchemaNodes

/-- A digest in hexadecimal digits. -/
structure Checksum where
  hex : String
  deriving DecidableEq, Repr, Inhabited

namespace Checksum

/-- Two hexadecimal digits. -/
def byteChars (b : UInt8) : List Char :=
  [Nat.digitChar (b.toNat / 16), Nat.digitChar (b.toNat % 16)]

/-- The checksum of bytes. -/
def ofBytes (bytes : List UInt8) : Checksum :=
  ⟨String.ofList ((Sha256.digest bytes).flatMap byteChars)⟩

/-- The checksum of a text, in its UTF-8 form. -/
def ofText (text : String) : Checksum := ofBytes text.toByteArray.toList

/-- The checksum of a document. -/
def ofJson (value : Json) : Checksum := ofText value.compact

/-- The first twelve digits, for reports. -/
def short (c : Checksum) : String := String.ofList (c.hex.toList.take 12)

/-- The checksum as a document: its digits. -/
def toJson (c : Checksum) : Json := .string c.hex

end Checksum

end SchemaNodes
