import SchemaNodes.Checksum
import SchemaNodes.Proofs.Json.Writing

/-!
# What a checksum identifies

The digest is the only place where two fingerprints can become equal: the hexadecimal digits show
every bit of it, and the bytes of a text and the text of a value can be read back. So equal
checksums are equal contents, or a collision of the digest is at hand.

* **`Checksum.ofBytes_eq_iff`**, **`ofText_eq_iff`**, **`ofJson_eq_iff`**: equal checksums of bytes,
  of texts and of values.
-/

namespace SchemaNodes

/-- Two messages with one digest. -/
def Sha256.Collide (a b : List UInt8) : Prop := a ≠ b ∧ digest a = digest b

namespace Checksum

theorem digitChar_inj : ∀ m < 16, ∀ n < 16, Nat.digitChar m = Nat.digitChar n → m = n := by decide

theorem byteChars_inj {a b : UInt8} (h : byteChars a = byteChars b) : a = b := by
  have ha := a.toNat_lt
  have hb := b.toNat_lt
  obtain ⟨hhigh, hlow⟩ : Nat.digitChar (a.toNat / 16) = Nat.digitChar (b.toNat / 16) ∧
      Nat.digitChar (a.toNat % 16) = Nat.digitChar (b.toNat % 16) := by simpa [byteChars] using h
  have hhigh := digitChar_inj _ (by omega) _ (by omega) hhigh
  have hlow := digitChar_inj _ (by omega) _ (by omega) hlow
  exact UInt8.toNat_inj.1 (by omega)

/-- Every byte has two digits, so the digits are those of one list of bytes only. -/
theorem flatMap_byteChars_inj {as bs : List UInt8}
    (h : as.flatMap byteChars = bs.flatMap byteChars) : as = bs := by
  induction as generalizing bs with
  | nil =>
    cases bs with
    | nil => rfl
    | cons b bs => simp [byteChars] at h
  | cons a as ih =>
    cases bs with
    | nil => simp [byteChars] at h
    | cons b bs =>
      rw [List.flatMap_cons, List.flatMap_cons] at h
      obtain ⟨hfirst, hrest⟩ := List.append_inj h rfl
      rw [byteChars_inj hfirst, ih hrest]

theorem ofBytes_eq_iff {a b : List UInt8} :
    ofBytes a = ofBytes b ↔ a = b ∨ Sha256.Collide a b := by
  have hdigest : ofBytes a = ofBytes b ↔ Sha256.digest a = Sha256.digest b := by
    constructor
    · intro h
      exact flatMap_byteChars_inj (String.ofList_inj.1 (Checksum.mk.inj h))
    · intro h
      rw [ofBytes, ofBytes, h]
  rw [hdigest]
  by_cases heq : a = b <;> simp [Sha256.Collide, heq]

/-! ## Texts -/

/-- The bytes of a text. -/
def bytes (text : String) : List UInt8 := text.toByteArray.toList

/-- The bytes from a place on, behind those that were taken before, by the number that is left. -/
theorem toList_loop (b : ByteArray) (place : Nat) (acc : List UInt8) :
    ByteArray.toList.loop b place acc = acc.reverse ++ b.data.toList.drop place := by
  have hsize : b.data.toList.length = b.size := rfl
  induction hleft : b.size - place generalizing place acc with
  | zero =>
    rw [ByteArray.toList.loop, if_neg (by omega), List.drop_eq_nil_of_le (by omega),
      List.append_nil]
  | succ n ih =>
    have hplace : place < b.data.toList.length := by omega
    have hbyte : b.get! place = b.data.toList[place] := by
      rw [Array.getElem_toList]
      exact getElem!_pos b.data place hplace
    rw [ByteArray.toList.loop, if_pos (by omega), ih _ _ (by omega), hbyte,
      List.drop_eq_getElem_cons hplace, List.reverse_cons, List.append_assoc]
    rfl

theorem bytes_inj {s t : String} (h : bytes s = bytes t) : s = t := by
  have htoList : ∀ b : ByteArray, b.toList = b.data.toList := fun b => toList_loop b 0 []
  rw [bytes, bytes, htoList, htoList] at h
  exact String.toByteArray_inj.1 (ByteArray.ext (Array.toList_inj.1 h))

theorem ofText_eq_iff {s t : String} :
    ofText s = ofText t ↔ s = t ∨ Sha256.Collide (bytes s) (bytes t) := by
  have hbytes : bytes s = bytes t ↔ s = t := ⟨bytes_inj, fun h => h ▸ rfl⟩
  rw [← hbytes]
  exact ofBytes_eq_iff

/-- The compact text of a value of strings, arrays and objects reads back: it adds no collision. -/
theorem ofJson_eq_iff {v w : Json} (hv : v.Textual) (hw : w.Textual) :
    ofJson v = ofJson w ↔ v = w ∨ Sha256.Collide (bytes v.compact) (bytes w.compact) := by
  have hcompact : v.compact = w.compact ↔ v = w := ⟨hv.compact_inj hw, fun h => h ▸ rfl⟩
  rw [← hcompact]
  exact ofText_eq_iff

end Checksum

end SchemaNodes
