/-!
# The bytes of a text

A text is measured and ordered by its UTF-8 form: `Text.byteLength` counts its bytes, and
`Text.before` compares two texts byte by byte, a text before its continuations.

Key definitions: `Text.bytes`, `Text.byteLength`, `Text.before`.
-/
namespace RecordSync
namespace Text

/-- The UTF-8 bytes of a text. -/
def bytes (s : String) : List UInt8 := s.toByteArray.data.toList

/-- The number of UTF-8 bytes of a run of characters. -/
def byteLength : List Char → Nat
  | [] => 0
  | c :: cs => c.utf8Size + byteLength cs

/-- Whether the first text comes before the second in the order of their bytes. -/
def before (a b : String) : Bool := decide (bytes a < bytes b)

theorem bytes_injective {a b : String} (h : bytes a = bytes b) : a = b := by
  apply String.toByteArray_inj.mp
  unfold bytes at h
  cases ha : a.toByteArray; cases hb : b.toByteArray
  simp_all [Array.toList_inj]

end Text
end RecordSync
