/-!
Places in a text, for reports that point at a fault. Readers count places in bytes of the UTF-8
form; a report names the line and the column, both from one, and shows the line with a caret
under the place.

`Text.linePosition` turns a byte offset into a line and a column, both from zero. The column
counts the characters of the line up to and with the byte at the offset, less one; when those
bytes do not end on a character it counts the bytes instead. An offset past the end counts on
past the last byte.
-/
namespace RingIdentity

namespace Text

/-- The number of bytes of characters in UTF-8. -/
def byteWidth (cs : List Char) : Nat := cs.foldl (fun n c => n + c.utf8Size) 0

/-- The line and column, from zero, of byte `index` of a text given as its UTF-8 bytes. -/
def linePosition (bytes : ByteArray) (index : Nat) : Nat × Nat :=
  if bytes.size = 0 then (0, index)
  else
    let safe := min index (bytes.size - 1)
    let before := (bytes.extract 0 safe).toList
    let lineStart := before.length - (before.reverse.takeWhile (· ≠ 10)).length
    let line := ((bytes.extract 0 lineStart).toList.filter (· = 10)).length
    let column := match String.fromUTF8? (bytes.extract lineStart (safe + 1)) with
      | some t => t.length - 1
      | none => safe - lineStart
    (line, column + (index - safe))

/-- `n` spaces. -/
def spaces (n : Nat) : String := String.ofList (List.replicate n ' ')

end Text

end RingIdentity
