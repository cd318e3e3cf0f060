/-!
From lines and columns to bytes.

Lines end at a line feed and are counted from one, columns count characters from one. A column
without a character is placed as if the rest of the line had one byte per column, and a line
without a character at the last character of the text.
-/

namespace QualityBands.Source

/-- The offset of `column` in the line that begins at byte `start`; the list holds what is left
of the text at `offset`, in column `here`. -/
def offsetInLine (start column : Nat) : Nat → Nat → List Char → Nat
  | _, _, [] => start + (column - 1)
  | here, offset, c :: rest =>
    if here = column then offset
    else if c = '\n' then start + (column - 1)
    else offsetInLine start column (here + 1) (offset + c.utf8Size) rest

/-- The offset of a place in the text that is left at `offset`, in line `here`; `last` is the
offset of the character before. -/
def offsetFrom (line column : Nat) : Nat → Nat → Nat → List Char → Nat
  | _, _, last, [] => last
  | here, offset, _, c :: rest =>
    if here = line then offsetInLine offset column 1 offset (c :: rest)
    else
      offsetFrom line column (if c = '\n' then here + 1 else here)
        (offset + c.utf8Size) offset rest

/-- The byte offset of a line and column in a text. -/
def offsetOf (source : String) (line column : Nat) : Nat :=
  offsetFrom line column 1 0 0 source.toList

end QualityBands.Source
