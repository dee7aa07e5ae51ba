import StoredRoutines.Text.Table.Word

/-!
Word characters: the letters, digits and numerals of every script and the underscore; and the ASCII
ones among them, which are all that a plain identifier may hold.
-/

namespace StoredRoutines.Text

/-- Some range holds the code point. -/
def inRanges (table : List (Nat × Nat)) (n : Nat) : Bool :=
  table.any fun range => range.1 ≤ n && n ≤ range.2

/-- An ASCII letter, digit or underscore. -/
def isPlain (c : Char) : Bool := c.isAlphanum || c = '_'

/-- A letter, digit or numeral of any script, or an underscore. -/
def isWord (c : Char) : Bool :=
  if c.toNat < 128 then isPlain c else inRanges Table.word c.toNat

end StoredRoutines.Text
