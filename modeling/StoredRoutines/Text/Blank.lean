/-!
White space and what is done with it: trimming, and splitting a text into words. Blanks are the
Unicode white space characters together with the four ASCII separators U+001C to U+001F.
-/

namespace StoredRoutines.Text

def isBlank (c : Char) : Bool :=
  let n := c.toNat
  (9 ≤ n && n ≤ 13) || (28 ≤ n && n ≤ 32) || n = 0x85 || n = 0xA0 || n = 0x1680 ||
    (0x2000 ≤ n && n ≤ 0x200A) || n = 0x2028 || n = 0x2029 || n = 0x202F || n = 0x205F || n = 0x3000

def trimLeft (s : List Char) : List Char := s.dropWhile isBlank

def trimRight (s : List Char) : List Char := (s.reverse.dropWhile isBlank).reverse

def trim (s : List Char) : List Char := trimRight (trimLeft s)

/-- The maximal runs of characters that are not blank, in order. -/
def words (s : List Char) : List (List Char) :=
  match s with
  | [] => []
  | c :: cs =>
    if isBlank c then words cs
    else (c :: cs.takeWhile (!isBlank ·)) :: words (cs.dropWhile (!isBlank ·))
termination_by s.length
decreasing_by
  · simp
  · simp only [List.length_cons]
    exact Nat.lt_succ_of_le (List.dropWhile_sublist _).length_le

def trimmed (s : String) : String := String.ofList (trim s.toList)

end StoredRoutines.Text
