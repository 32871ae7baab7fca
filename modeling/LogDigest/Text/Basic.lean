/-!
# Texts

Texts are lists of characters.  Blanks are the characters of the Unicode property White_Space;
trimming removes them from the two ends of a text and from nowhere else.  A line ends at a line
feed, and a carriage return right before it belongs to the end of the line; what stands after the
last line feed is a line only if there is something.  The size of a text is the number of bytes that
it takes in UTF-8.  A text may start with a mark that shows how it is encoded and says nothing
itself.
-/

namespace LogDigest.Text

/-! ## Blanks -/

def isBlank (c : Char) : Bool :=
  let n := c.toNat
  (9 ≤ n && n ≤ 13) || n == 0x20 || n == 0x85 || n == 0xA0 || n == 0x1680 ||
    (0x2000 ≤ n && n ≤ 0x200A) || n == 0x2028 || n == 0x2029 || n == 0x202F ||
    n == 0x205F || n == 0x3000

def trimStart (s : List Char) : List Char :=
  s.dropWhile isBlank

def trimEnd (s : List Char) : List Char :=
  (s.reverse.dropWhile isBlank).reverse

def trim (s : List Char) : List Char :=
  trimEnd (trimStart s)

def trimmed (s : String) : String :=
  String.ofList (trim s.toList)

theorem length_trimStart_le (s : List Char) : (trimStart s).length ≤ s.length :=
  (List.dropWhile_sublist isBlank).length_le

/-! ## Lines -/

def withoutReturn (s : List Char) : List Char :=
  if s.getLast? = some '\r' then s.dropLast else s

def lines (s : List Char) : List (List Char) :=
  let parts := s.splitOn '\n'
  let last := parts.getLastD []
  parts.dropLast.map withoutReturn ++ if last.isEmpty then [] else [last]

/-! ## Sizes -/

def size : List Char → Nat
  | [] => 0
  | c :: rest => c.utf8Size + size rest

/-- The start of a text up to a size; a character that only begins within it still counts. -/
def takeSize : Nat → List Char → List Char
  | 0, _ => []
  | _, [] => []
  | n + 1, c :: rest => c :: takeSize (n + 1 - c.utf8Size) rest

def dropSize : Nat → List Char → List Char
  | 0, s => s
  | _, [] => []
  | n + 1, c :: rest => dropSize (n + 1 - c.utf8Size) rest

/-! ## The byte order mark -/

def byteOrderMark : Char := '\uFEFF'

def withoutMark (s : List Char) : List Char :=
  match s with
  | c :: rest => if c = byteOrderMark then rest else s
  | [] => []

end LogDigest.Text
