import LogDigest.Text.Basic
import LogDigest.Text.Reader

/-!
# Patterns

A pattern describes texts: characters, sets of characters and conditions on a place in a text, put
together by sequence, choice, repetition and grouping.  Matching goes over the bytes of a text in
UTF-8 without looking back, and it has no tables of Unicode properties.  So a pattern is usable
only if it never matches a part of a character, and never asks whether a character beyond ASCII is
a digit, a blank, part of a word or the other case of a letter.

Between the parts of a loose pattern there may be gaps: blanks, and comments from a number sign to
the end of the line.  In other patterns these are characters like all others.
-/

namespace LogDigest

namespace Pattern

structure Mode where
  foldsCase : Bool := false
  /-- Characters are those of Unicode; otherwise they are single bytes. -/
  isUnicode : Bool := true
  /-- Blanks and comments between the parts do not count. -/
  isLoose : Bool := false

def isAscii (c : Char) : Bool :=
  c.toNat < 0x80

/-! ## Atoms -/

inductive Atom where
  /-- A character, which may be written as a byte. -/
  | literal (c : Char) (isByte : Bool)
  | anyChar
  /-- A start or an end of a line or a text. -/
  | border
  /-- A start, an end or the inside of a word. -/
  | wordBorder
  /-- A digit, a blank or a character of a word; negated, any other character. -/
  | shorthand (isNegated : Bool)

def Atom.isUsable (mode : Mode) : Atom → Bool
  | literal c isByte => if mode.isUnicode then !mode.foldsCase else !isByte || isAscii c
  | anyChar => mode.isUnicode
  | border => true
  | wordBorder => true
  | shorthand isNegated => !mode.isUnicode && !isNegated

/-- Whether an atom looks for words of any script, which no single byte gives away. -/
def Atom.seeksWords (mode : Mode) : Atom → Bool
  | wordBorder => mode.isUnicode
  | _ => false

/-! ## Sets of characters -/

inductive CharSet where
  | literal (c : Char)
  | range (first last : Char)
  | named (isNegated : Bool)
  | shorthand (isNegated : Bool)
  | bracketed (isNegated : Bool) (set : CharSet)
  | union (sets : List CharSet)
  | combined (left right : CharSet)

namespace CharSet

def ofList : List CharSet → CharSet
  | [set] => set
  | sets => union sets

mutual

def depth : CharSet → Nat
  | bracketed _ set => set.depth + 1
  | union [] => 0
  | union (set :: sets) => max set.depth (greatestDepth sets) + 1
  | combined left right => max left.depth right.depth + 1
  | _ => 0

def greatestDepth : List CharSet → Nat
  | [] => 0
  | set :: sets => max set.depth (greatestDepth sets)

end

def admits (mode : Mode) (c : Char) : Bool :=
  if mode.isUnicode then !mode.foldsCase else isAscii c

mutual

def isUsable (mode : Mode) : CharSet → Bool
  | literal c => admits mode c
  | range first last => admits mode first && admits mode last
  | named isNegated => if mode.isUnicode then !mode.foldsCase else !isNegated
  | shorthand isNegated => !mode.isUnicode && !isNegated
  | bracketed isNegated set => (mode.isUnicode || !isNegated) && set.isUsable mode
  | union sets => areUsable mode sets
  | combined left right => left.isUsable mode && right.isUsable mode

def areUsable (mode : Mode) : List CharSet → Bool
  | [] => true
  | set :: sets => set.isUsable mode && areUsable mode sets

end

end CharSet

structure Count where
  least : Nat
  most : Option Nat

end Pattern

inductive Pattern where
  | atom (mode : Pattern.Mode) (part : Pattern.Atom)
  | set (mode : Pattern.Mode) (chars : Pattern.CharSet)
  | repetition (count : Pattern.Count) (body : Pattern)
  | group (body : Pattern)
  /-- A place where the mode changes. -/
  | turn
  | sequence (parts : List Pattern)
  | choice (branches : List Pattern)

namespace Pattern

def ofParts : List Pattern → Pattern
  | [part] => part
  | parts => sequence parts

/-! ## Nesting -/

def maxDepth : Nat := 250

mutual

def depth : Pattern → Nat
  | atom .. => 0
  | set _ chars => chars.depth
  | repetition _ body => body.depth + 1
  | group body => body.depth + 1
  | turn => 0
  | sequence [] => 0
  | sequence (part :: parts) => max part.depth (greatestDepth parts) + 1
  | choice branches => greatestDepth branches + 1

def greatestDepth : List Pattern → Nat
  | [] => 0
  | pattern :: patterns => max pattern.depth (greatestDepth patterns)

end

/-! ## Use -/

mutual

def isWhole : Pattern → Bool
  | atom mode part => part.isUsable mode
  | set mode chars => chars.isUsable mode
  | repetition _ body => body.isWhole
  | group body => body.isWhole
  | turn => true
  | sequence parts => areWhole parts
  | choice branches => areWhole branches

def areWhole : List Pattern → Bool
  | [] => true
  | pattern :: patterns => pattern.isWhole && areWhole patterns

end

mutual

/-- Whether a pattern looks for words of any script, other than in what it repeats no times. -/
def seeksWords : Pattern → Bool
  | atom mode part => part.seeksWords mode
  | set .. => false
  | repetition count body => count.most != some 0 && body.seeksWords
  | group body => body.seeksWords
  | turn => false
  | sequence parts => anySeeksWords parts
  | choice branches => anySeeksWords branches

def anySeeksWords : List Pattern → Bool
  | [] => false
  | pattern :: patterns => pattern.seeksWords || anySeeksWords patterns

end

def isUsable (pattern : Pattern) : Bool :=
  pattern.depth ≤ maxDepth && pattern.isWhole && !pattern.seeksWords

end Pattern

/-! ## Gaps -/

namespace Pattern.Grammar

open Reader

/-- A text from the end of the gap that it starts with, or that it starts in the middle of a
comment. -/
def afterGap (inComment : Bool) : List Char → List Char
  | [] => []
  | c :: rest =>
    if inComment then afterGap (c != '\n') rest
    else if Text.isBlank c then afterGap false rest
    else if c = '#' then afterGap true rest
    else c :: rest

def gap (isLoose : Bool) : Reader Unit := fun s =>
  some ((), if isLoose then afterGap false s else s)

def closed {α : Type} (isLoose : Bool) (reader : Reader α) : Reader α :=
  reader <* gap isLoose

def afterBlanks? (pastSign : Bool) : List Char → Option Char
  | [] => none
  | c :: rest =>
    if Text.isBlank c then afterBlanks? pastSign rest
    else if c = '#' ∧ !pastSign then afterBlanks? true rest
    else some c

def ahead? (isLoose : Bool) (s : List Char) : Option Char :=
  if isLoose then afterBlanks? false s else s.head?

end Pattern.Grammar

end LogDigest
