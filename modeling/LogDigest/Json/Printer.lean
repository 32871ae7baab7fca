import LogDigest.Decimal.Layout
import LogDigest.Json.Basic

/-!
# Printed JSON

A value has a compact text without any blanks between its tokens and an indented text with one
member or item a line, two spaces a level.  Both spell tokens alike; characters below U+0020
occur in neither, apart from the line feeds of the indented text.
-/

namespace LogDigest.Json

def hexDigit (n : Nat) : Char :=
  Nat.digitChar (n % 16)

def escapedChar (c : Char) : List Char :=
  match c with
  | '"' => ['\\', '"']
  | '\\' => ['\\', '\\']
  | '\n' => ['\\', 'n']
  | '\r' => ['\\', 'r']
  | '\t' => ['\\', 't']
  | c =>
    if c.toNat = 8 then ['\\', 'b']
    else if c.toNat = 12 then ['\\', 'f']
    else if c.toNat < 0x20 then
      ['\\', 'u', '0', '0', hexDigit (c.toNat / 16), hexDigit c.toNat]
    else [c]

def stringText (s : String) : List Char :=
  '"' :: s.toList.flatMap escapedChar ++ ['"']

def numberText : JsonNumber → List Char
  | .integer value => (toString value).toList
  | .float value => Decimal.text Decimal.jsonLayout value

def boolText (value : Bool) : List Char :=
  if value then "true".toList else "false".toList

mutual

def compactText : Json → List Char
  | .null => "null".toList
  | .bool value => boolText value
  | .number value => numberText value
  | .string value => stringText value
  | .array items => '[' :: compactItems items ++ [']']
  | .object members => '{' :: compactMembers members ++ ['}']

def compactItems : List Json → List Char
  | [] => []
  | [item] => compactText item
  | item :: rest => compactText item ++ ',' :: compactItems rest

def compactMembers : List (String × Json) → List Char
  | [] => []
  | [(key, value)] => stringText key ++ ':' :: compactText value
  | (key, value) :: rest =>
    stringText key ++ ':' :: compactText value ++ ',' :: compactMembers rest

end

def lineBreak (level : Nat) : List Char :=
  '\n' :: List.replicate (2 * level) ' '

mutual

def indentedText (level : Nat) : Json → List Char
  | .null => "null".toList
  | .bool value => boolText value
  | .number value => numberText value
  | .string value => stringText value
  | .array [] => ['[', ']']
  | .array (item :: rest) =>
    '[' :: indentedItems (level + 1) (item :: rest) ++ lineBreak level ++ [']']
  | .object [] => ['{', '}']
  | .object (member :: rest) =>
    '{' :: indentedMembers (level + 1) (member :: rest) ++ lineBreak level ++ ['}']

def indentedItems (level : Nat) : List Json → List Char
  | [] => []
  | [item] => lineBreak level ++ indentedText level item
  | item :: rest =>
    lineBreak level ++ indentedText level item ++ ',' :: indentedItems level rest

def indentedMembers (level : Nat) : List (String × Json) → List Char
  | [] => []
  | [(key, value)] =>
    lineBreak level ++ stringText key ++ ':' :: ' ' :: indentedText level value
  | (key, value) :: rest =>
    lineBreak level ++ stringText key ++ ':' :: ' ' :: indentedText level value ++
      ',' :: indentedMembers level rest

end

def compact (doc : Json) : String :=
  String.ofList doc.compactText

def indented (doc : Json) : String :=
  String.ofList (doc.indentedText 0)

end LogDigest.Json
