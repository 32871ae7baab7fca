/-!
# Text inside markup

The five characters that markup reserves are written as entities, so that a text cannot open or
close a tag or an attribute.  Decoding reads the entities back in one pass.
-/

namespace LogDigest.Markup

def isReserved (c : Char) : Bool :=
  c == '&' || c == '<' || c == '>' || c == '"' || c == '\''

def encodedChar (c : Char) : List Char :=
  match c with
  | '&' => ['&', 'a', 'm', 'p', ';']
  | '<' => ['&', 'l', 't', ';']
  | '>' => ['&', 'g', 't', ';']
  | '"' => ['&', 'q', 'u', 'o', 't', ';']
  | '\'' => ['&', '#', '3', '9', ';']
  | c => [c]

def encode (s : List Char) : List Char :=
  s.flatMap encodedChar

/-- Reads the five entities back, left to right; anything else stays as it is. -/
def decode : List Char → List Char
  | [] => []
  | '&' :: 'a' :: 'm' :: 'p' :: ';' :: rest => '&' :: decode rest
  | '&' :: 'l' :: 't' :: ';' :: rest => '<' :: decode rest
  | '&' :: 'g' :: 't' :: ';' :: rest => '>' :: decode rest
  | '&' :: 'q' :: 'u' :: 'o' :: 't' :: ';' :: rest => '"' :: decode rest
  | '&' :: '#' :: '3' :: '9' :: ';' :: rest => '\'' :: decode rest
  | c :: rest => c :: decode rest

def needsEncoding (s : String) : Bool :=
  s.toList.any isReserved

def encoded (s : String) : String :=
  String.ofList (encode s.toList)

inductive Encoded where
  | unchanged (s : String)
  | rewritten (s : String)
  deriving DecidableEq, Repr

namespace Encoded

/-- Encodes a text; one that has nothing to encode is passed on and not written anew. -/
def of (s : String) : Encoded :=
  if needsEncoding s then .rewritten (encoded s) else .unchanged s

def text : Encoded → String
  | .unchanged s => s
  | .rewritten s => s

end Encoded

end LogDigest.Markup
