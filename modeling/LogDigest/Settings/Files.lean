/-!
# Files of settings

A directory is seen through the contents of its files.  A file of settings is named without its
extension; its path is in short form, without empty parts and single points.
-/

namespace LogDigest.Settings

abbrev Files : Type := String → Option String

namespace Files

def rawParts (path : String) : List String :=
  (path.toList.splitOn '/').map String.ofList

def parts (path : String) : List String :=
  (rawParts path).filter fun part => part != "" && part != "."

/-- The parts that name a file, from those of a path below the directory `above`, last part first.
Parts lead through directories that exist, and two points lead back. -/
def resolve? (isDirectory : List String → Bool) (above : List String) :
    List String → Option (List String)
  | [] => some above.reverse
  | ".." :: rest =>
    match above with
    | [] => none
    | _ :: above => resolve? isDirectory above rest
  | [name] => some (name :: above).reverse
  | name :: rest =>
    if isDirectory (name :: above).reverse then resolve? isDirectory (name :: above) rest
    else none

/-- The files of a listing by path and content, together with the directories they stand in. -/
def ofList (listing : List (String × String)) : Files := fun path =>
  let files := listing.map fun (path, content) => (parts path, content)
  let isDirectory (way : List String) : Bool :=
    files.any fun (file, _) => way.length < file.length && way.isPrefixOf file
  (resolve? isDirectory [] (parts path)).bind fun way => files.lookup way

def extension? (name : String) : Option String :=
  let reversed := name.toList.reverse.dropWhile (· != '.')
  if reversed.length ≤ 1 then none
  else some (String.ofList (name.toList.drop reversed.length))

def endsInName (path : String) : Bool :=
  (rawParts path).getLast?.all fun part => part != "" && part != "."

def tidy (path : String) : String :=
  "/".intercalate (parts path)

def pathOf? (name : String) : Option String :=
  if (parts name).getLast?.all (· == "..") then none
  else some (tidy name ++ ".toml")

/-- The file of settings that a name without extension stands for, with its path.  A file of
exactly that name takes precedence, but is read only if it is a TOML file. -/
def settings? (files : Files) (name : String) : Option (String × String) :=
  match (if endsInName name then files name else none), (parts name).getLast? with
  | some source, some file =>
    if extension? file = some "toml" then some (tidy name, source) else none
  | _, _ => do
    let path ← pathOf? name
    return (path, ← files path)

end Files

end LogDigest.Settings
