import RuleBench.CommandLine.Test

/-!
# Given files

A directory of files whose contents are given, for testing without a disk. Nothing lies outside of
it.
-/

namespace RuleBench.CommandLine

/-- Files by the parts of their paths. -/
structure GivenFiles where
  entries : List (List String × List UInt8) := []

namespace GivenFiles

/-- Puts a file at a path. -/
def put (files : GivenFiles) (path : String) (octets : List UInt8) : GivenFiles :=
  ⟨(Text.pathParts path.toList, octets) :: files.entries⟩

/-- Whether files lie below a place. -/
def isDirectory (files : GivenFiles) (place : List String) : Bool :=
  files.entries.any fun f => place.isPrefixOf f.1

/-- Where the parts of a path lead from a directory. -/
def follow (files : GivenFiles) : List String → List String → Except FileCause (List UInt8)
  | _, [] => .error .isDirectory
  | here, part :: rest =>
    let there := if part == ".." then here.dropLast else here ++ [part]
    match files.entries.lookup there with
    | some octets => if rest.isEmpty then .ok octets else .error .notDirectory
    | none =>
      if there.isEmpty || files.isDirectory there then files.follow there rest
      else .error .notFound

def reader (files : GivenFiles) : FileReader Id := fun path =>
  let parts := Text.pathParts path.toList
  if path.contains '\x00' then .error .nullCharacter
  else if "/".isPrefixOf path && !parts.isEmpty then .error .notFound
  else files.follow [] parts

end GivenFiles

end RuleBench.CommandLine
