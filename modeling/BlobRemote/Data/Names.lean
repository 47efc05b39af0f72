/-!
# Sets of names

A listing answers with a set of names: in no order, each of them once. It is kept as a list without
repetitions, and shown in ascending order of code points.
-/

namespace BlobRemote

namespace Names

/-- The names of a list, each of them once. -/
def ofList (names : List String) : List String := names.eraseDups

/-- Names in ascending order. -/
def sorted (names : List String) : List String := names.mergeSort fun a b => decide (¬ b < a)

/-- What remains of a name after its beginning. -/
def after? (start name : String) : Option String :=
  if start.toList.isPrefixOf name.toList then some (String.ofList (name.toList.drop start.length))
  else none

/-- **The names below a directory**, relative to it, each of them once. -/
def below (directory : String) (names : List String) : List String :=
  ofList (names.filterMap (after? (directory ++ "/")))

end Names

end BlobRemote
