/-!
# Dictionaries

A dictionary is a list of named values in the order of their names, each name
once.  Putting in a value replaces the one of the same name.  Texts are ordered
by code points, which is the order of their UTF-8 forms.
-/

namespace Signpost

abbrev Dictionary (α : Type) := List (String × α)

namespace Dictionary

variable {α : Type}

def put (name : String) (value : α) : Dictionary α → Dictionary α
  | [] => [(name, value)]
  | (other, old) :: rest =>
    if name = other then (name, value) :: rest
    else if name < other then (name, value) :: (other, old) :: rest
    else (other, old) :: put name value rest

/-- The dictionary of a list of pairs; the last value of a name counts. -/
def ofPairs (pairs : List (String × α)) : Dictionary α :=
  pairs.foldl (fun d (name, value) => put name value d) []

end Dictionary

end Signpost
