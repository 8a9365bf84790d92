import Signpost.Key.Positions
import Signpost.PerfectHash.Candidate

/-!
# Samplings

A sampling is a list of named start lines together with the positions chosen
for a key width and the key of every line.  The search for a hash works on a
sampling; it finds the first candidate of its list that keeps all keys apart.
-/

namespace Signpost

/-- A named start line to be hashed. -/
structure HashEntry where
  name : String
  form : Octets
  deriving DecidableEq

/-- Why start lines cannot be hashed together. -/
inductive EntryError where
  /-- A second line of the same octets. -/
  | duplicate (name : String)
  /-- More lines than a slot can number. -/
  | tooMany (count : Nat)
  deriving DecidableEq, Repr

/-- The most lines one table holds. -/
def maxEntries : Nat := 255

def EntryError.message : EntryError → String
  | .duplicate name => "duplicate perfect-hash entry: " ++ name
  | .tooMany count =>
    "too many perfect-hash entries: " ++ Numeral.decimal count ++ " exceeds " ++
      Numeral.decimal maxEntries

/-- The first entry whose form an earlier one has. -/
def firstRepeated? (seen : List Octets) : List HashEntry → Option HashEntry
  | [] => none
  | entry :: rest =>
    if seen.contains entry.form then some entry else firstRepeated? (entry.form :: seen) rest

/-- Refuse too many lines, and then lines that repeat another. -/
def checkEntries (entries : List HashEntry) : Except EntryError Unit :=
  if maxEntries < entries.length then .error (.tooMany entries.length)
  else
    match firstRepeated? [] entries with
    | some entry => .error (.duplicate entry.name)
    | none => .ok ()

/-- Start lines with the positions and the keys that tell them apart. -/
structure Sampling where
  entries : List HashEntry
  width : KeyWidth
  positions : List Nat
  keys : List RouteKey

namespace Sampling

def ofEntries (entries : List HashEntry) (width : KeyWidth) : Sampling :=
  let positions := Positions.select (entries.map HashEntry.form) width
  { entries, width, positions
    keys := entries.map fun entry => RouteKey.ofSource entry.form positions }

/-- Whether the positions tell every two lines apart.  If not, no hash can. -/
def keysDistinct (s : Sampling) : Bool := s.keys.eraseDups.length == s.keys.length

/-- The length of the longest product of a folded key and a multiplier. -/
def productBits (s : Sampling) : Nat := min (s.width.foldedBits + 64) 128

/-- The first of some candidates that keeps the keys apart. -/
def firstSeparating? (s : Sampling) (candidates : List HashCandidate) : Option HashCandidate :=
  if s.keys.isEmpty || !s.keysDistinct then none
  else
    let words := s.keys.map RouteKey.fold
    candidates.find? fun c => c.separates words

/-- The candidate for the smallest table of a power of two. -/
def candidate? (s : Sampling) : Option HashCandidate :=
  s.firstSeparating? (CandidateSearch.powerCandidates s.productBits s.keys.length)

/-- The candidate for a table of one slot per line. -/
def minimalCandidate? (s : Sampling) : Option HashCandidate :=
  s.firstSeparating? (CandidateSearch.minimalCandidates s.productBits s.keys.length)

end Sampling

end Signpost
