import Signpost.Octets
import Signpost.Text.Split

/-!
# Route paths

A declared path is a list of components: literal segments, named parameters
and, as the last one only, a catch-all.  `RoutePath.parse` reads the text of a
path and refuses the first segment from the left that is out of place;
`RoutePath.render` writes the components back.  Empty segments do not count.
-/

namespace Signpost

/-- One segment of a declared path. -/
inductive PathComponent where
  | literal (text : String)
  /-- Takes one segment of the request. -/
  | parameter (name : String)
  /-- Takes every segment that is left. -/
  | catchAll
  deriving DecidableEq, Repr

namespace PathComponent

/-- A colon starts a parameter and an asterisk a catch-all; anything else is literal. -/
def ofSegment : List Char → PathComponent
  | ':' :: name => parameter (String.ofList name)
  | '*' :: _ => catchAll
  | text => literal (String.ofList text)

def isLiteral : PathComponent → Bool
  | literal _ => true
  | _ => false

def isParameter : PathComponent → Bool
  | parameter _ => true
  | _ => false

def isCatchAll : PathComponent → Bool
  | catchAll => true
  | _ => false

def literal? : PathComponent → Option String
  | literal text => some text
  | _ => none

/-- The same component with a literal in lower case. -/
def lowercased : PathComponent → PathComponent
  | literal text => literal (asciiLower text)
  | other => other

def render : PathComponent → String
  | literal text => text
  | parameter name => ":" ++ name
  | catchAll => "*"

end PathComponent

/-- Why a text is no declared path. -/
inductive PathError where
  | catchAllNotLast (path : String)
  | emptyParameterName (path : String)
  deriving DecidableEq, Repr

def PathError.message : PathError → String
  | .catchAllNotLast path => "catch-all must be the last path component: " ++ path
  | .emptyParameterName path => "parameter without a name: " ++ path

namespace RoutePath

/-- The non-empty segments of a path. -/
def segments (path : String) : List String := (fullPieces '/' path.toList).map String.ofList

/-- Some text without a slash. -/
def IsSegment (text : String) : Prop := text ≠ "" ∧ '/' ∉ text.toList

theorem isSegment_of_mem_segments {path segment : String} (mem : segment ∈ segments path) :
    IsSegment segment := by
  obtain ⟨piece, whole, rfl⟩ := List.mem_map.mp mem
  obtain ⟨full, free⟩ := mem_fullPieces whole
  rw [IsSegment, Ne, ← String.toList_eq_nil_iff, String.toList_ofList]
  exact ⟨full, free⟩

/-- Refuse the first component that is out of place. -/
def check (path : String) : List PathComponent → Except PathError Unit
  | [] => .ok ()
  | .catchAll :: _ :: _ => .error (.catchAllNotLast path)
  | .parameter "" :: _ => .error (.emptyParameterName path)
  | _ :: rest => check path rest

def parse (path : String) : Except PathError (List PathComponent) := do
  let components := (fullPieces '/' path.toList).map PathComponent.ofSegment
  check path components
  return components

/-- The text of a path; the empty path is a single slash. -/
def render : List PathComponent → String
  | [] => "/"
  | components => String.join (components.map fun c => "/" ++ c.render)

/-- Whether a component is a parameter or a catch-all. -/
def hasParameters (components : List PathComponent) : Bool :=
  components.any fun c => !c.isLiteral

/-- Whether the path ends in a catch-all. -/
def hasCatchAll (components : List PathComponent) : Bool :=
  (components.getLast?.map PathComponent.isCatchAll).getD false

theorem hasCatchAll_iff {components : List PathComponent} :
    hasCatchAll components = true ↔ components.getLast? = some .catchAll := by
  unfold hasCatchAll
  cases components.getLast? with
  | none => exact iff_of_false nofun nofun
  | some c => cases c <;> simp [PathComponent.isCatchAll]

def lowercased (components : List PathComponent) : List PathComponent :=
  components.map PathComponent.lowercased

end RoutePath

end Signpost
