import Signpost.PerfectHash.Table
import Signpost.Store.LineStore
import Signpost.Text.Utf8

/-!
# Stores with perfect-hash tables

Each tier keeps its lines and their values in the order of registration, a map
from lines to positions, and a cell for the perfect-hash table of the lines.
The cell is filled when the table is first asked for, and emptied when a change
would make another table.  The table samples a line at few places, so what it
finds is confirmed by comparing the whole line.  Where no table can be had, the
map is asked.
-/

namespace Signpost

/-- The entries that a table is built from: the lines, named by their text. -/
def hashEntries (lines : List Octets) : List HashEntry :=
  lines.map fun line => ⟨Utf8.decodeLenient line, line⟩

/-- The table for some lines, if there are any and a search succeeds. -/
def tableFor? (width : KeyWidth) (minimal : Bool) (lines : List Octets) : Option PerfectTable :=
  if lines.isEmpty then none
  else
    match PerfectTable.build (hashEntries lines) width minimal with
    | .ok table? => table?
    | .error _ => none

/-- A tier whose lines are found through a perfect-hash table. -/
structure PerfectTier (α : Type) where
  width : KeyWidth
  minimal : Bool := false
  lines : List Octets := []
  values : List α := []
  /-- The position of each line. -/
  positions : Tier Nat := []
  /-- The table, once it has been asked for; `some none` if there was none to be had. -/
  cell : Option (Option PerfectTable) := none

namespace PerfectTier

variable {α : Type}

/-- Put a value under a line, and tell the one it replaces.  Only a new line makes another table. -/
def put (t : PerfectTier α) (line : Octets) (value : α) : Option α × PerfectTier α :=
  match t.positions.get? line with
  | some position => (t.values[position]?, { t with values := t.values.set position value })
  | none =>
    (none, { t with
      lines := t.lines ++ [line]
      values := t.values ++ [value]
      positions := t.positions.put line t.lines.length
      cell := none })

def setMinimal (t : PerfectTier α) (minimal : Bool) : PerfectTier α :=
  if t.minimal == minimal then t else { t with minimal, cell := none }

def generate (t : PerfectTier α) : Option PerfectTable := tableFor? t.width t.minimal t.lines

def table? (t : PerfectTier α) : Option PerfectTable := t.cell.getD t.generate

/-- The tier after its table has been asked for. -/
def filled (t : PerfectTier α) : PerfectTier α := { t with cell := some t.table? }

/-- The position of a line. -/
def position? (t : PerfectTier α) (line : Octets) : Option Nat :=
  match t.table? with
  | none => t.positions.get? line
  | some table =>
    match table.lookupLine? line with
    | none => none
    | some position => if t.lines[position]? = some line then some position else none

/-- The value under a line. -/
def get? (t : PerfectTier α) (line : Octets) : Option α :=
  match t.position? line with
  | none => none
  | some position => t.values[position]?

/-- Put all entries, in order. -/
def putAll (t : PerfectTier α) (entries : Tier α) : PerfectTier α :=
  entries.foldl (fun t entry => (t.put entry.1 entry.2).2) t

end PerfectTier

/-- The key width that tables are first tried with. -/
def defaultKeyWidth : KeyWidth := .eight

structure PerfectStore (α : Type) where
  sensitive : PerfectTier α
  insensitive : PerfectTier α

namespace PerfectStore

variable {α : Type}

def withWidth (width : KeyWidth) : PerfectStore α := ⟨{ width }, { width }⟩

def tier (s : PerfectStore α) : CaseMode → PerfectTier α
  | .sensitive => s.sensitive
  | .insensitive => s.insensitive

def withTier (s : PerfectStore α) (mode : CaseMode) (t : PerfectTier α) : PerfectStore α :=
  match mode with
  | .sensitive => { s with sensitive := t }
  | .insensitive => { s with insensitive := t }

theorem tier_withTier (s : PerfectStore α) (mode other : CaseMode) (t : PerfectTier α) :
    (s.withTier mode t).tier other = if other = mode then t else s.tier other := by
  cases mode <;> cases other <;> rfl

/-- Choose whether tables of one slot per line are tried first. -/
def minimal (s : PerfectStore α) (minimal : Bool) : PerfectStore α :=
  ⟨s.sensitive.setMinimal minimal, s.insensitive.setMinimal minimal⟩

def table? (s : PerfectStore α) (mode : CaseMode) : Option PerfectTable := (s.tier mode).table?

/-- The store after the table of a tier has been asked for. -/
def filled (s : PerfectStore α) (mode : CaseMode) : PerfectStore α :=
  s.withTier mode (s.tier mode).filled

/-- Put a value under a line, and tell the one it replaces. -/
def register (s : PerfectStore α) (line : Octets) (mode : CaseMode) (value : α) :
    Option α × PerfectStore α :=
  let (replaced, t) := (s.tier mode).put (tierKey line mode) value
  (replaced, s.withTier mode t)

def respond? (s : PerfectStore α) (line : Octets) (mode : CaseMode) : Option α :=
  (s.tier mode).get? line

/-- The number of lines in both tiers. -/
def size (s : PerfectStore α) : Nat :=
  s.sensitive.lines.length + s.insensitive.lines.length

/-- Whether one line stands before another or is equal to it, octet by octet. -/
def lineLe : Octets → Octets → Bool
  | [], _ => true
  | _ :: _, [] => false
  | a :: as, b :: bs => a < b || (a == b && lineLe as bs)

/-- The entries of a tier in the order of their lines. -/
def sortedEntries (t : Tier α) : Tier α := t.mergeSort fun a b => lineLe a.1 b.1

/-- The store with tables for the same lines and values. -/
def compile (s : LineStore α) (width : KeyWidth) (minimal : Bool) : PerfectStore α :=
  let empty := (withWidth width).minimal minimal
  ⟨(empty.sensitive.putAll (sortedEntries s.sensitive)).filled,
    (empty.insensitive.putAll (sortedEntries s.insensitive)).filled⟩

end PerfectStore

end Signpost
