import Signpost.Text.Numeral

/-!
# Socket addresses

A socket address is an IPv4 or IPv6 address with a port.  IPv6 addresses stand
in brackets, may leave out one run of zero groups, may end in an IPv4 address,
and may name a scope.  Decimal numbers of an IPv4 address have no leading zero.

An address is written in its shortest form: the longest run of at least two
zero groups is left out, the first of equals.
-/

namespace Signpost

inductive SocketAddress where
  | v4 (octets : List Nat) (port : Nat)
  | v6 (groups : List Nat) (scope port : Nat)
  deriving DecidableEq, Repr

namespace SocketAddress

/-! ## Reading -/

/-- Reads the front of a text and leaves the rest. -/
abbrev Reader (α : Type) := List Char → Option (α × List Char)

/-- One given character. -/
def char (c : Char) : Reader Unit
  | d :: rest => if d == c then some ((), rest) else none
  | [] => none

/-- The digits of a base at the front of a text. -/
def digits (base : Nat) : List Char → List Nat × List Char
  | [] => ([], [])
  | c :: rest =>
    match Numeral.digitValue? base c with
    | none => ([], c :: rest)
    | some d => ((d :: (digits base rest).1), (digits base rest).2)

/-- A number below a limit, of at most `most` digits where that is given. -/
def number (base limit : Nat) (most : Option Nat) (zeroPadded : Bool) : Reader Nat := fun cs =>
  let (ds, rest) := digits base cs
  let value := ds.foldl (fun n d => n * base + d) 0
  if ds.isEmpty then none
  else if !zeroPadded && ds.head? == some 0 && ds.length != 1 then none
  else if most.any fun m => m < ds.length then none
  else if limit ≤ value then none
  else some (value, rest)

/-- Four decimal numbers with dots between. -/
def ipv4 : Reader (List Nat) := fun cs => do
  let octet := number 10 256 (some 3) false
  let (a, cs) ← octet cs
  let ((), cs) ← char '.' cs
  let (b, cs) ← octet cs
  let ((), cs) ← char '.' cs
  let (c, cs) ← octet cs
  let ((), cs) ← char '.' cs
  let (d, cs) ← octet cs
  return ([a, b, c, d], cs)

/-- A colon before every group but the first. -/
def separated {α : Type} (first : Bool) (reader : Reader α) : Reader α := fun cs =>
  if first then reader cs
  else do
    let ((), cs) ← char ':' cs
    reader cs

/-- The two groups that the octets of an IPv4 address fill. -/
def pairGroups : List Nat → List Nat
  | [a, b, c, d] => [a * 256 + b, c * 256 + d]
  | _ => []

/-- Up to `room` groups, of which an IPv4 address may fill the last two.  Tells whether one did. -/
def groups : Nat → Bool → List Char → (List Nat × Bool) × List Char
  | 0, _, cs => (([], false), cs)
  | room + 1, first, cs =>
    let embedded? := if room == 0 then none else separated first ipv4 cs
    match embedded? with
    | some (octets, rest) => ((pairGroups octets, true), rest)
    | none =>
      match separated first (number 16 65536 (some 4) true) cs with
      | none => (([], false), cs)
      | some (group, rest) =>
        let ((more, embedded), rest) := groups room false rest
        ((group :: more, embedded), rest)

/-- Eight groups, or fewer with a double colon in the place of zero groups. -/
def ipv6 : Reader (List Nat) := fun cs => do
  let ((front, embedded), cs) := groups 8 true cs
  if front.length == 8 then
    return (front, cs)
  if embedded then
    none
  let ((), cs) ← char ':' cs
  let ((), cs) ← char ':' cs
  let ((back, _), cs) := groups (7 - front.length) true cs
  return (front ++ List.replicate (8 - front.length - back.length) 0 ++ back, cs)

def portNumber : Reader Nat := fun cs => do
  let ((), cs) ← char ':' cs
  number 10 65536 none true cs

def scopeNumber : Reader Nat := fun cs => do
  let ((), cs) ← char '%' cs
  number 10 UInt32.size none true cs

def readV4 : Reader SocketAddress := fun cs => do
  let (octets, cs) ← ipv4 cs
  let (port, cs) ← portNumber cs
  return (v4 octets port, cs)

def readV6 : Reader SocketAddress := fun cs => do
  let ((), cs) ← char '[' cs
  let (groups, cs) ← ipv6 cs
  let (scope, cs) := (scopeNumber cs).getD (0, cs)
  let ((), cs) ← char ']' cs
  let (port, cs) ← portNumber cs
  return (v6 groups scope port, cs)

/-- The address that a whole text names. -/
def ofText? (text : String) : Option SocketAddress :=
  let cs := text.toList
  match readV4 cs <|> readV6 cs with
  | some (address, []) => some address
  | _ => none

/-! ## Writing -/

def ipv4Text (octets : List Nat) : String := ".".intercalate (octets.map Numeral.decimal)

/-- The length of the run of zeros at the front. -/
def zeroRun (groups : List Nat) : Nat := (groups.takeWhile (· == 0)).length

/-- The longest run of zeros, as its start and its length; the first of equals. -/
def longestRun (groups : List Nat) : Nat × Nat :=
  (List.range groups.length).foldl
    (fun best start =>
      let run := zeroRun (groups.drop start)
      if best.2 < run then (start, run) else best)
    (0, 0)

def groupsText (groups : List Nat) : String := ":".intercalate (groups.map Numeral.hex)

/-- An IPv6 address in its shortest form. -/
def ipv6Text (groups : List Nat) : String :=
  match groups with
  | [0, 0, 0, 0, 0, 0xFFFF, a, b] =>
    "::ffff:" ++ ipv4Text [a / 256, a % 256, b / 256, b % 256]
  | _ =>
    let (start, run) := longestRun groups
    if run ≤ 1 then groupsText groups
    else groupsText (groups.take start) ++ "::" ++ groupsText (groups.drop (start + run))

def text : SocketAddress → String
  | v4 octets port => ipv4Text octets ++ ":" ++ Numeral.decimal port
  | v6 groups scope port =>
    "[" ++ ipv6Text groups ++ (if scope == 0 then "" else "%" ++ Numeral.decimal scope) ++ "]:" ++
      Numeral.decimal port

end SocketAddress

end Signpost
