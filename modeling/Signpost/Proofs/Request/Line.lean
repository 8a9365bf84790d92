import Signpost.Proofs.Fallible
import Signpost.Proofs.Octets
import Signpost.Proofs.Request.HeadLength
import Signpost.Proofs.Text.Pieces
import Signpost.Path.Match

/-!
# The start line of a request

What routes are keyed by is always the method, the path and the version of the
request with single spaces between, whatever its target carried besides the
path.  As no method has a space and both versions have the same length, the
line determines all three, also up to letter case.
-/

namespace Signpost

namespace CaseMode

theorem lower_eq_of_key_eq {mode : CaseMode} {a b : Octets} (same : mode.key a = mode.key b) :
    a.lower = b.lower := by
  cases mode with
  | sensitive => exact congrArg Octets.lower same
  | insensitive => exact same

end CaseMode

namespace Request

/-- A method, a path and a version as one line. -/
def lineOf (method : Method) (path : Octets) (version : Version) : Octets :=
  method.wire ++ Octets.space :: (path ++ Octets.space :: version.wire)

theorem ofText_line (method : Method) (path : String) (version : Version) :
    Octets.ofText (method.text ++ " " ++ path ++ " " ++ version.text) =
      lineOf method (Octets.ofText path) version := by
  have space : Octets.ofText " " = [Octets.space] := rfl
  rw [Octets.ofText_append, Octets.ofText_append, Octets.ofText_append, Octets.ofText_append,
    space, lineOf]
  simp [Method.wire, Version.wire]

theorem wire_of_ofWire?_method {name : Octets} {method : Method}
    (found : Method.ofWire? name = some method) : method.wire = name := by
  have same := List.find?_some found
  exact eq_of_beq same

theorem wire_of_ofWire?_version {text : Octets} {version : Version}
    (found : Version.ofWire? text = some version) : version.wire = text := by
  have same := List.find?_some found
  exact eq_of_beq same

theorem parseLine_eq {own : Octets} {line : Line} (read : parseLine own = .ok line) :
    own = lineOf line.method line.target line.version := by
  unfold parseLine at read
  split at read
  · cases read
  · next name rest first =>
    split at read
    · cases read
    · next method known =>
      split at read
      · cases read
      · next target text second =>
        split at read
        · cases read
        · next version supported =>
          cases read
          rw [eq_append_of_cut? first, eq_append_of_cut? second, lineOf,
            wire_of_ofWire?_method known, wire_of_ofWire?_version supported]

theorem canonicalLine_eq {own : Octets} {line : Line} (read : parseLine own = .ok line)
    (path : Octets) : canonicalLine own line path = lineOf line.method path line.version := by
  unfold canonicalLine
  split
  · next plain =>
    rw [eq_of_beq plain]
    exact parseLine_eq read
  · simp [lineOf]

theorem parseHead_canonical {head body : Octets} {request : Request}
    (read : parseHead head body = .ok request) :
    request.startLine = lineOf request.method request.path request.version ∧
      request.segments = fullPieces Octets.slash request.path := by
  obtain ⟨own, headerLines, split⟩ := Octets.exists_lines_eq_cons head
  rw [parseHead, split] at read
  obtain ⟨_, parted, read⟩ := exists_of_bind_eq_ok read
  cases parted
  obtain ⟨line, known, read⟩ := exists_of_bind_eq_ok read
  obtain ⟨_, _, read⟩ := exists_of_bind_eq_ok read
  dsimp only at read
  split at read
  · cases read
  · obtain ⟨headers, _, read⟩ := exists_of_bind_eq_ok read
    cases read
    exact ⟨canonicalLine_eq known _, rfl⟩

/-- What is read of a request determines its start line and its segments. -/
theorem parse_canonical {bytes : Octets} {request : Request}
    (read : parse bytes = .ok (some request)) :
    request.startLine = lineOf request.method request.path request.version ∧
      request.segments = fullPieces Octets.slash request.path := by
  unfold parse at read
  split at read
  · cases read
  · next head body _ =>
    obtain ⟨parsed, found, same⟩ := exists_of_map_eq_ok read
    cases same
    exact parseHead_canonical found

/-! ## The parts of a line -/

theorem space_not_mem_key_wire (mode : CaseMode) (method : Method) :
    Octets.space ∉ mode.key method.wire := by
  cases mode <;> cases method <;> decide

theorem length_key_wire (mode : CaseMode) (version : Version) :
    (mode.key version.wire).length = 8 := by
  cases mode <;> cases version <;> decide

/-- The names of methods differ by more than letter case. -/
theorem key_wire_inj_method {mode : CaseMode} {method method' : Method}
    (eq : mode.key method.wire = mode.key method'.wire) : method = method' := by
  have lowered := CaseMode.lower_eq_of_key_eq eq
  clear eq
  cases method <;> cases method' <;> first | rfl | exact absurd lowered (by decide)

theorem key_wire_inj_version {mode : CaseMode} {version version' : Version}
    (eq : mode.key version.wire = mode.key version'.wire) : version = version' := by
  have lowered := CaseMode.lower_eq_of_key_eq eq
  clear eq
  cases version <;> cases version' <;> first | rfl | exact absurd lowered (by decide)

theorem key_lineOf (mode : CaseMode) (method : Method) (path : Octets) (version : Version) :
    mode.key (lineOf method path version) =
      mode.key method.wire ++
        Octets.space :: (mode.key path ++ Octets.space :: mode.key version.wire) := by
  cases mode with
  | sensitive => rfl
  | insensitive =>
    have space : Octet.lower Octets.space = Octets.space := by decide
    simp [CaseMode.key, lineOf, Octets.lower, space]

/-- A line determines its method, its path and its version, the path up to what is compared. -/
theorem key_lineOf_eq_iff (mode : CaseMode) {method method' : Method} {path path' : Octets}
    {version version' : Version} :
    mode.key (lineOf method path version) = mode.key (lineOf method' path' version') ↔
      method = method' ∧ version = version' ∧ mode.key path = mode.key path' := by
  constructor
  · intro eq
    rw [key_lineOf, key_lineOf] at eq
    obtain ⟨methods, rest⟩ := append_sep_inj (space_not_mem_key_wire mode method)
      (space_not_mem_key_wire mode method') eq
    have lengths : (Octets.space :: mode.key version.wire).length =
        (Octets.space :: mode.key version'.wire).length := by
      rw [List.length_cons, List.length_cons, length_key_wire, length_key_wire]
    obtain ⟨paths, versions⟩ := List.append_inj' rest lengths
    exact ⟨key_wire_inj_method methods, key_wire_inj_version (List.cons.inj versions).2, paths⟩
  · rintro ⟨rfl, rfl, paths⟩
    rw [key_lineOf, key_lineOf, paths]

end Request

end Signpost
