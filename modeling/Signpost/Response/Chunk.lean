import Signpost.Connection.Socket
import Signpost.Response.Error

/-!
# Chunked bodies

A streamed body is a sequence of chunks, each of which may turn out to be a
failure.  A chunk goes out behind its length in hexadecimal, and a chunk of
length zero ends the body; so an empty chunk is passed over.
-/

namespace Signpost

/-- What a source of chunks yields, in order. -/
abbrev Chunks := List (Except String Octets)

namespace Chunks

/-- The line that announces a chunk. -/
def sizeLine (chunk : Octets) : Octets :=
  Octets.ofText (Numeral.hex chunk.length) ++ Octets.crlf

/-- A chunk as it stands on the wire. -/
def frame (chunk : Octets) : Octets := sizeLine chunk ++ chunk ++ Octets.crlf

/-- The end of a chunked body. -/
def trailer : Octets := Octets.ofText "0" ++ Octets.crlf ++ Octets.crlf

/-- Write chunks up to the end or the first failure. -/
def write : Chunks → Socket → Except ResponseError Unit × Socket
  | [], s =>
    match s.write trailer with
    | (.ok (), s) => (.ok (), s)
    | (.error e, s) => (.error (.socket e), s)
  | .error message :: _, s => (.error (.stream message), s)
  | .ok chunk :: rest, s =>
    if chunk.isEmpty then write rest s
    else
      match s.writeGathered [sizeLine chunk, chunk, Octets.crlf] with
      | (.ok (), s) => write rest s
      | (.error e, s) => (.error (.socket e), s)

end Chunks

end Signpost
