import AgentDesk.Anthropic.Decoder
import AgentDesk.Text.Blank
import AgentDesk.Text.Pieces
import AgentDesk.Text.Utf8
/-!
# Reading the stream of an answer

The body of an answer comes in chunks that may end anywhere, even inside a character. Bytes are
kept until their line is complete, and only complete lines are decoded. A line that carries data
holds one event; other lines, and data that are not JSON, are skipped.

A stream ends with the event that completes or fails the answer. If the body ends before, the stream
ends with a failure.

## Main definitions

* `Anthropic.LineBuffer` — complete lines out of chunks.
* `Anthropic.StreamReader`, `Anthropic.events` — the events of a body.
-/

namespace AgentDesk.Anthropic

/-- The byte that ends a line. -/
def lineEnd : UInt8 := 10

/-- The bytes behind the last line that was complete. -/
structure LineBuffer where
  pending : List UInt8
deriving Repr, BEq, DecidableEq, Inhabited

namespace LineBuffer

/-- The buffer of a body of which nothing was read. -/
def empty : LineBuffer := ⟨[]⟩

/-- The text of a line; carriage returns at its end do not belong to it. -/
def lineText (bytes : List UInt8) : String := Text.trimEndChar '\r' (Text.decodeLossy bytes)

/-- Adds a chunk: the lines that are complete now, and the buffer afterwards. -/
def push (b : LineBuffer) (chunk : List UInt8) : List String × LineBuffer :=
  let pieces := Text.splitOn (· == lineEnd) (b.pending ++ chunk)
  (pieces.dropLast.map lineText, ⟨pieces.getLastD []⟩)

end LineBuffer

/-- The event that a line carries. -/
def eventOf? (line : String) : Option Json := do
  let data ← Text.stripPrefix? "data:" line
  let data := Text.trim data
  if data.isEmpty then none else Json.parse? data

/-- The lines that are not complete yet, and what was decoded. -/
structure StreamReader where
  buffer : LineBuffer
  decoder : Decoder
deriving Repr, BEq, DecidableEq, Inhabited

namespace StreamReader

/-- The reader of a body of which nothing was read. -/
def start : StreamReader := ⟨.empty, .start⟩

end StreamReader

namespace Decoder

/-- Decodes a line; behind the end nothing is decoded. -/
def readLine (d : Decoder) (line : String) : Result :=
  if d.ended then ([], d)
  else
    match eventOf? line with
    | some event => d.step event
    | none => ([], d)

/-- Decodes lines. -/
def readLines (d : Decoder) : List String → Result
  | [] => ([], d)
  | line :: rest =>
    let (said, d) := d.readLine line
    let (more, d) := readLines d rest
    (said ++ more, d)

end Decoder

namespace StreamReader

/-- Reads a chunk. -/
def readChunk (r : StreamReader) (chunk : List UInt8) : List StreamEvent × StreamReader :=
  let (lines, buffer) := r.buffer.push chunk
  let (said, decoder) := r.decoder.readLines lines
  (said, ⟨buffer, decoder⟩)

/-- Reads chunks. -/
def readChunks (r : StreamReader) : List (List UInt8) → List StreamEvent × StreamReader
  | [] => ([], r)
  | chunk :: rest =>
    let (said, r) := r.readChunk chunk
    let (more, r) := readChunks r rest
    (said ++ more, r)

end StreamReader

/-- What is said of a body that ends before the answer does. -/
def unfinished : String := "stream ended before message_stop"

/-- The events of a body that comes in chunks; `fault` tells what went wrong at its end. -/
def events (chunks : List (List UInt8)) (fault : Option String) : List StreamEvent :=
  let (said, r) := StreamReader.start.readChunks chunks
  if r.decoder.ended then said else said ++ [.failed (.interrupted (fault.getD unfinished))]

end AgentDesk.Anthropic
