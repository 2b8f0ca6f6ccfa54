import PipelineLint.Http.Message

/-!
# Messages on the wire

A request as the bytes that are sent, and a reply from all the bytes that came back before the
connection ended. Where a body ends is told by its length, by the lengths of its parts, or by the
end of the connection. A body that ends too early is broken, and without a whole head there is no
answer at all.

## Main definitions

* `Http.Request.toBytes` — the bytes of a request
* `Http.Reply.ofBytes` — the reply that bytes make
-/

namespace PipelineLint.Http

/-! ## Writing -/

/-- The headers of a request, with those that say how it is sent. One connection serves one
request. -/
def Request.allHeaders (r : Request) : List Header :=
  let place := match r.url.authority with
    | some a => String.ofList a.renderHost
    | none => ""
  let length := match r.body with
    | some body => [⟨"content-length", toString body.utf8ByteSize⟩]
    | none => if r.method = "POST" then [⟨"content-length", "0"⟩] else []
  [⟨"host", place⟩, ⟨"accept", "*/*"⟩, ⟨"connection", "close"⟩] ++ r.headers ++ length

/-- The end of a line. -/
def lineEnd : String := "\r\n"

/-- The bytes of a request. -/
def Request.toBytes (r : Request) : List UInt8 :=
  let first := s!"{r.method} {String.ofList r.url.target} HTTP/1.1"
  let lines := first :: r.allHeaders.map fun h => s!"{h.name}: {h.value}"
  let head := String.join (lines.map (· ++ lineEnd)) ++ lineEnd
  Text.Utf8.encode (head ++ r.body.getD "").toList

/-! ## Reading -/

/-- The bytes of a head and what follows the empty line behind it. -/
def splitHead : List UInt8 → Option (List UInt8 × List UInt8)
  | 0x0D :: 0x0A :: 0x0D :: 0x0A :: rest => some ([], rest)
  | [] => none
  | b :: s => (splitHead s).map fun (head, rest) => (b :: head, rest)

/-- The bytes of a line and what follows it. -/
def splitLine : List UInt8 → Option (List UInt8 × List UInt8)
  | 0x0D :: 0x0A :: rest => some ([], rest)
  | [] => none
  | b :: s => (splitLine s).map fun (line, rest) => (b :: line, rest)

/-- The text of a sequence of bytes. -/
def textOf (bytes : List UInt8) : List Char := Text.trim (Text.Utf8.decodeLenient bytes)

/-- The header that a line holds. -/
def readHeader (line : List Char) : Header :=
  let name := Text.trim (line.takeWhile (· != ':'))
  let value := Text.trim ((line.dropWhile (· != ':')).drop 1)
  ⟨String.ofList (name.map Char.toLower), String.ofList value⟩

/-- The status that the first line of an answer holds. -/
def readStatus? (line : List Char) : Option Nat :=
  match Text.splitAt (· == ' ') line with
  | _ :: code :: _ => (String.ofList code).toNat?
  | _ => none

/-- The number that hexadecimal digits denote. -/
def readHex? (s : List Char) : Option Nat :=
  if s.isEmpty then none else s.foldlM (fun n c => (hexValue? c).map (16 * n + ·)) 0

/-- The bytes of a body that comes in parts; the empty part is the last. There are at most as many
parts as bytes. -/
def joinParts? : Nat → List UInt8 → Option (List UInt8)
  | 0, _ => none
  | parts + 1, s =>
    match splitLine s with
    | none => none
    | some (line, rest) =>
      match readHex? (Text.trim ((textOf line).takeWhile (· != ';'))) with
      | none => none
      | some 0 => some []
      | some n =>
        if rest.length < n + 2 then none
        else (joinParts? parts (rest.drop (n + 2))).map (rest.take n ++ ·)

/-- What is said about a body that broke off. -/
def brokenDetail : String :=
  "error reading a body from connection: end of file before message length reached"

/-- The body that bytes make, as the headers tell. -/
def readBody (headers : List Header) (s : List UInt8) : Body :=
  if headerValue? "transfer-encoding" headers = some "chunked" then
    match joinParts? s.length s with
    | some bytes => .whole bytes
    | none => .broken brokenDetail
  else
    match (headerValue? "content-length" headers).bind String.toNat? with
    | some n => if s.length < n then .broken brokenDetail else .whole (s.take n)
    | none => .whole s

/-- What is said about a connection that ended too early. -/
def cutDetail : String := "connection closed before message completed"

/-- The answer that bytes make, behind at most `provisional` answers that only announce another. -/
def readAnswer? : Nat → List UInt8 → Option Response
  | provisional, s =>
    match splitHead s with
    | none => none
    | some (head, rest) =>
      match Text.splitAt (· == '\n') (Text.Utf8.decodeLenient head) with
      | [] => none
      | first :: lines =>
        match readStatus? (Text.trim first) with
        | none => none
        | some status =>
          if status < 200 && status != 101 then
            match provisional with
            | 0 => none
            | n + 1 => readAnswer? n rest
          else
            let headers := lines.map readHeader
            some ⟨status, headers, readBody headers rest⟩

/-- The reply that the bytes of a whole connection make. -/
def Reply.ofBytes (s : List UInt8) : Reply :=
  match readAnswer? s.length s with
  | some a => .response a
  | none => .unsent cutDetail

end PipelineLint.Http
