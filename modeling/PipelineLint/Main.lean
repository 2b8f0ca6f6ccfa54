import PipelineLint.Http.Wire
import PipelineLint.Run
import Std.Async.DNS
import Std.Async.TCP
import Std.Async.Timer

/-!
# The command line

The program itself is `PipelineLint.program`. Here it is given the files, the environment and the
server that it needs, and what it leaves behind is passed on.

The program asks its server through a function of all requests so far. So it is run with the replies
that are known, which shows the next request; that one is sent, and its reply is added to the known
ones. What a run does before a reply that is not known yet does not depend on it.

Connections over TLS are not supported: a request for one is never sent.
-/

namespace PipelineLint.Main

open Std.Async Std.Net

/-! ## Files and environment -/

/-- The number of a system error, which may be given as its negative. -/
def errorNumber (code : UInt32) : UInt32 := if code < 0x80000000 then code else 0 - code

/-- The number of an error that the system does not tell more about. -/
def ioFault : Int := 5

/-- Why the system could not read a file. -/
def ioError : IO.Error → IoError
  | .alreadyExists _ code _ | .otherError code _ | .resourceBusy code _ | .resourceVanished code _
  | .unsupportedOperation code _ | .hardwareFault code _ | .unsatisfiedConstraints code _
  | .illegalOperation code _ | .protocolError code _ | .timeExpired code _ | .interrupted _ code _
  | .noFileOrDirectory _ code _ | .invalidArgument _ code _ | .permissionDenied _ code _
  | .resourceExhausted _ code _ | .inappropriateType _ code _ | .noSuchThing _ code _ =>
    .system (errorNumber code).toNat
  | .unexpectedEof | .userError _ => .system ioFault

/-- What reading the file at `path` gives. -/
def readFile (path : String) : IO (Except IoError (List UInt8)) := do
  if path.contains '\x00' then
    return .error .nulInName
  try
    return .ok (← IO.FS.readBinFile path).toList
  catch e =>
    return .error (ioError e)

/-- The given files, each of them read once. -/
def readFiles (paths : List String) : IO FileSystem := do
  let contents ← paths.mapM fun path => do return (path, ← readFile path)
  return ⟨fun path => (contents.lookup path).getD (.error .noSuchFile)⟩

/-- The given variables of the environment. -/
def readEnvironment (names : List String) : IO Environment := do
  let values ← names.mapM fun name => do return (name, ← IO.getEnv name)
  return fun name => (values.lookup name).join

/-! ## Servers -/

/-- All that comes back on a connection until it ends. -/
partial def receive (socket : TCP.Socket.Client) (soFar : ByteArray) : Async ByteArray := do
  match ← socket.recv? 65536 with
  | some bytes => receive socket (soFar ++ bytes)
  | none => return soFar

/-- What comes back for `bytes` from an address. -/
def askAddress (address : SocketAddress) (bytes : ByteArray) : Async ByteArray := do
  let socket ← TCP.Socket.Client.mk
  socket.connect address
  socket.send bytes
  receive socket .empty

/-- What comes back for `bytes` from a host. -/
def askHost (host : String) (number : UInt16) (bytes : ByteArray) : Async ByteArray := do
  let addresses : Array IPAddr ← DNS.getAddrInfo host (toString number)
  match addresses.toList with
  | .v4 addr :: _ => askAddress (.v4 ⟨addr, number⟩) bytes
  | .v6 addr :: _ => askAddress (.v6 ⟨addr, number⟩) bytes
  | [] => throw (IO.userError "no address found")

/-- The name of a host, without the brackets around an address. -/
def hostName (u : Http.Url) : String :=
  String.ofList (u.host.filter fun c => c != '[' && c != ']')

/-- The longest time to wait for a reply, in seconds. -/
def longest : Nat := 1000000000

/-- Sends one request and waits for its reply, for a number of seconds. -/
def ask (seconds : Nat) (r : Http.Request) : IO Http.Reply := do
  if r.url.isSecure then
    return .unsent "connections over TLS are not supported"
  let number := (r.url.effectivePort.getD 80).toUInt16
  let asked : Task (Except IO.Error ByteArray) ←
    Async.toIO (askHost (hostName r.url) number ⟨r.toBytes.toArray⟩)
  let limit : Std.Time.Millisecond.Offset := .ofNat (1000 * min seconds longest)
  let waited : Task (Except IO.Error Unit) ← Async.toIO (sleep limit)
  match ← IO.waitAny [Task.map some asked, Task.map (fun _ => none) waited] with
  | none => return .timedOut Http.timedOutDetail
  | some (.ok bytes) => return .ofBytes bytes.toList
  | some (.error e) => return .unsent s!"error trying to connect: {e}"

/-! ## The program -/

/-- A server of which only the first replies are known. -/
def known (replies : Array Http.Reply) : Http.Server where
  reply past _ := (replies[past.length]?).getD (.unsent "not asked yet")

/-- Runs the program and sends its requests, at most `more` of them. -/
def converse (around : Surroundings) (words : List String) (seconds : Nat) :
    Nat → Array Http.Reply → IO Ending
  | 0, replies => return (program { around with server := known replies } words).1
  | more + 1, replies => do
    let (ending, traffic) := program { around with server := known replies } words
    match traffic.requests[replies.size]? with
    | none => return ending
    | some r => converse around words seconds more (replies.push (← ask seconds r))

/-- The most requests that a run with `files` files can send: one for the crumb and one for each
file, and each of them may be sent on. -/
def mostRequests (files : Nat) : Nat := (files + 1) * Http.maxPlaces

/-- Runs the program with what it finds around it. -/
def runProgram (words : List String) : IO Ending := do
  let home ← IO.getEnv "HOME"
  let env ← readEnvironment ["JENKINS_URL", "JENKINS_USERNAME", "JENKINS_PASSWORD"]
  let nobody : Http.Server := known #[]
  match CommandLine.parse words with
  | .error _ => return (program ⟨⟨fun _ => .error .noSuchFile⟩, env, home, nobody⟩ words).1
  | .ok args =>
    let files ← readFiles (Settings.paths home args ++ args.files)
    let most := mostRequests args.files.length
    converse ⟨files, env, home, nobody⟩ words args.timeout.toNat most #[]

end PipelineLint.Main

/-- Lints the files of the command line. -/
def main (words : List String) : IO UInt32 := do
  let ending ← PipelineLint.Main.runProgram words
  let out ← IO.getStdout
  out.write ⟨ending.out.toArray⟩
  out.flush
  IO.eprint ending.notes
  return ending.status.toUInt32
