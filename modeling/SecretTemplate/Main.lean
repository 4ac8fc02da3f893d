import SecretTemplate.CommandLine.Program
import SecretTemplate.Http.Replay
import SecretTemplate.Http.Wire
import Std.Async.DNS
import Std.Async.TCP
import Std.Async.Timer

namespace SecretTemplate.Main

open CommandLine Http
open Std.Async Std.Net

partial def receiveAll (connection : TCP.Socket.Client) (bytes : ByteArray) : Async ByteArray := do
  match ← connection.recv? 65536 with
  | some more => receiveAll connection (bytes ++ more)
  | none => return bytes

def socketAddress (port : UInt16) : IPAddr → SocketAddress
  | .v4 addr => .v4 { addr, port }
  | .v6 addr => .v6 { addr, port }

def converse (r : Request) : Async (Option Response) := do
  let host := ((r.url.host.map Url.Host.text).getD "").toList.filter fun c => c != '[' && c != ']'
  let port := (r.url.port.or (Url.defaultPort? r.url.scheme)).getD 80
  let addresses ← DNS.getAddrInfo (.ofList host) (toString port)
  match addresses[0]? with
  | none => return none
  | some address =>
    let connection ← TCP.Socket.Client.mk
    connection.connect (socketAddress port.toUInt16 address)
    connection.send r.wire.toByteArray
    return Response.ofWire? (← receiveAll connection .empty).toList

def answer (timeout : Nat) (r : Request) : IO (Option Response) := do
  if r.url.scheme != "http" then return none
  let late : Async (Option Response) := do
    sleep (.ofNat (1000 * timeout))
    return none
  try Async.block (Async.race (converse r) late) catch _ => return none

def nodeAt (location : Location) : IO (Option Node) := do
  try
    let bytes ← IO.FS.readBinFile ("/" ++ String.intercalate "/" location)
    return some (.file bytes.toList)
  catch
    | .inappropriateType _ code _ => return if code = 21 then some .directory else none
    | _ => return none

def locationsOf (home : Location) (path : String) : List Location :=
  let start := if path.startsWith "/" then [] else home
  let steps := (Text.splitAll '/' path.toList).map String.ofList
  (steps.foldl (fun (here, seen) step =>
    let here := if step = "" || step = "." then here else if step = ".." then here.dropLast else here ++ [step]
    (here, seen ++ [here])) (start, [start])).2

def snapshot (home : Location) (paths : List String) : IO Files := do
  let mut files := ({ home } : Files).putDirectory home
  for location in paths.flatMap (locationsOf home) do
    if let some node ← nodeAt location then
      files := match node with
        | .directory _ => files.putDirectory location
        | .file .. => files.put location node
  return files

def writeBack (before after : Files) : IO String := do
  let mut complaints := ""
  for (location, node) in after.nodes do
    if let .file bytes _ := node then
      if before.node? location != some node then
        try IO.FS.writeBinFile ("/" ++ String.intercalate "/" location) bytes.toByteArray
        catch e => complaints := complaints ++ "Error: " ++ toString e ++ "\n"
  return complaints

def environmentBytes : IO Text.Utf8.Bytes := do
  try return (← IO.FS.readBinFile "/proc/self/environ").toList catch _ => return []

partial def carryOut (timeout : Nat) (i : Invocation) (files : Files) (answers : List (Option Response)) :
    IO Ending := do
  let (ending, w) := execute Replay.outside [] i files { files, answers }
  match w.wanted with
  | none => return ending
  | some r => carryOut timeout i files (answers ++ [← answer timeout r])

def eventLine (e : Event) : String :=
  String.ofList (List.replicate (5 - e.level.label.length) ' ') ++ e.level.label ++ " " ++ e.component.target ++
    ": " ++ shownMessage e

end SecretTemplate.Main

open SecretTemplate CommandLine Main in
def main (arguments : List String) : IO UInt32 := do
  let i : Invocation := { arguments, environment := .ofBytes (← environmentBytes) }
  let current := (Text.splitAll '/' (← IO.currentDir).toString.toList).map String.ofList
  let home := current.filter (!·.isEmpty)
  let flags := (Flags.read arguments).toOption.getD {}
  let paths := flags.inputFile.toList ++ flags.outputFile.toList ++ [flags.connection.jwtPath]
  let environmentFiles := (Files.upward home).map fun directory =>
    "/" ++ String.intercalate "/" (directory ++ [environmentFileName])
  let files ← snapshot home (environmentFiles ++ paths)
  let ending ← carryOut flags.connection.timeout i files []
  let unwritten ← writeBack files ending.files
  (← IO.getStdout).putStr ending.output
  let shown := ending.events.map fun e => eventLine e ++ "\n"
  (← IO.getStderr).putStr (String.join shown ++ ending.complaint ++ unwritten)
  return if unwritten.isEmpty then ending.exitCode.toUInt32 else 1
