import SourceDigest.CommandLine.Run
import SourceDigest.Model.Wire
import Std.Async.DNS
import Std.Async.TCP
import Std.Async.Timer
import Std.Time.DateTime.Timestamp

namespace SourceDigest.Program

open Files (Disk Item)
open Model (Delivery Posting)
open Std.Async
open Std.Async.TCP.Socket (Client)
open Std.Net (IPAddr SocketAddress)

partial def readItem (e : IO.FS.DirEntry) : IO Item :=
  try
    match (← e.path.symlinkMetadata).type with
    | .dir =>
      let entries ← e.path.readDir
      let items ← entries.toList.mapM fun e => return (Text.Utf8.encode e.fileName, ← readItem e)
      return .directory (items.foldl (fun l (name, i) => putEntry name i l) [])
    | .file => return .file (← IO.FS.readBinFile e.path).toList
    | .symlink => return .link (← IO.FS.realPath e.path).toString
    | .other => return .link ""
  catch _ => return .link ""

def withPath (disk : Disk) (path : Path) : IO Disk := do
  match path.parent?, path.fileName? with
  | some parent, some name =>
    let item ← readItem ⟨parent.text, Text.Utf8.decodeLossy name⟩
    let disk := (disk.ensureDirectory parent).2
    return disk.withItem (Disk.partsOf path.bytes) item
  | _, _ =>
    return disk.withItem [] (← readItem ⟨"/", "."⟩)

def realPath? (p : Path) : IO (Option Path) :=
  try
    return some ⟨(← IO.FS.realPath p.text).toString⟩
  catch _ => return none

def directory? (p : Path) : IO (Option Path) :=
  try
    let real ← IO.FS.realPath p.text
    let path : Path := ⟨real.toString⟩
    if ← real.isDir then return some path else return path.parent?
  catch _ => return none

def readDisk (i : CommandLine.Invocation) : IO Disk := do
  let working := (← IO.currentDir).toString
  let empty : Disk := ⟨.emptyDirectory, Disk.partsOf working⟩
  let mut disk := (empty.ensureDirectory ⟨working⟩).2
  let (roots, files) := CommandLine.pathsOf i
  for p in roots do
    if let some p ← directory? p then
      disk ← withPath disk p
  for p in files do
    if let some p ← realPath? p then
      if !disk.hasEntry p then disk ← withPath disk p
    else if let some parent ← realPath? (p.parent?.getD ⟨""⟩) then
      disk := (disk.ensureDirectory parent).2
  return disk

def readVariables (names : List String) : IO Configuration.Variables := do
  let values ← names.mapM fun name => return (name, ← IO.getEnv name)
  return fun name => (values.lookup name).join

def writeFile (path : Path) (content : List UInt8) : IO Unit := do
  if let some parent := path.parent? then IO.FS.createDirAll parent.text
  let temporary := path.text ++ ".tmp"
  IO.FS.writeBinFile temporary (ByteArray.mk content.toArray)
  IO.FS.rename temporary path.text

def now : IO UInt64 := do
  let t ← Std.Time.Timestamp.now
  return UInt64.ofNat t.toMillisecondsSinceUnixEpoch.toInt.toNat

def socketAddress (port : UInt16) : IPAddr → SocketAddress
  | .v4 a => .v4 ⟨a, port⟩
  | .v6 a => .v6 ⟨a, port⟩

def connect (port : UInt16) : List IPAddr → Async Client
  | [] => throw (.userError "no address takes a connection")
  | address :: rest =>
    try
      let client ← Client.mk
      client.connect (socketAddress port address)
      return client
    catch _ => connect port rest

partial def receive (client : Client) (received : ByteArray) : Async ByteArray := do
  match ← client.recv? 65536 with
  | some bytes => receive client (received ++ bytes)
  | none => return received

def exchange (p : Posting) : Async Delivery := do
  let port := p.url.port.getD 80
  let addresses ← DNS.getAddrInfo ((p.url.host.map Url.Host.plain).getD "") (toString port)
  let client ← connect (UInt16.ofNat port) addresses.toList
  client.send (ByteArray.mk p.message.toArray)
  return .ofBytes (← receive client .empty).toList

def deliver (seconds : UInt64) (p : Posting) : Async Delivery := do
  if p.url.scheme != "http" then return .undelivered
  let giveUp : Async Delivery := do
    sleep (.ofNat (seconds.toNat * 1000))
    return .late
  try Async.race (exchange p) giveUp
  catch _ => return .undelivered

partial def deliverAll (atOnce : Nat) (seconds : UInt64) :
    List Posting → Async (List (Posting × Delivery))
  | [] => return []
  | postings => do
    let batch := postings.take atOnce
    let deliveries ← Async.concurrentlyAll (batch.map (deliver seconds)).toArray
    let rest ← deliverAll atOnce seconds (postings.drop atOnce)
    return batch.zip deliveries.toList ++ rest

def transport (s : CommandLine.Surroundings) (disk : Disk) (p : CommandLine.Plan) :
    IO Model.Transport := do
  let postings := p.postings s disk
  let atOnce := (p.settings.extractionLimit.map UInt64.toNat).getD postings.length
  let delivered ← (deliverAll (max 1 atOnce) p.configuration.model.timeoutSeconds postings).block
  return fun posting => (delivered.lookup posting).getD .undelivered

def run (args : List String) : IO UInt32 := do
  let invocation := CommandLine.Invocation.ofArguments args
  let disk ← readDisk invocation
  let offline : CommandLine.Surroundings := {
    values := ← readVariables (CommandLine.variablesOf disk invocation)
    send := fun _ => .undelivered
    load := fun _ => .ok .plain
    pick := fun _ => 0
    now := ← now }
  let surroundings ← match CommandLine.planOf offline disk invocation with
    | some plan => pure { offline with send := ← transport offline disk plan }
    | none => pure offline
  let (outcome, after) := CommandLine.run surroundings disk args
  for record in outcome.log do
    IO.eprintln record.line
  for (path, content) in after.filesBeside disk do
    writeFile path content
  IO.print outcome.printed
  if let some text := outcome.report then IO.eprintln text
  return UInt32.ofNat outcome.code

end SourceDigest.Program

def main (args : List String) : IO UInt32 := SourceDigest.Program.run args
