import SnippetPage.CommandLine.Run
import SnippetPage.Service.Message
import Std.Async.DNS
import Std.Async.TCP

/-!
# The program

Shows a snippet of the service as markup. All that it does besides talking to the world is decided
in `Command.perform`.
-/

namespace SnippetPage.Main

open Std.Async Std.Net

def readFile (path : Path) : IO (Option (Path × Option String)) := do
  try
    let bytes ← IO.FS.readBinFile path.text
    return some (path, String.fromUTF8? bytes)
  catch _ =>
    return none

/-- What surrounds the program, as far as a command depends on it. -/
def surroundings (command : Option Command) : IO Surroundings := do
  let home := (← IO.getEnv "HOME").getD "/"
  let bare : Surroundings :=
    { here := Path.follow [] (← IO.currentDir).toString
      home := Path.follow [] home
      configHome := ← IO.getEnv "XDG_CONFIG_HOME"
      cacheHome := ← IO.getEnv "XDG_CACHE_HOME" }
  let files ← (Command.files bare command).filterMapM readFile
  return { bare with files := ⟨files⟩ }

/-- The bytes that arrive until the connection is closed. -/
partial def receive (socket : TCP.Socket.Client) (received : ByteArray) : Async ByteArray := do
  match ← socket.recv? 65536 with
  | some bytes => receive socket (received ++ bytes)
  | none => return received

/-- Sends a request over a connection of its own and waits for the reply. -/
def exchange (request : Request) : Async (Option Reply) := do
  let number := request.address.socket
  let hosts ← DNS.getAddrInfo request.address.host (Decimal.ofNat number)
  match hosts[0]? with
  | none => return none
  | some host =>
    let socket ← TCP.Socket.Client.mk
    socket.connect (match host with
      | .v4 ip => .v4 ⟨ip, number.toUInt16⟩
      | .v6 ip => .v6 ⟨ip, number.toUInt16⟩)
    socket.send request.bytes
    return Reply.ofBytes? (← receive socket .empty)

/-- The connection to the service; a failure to connect is no reply. -/
def connection (request : Request) : IO (Option Reply) := do
  try
    (exchange request).block
  catch _ =>
    return none

end SnippetPage.Main

open SnippetPage in
def main (arguments : List String) : IO UInt32 := do
  let command := Command.read? arguments
  let surroundings ← Main.surroundings command
  let outcome ← Command.perform surroundings Main.connection command
  IO.print outcome.output
  for remark in outcome.remarks do
    IO.eprintln remark
  return outcome.code.toUInt32
