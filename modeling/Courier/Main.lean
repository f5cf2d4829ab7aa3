import Courier.Daemon.Demo
import Courier.Daemon.Session
import Courier.Exchange.Run
import Courier.Host.Connection
import Std.Async.Signal
import Std.Http.Server

/-!
# The daemon

Joins the library to files, sockets and the clock: reads the settings that the command line names,
and serves the demonstration until it is interrupted. What is sent, in which frames, and what is
reported is decided by the deliveries of the library; the messages of the protocol are read and
written by `Std.Http`.
-/

namespace Courier.Daemon

open Std.Async (Async ContextAsync)

/-! ### Files -/

/-- The fault with a code of the operating system, of which some operations report the negative. -/
def osFault (code : UInt32) : Fault := .os code.toInt32.toInt.natAbs

/-- The fault behind a failed operation. -/
def faultOf : IO.Error → Fault
  | .noFileOrDirectory _ code _ | .interrupted _ code _ => osFault code
  | .alreadyExists _ code _ | .invalidArgument _ code _ | .permissionDenied _ code _
  | .resourceExhausted _ code _ | .inappropriateType _ code _ | .noSuchThing _ code _ =>
    osFault code
  | .otherError code _ | .resourceBusy code _ | .resourceVanished code _
  | .unsupportedOperation code _ | .hardwareFault code _ | .unsatisfiedConstraints code _
  | .illegalOperation code _ | .protocolError code _ | .timeExpired code _ => osFault code
  | .unexpectedEof => .io .unexpectedEof
  | .userError text => .ioWith .other (.foreign text)

/-- The contents of a file, or why it cannot be read. -/
def contentsOf (path : String) : IO (Except Fault Bytes) := do
  try
    let contents ← IO.FS.readBinFile path
    return .ok contents.toList
  catch e => return .error (faultOf e)

/-! ### Addresses, requests and heads -/

def addressOf : Std.Net.SocketAddress → Option SocketAddress
  | .v4 ⟨ip, port⟩ => some (.v4 ⟨ip.octets[0], ip.octets[1], ip.octets[2], ip.octets[3]⟩ port)
  | .v6 ⟨ip, port⟩ => (Ipv6.ofGroups? ip.segments.toList).map (.v6 · 0 port)

def netAddress : SocketAddress → Std.Net.SocketAddress
  | .v4 ip port => .v4 ⟨⟨#v[ip.a, ip.b, ip.c, ip.d]⟩, port⟩
  | .v6 ip _ port => .v6 ⟨⟨⟨ip.groups.toArray, by simp [ip.length_eq]⟩⟩, port⟩

/-- The request with the given head and content. -/
def requestOf? (head : Std.Http.Request.Head) (content : Except Fault Bytes) : Option Request := do
  let method ← Method.ofString? (toString head.method)
  let uri ← Uri.parse? (toString head.uri)
  let headers ← head.headers.toList.mapM fun (name, value) => do
    some (← HeaderName.ofBytes? (Bytes.ofString name.value), Bytes.ofString value.value)
  some { method, uri, headers, content }

/-- The head of a message. Fields that the protocol cannot carry are left out. -/
def builderOf (head : Head) : Std.Http.Response.Builder :=
  let status := (Std.Http.Status.ofCode none head.status.code.toUInt16).getD .internalServerError
  head.headers.foldl
    (fun builder field =>
      let value := String.ofList (field.2.map fun b => Char.ofNat b.toNat)
      (builder.header? field.1.text value).getD builder)
    (Std.Http.Response.withStatus status)

/-! ### Deliveries -/

def report (severity : Severity) (text : String) : IO Unit :=
  IO.eprintln s!"{severity.level} {text}"

def reportEvents (x : Exchange Relay) : IO Unit :=
  for event in x.delivery.events do
    let fault := event.fault.message?.getD "engine failure"
    report event.severity
      s!"{event.lost.message} method={event.method.name} uri={event.uri} error={fault}"

def withChannel (x : Exchange Relay) (change : Channel → Channel) : Exchange Relay :=
  match x.delivery.body with
  | some (.stream channel) => { x with delivery.body := some (.stream (change channel)) }
  | _ => x

def withSink (x : Exchange Relay) (sink : Relay) : Exchange Relay :=
  { x with delivery.sink := sink }

/-- Feeds a stream the next tick, after a pause if it is not the first, or closes it after the
last. -/
def feed (x : Exchange Relay) (ticks : List Bytes) (pause : Bool) :
    Async (Exchange Relay × List Bytes) := do
  if pause then Std.Async.sleep (.ofNat Demo.tickInterval)
  match ticks with
  | tick :: ticks => return (withChannel x fun ch => (ch.send tick).settle.2, ticks)
  | [] => return (withChannel x (·.closeWriter 0), [])

/-- Sends a frame to the client, and says whether the client was still there. -/
def sendFrame (out : Std.Http.Body.Stream) (frame : Bytes) : Async (Option Fault) := do
  try
    out.send (.ofByteArray ⟨frame.toArray⟩)
    return none
  catch e => return some (faultOf e)

/-- Sends the frames of a delivery as they come, and feeds its stream whenever none comes. Once the
client has gone, what is fed next makes the delivery fail, and report it. -/
partial def sendFrames (x : Exchange Relay) (ticks : List Bytes) (pause : Bool)
    (out : Std.Http.Body.Stream) : Async (Exchange Relay) := do
  let x := x.settle
  match x.delivery.sink.takeFrame with
  | (.arrived frame, sink) =>
    match ← sendFrame out frame with
    | none => sendFrames (withSink x sink) ticks pause out
    | some fault =>
      let (x, _) ← feed (withSink x (sink.dropBody.publish fault)) ticks pause
      return x.settle
  | (.pending, _) =>
    let (x, ticks) ← feed x ticks pause
    sendFrames x ticks true out
  | _ => return x

/-- Sends a delivery whose head is taken. -/
def respond (head : Head) (x : Exchange Relay) :
    ContextAsync (Std.Http.Response Std.Http.Body.Any) := do
  let builder := builderOf head
  let send (size : Option Std.Http.Body.Length) (out : Std.Http.Body.Stream) : Async Unit := do
    out.setKnownSize size
    reportEvents (← sendFrames x Demo.ticks false out)
  match head.framing with
  | .empty =>
    let response ← builder.empty
    return { response with body := .ofBody response.body }
  | .length n =>
    let response ← builder.stream (send (some (.fixed n)))
    return { response with body := .ofBody response.body }
  | .chunked =>
    let response ← builder.stream (send none)
    return { response with body := .ofBody response.body }

/-- Answers one request. -/
def answer (peer : Option SocketAddress) (request : Std.Http.Request Std.Http.Body.Stream) :
    ContextAsync (Std.Http.Response Std.Http.Body.Any) := do
  let content : Except Fault Bytes ← try
      let bytes : ByteArray ← request.body.readAll
      pure (.ok bytes.toList)
    catch e => pure (.error (faultOf e))
  match requestOf? request.line content with
  | none => respond { status := .badRequest, headers := [], framing := .empty } { delivery := .start {} {} }
  | some request =>
    let request := { request with context.peer := peer }
    let x := Exchange.settle { delivery := .serve Demo.service request ({} : Relay) }
    match x.delivery.sink.takeHead with
    | (.arrived head, sink) => respond head (withSink x sink)
    | _ =>
      report Notice.headMissing.severity Notice.headMissing.message
      respond Connection.missingHead x

/-! ### Sessions -/

/-- The limits of the protocol that the settings ask for. -/
def limits (settings : Settings) : Std.Http.Config :=
  let untimed : Std.Http.Config :=
    { maxConnections := 0
      maxRequests := 0x100000000
      maxHeaderBytes := settings.maxHeaderBytes
      maxUriLength := settings.maxHeaderBytes
      maxStartLineLength := settings.maxHeaderBytes
      enableKeepAlive := settings.keepAlive
      serverName := none }
  match settings.headerReadTimeoutMillis with
  | some span => { untimed with headerTimeout := .ofNat span }
  | none => untimed

def fail (failure : Failure) : IO UInt32 := do
  IO.eprintln failure.message
  return failure.exitCode

/-- Serves until the daemon is interrupted. -/
def serve (options : Options) (settings : Settings) : Async UInt32 := do
  let write (entry : Entry) : Async Unit := report .info entry.message
  report .info (Entry.starting.message ++ " " ++ options.origin settings)
  let interrupt ← Std.Async.Signal.Waiter.mk .sigint false
  let handler := Std.Http.Server.Handler.ofFn fun request => do
    let peer := (request.extensions.get Std.Http.Server.RemoteAddr).bind (addressOf ·.addr)
    answer peer request
  let failure : Option Fault ← try
      let _ ← Std.Http.Server.serve (netAddress settings.listen) handler (limits settings)
      pure none
    catch e => pure (some (faultOf e))
  match failure with
  | some fault => fail (.server (.bind settings.listen fault))
  | none =>
    write (.host .listening)
    let _ ← Async.ofAsyncTask (← interrupt.wait)
    write .interrupted
    write (.host .shuttingDown)
    write .stopped
    return 0

end Courier.Daemon

open Courier.Daemon in
def main (args : List String) : IO UInt32 := do
  match Command.parse args with
  | .error e => fail (.usage e)
  | .ok (.explain topic) =>
    IO.println topic.text
    return 0
  | .ok (.serve options) =>
    let contents ← match options.config with
      | some path => contentsOf path
      | none => pure (.ok [])
    match options.settings contents with
    | .error failure => fail (.settings failure)
    | .ok settings => (serve options settings).block
