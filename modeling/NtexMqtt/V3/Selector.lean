/-
`v3/selector.rs`: a listener-level service that reads the CONNECT once and offers it to
several server configurations in turn.

A selector is built by `Selector::new` and the builder methods, turned into a
`SelectorService` by `create_service`, polled for readiness and shutdown, and called once
per connection.  Each is one definition below, in the order of the source, and each loop of
the source is a recursion over the list it walks, from a position `i` on.

Servers and factories are values.  A server is what `ctx.call(srv, item)` gives for each
handshake, together with what it answers the one time it is polled; a factory is the outcome
of its `create(())`.  Beside its result, each loop returns what it did, in order: the
positions of the factories it created, of the servers it polled, and of the servers it
called, each with the handshake it was given.  What "called at most once" and "no later
server" mean is stated on those traces.
-/
import NtexMqtt.V3.Types

namespace NtexMqtt

/-! ### Servers and their factories -/

/-- One boxed variant, `BoxService<Handshake, Either<Handshake, ()>, MqttError<Err>>`, as the
selector uses it.  `call` is `ctx.call(srv, item)`, which waits for the server to be ready
before calling it: `Left` hands the handshake on, `Right` means the server took the
connection. -/
structure Server (H Err : Type) where
  call : H → Except (MqttError Err) (Either H Unit)
  pollReady : Poll (Except (MqttError Err) Unit)
  pollShutdown : Poll Unit

/-- `BoxServiceFactory<(), Handshake, ...>`, as the outcome of its `create(())`. -/
structure ServerFactory (H Err InitErr : Type) where
  create : Except InitErr (Server H Err)

/-- Modelled from the spec: `MqttServer` of `server.rs`, of which the selector writes only the
sink pool; the rest of the server's configuration is `config`. -/
structure MqttServer (Cfg Pool : Type) where
  config : Cfg
  pool : Pool

/-- `SelectorService<Err>`. -/
structure SelectorService (H Err Pool : Type) where
  servers : List (Server H Err)
  maxSize : UInt32
  connectTimeout : Millis
  pool : Pool

/-- `Selector<Err, InitErr>`. -/
structure Selector (H Err InitErr Pool : Type) where
  servers : List (ServerFactory H Err InitErr)
  maxSize : UInt32
  connectTimeout : Millis
  pool : Pool

/-! ### Building the selector -/

namespace Selector

variable {H Err InitErr Pool Cfg Check : Type}

/-- `Selector::new`, where `pool` is the sink pool that `Default::default()` allocates. -/
def new (pool : Pool) : Selector H Err InitErr Pool :=
  { servers := [], maxSize := 0, connectTimeout := ⟨10000⟩, pool := pool }

/-- `Selector::connect_timeout`. -/
def setConnectTimeout (self : Selector H Err InitErr Pool) (timeout : Seconds) :
    Selector H Err InitErr Pool :=
  { self with connectTimeout := Millis.ofSeconds timeout }

/-- `Selector::max_size`. -/
def setMaxSize (self : Selector H Err InitErr Pool) (size : UInt32) :
    Selector H Err InitErr Pool :=
  { self with maxSize := size }

/-- `Selector::variant`.  The server is given the selector's pool and then boxed by
`finishSelector`, which is `server.finish_selector(check)` of `server.rs`. -/
def variant (finishSelector : MqttServer Cfg Pool → Check → ServerFactory H Err InitErr)
    (self : Selector H Err InitErr Pool) (check : Check) (server : MqttServer Cfg Pool) :
    Selector H Err InitErr Pool :=
  { self with servers := self.servers ++ [finishSelector { server with pool := self.pool } check] }

/-- The loop of `create_service` from the factory at position `i` on, with `servers` pushed so
far: `servers.push(fut.await?)`.  The iterator is lazy, so a factory is created only when the
loop reaches it. -/
def createLoop : Nat → List (ServerFactory H Err InitErr) → List (Server H Err) →
    Except InitErr (List (Server H Err)) × List Nat
  | _, [], servers => (.ok servers, [])
  | i, srv :: rest, servers =>
    match srv.create with
    | .error e => (.error e, [i])
    | .ok s =>
      let r := createLoop (i + 1) rest (servers ++ [s])
      (r.1, i :: r.2)

/-- `Selector::create_service`, which is also `create` of all three `ServiceFactory` impls. -/
def createService (self : Selector H Err InitErr Pool) :
    Except InitErr (SelectorService H Err Pool) × List Nat :=
  let r := createLoop 0 self.servers []
  (r.1.map fun servers =>
    { servers := servers, maxSize := self.maxSize, connectTimeout := self.connectTimeout,
      pool := self.pool }, r.2)

end Selector

/-! ### The service -/

namespace SelectorService

variable {H Err Pool Connect Io RecvErr : Type}

/-- The loop of `poll_ready` from position `i` on, with the flag `ready` so far:
`ready &= srv.poll_ready(cx)?.is_ready()`.  `&=` does not short-circuit, so only an error
stops the loop. -/
def pollReadyLoop : Nat → Bool → List (Server H Err) →
    Poll (Except (MqttError Err) Unit) × List Nat
  | _, ready, [] => (if ready then .ready (.ok ()) else .pending, [])
  | i, ready, srv :: rest =>
    match srv.pollReady.branch with
    | .error e => (.ready (.error e), [i])
    | .ok p =>
      let r := pollReadyLoop (i + 1) (ready && p.isReady) rest
      (r.1, i :: r.2)

/-- `Service<IoBoxed>::poll_ready`, to which the `Io<F>` and `(IoBoxed, Deadline)` impls
delegate. -/
def pollReady (self : SelectorService H Err Pool) :
    Poll (Except (MqttError Err) Unit) × List Nat :=
  pollReadyLoop 0 true self.servers

/-- The loop of `poll_shutdown` from position `i` on: `ready &= srv.poll_shutdown(cx).is_ready()`. -/
def pollShutdownLoop : Nat → Bool → List (Server H Err) → Poll Unit × List Nat
  | _, ready, [] => (if ready then .ready () else .pending, [])
  | i, ready, srv :: rest =>
    let r := pollShutdownLoop (i + 1) (ready && srv.pollShutdown.isReady) rest
    (r.1, i :: r.2)

/-- `Service<IoBoxed>::poll_shutdown`, to which the other two impls delegate. -/
def pollShutdown (self : SelectorService H Err Pool) : Poll Unit × List Nat :=
  pollShutdownLoop 0 true self.servers

/-- What `call` fails with when every server handed the handshake back. -/
def cannotHandle : MqttError Err :=
  .handshake (.disconnected (some (IoError.new .other "Cannot handle CONNECT packet")))

/-- The server loop of `call` from position `i` on, with the handshake `item` in hand:
`match ctx.call(srv, item).await? { Left(result) => item = result, Right(_) => return Ok(()) }`,
then the error after the loop.  Each call made is recorded as the server's position and the
handshake it was given. -/
def callLoop : Nat → List (Server H Err) → H → Except (MqttError Err) Unit × List (Nat × H)
  | _, [], _ => (.error cannotHandle, [])
  | i, srv :: rest, item =>
    match srv.call item with
    | .error e => (.error e, [(i, item)])
    | .ok (.left result) =>
      let r := callLoop (i + 1) rest result
      (r.1, (i, item) :: r.2)
    | .ok (.right _) => (.ok (), [(i, item)])

theorem callLoop_cons_left {i : Nat} {srv : Server H Err} {rest : List (Server H Err)} {h h' : H}
    (hs : srv.call h = .ok (.left h')) :
    callLoop i (srv :: rest) h = ((callLoop (i + 1) rest h').1, (i, h) :: (callLoop (i + 1) rest h').2) := by
  simp [callLoop, hs]

variable (fromRecv : RecvErr → HandshakeError Err)

/-- The future raced against the deadline: `io.recv(&shared.codec)`, with a read error turned
into a handshake error by `HandshakeError::from` (`fromRecv`) and the end of the stream into
`Disconnected(None)`. -/
def recvFirst : Except RecvErr (Option (Packet Connect × Nat)) →
    Except (MqttError Err) (Packet Connect × Nat)
  | .error err => .error (.handshake (fromRecv err))
  | .ok none => .error (.handshake (.disconnected none))
  | .ok (some item) => .ok item

variable (packetType : Packet Connect → UInt8)
  (race : Io → Deadline → Codec → Either Unit (Except RecvErr (Option (Packet Connect × Nat))))

/-- `Service<(IoBoxed, Deadline)>::call`.  `race io timeout codec` is what
`select(&mut timeout, io.recv(codec))` resolves to: `Left` if the deadline fires first, else
the outcome of the read.  `packetType` is `Packet::packet_type` of the codec. -/
def call (self : SelectorService (Handshake Connect Io Pool) Err Pool) (io : Io)
    (timeout : Deadline) : Except (MqttError Err) Unit × List (Nat × Handshake Connect Io Pool) :=
  let shared := MqttShared.new (Codec.default.setMaxSize self.maxSize) false self.pool
  let result : Except (MqttError Err) (Packet Connect × Nat) :=
    match race io timeout shared.codec with
    | .left _ => .error (.handshake .timeout)
    | .right item => recvFirst fromRecv item
  match result with
  | .error e => (.error e, [])
  | .ok (.connect connect, size) => callLoop 0 self.servers (Handshake.new connect size io shared)
  | .ok (packet, _) =>
    (.error (.handshake (.protocol
      (.unexpectedPacket (packetType packet) "MQTT-3.1.0-1: Expected CONNECT packet"))), [])

/-- `Service<IoBoxed>::call`, to which the `Io<F>` impl delegates: the deadline is armed with
the connect timeout. -/
def callBoxed (self : SelectorService (Handshake Connect Io Pool) Err Pool) (io : Io) :
    Except (MqttError Err) Unit × List (Nat × Handshake Connect Io Pool) :=
  call fromRecv packetType race self io (Deadline.new self.connectTimeout)

end SelectorService

end NtexMqtt
