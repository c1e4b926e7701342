/-
The values the selector passes between the peer, the codec and the server variants.

Of the crate only `v3/selector.rs` is in the sources.  The codec, the error types,
`Handshake` and `MqttShared` live in files that are not, and `Poll`, `Either` and the
timer types come from `std` and `ntex`.  What the selector reads or builds of them is
modelled here and nothing more: the CONNECT payload, which the selector only moves into
the handshake, is a type parameter; the io handle and the sink pool are type parameters
for the same reason.  The packet type byte and the conversion of a read error are not
defined here at all: the functions that use them take them as arguments.
-/
import Mathlib.Data.List.Basic

namespace NtexMqtt

/-! ### `std` and `ntex` -/

/-- `std::task::Poll`. -/
inductive Poll (α : Type) where
  | ready (a : α)
  | pending
  deriving DecidableEq, Repr

/-- `Poll::is_ready`. -/
def Poll.isReady {α : Type} : Poll α → Bool
  | .ready _ => true
  | .pending => false

/-- The `?` operator on a `Poll<Result<T, E>>`: an error leaves the function, anything else
goes on as a `Poll<T>`. -/
def Poll.branch {α ε : Type} : Poll (Except ε α) → Except ε (Poll α)
  | .ready (.ok a) => .ok (.ready a)
  | .ready (.error e) => .error e
  | .pending => .ok .pending

@[simp] theorem Poll.isReady_ready {α : Type} (a : α) : (Poll.ready a).isReady = true := rfl

@[simp] theorem Poll.isReady_pending {α : Type} : (Poll.pending : Poll α).isReady = false := rfl

/-- A poll that does not fail goes on. -/
theorem Poll.exists_branch_eq_ok {α ε : Type} {p : Poll (Except ε α)}
    (h : ∀ e, p ≠ .ready (.error e)) : ∃ q, p.branch = .ok q := by
  rcases p with (e | a) | _
  exacts [absurd rfl (h e), ⟨_, rfl⟩, ⟨_, rfl⟩]

/-- Going on keeps whether the poll was ready. -/
theorem Poll.isReady_of_branch_eq_ok {α ε : Type} {p : Poll (Except ε α)} {q : Poll α}
    (h : p.branch = .ok q) : q.isReady = p.isReady := by
  rcases p with (e | a) | _ <;> simp only [Poll.branch, Except.ok.injEq, reduceCtorEq] at h
  all_goals (subst h; rfl)

/-- A readiness poll that does not fail is ready only with `Ok(())`. -/
theorem Poll.isReady_iff_of_ne_error {ε : Type} {p : Poll (Except ε Unit)}
    (h : ∀ e, p ≠ .ready (.error e)) : p.isReady = true ↔ p = .ready (.ok ()) := by
  rcases p with (e | _) | _
  exacts [absurd rfl (h e), by simp, by simp]

theorem Poll.isReady_iff_unit (p : Poll Unit) : p.isReady = true ↔ p = .ready () := by
  cases p <;> simp

/-- `ntex::util::Either`. -/
inductive Either (α β : Type) where
  | left (a : α)
  | right (b : β)
  deriving DecidableEq, Repr

/-- `ntex::time::Seconds`, a `u16`. -/
structure Seconds where
  secs : UInt16
  deriving DecidableEq, Repr

/-- `ntex::time::Millis`, a `u32`. -/
structure Millis where
  millis : UInt32
  deriving DecidableEq, Repr

/-- `impl From<Seconds> for Millis`: a thousand times the seconds, which a `u16` keeps far
below `u32::MAX`. -/
def Millis.ofSeconds (s : Seconds) : Millis :=
  ⟨s.secs.toUInt32 * 1000⟩

/-- `Deadline::new(millis)`: a timer armed for that long.  When it fires against the peer's
first frame is the clock's business, so the model keeps only what it was armed with. -/
structure Deadline where
  new ::
  millis : Millis
  deriving DecidableEq, Repr

/-- `std::io::ErrorKind`, of which the selector builds only `Other`; nothing in the model
reads a kind. -/
inductive IoErrorKind where
  | other
  deriving DecidableEq, Repr

/-- `io::Error::new(kind, message)`. -/
structure IoError where
  new ::
  kind : IoErrorKind
  message : String
  deriving DecidableEq, Repr

/-! ### The crate's own types outside the sources -/

/-- Modelled from the spec: the MQTT 3.1.1 packets of `codec3::Packet`, which is not in the
sources.  Only the CONNECT payload is kept: the selector reads no other payload, and of the
other packets only their type byte, which is an argument of the selector's `call`. -/
inductive Packet (Connect : Type) where
  | connect (pkt : Connect)
  | connectAck
  | publish
  | publishAck
  | publishReceived
  | publishRelease
  | publishComplete
  | subscribe
  | subscribeAck
  | unsubscribe
  | unsubscribeAck
  | pingRequest
  | pingResponse
  | disconnect
  deriving DecidableEq, Repr

/-- Modelled from the spec: `ProtocolError` of `error.rs`, which is not in the sources.  The
selector builds only `ProtocolError::unexpected_packet(packet_type, message)`; the errors the
session raises later are left out. -/
inductive ProtocolError where
  | unexpectedPacket (packetType : UInt8) (message : String)
  deriving DecidableEq, Repr

/-- Modelled from the spec: `HandshakeError<E>` of `error.rs`. -/
inductive HandshakeError (E : Type) where
  | service (e : E)
  | protocol (e : ProtocolError)
  | timeout
  | disconnected (e : Option IoError)
  deriving DecidableEq, Repr

/-- Modelled from the spec: `MqttError<E>` of `error.rs`. -/
inductive MqttError (E : Type) where
  | service (e : E)
  | handshake (e : HandshakeError E)
  deriving DecidableEq, Repr

/-- Modelled from the spec: `codec3::Codec`, of which the selector sets only the largest
inbound frame it accepts (`0` is unlimited). -/
structure Codec where
  maxSize : UInt32
  deriving DecidableEq, Repr

/-- `Codec::default()`: no size limit. -/
def Codec.default : Codec := ⟨0⟩

/-- `Codec::set_max_size`. -/
def Codec.setMaxSize (c : Codec) (size : UInt32) : Codec :=
  { c with maxSize := size }

@[simp] theorem Codec.setMaxSize_eq (c : Codec) (size : UInt32) : c.setMaxSize size = ⟨size⟩ :=
  rfl

/-- Modelled from the spec: `MqttShared::new(io, codec, client, pool)` of `shared.rs`.  The io
reference it holds is the handshake's own io, so it is not repeated here. -/
structure MqttShared (Pool : Type) where
  new ::
  codec : Codec
  client : Bool
  pool : Pool
  deriving DecidableEq, Repr

/-- Modelled from the spec: `Handshake::new(pkt, size, io, shared)` of `handshake.rs`, the
decoded CONNECT with its frame size, the io and the connection state. -/
structure Handshake (Connect Io Pool : Type) where
  new ::
  pkt : Connect
  size : Nat
  io : Io
  shared : MqttShared Pool
  deriving DecidableEq, Repr

end NtexMqtt
