/-
What `SelectorService::call` does with a connection.

The reference is written from the selector's contract, not from its code.  `TriesInOrder`
is the dispatch among the servers: they are tried in list order, one that hands the
handshake back passes it to the next, the first that takes the connection or fails ends the
dispatch, and when all have handed it back the connection cannot be handled.  `CallSpec`
puts the read of the first frame in front of it: a deadline that fires first, a read error,
the end of the stream and a packet other than CONNECT each end the call with their own error
before any server is called.

`call_iff_callSpec` says the model's `call` has exactly the reference as its graph, so what
the reference fixes (the order, that nobody is called twice or after the server that decided,
the handshake each server is given) is what the code does.  The loop is handled once in each
direction, by induction on the servers; the read in front of it is one lemma per outcome.
-/
import NtexMqtt.V3.Selector

namespace NtexMqtt

namespace SelectorService

variable {H Err Pool Connect Io RecvErr : Type}

/-! ### The dispatch among the servers -/

/-- The dispatch from position `i` on with the handshake `h` in hand, ending with `r` after the
calls `calls`, each recorded as the server's position and the handshake it was given. -/
inductive TriesInOrder : Nat → List (Server H Err) → H → Except (MqttError Err) Unit →
    List (Nat × H) → Prop
  /-- Every server has handed the handshake back. -/
  | exhausted (i : Nat) (h : H) : TriesInOrder i [] h (.error cannotHandle) []
  /-- The server takes the connection; nobody after it is called. -/
  | accepts {i : Nat} {srv : Server H Err} {rest : List (Server H Err)} {h : H}
      (hs : srv.call h = .ok (.right ())) : TriesInOrder i (srv :: rest) h (.ok ()) [(i, h)]
  /-- The server fails; its error is the call's, and nobody after it is called. -/
  | fails {i : Nat} {srv : Server H Err} {rest : List (Server H Err)} {h : H} {e : MqttError Err}
      (hs : srv.call h = .error e) : TriesInOrder i (srv :: rest) h (.error e) [(i, h)]
  /-- The server hands back `h'`, which the next server is given. -/
  | passes {i : Nat} {srv : Server H Err} {rest : List (Server H Err)} {h h' : H}
      {r : Except (MqttError Err) Unit} {calls : List (Nat × H)}
      (hs : srv.call h = .ok (.left h')) (hrest : TriesInOrder (i + 1) rest h' r calls) :
      TriesInOrder i (srv :: rest) h r ((i, h) :: calls)

/-- The loop does what the reference says. -/
theorem triesInOrder_callLoop (i : Nat) (servers : List (Server H Err)) (h : H) :
    TriesInOrder i servers h (callLoop i servers h).1 (callLoop i servers h).2 := by
  induction servers generalizing i h with
  | nil => exact .exhausted i h
  | cons srv rest ih =>
    match hs : srv.call h with
    | .error e => simp only [callLoop, hs]; exact .fails hs
    | .ok (.right ()) => simp only [callLoop, hs]; exact .accepts hs
    | .ok (.left h') => simp only [callLoop, hs]; exact .passes hs (ih (i + 1) h')

/-- The reference allows the loop's outcome only. -/
theorem callLoop_of_triesInOrder {i : Nat} {servers : List (Server H Err)} {h : H}
    {r : Except (MqttError Err) Unit} {calls : List (Nat × H)}
    (ht : TriesInOrder i servers h r calls) : callLoop i servers h = (r, calls) := by
  induction ht with
  | exhausted => rfl
  | accepts hs => simp [callLoop, hs]
  | fails hs => simp [callLoop, hs]
  | passes hs _ ih => simp [callLoop, hs, ih]

/-- The servers called are the ones from `i` on, in order, each once. -/
theorem TriesInOrder.calls_in_order {i : Nat} {servers : List (Server H Err)} {h : H}
    {r : Except (MqttError Err) Unit} {calls : List (Nat × H)}
    (ht : TriesInOrder i servers h r calls) :
    calls.map Prod.fst = List.range' i calls.length ∧ calls.length ≤ servers.length := by
  induction ht with
  | exhausted => simp
  | accepts | fails => simp
  | passes _ _ ih => simp [ih.1, List.range'_succ, ih.2]

/-! ### The read in front of it -/

variable (fromRecv : RecvErr → HandshakeError Err) (packetType : Packet Connect → UInt8)
  (race : Io → Deadline → Codec → Either Unit (Except RecvErr (Option (Packet Connect × Nat))))

/-- The whole call on the connection `io` with the deadline `timeout`.  The first frame is
read with a codec limited to the service's `max_size`; a CONNECT is wrapped into
`Handshake::new(connect, size, io, shared)`, where `shared` carries that codec and the
service's sink pool, and handed to the dispatch from the first server on. -/
inductive CallSpec (svc : SelectorService (Handshake Connect Io Pool) Err Pool) (io : Io)
    (timeout : Deadline) :
    Except (MqttError Err) Unit → List (Nat × Handshake Connect Io Pool) → Prop
  /-- The deadline fires before the first frame is read. -/
  | timeout (h : race io timeout ⟨svc.maxSize⟩ = .left ()) :
      CallSpec svc io timeout (.error (.handshake .timeout)) []
  /-- The read fails; its error is converted. -/
  | readError {err : RecvErr} (h : race io timeout ⟨svc.maxSize⟩ = .right (.error err)) :
      CallSpec svc io timeout (.error (.handshake (fromRecv err))) []
  /-- The peer goes away before sending a frame. -/
  | disconnected (h : race io timeout ⟨svc.maxSize⟩ = .right (.ok none)) :
      CallSpec svc io timeout (.error (.handshake (.disconnected none))) []
  /-- The first packet is not a CONNECT. -/
  | unexpected {p : Packet Connect} {size : Nat}
      (h : race io timeout ⟨svc.maxSize⟩ = .right (.ok (some (p, size))))
      (hp : ∀ c, p ≠ .connect c) :
      CallSpec svc io timeout (.error (.handshake (.protocol
        (.unexpectedPacket (packetType p) "MQTT-3.1.0-1: Expected CONNECT packet")))) []
  /-- The first packet is a CONNECT, and the servers are tried with its handshake. -/
  | connect {c : Connect} {size : Nat} {r : Except (MqttError Err) Unit}
      {calls : List (Nat × Handshake Connect Io Pool)}
      (h : race io timeout ⟨svc.maxSize⟩ = .right (.ok (some (.connect c, size))))
      (hd : TriesInOrder 0 svc.servers (Handshake.new c size io ⟨⟨svc.maxSize⟩, false, svc.pool⟩)
        r calls) :
      CallSpec svc io timeout r calls

variable {fromRecv packetType race}
variable {svc : SelectorService (Handshake Connect Io Pool) Err Pool} {io : Io} {timeout : Deadline}

theorem call_of_not_connect {p : Packet Connect} {size : Nat}
    (h : race io timeout ⟨svc.maxSize⟩ = .right (.ok (some (p, size))))
    (hp : ∀ c, p ≠ .connect c) :
    svc.call fromRecv packetType race io timeout =
      (.error (.handshake (.protocol
        (.unexpectedPacket (packetType p) "MQTT-3.1.0-1: Expected CONNECT packet"))), []) := by
  cases p <;> first | exact absurd rfl (hp _) | simp [call, h, recvFirst]

theorem call_of_connect {c : Connect} {size : Nat}
    (h : race io timeout ⟨svc.maxSize⟩ = .right (.ok (some (.connect c, size)))) :
    svc.call fromRecv packetType race io timeout =
      callLoop 0 svc.servers (Handshake.new c size io ⟨⟨svc.maxSize⟩, false, svc.pool⟩) := by
  simp [call, h, recvFirst]

/-- The call does what the reference says. -/
theorem callSpec_call :
    CallSpec fromRecv packetType race svc io timeout (svc.call fromRecv packetType race io timeout).1
      (svc.call fromRecv packetType race io timeout).2 := by
  match h : race io timeout ⟨svc.maxSize⟩ with
  | .left () => simpa [call, h] using CallSpec.timeout h
  | .right (.error err) =>
    simpa [call, h, recvFirst] using CallSpec.readError h
  | .right (.ok none) =>
    simpa [call, h, recvFirst] using CallSpec.disconnected h
  | .right (.ok (some (p, size))) =>
    by_cases hp : ∃ c, p = .connect c
    · obtain ⟨c, rfl⟩ := hp
      rw [call_of_connect h]
      exact .connect h (triesInOrder_callLoop _ _ _)
    · rw [call_of_not_connect h (fun c hc => hp ⟨c, hc⟩)]
      exact .unexpected h (fun c hc => hp ⟨c, hc⟩)

/-- The reference allows the call's outcome only. -/
theorem call_of_callSpec {r : Except (MqttError Err) Unit}
    {calls : List (Nat × Handshake Connect Io Pool)}
    (hs : CallSpec fromRecv packetType race svc io timeout r calls) :
    svc.call fromRecv packetType race io timeout = (r, calls) := by
  cases hs with
  | timeout h => simp [call, h]
  | readError h => simp [call, h, recvFirst]
  | disconnected h => simp [call, h, recvFirst]
  | unexpected h hp => exact call_of_not_connect h hp
  | connect h hd => rw [call_of_connect h, callLoop_of_triesInOrder hd]

/-- Whatever the reference allows calls the servers from the first on, in order, each once. -/
theorem CallSpec.calls_in_order {r : Except (MqttError Err) Unit}
    {calls : List (Nat × Handshake Connect Io Pool)}
    (hs : CallSpec fromRecv packetType race svc io timeout r calls) :
    calls.map Prod.fst = List.range calls.length ∧ calls.length ≤ svc.servers.length := by
  cases hs with
  | connect _ hd => simpa [List.range_eq_range'] using hd.calls_in_order
  | _ => simp

/-- **The selector's call is its reference, so it calls the first servers in order, each
once.** -/
theorem call_iff_callSpec :
    (∀ r calls, svc.call fromRecv packetType race io timeout = (r, calls) ↔
      CallSpec fromRecv packetType race svc io timeout r calls) ∧
    (svc.call fromRecv packetType race io timeout).2.map Prod.fst =
      List.range (svc.call fromRecv packetType race io timeout).2.length ∧
    (svc.call fromRecv packetType race io timeout).2.length ≤ svc.servers.length :=
  ⟨fun _ _ => ⟨fun hc => by obtain ⟨rfl, rfl⟩ := Prod.ext_iff.mp hc; exact callSpec_call,
    call_of_callSpec⟩, callSpec_call.calls_in_order⟩

end SelectorService

end NtexMqtt
