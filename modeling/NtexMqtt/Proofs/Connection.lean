/-
What a built selector does with a connection.

The other files take one stage at a time: the builder run, `create_service`, and `call` on a
service that is given.  Here the stages are put together.  A selector built from
`Selector::new` by any run of builder calls, whose variants are all created, becomes a
service that holds the created servers in registration order, the last `max_size` and
`connect_timeout` of the run (or the defaults) and the selector's pool; and `call` on a bare
`IoBoxed` races the first frame against a deadline armed with that timeout, then behaves as
`CallSpec` says.  If a variant fails to be created, the first failure is the outcome, after
the variants up to it were created and no later one.

The selector learns which variant takes a connection only through `Left` and `Right`.  The
spec says what a variant built by `finish_selector(check)` answers: it asks its predicate,
takes the connection on `true` and hands the handshake back on `false`.  That service is
`Candidate.toServer` below, modelled from the spec since `server.rs` is not in the sources.
Over such variants the dispatch is first-match: every variant up to the first whose check
does not decline is asked once about the same handshake.  The first to accept serves the
connection, a failing check ends the call with `Handshake(Service(e))`, and a connection
nobody accepts is refused.
-/
import NtexMqtt.Proofs.Builder
import NtexMqtt.Proofs.Dispatch

namespace NtexMqtt

variable {H Err InitErr Pool Cfg Check Connect Io RecvErr : Type}

/-! ### `call` on a bare connection -/

namespace SelectorService

variable {fromRecv : RecvErr → HandshakeError Err} {packetType : Packet Connect → UInt8}
  {race : Io → Deadline → Codec → Either Unit (Except RecvErr (Option (Packet Connect × Nat)))}

/-- `Service<IoBoxed>::call` arms the deadline for the connect timeout. -/
theorem callBoxed_iff (svc : SelectorService (Handshake Connect Io Pool) Err Pool) (io : Io)
    (r : Except (MqttError Err) Unit) (calls : List (Nat × Handshake Connect Io Pool)) :
    svc.callBoxed fromRecv packetType race io = (r, calls) ↔
      CallSpec fromRecv packetType race svc io (Deadline.new svc.connectTimeout) r calls :=
  ⟨fun hc => by obtain ⟨rfl, rfl⟩ := Prod.ext_iff.mp hc; exact callSpec_call, call_of_callSpec⟩

/-- The read in front of the dispatch does not look at the servers. -/
theorem call_with_servers_congr {β : Type}
    (f : Except (MqttError Err) Unit × List (Nat × Handshake Connect Io Pool) → β)
    (svc : SelectorService (Handshake Connect Io Pool) Err Pool)
    (servers : List (Server (Handshake Connect Io Pool) Err)) {io : Io} {timeout : Deadline}
    (h : ∀ c size, race io timeout ⟨svc.maxSize⟩ = .right (.ok (some (.connect c, size))) →
      f (callLoop 0 servers (Handshake.new c size io ⟨⟨svc.maxSize⟩, false, svc.pool⟩)) =
        f (callLoop 0 svc.servers (Handshake.new c size io ⟨⟨svc.maxSize⟩, false, svc.pool⟩))) :
    f (({ svc with servers := servers } : SelectorService _ _ _).call fromRecv packetType race io
        timeout) =
      f (svc.call fromRecv packetType race io timeout) := by
  rcases hr : race io timeout ⟨svc.maxSize⟩ with _ | (err | (_ | ⟨p, size⟩))
  · simp [call, hr]
  · simp [call, hr, recvFirst]
  · simp [call, hr, recvFirst]
  · cases p <;> simp only [call, hr, recvFirst, Codec.setMaxSize_eq]
    exact h _ _ hr

end SelectorService

/-! ### From the builder run to the connection -/

namespace Selector

variable (finishSelector : MqttServer Cfg Pool → Check → ServerFactory (Handshake Connect Io Pool) Err InitErr)
  {fromRecv : RecvErr → HandshakeError Err} {packetType : Packet Connect → UInt8}
  {race : Io → Deadline → Codec → Either Unit (Except RecvErr (Option (Packet Connect × Nat)))}

/-- **A built selector serves connections with what it was built with.** -/
theorem createService_run_callBoxed (pool : Pool) (ops : List (Build Cfg Pool Check)) :
    (∀ servers : List (Server (Handshake Connect Io Pool) Err),
      (ops.flatMap (Build.registers finishSelector pool)).map (·.create) = servers.map .ok →
      ∃ svc, ((Selector.new pool).run finishSelector ops).createService =
          (.ok svc, List.range (ops.flatMap (Build.registers finishSelector pool)).length) ∧
        svc.servers = servers ∧ svc.pool = pool ∧
        svc.maxSize = (ops.filterMap Build.maxSize?).getLastD 0 ∧
        svc.connectTimeout =
          ((ops.filterMap Build.connectTimeout?).map Millis.ofSeconds).getLastD ⟨10000⟩ ∧
        ∀ io r calls, svc.callBoxed fromRecv packetType race io = (r, calls) ↔
          SelectorService.CallSpec fromRecv packetType race svc io
            (Deadline.new svc.connectTimeout) r calls) ∧
    (∀ (oks : List (Server (Handshake Connect Io Pool) Err)) e rest,
      (ops.flatMap (Build.registers finishSelector pool)).map (·.create) =
        oks.map .ok ++ .error e :: rest →
      ((Selector.new pool).run finishSelector ops).createService =
        (.error e, List.range (oks.length + 1))) := by
  simp only [run_eq, Selector.new, List.nil_append]
  exact ⟨fun servers h => ⟨_, createService_of_all_ok _ h, rfl, rfl, rfl, rfl,
    SelectorService.callBoxed_iff _⟩, fun _ _ _ h => createService_of_fails _ h⟩

/-- After `max_size(5)`, the variant is handed a codec limited to 5. -/
theorem createService_run_callBoxed_max_size_five :
    (([.maxSize 5, .variant () ⟨(), ()⟩] : List (Build Unit Unit Unit)).flatMap
        (Build.registers (fun _ _ => ⟨.ok ⟨fun _ => .ok (.right ()), .pending, .pending⟩⟩ :
          MqttServer Unit Unit → Unit → ServerFactory (Handshake Unit Unit Unit) Unit Unit) ())).map
        (·.create) = [⟨fun _ => .ok (.right ()), .pending, .pending⟩].map .ok ∧
    ((Selector.new () : Selector _ Unit Unit Unit).run
        (fun _ _ => ⟨.ok ⟨fun _ => .ok (.right ()), .pending, .pending⟩⟩ :
          MqttServer Unit Unit → Unit → ServerFactory (Handshake Unit Unit Unit) Unit Unit)
        [.maxSize 5, .variant () ⟨(), ()⟩]).createService =
      (.ok ⟨[⟨fun _ => .ok (.right ()), .pending, .pending⟩], 5, ⟨10000⟩, ()⟩, [0]) ∧
    (⟨[⟨fun _ => .ok (.right ()), .pending, .pending⟩], 5, ⟨10000⟩, ()⟩ :
        SelectorService (Handshake Unit Unit Unit) Unit Unit).callBoxed (fun _ : Unit => .timeout)
        (fun _ => 0) (fun _ _ _ => .right (.ok (some (.connect (), 0)))) () =
      (.ok (), [(0, ⟨(), 0, (), ⟨⟨5⟩, false, ()⟩⟩)]) := by
  obtain ⟨svc, hc, hs, hp, hm, ht, hcall⟩ :=
    (@createService_run_callBoxed Unit Unit Unit Unit Unit Unit Unit Unit
      (fun _ _ => ⟨.ok ⟨fun _ => .ok (.right ()), .pending, .pending⟩⟩) (fun _ => .timeout)
      (fun _ => 0) (fun _ _ _ => .right (.ok (some (.connect (), 0)))) ()
      [.maxSize 5, .variant () ⟨(), ()⟩]).1 [⟨fun _ => .ok (.right ()), .pending, .pending⟩] rfl
  obtain ⟨servers, maxSize, connectTimeout, pool⟩ := svc
  simp only at hs hm ht
  subst hs hm ht
  cases pool
  exact ⟨rfl, hc, (hcall () _ _).mpr (.connect rfl (.accepts rfl))⟩

end Selector

/-! ### Variants that ask a predicate -/

/-- Modelled from the spec: a server configuration registered with `variant(check, server)`,
as the service `finish_selector(check)` of `server.rs` makes of it.  `check` is the user's
predicate, `async fn(&Handshake) -> Result<bool, Err>`; `serve` runs this server's handshake
and session on a connection it takes. -/
structure Candidate (H Err : Type) where
  check : H → Except Err Bool
  serve : H → Except (MqttError Err) Unit
  pollReady : Poll (Except (MqttError Err) Unit)
  pollShutdown : Poll Unit

/-- Modelled from the spec: the service of a candidate.  It asks `check`; on `true` it serves
the connection and takes it, on `false` it hands the same handshake back, and a failed check
fails the call with `Handshake(Service(e))`. -/
def Candidate.toServer (c : Candidate H Err) : Server H Err where
  call h := match c.check h with
    | .error e => .error (.handshake (.service e))
    | .ok false => .ok (.left h)
    | .ok true => (c.serve h).map fun _ => .right ()
  pollReady := c.pollReady
  pollShutdown := c.pollShutdown

namespace SelectorService

theorem callLoop_declined (i : Nat) (rest : List (Candidate H Err)) {pre : List (Candidate H Err)} {h : H}
    (hpre : ∀ d ∈ pre, d.check h = .ok false) :
    callLoop i ((pre ++ rest).map Candidate.toServer) h =
      ((callLoop (i + pre.length) (rest.map Candidate.toServer) h).1,
        (List.range' i pre.length).map (·, h) ++
          (callLoop (i + pre.length) (rest.map Candidate.toServer) h).2) := by
  induction pre generalizing i with
  | nil => simp
  | cons d pre ih =>
    have hd : d.toServer.call h = .ok (.left h) := by
      simp [Candidate.toServer, hpre d (List.mem_cons_self _ _)]
    have hi : i + 1 + pre.length = i + (pre.length + 1) := by omega
    rw [List.cons_append, List.map_cons, callLoop_cons_left hd,
      ih (i + 1) fun d' hd' => hpre d' (List.mem_cons_of_mem _ hd')]
    simp [hi, List.range'_succ]

/-- **The first candidate whose check accepts serves the connection.** -/
theorem callLoop_first_accepting {pre post : List (Candidate H Err)} {c : Candidate H Err} {h : H}
    (hpre : ∀ d ∈ pre, d.check h = .ok false) (hc : c.check h = .ok true) :
    callLoop 0 ((pre ++ c :: post).map Candidate.toServer) h =
      (c.serve h, (List.range (pre.length + 1)).map (·, h)) := by
  rw [callLoop_declined 0 _ hpre]
  cases hs : c.serve h <;>
    simp [callLoop, Candidate.toServer, hc, hs, Except.map, List.range_eq_range',
      List.range'_concat]

theorem callLoop_check_fails {pre post : List (Candidate H Err)} {c : Candidate H Err} {h : H}
    {e : Err} (hpre : ∀ d ∈ pre, d.check h = .ok false) (hc : c.check h = .error e) :
    callLoop 0 ((pre ++ c :: post).map Candidate.toServer) h =
      (.error (.handshake (.service e)), (List.range (pre.length + 1)).map (·, h)) := by
  rw [callLoop_declined 0 _ hpre]
  simp [callLoop, Candidate.toServer, hc, List.range_eq_range', List.range'_concat]

theorem callLoop_all_decline {cands : List (Candidate H Err)} {h : H}
    (hall : ∀ d ∈ cands, d.check h = .ok false) :
    callLoop 0 (cands.map Candidate.toServer) h =
      (.error cannotHandle, (List.range cands.length).map (·, h)) := by
  simpa [callLoop, List.range_eq_range'] using callLoop_declined 0 [] hall

/-! ### A CONNECT and the variants that ask a predicate -/

/-- The handshake `call` hands the first server: `Handshake::new(connect, size, io, shared)`,
with the codec limited to the service's `max_size` and the service's pool. -/
def firstHandshake (svc : SelectorService (Handshake Connect Io Pool) Err Pool) (io : Io)
    (c : Connect) (size : Nat) : Handshake Connect Io Pool :=
  Handshake.new c size io ⟨⟨svc.maxSize⟩, false, svc.pool⟩

variable {fromRecv : RecvErr → HandshakeError Err} {packetType : Packet Connect → UInt8}
  {race : Io → Deadline → Codec → Either Unit (Except RecvErr (Option (Packet Connect × Nat)))}

/-- **A CONNECT goes to the first variant whose check accepts it.** -/
theorem call_first_accepting {svc : SelectorService (Handshake Connect Io Pool) Err Pool}
    {io : Io} {timeout : Deadline} {c : Connect} {size : Nat}
    {cands : List (Candidate (Handshake Connect Io Pool) Err)}
    (hrace : race io timeout ⟨svc.maxSize⟩ = .right (.ok (some (.connect c, size))))
    (hsvc : svc.servers = cands.map Candidate.toServer) :
    (∀ pre d post, cands = pre ++ d :: post →
      (∀ d' ∈ pre, d'.check (svc.firstHandshake io c size) = .ok false) →
      d.check (svc.firstHandshake io c size) = .ok true →
      svc.call fromRecv packetType race io timeout = (d.serve (svc.firstHandshake io c size),
        (List.range (pre.length + 1)).map (·, svc.firstHandshake io c size))) ∧
    (∀ pre d post e, cands = pre ++ d :: post →
      (∀ d' ∈ pre, d'.check (svc.firstHandshake io c size) = .ok false) →
      d.check (svc.firstHandshake io c size) = .error e →
      svc.call fromRecv packetType race io timeout =
        (.error (.handshake (.service e)), (List.range (pre.length + 1)).map (·, svc.firstHandshake io c size))) ∧
    ((∀ d ∈ cands, d.check (svc.firstHandshake io c size) = .ok false) →
      svc.call fromRecv packetType race io timeout =
        (.error cannotHandle, (List.range cands.length).map (·, svc.firstHandshake io c size))) := by
  rw [call_of_connect hrace, hsvc]
  exact ⟨fun _ _ _ hc hpre hd => hc ▸ callLoop_first_accepting hpre hd,
    fun _ _ _ _ hc hpre hd => hc ▸ callLoop_check_fails hpre hd, callLoop_all_decline⟩

/-- The second of two variants accepts, after the first declined. -/
theorem call_first_accepting_second_accepts :
    (⟨[(⟨fun _ => .ok false, fun _ => .ok (), .pending, .pending⟩ : Candidate _ Unit),
        ⟨fun _ => .ok true, fun _ => .ok (), .pending, .pending⟩].map Candidate.toServer, 0,
        ⟨10000⟩, ()⟩ : SelectorService (Handshake Unit Unit Unit) Unit Unit).call
        (fun _ : Unit => .timeout) (fun _ => 0) (fun _ _ _ => .right (.ok (some (.connect (), 0)))) ()
        ⟨⟨10000⟩⟩ =
      (.ok (), [(0, ⟨(), 0, (), ⟨⟨0⟩, false, ()⟩⟩), (1, ⟨(), 0, (), ⟨⟨0⟩, false, ()⟩⟩)]) :=
  (@call_first_accepting Unit Unit Unit Unit Unit (fun _ => .timeout) (fun _ => 0)
    (fun _ _ _ => .right (.ok (some (.connect (), 0)))) _ () ⟨⟨10000⟩⟩ () 0
    [⟨fun _ => .ok false, fun _ => .ok (), .pending, .pending⟩,
      ⟨fun _ => .ok true, fun _ => .ok (), .pending, .pending⟩] rfl rfl).1
    [⟨fun _ => .ok false, fun _ => .ok (), .pending, .pending⟩]
    ⟨fun _ => .ok true, fun _ => .ok (), .pending, .pending⟩ [] rfl (by simp) rfl

end SelectorService

end NtexMqtt
