/-
The selector as one server.

A server answers a handshake by handing it on (`Left`), by taking the connection (`Right`) or
with an error, and it answers a poll for readiness and one for shutdown.  Two servers compose
by fall-through: `s.orElse t` asks `s` and, when `s` hands the handshake on, asks `t` with what
`s` returned.  It is ready when both are, unless one of them fails, and then the first
failure is its answer; it is shut down when both are.  This composition is associative and
has `Server.pass`, which hands every handshake on and is always ready, as its unit.  So a list
of servers has one composite, `Server.chain`, however the list is grouped.

This file says what the selector is for, and shows that the loops of `selector.rs` compute it.
`poll_ready` and `poll_shutdown` are the composite's readiness and shutdown, and the dispatch
of a CONNECT is the composite's answer to the first handshake, with a handshake handed on past
the last server refused.  What a connection gets, and what the listener learns from the polls,
depends on the variants only through their composite: splitting them into groups and composing
each group first changes none of it.
-/
import NtexMqtt.Proofs.Connection
import NtexMqtt.Proofs.Readiness

namespace NtexMqtt

variable {H Err Pool Connect Io RecvErr : Type}

/-! ### Polls of two services -/

namespace Poll

/-- The poll the loops start from: ready with `a` when the flag is set, else pending. -/
def ofFlag {α : Type} (a : α) (ready : Bool) : Poll α :=
  if ready then .ready a else .pending

/-- Two readiness polls combined as `poll_ready` combines them: the first error wins, and
otherwise both must be ready. -/
def andReady {ε : Type} : Poll (Except ε Unit) → Poll (Except ε Unit) → Poll (Except ε Unit)
  | .ready (.error e), _ => .ready (.error e)
  | _, .ready (.error e) => .ready (.error e)
  | .ready (.ok ()), q => q
  | .pending, _ => .pending

/-- Two shutdown polls combined as `poll_shutdown` combines them: done when both are. -/
def andDone : Poll Unit → Poll Unit → Poll Unit
  | .ready (), q => q
  | .pending, _ => .pending

variable {ε : Type}

theorem andReady_assoc (p q r : Poll (Except ε Unit)) :
    (p.andReady q).andReady r = p.andReady (q.andReady r) := by
  rcases p with (_ | ⟨⟩) | _ <;> rcases q with (_ | ⟨⟩) | _ <;> rcases r with (_ | ⟨⟩) | _ <;> rfl

@[simp] theorem ready_ok_andReady (p : Poll (Except ε Unit)) : (Poll.ready (.ok ())).andReady p = p := by
  rcases p with (_ | ⟨⟩) | _ <;> rfl

@[simp] theorem andReady_ready_ok (p : Poll (Except ε Unit)) : p.andReady (.ready (.ok ())) = p := by
  rcases p with (_ | ⟨⟩) | _ <;> rfl

@[simp] theorem ready_error_andReady (e : ε) (p : Poll (Except ε Unit)) :
    (Poll.ready (.error e)).andReady p = .ready (.error e) := by
  rcases p with (_ | ⟨⟩) | _ <;> rfl

theorem andDone_assoc (p q r : Poll Unit) : (p.andDone q).andDone r = p.andDone (q.andDone r) := by
  cases p <;> rfl

@[simp] theorem ready_andDone (p : Poll Unit) : (Poll.ready ()).andDone p = p := rfl

@[simp] theorem andDone_ready (p : Poll Unit) : p.andDone (.ready ()) = p := by
  cases p <;> rfl

/-- A readiness poll that goes on moves the loop's flag as `ready &= p?.is_ready()` does. -/
theorem ofFlag_andReady_of_branch (ready : Bool) {p : Poll (Except ε Unit)} {q : Poll Unit}
    (h : p.branch = .ok q) : (ofFlag (.ok ()) ready).andReady p = ofFlag (.ok ()) (ready && q.isReady) := by
  rcases p with (e | ⟨⟩) | _ <;> simp only [Poll.branch, Except.ok.injEq, reduceCtorEq] at h <;>
    subst h <;> cases ready <;> rfl

/-- A failing readiness poll is the answer whatever the flag. -/
theorem ofFlag_andReady_error (ready : Bool) (e : ε) :
    (ofFlag (.ok ()) ready).andReady (.ready (.error e)) = .ready (.error e) := by
  cases ready <;> rfl

/-- A shutdown poll moves the loop's flag as `ready &= p.is_ready()` does. -/
theorem ofFlag_andDone (ready : Bool) (p : Poll Unit) :
    (ofFlag () ready).andDone p = ofFlag () (ready && p.isReady) := by
  cases ready <;> cases p <;> rfl

theorem eq_of_branch_eq_error {α : Type} {p : Poll (Except ε α)} {e : ε} (h : p.branch = .error e) :
    p = .ready (.error e) := by
  rcases p with (e' | a) | _ <;> simp only [Poll.branch, Except.error.injEq, reduceCtorEq] at h
  rw [h]

end Poll

/-! ### Fall-through -/

namespace Server

/-- The server that hands every handshake on and is always ready and shut down. -/
def pass : Server H Err := ⟨fun h => .ok (.left h), .ready (.ok ()), .ready ()⟩

/-- Fall-through: ask `s`, and ask `t` with what `s` handed on. -/
def orElse (s t : Server H Err) : Server H Err where
  call h := match s.call h with
    | .ok (.left h') => t.call h'
    | r => r
  pollReady := s.pollReady.andReady t.pollReady
  pollShutdown := s.pollShutdown.andDone t.pollShutdown

/-- The composite of a list of servers, tried from the front. -/
def chain (servers : List (Server H Err)) : Server H Err :=
  servers.foldr orElse pass

@[simp] theorem chain_nil : chain ([] : List (Server H Err)) = pass := rfl

@[simp] theorem chain_cons (s : Server H Err) (servers : List (Server H Err)) :
    chain (s :: servers) = s.orElse (chain servers) := rfl

theorem orElse_call_of_left {s t : Server H Err} {h h' : H} (hs : s.call h = .ok (.left h')) :
    (s.orElse t).call h = t.call h' := by
  simp [orElse, hs]

theorem orElse_assoc (s t u : Server H Err) : (s.orElse t).orElse u = s.orElse (t.orElse u) := by
  simp only [orElse, Poll.andReady_assoc, Poll.andDone_assoc, mk.injEq, and_true]
  funext h
  rcases s.call h with _ | _ | _ <;> rfl

theorem pass_orElse (s : Server H Err) : pass.orElse s = s := by
  obtain ⟨call, pollReady, pollShutdown⟩ := s
  simp only [orElse, pass, Poll.ready_ok_andReady, Poll.ready_andDone]

theorem orElse_pass (s : Server H Err) : s.orElse pass = s := by
  obtain ⟨call, pollReady, pollShutdown⟩ := s
  simp only [orElse, pass, Poll.andReady_ready_ok, Poll.andDone_ready, mk.injEq, and_true]
  funext h
  rcases call h with _ | _ | _ <;> rfl

/-- Composing two lists is composing their composites. -/
theorem chain_append (xs ys : List (Server H Err)) :
    chain (xs ++ ys) = (chain xs).orElse (chain ys) := by
  induction xs with
  | nil => exact (pass_orElse _).symm
  | cons s xs ih => rw [List.cons_append, chain_cons, ih, chain_cons, orElse_assoc]

end Server

/-! ### The loops compute the composite -/

namespace SelectorService

/-- What `call` makes of an answer to the handshake: taken is `Ok(())`, an error is that error,
and a handshake handed on past the last server cannot be handled. -/
def settle : Except (MqttError Err) (Either H Unit) → Except (MqttError Err) Unit
  | .error e => .error e
  | .ok (.left _) => .error cannotHandle
  | .ok (.right ()) => .ok ()

/-- The server loop's outcome is the composite's answer, settled. -/
theorem callLoop_eq_chain (i : Nat) (servers : List (Server H Err)) (h : H) :
    (callLoop i servers h).1 = settle ((Server.chain servers).call h) := by
  induction servers generalizing i h with
  | nil => rfl
  | cons srv rest ih =>
    rcases hs : srv.call h with e | h' | ⟨⟩
    · simp [callLoop, Server.orElse, hs, settle]
    · rw [callLoop_cons_left hs, Server.chain_cons, Server.orElse_call_of_left hs, ih]
    · simp [callLoop, Server.orElse, hs, settle]

/-- The readiness loop's outcome is the composite's readiness behind the flag. -/
theorem pollReadyLoop_eq_chain (i : Nat) (ready : Bool) (servers : List (Server H Err)) :
    (pollReadyLoop i ready servers).1 =
      (Poll.ofFlag (.ok ()) ready).andReady (Server.chain servers).pollReady := by
  induction servers generalizing i ready with
  | nil => cases ready <;> rfl
  | cons srv rest ih =>
    simp only [Server.chain_cons, Server.orElse, ← Poll.andReady_assoc]
    match hb : srv.pollReady.branch with
    | .error e =>
      simp only [pollReadyLoop, hb]
      rw [Poll.eq_of_branch_eq_error hb, Poll.ofFlag_andReady_error, Poll.ready_error_andReady]
    | .ok q => simp only [pollReadyLoop, hb, ih, Poll.ofFlag_andReady_of_branch ready hb]

/-- The shutdown loop's outcome is the composite's shutdown behind the flag. -/
theorem pollShutdownLoop_eq_chain (i : Nat) (ready : Bool) (servers : List (Server H Err)) :
    (pollShutdownLoop i ready servers).1 =
      (Poll.ofFlag () ready).andDone (Server.chain servers).pollShutdown := by
  induction servers generalizing i ready with
  | nil => cases ready <;> rfl
  | cons srv rest ih =>
    simp only [pollShutdownLoop, ih, Server.chain_cons, Server.orElse, ← Poll.andDone_assoc,
      Poll.ofFlag_andDone]

/-- `poll_ready` answers what the composite of the servers answers. -/
theorem pollReady_eq_chain (svc : SelectorService H Err Pool) :
    svc.pollReady.1 = (Server.chain svc.servers).pollReady := by
  simp [pollReady, pollReadyLoop_eq_chain, Poll.ofFlag]

/-- `poll_shutdown` answers what the composite of the servers answers. -/
theorem pollShutdown_eq_chain (svc : SelectorService H Err Pool) :
    svc.pollShutdown.1 = (Server.chain svc.servers).pollShutdown := by
  simp [pollShutdown, pollShutdownLoop_eq_chain, Poll.ofFlag]

variable {fromRecv : RecvErr → HandshakeError Err} {packetType : Packet Connect → UInt8}
  {race : Io → Deadline → Codec → Either Unit (Except RecvErr (Option (Packet Connect × Nat)))}

/-- **The selector is the composite of its servers.** -/
theorem selector_eq_chain (svc : SelectorService (Handshake Connect Io Pool) Err Pool) :
    svc.pollReady.1 = (Server.chain svc.servers).pollReady ∧
    svc.pollShutdown.1 = (Server.chain svc.servers).pollShutdown ∧
    ∀ io timeout c size, race io timeout ⟨svc.maxSize⟩ = .right (.ok (some (.connect c, size))) →
      (svc.call fromRecv packetType race io timeout).1 =
        settle ((Server.chain svc.servers).call
          (Handshake.new c size io ⟨⟨svc.maxSize⟩, false, svc.pool⟩)) :=
  ⟨pollReady_eq_chain svc, pollShutdown_eq_chain svc,
    fun _ _ _ _ hr => by rw [call_of_connect hr, callLoop_eq_chain]⟩

/-- A pending server that hands on, then one that takes the connection. -/
theorem selector_eq_chain_hand_on_then_take :
    (⟨[⟨fun h => .ok (.left h), .pending, .ready ()⟩,
        ⟨fun _ => .ok (.right ()), .ready (.ok ()), .ready ()⟩], 0, ⟨10000⟩, ()⟩ :
        SelectorService (Handshake Unit Unit Unit) Unit Unit).pollReady.1 = .pending ∧
    ((⟨[⟨fun h => .ok (.left h), .pending, .ready ()⟩,
        ⟨fun _ => .ok (.right ()), .ready (.ok ()), .ready ()⟩], 0, ⟨10000⟩, ()⟩ :
        SelectorService (Handshake Unit Unit Unit) Unit Unit).call (fun _ : Unit => .timeout)
        (fun _ => 0) (fun _ _ _ => .right (.ok (some (.connect (), 0)))) () ⟨⟨10000⟩⟩).1 =
      .ok () :=
  have h := @selector_eq_chain Unit Unit Unit Unit Unit (fun _ => .timeout) (fun _ => 0)
    (fun _ _ _ => .right (.ok (some (.connect (), 0))))
    ⟨[⟨fun h => .ok (.left h), .pending, .ready ()⟩,
      ⟨fun _ => .ok (.right ()), .ready (.ok ()), .ready ()⟩], 0, ⟨10000⟩, ()⟩
  ⟨h.1.trans rfl, (h.2.2 () ⟨⟨10000⟩⟩ () 0 rfl).trans rfl⟩

/-- Servers with the same composite answer every connection alike. -/
theorem call_fst_eq_of_chain_eq (svc : SelectorService (Handshake Connect Io Pool) Err Pool)
    {servers : List (Server (Handshake Connect Io Pool) Err)}
    (hc : Server.chain servers = Server.chain svc.servers) (io : Io) (timeout : Deadline) :
    (({ svc with servers := servers } : SelectorService _ _ _).call fromRecv packetType race io
        timeout).1 =
      (svc.call fromRecv packetType race io timeout).1 :=
  call_with_servers_congr Prod.fst svc servers fun _ _ _ => by
    rw [callLoop_eq_chain, callLoop_eq_chain, hc]

/-- **Grouping the servers changes nothing anyone sees.** -/
theorem regroup_servers (svc : SelectorService (Handshake Connect Io Pool) Err Pool)
    (xs ys : List (Server (Handshake Connect Io Pool) Err)) (io : Io) (timeout : Deadline) :
    ({ svc with servers := xs ++ ys } : SelectorService _ _ _).pollReady.1 =
        ({ svc with servers := [Server.chain xs, Server.chain ys] } : SelectorService _ _ _).pollReady.1 ∧
    ({ svc with servers := xs ++ ys } : SelectorService _ _ _).pollShutdown.1 =
        ({ svc with servers := [Server.chain xs, Server.chain ys] } : SelectorService _ _ _).pollShutdown.1 ∧
    (({ svc with servers := xs ++ ys } : SelectorService _ _ _).call fromRecv packetType race io
        timeout).1 =
      (({ svc with servers := [Server.chain xs, Server.chain ys] } : SelectorService _ _ _).call
        fromRecv packetType race io timeout).1 := by
  have hc : Server.chain (xs ++ ys) = Server.chain [Server.chain xs, Server.chain ys] := by
    simp [Server.chain_append, Server.orElse_pass]
  exact ⟨by simp only [pollReady_eq_chain, hc], by simp only [pollShutdown_eq_chain, hc],
    call_fst_eq_of_chain_eq { svc with servers := [Server.chain xs, Server.chain ys] } hc io timeout⟩

end SelectorService

end NtexMqtt
