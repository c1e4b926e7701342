/-
Registering more variants.

`variant` pushes a server behind the ones already registered, and the dispatch tries the
servers from the front.  So a variant added later can change only what happens to a
connection that every earlier variant hands back.  A connection that an earlier variant took,
or that failed there, or whose first frame was no CONNECT, is handled exactly as before and no
added server is called for it.  A connection that all of them hand back was refused; now it
reaches the added servers with the handshake the last old one returned, and their calls are
numbered on from the old ones.

`HandsOn servers h h'` says that every one of `servers` handed the handshake on, from `h` to
`h'`.  The dispatch over a concatenation is the dispatch over the front when that does not
hold, and goes on over the back from `h'` when it does; the service and the builder run
follow from these two loop lemmas.  More `variant` calls at the end of a builder run, all
created, keep the size, the timeout and the pool, and put the added servers behind the
others.
-/
import NtexMqtt.Proofs.Connection

namespace NtexMqtt

variable {H Err InitErr Pool Cfg Check Connect Io RecvErr : Type}

namespace SelectorService

/-! ### The dispatch over a concatenation -/

/-- Every one of the servers, in order, hands the handshake on, from `h` to `h'`. -/
inductive HandsOn : List (Server H Err) → H → H → Prop
  | nil (h : H) : HandsOn [] h h
  | cons {srv : Server H Err} {rest : List (Server H Err)} {h h₁ h' : H}
      (hs : srv.call h = .ok (.left h₁)) (hrest : HandsOn rest h₁ h') :
      HandsOn (srv :: rest) h h'

theorem callLoop_append_of_handsOn (i : Nat) (ys : List (Server H Err))
    {xs : List (Server H Err)} {h h' : H} (hp : HandsOn xs h h') :
    callLoop i (xs ++ ys) h =
      ((callLoop (i + xs.length) ys h').1,
        (callLoop i xs h).2 ++ (callLoop (i + xs.length) ys h').2) := by
  induction hp generalizing i with
  | nil => simp [callLoop]
  | @cons srv rest h h₁ h' hs _ ih =>
    have hi : i + 1 + rest.length = i + (rest.length + 1) := by omega
    rw [List.cons_append, callLoop_cons_left hs, callLoop_cons_left hs, ih (i + 1)]
    simp [hi]

theorem callLoop_of_handsOn (i : Nat) {xs : List (Server H Err)} {h h' : H}
    (hp : HandsOn xs h h') : (callLoop i xs h).1 = .error cannotHandle := by
  simpa [callLoop] using congrArg Prod.fst (callLoop_append_of_handsOn i [] hp)

theorem callLoop_append_of_not_handsOn (i : Nat) (ys : List (Server H Err))
    {xs : List (Server H Err)} {h : H} (hn : ∀ h', ¬ HandsOn xs h h') :
    callLoop i (xs ++ ys) h = callLoop i xs h := by
  induction xs generalizing i h with
  | nil => exact absurd (.nil h) (hn h)
  | cons srv rest ih =>
    match hs : srv.call h with
    | .error e => simp [callLoop, hs]
    | .ok (.right ()) => simp [callLoop, hs]
    | .ok (.left h₁) =>
      rw [List.cons_append, callLoop_cons_left hs, callLoop_cons_left hs,
        ih (i + 1) fun h' hp => hn h' (.cons hs hp)]

/-! ### The service with more servers -/

variable {fromRecv : RecvErr → HandshakeError Err} {packetType : Packet Connect → UInt8}
  {race : Io → Deadline → Codec → Either Unit (Except RecvErr (Option (Packet Connect × Nat)))}

theorem call_append_of_handsOn (svc : SelectorService (Handshake Connect Io Pool) Err Pool)
    (more : List (Server (Handshake Connect Io Pool) Err)) {io : Io} {timeout : Deadline}
    {c : Connect} {size : Nat} {h' : Handshake Connect Io Pool}
    (hr : race io timeout ⟨svc.maxSize⟩ = .right (.ok (some (.connect c, size))))
    (hp : HandsOn svc.servers (svc.firstHandshake io c size) h') :
    (svc.call fromRecv packetType race io timeout).1 = .error cannotHandle ∧
    ({ svc with servers := svc.servers ++ more } : SelectorService _ _ _).call fromRecv
        packetType race io timeout =
      ((callLoop svc.servers.length more h').1,
        (svc.call fromRecv packetType race io timeout).2 ++
          (callLoop svc.servers.length more h').2) := by
  rw [call_of_connect hr]
  exact ⟨callLoop_of_handsOn 0 hp,
    by simpa [call, hr, recvFirst] using callLoop_append_of_handsOn 0 more hp⟩

theorem call_append_of_not_handsOn (svc : SelectorService (Handshake Connect Io Pool) Err Pool)
    (more : List (Server (Handshake Connect Io Pool) Err)) {io : Io} {timeout : Deadline}
    (hn : ∀ c size h', race io timeout ⟨svc.maxSize⟩ = .right (.ok (some (.connect c, size))) →
      ¬ HandsOn svc.servers (svc.firstHandshake io c size) h') :
    ({ svc with servers := svc.servers ++ more } : SelectorService _ _ _).call fromRecv
        packetType race io timeout =
      svc.call fromRecv packetType race io timeout :=
  call_with_servers_congr id svc (svc.servers ++ more) fun _ _ hr =>
    callLoop_append_of_not_handsOn 0 more fun h' => hn _ _ h' hr

/-- **A server added behind the others changes only the connections they all hand back.** -/
theorem call_append_servers (svc : SelectorService (Handshake Connect Io Pool) Err Pool)
    (more : List (Server (Handshake Connect Io Pool) Err)) (io : Io) (timeout : Deadline) :
    (∀ c size h', race io timeout ⟨svc.maxSize⟩ = .right (.ok (some (.connect c, size))) →
      HandsOn svc.servers (svc.firstHandshake io c size) h' →
      (svc.call fromRecv packetType race io timeout).1 = .error cannotHandle ∧
      ({ svc with servers := svc.servers ++ more } : SelectorService _ _ _).call fromRecv
          packetType race io timeout =
        ((callLoop svc.servers.length more h').1,
          (svc.call fromRecv packetType race io timeout).2 ++
            (callLoop svc.servers.length more h').2)) ∧
    ((∀ c size h', race io timeout ⟨svc.maxSize⟩ = .right (.ok (some (.connect c, size))) →
        ¬ HandsOn svc.servers (svc.firstHandshake io c size) h') →
      ({ svc with servers := svc.servers ++ more } : SelectorService _ _ _).call fromRecv
          packetType race io timeout =
        svc.call fromRecv packetType race io timeout) :=
  ⟨fun _ _ _ hr hp => call_append_of_handsOn svc more hr hp, call_append_of_not_handsOn svc more⟩

/-- A connection the old server hands on is refused, then taken by the added one. -/
theorem call_append_servers_refused_then_taken :
    HandsOn [(⟨fun h => .ok (.left h), .pending, .pending⟩ : Server (Handshake Unit Unit Unit) Unit)]
      ⟨(), 0, (), ⟨⟨0⟩, false, ()⟩⟩ ⟨(), 0, (), ⟨⟨0⟩, false, ()⟩⟩ ∧
    ((⟨[⟨fun h => .ok (.left h), .pending, .pending⟩], 0, ⟨10000⟩, ()⟩ :
        SelectorService (Handshake Unit Unit Unit) Unit Unit).call (fun _ : Unit => .timeout)
        (fun _ => 0) (fun _ _ _ => .right (.ok (some (.connect (), 0)))) () ⟨⟨10000⟩⟩).1 =
      .error cannotHandle ∧
    (⟨[⟨fun h => .ok (.left h), .pending, .pending⟩, ⟨fun _ => .ok (.right ()), .pending, .pending⟩],
        0, ⟨10000⟩, ()⟩ : SelectorService (Handshake Unit Unit Unit) Unit Unit).call
        (fun _ : Unit => .timeout) (fun _ => 0) (fun _ _ _ => .right (.ok (some (.connect (), 0)))) ()
        ⟨⟨10000⟩⟩ =
      (.ok (), [(0, ⟨(), 0, (), ⟨⟨0⟩, false, ()⟩⟩), (1, ⟨(), 0, (), ⟨⟨0⟩, false, ()⟩⟩)]) := by
  have hp : HandsOn [(⟨fun h => .ok (.left h), .pending, .pending⟩ :
      Server (Handshake Unit Unit Unit) Unit)] ⟨(), 0, (), ⟨⟨0⟩, false, ()⟩⟩
      ⟨(), 0, (), ⟨⟨0⟩, false, ()⟩⟩ := .cons rfl (.nil _)
  have h := (@call_append_servers Unit Unit Unit Unit Unit (fun _ => .timeout) (fun _ => 0)
    (fun _ _ _ => .right (.ok (some (.connect (), 0))))
    ⟨[⟨fun h => .ok (.left h), .pending, .pending⟩], 0, ⟨10000⟩, ()⟩
    [⟨fun _ => .ok (.right ()), .pending, .pending⟩] () ⟨⟨10000⟩⟩).1 () 0 _ rfl hp
  exact ⟨hp, h.1, h.2⟩

end SelectorService

/-! ### Registering more variants -/

namespace Selector

variable (finishSelector : MqttServer Cfg Pool → Check → ServerFactory (Handshake Connect Io Pool) Err InitErr)

/-- **More variants at the end of a run only add servers.** -/
theorem createService_run_append_variants (pool : Pool) (ops more : List (Build Cfg Pool Check))
    (hmore : ∀ op ∈ more, op.kind = .variant)
    {servers added : List (Server (Handshake Connect Io Pool) Err)}
    (h : (ops.flatMap (Build.registers finishSelector pool)).map (·.create) = servers.map .ok)
    (h' : (more.flatMap (Build.registers finishSelector pool)).map (·.create) = added.map .ok) :
    ∃ svc, ((Selector.new pool).run finishSelector ops).createService.1 = .ok svc ∧
      ((Selector.new pool).run finishSelector (ops ++ more)).createService.1 =
        .ok { svc with servers := svc.servers ++ added } := by
  have hkind : ∀ k, k ≠ .variant → ∀ op ∈ more, op.kind ≠ k := fun k hk op hop => hmore op hop ▸ hk.symm
  simp only [run_eq, Selector.new, List.nil_append, List.flatMap_append, List.filterMap_append,
    filterMap_eq_nil_of_kind_ne (fun _ => Build.maxSize?_of_kind_ne) (hkind _ nofun),
    filterMap_eq_nil_of_kind_ne (fun _ => Build.connectTimeout?_of_kind_ne) (hkind _ nofun),
    List.append_nil]
  exact ⟨_, congrArg Prod.fst (createService_of_all_ok _ h),
    congrArg Prod.fst (createService_of_all_ok _ (by rw [List.map_append, h, h', List.map_append]))⟩

/-- One more variant after `max_size(5)` and a variant keeps the size. -/
theorem createService_run_append_variants_one_more :
    (∀ op ∈ ([.variant () ⟨(), ()⟩] : List (Build Unit Unit Unit)), op.kind = .variant) ∧
    ((Selector.new () : Selector _ Unit Unit Unit).run
        (fun _ _ => ⟨.ok ⟨fun h => .ok (.left h), .pending, .pending⟩⟩ :
          MqttServer Unit Unit → Unit → ServerFactory (Handshake Unit Unit Unit) Unit Unit)
        ([.maxSize 5, .variant () ⟨(), ()⟩] ++ [.variant () ⟨(), ()⟩])).createService.1 =
      .ok ⟨[⟨fun h => .ok (.left h), .pending, .pending⟩, ⟨fun h => .ok (.left h), .pending, .pending⟩],
        5, ⟨10000⟩, ()⟩ := by
  have hmore : ∀ op ∈ ([.variant () ⟨(), ()⟩] : List (Build Unit Unit Unit)), op.kind = .variant := by
    simp [Build.kind]
  obtain ⟨svc, h₁, h₂⟩ := @createService_run_append_variants Unit Unit Unit Unit Unit Unit Unit
    (fun _ _ => ⟨.ok ⟨fun h => .ok (.left h), .pending, .pending⟩⟩) ()
    [.maxSize 5, .variant () ⟨(), ()⟩] [.variant () ⟨(), ()⟩] hmore
    [⟨fun h => .ok (.left h), .pending, .pending⟩] [⟨fun h => .ok (.left h), .pending, .pending⟩]
    rfl rfl
  cases Except.ok.inj h₁
  exact ⟨hmore, h₂⟩

end Selector

end NtexMqtt
