/-
Readiness and shutdown of the selector service.

`poll_ready` runs `ready &= srv.poll_ready(cx)?.is_ready()` over the servers.  Two things
make it right, and both show only over the whole list.  The `?` leaves at the first server
that fails, so the selector reports exactly that error and polls nobody after it.  The `&=`
does not short-circuit, so a server that is still pending does not keep the later ones from
being polled, and each of them gets to register its waker.

Each loop lemma says what a run from any position `i` and any flag does, by induction on
the servers; the service's `poll_ready` and `poll_shutdown` are their instances at position
`0` with the flag `true`.  So the first server that fails decides `poll_ready`, and nobody
after it is polled; if none fails, every server is polled once and the selector is ready
exactly when all of them are.  `poll_shutdown` polls every server once and is done exactly
when all of them are.
-/
import NtexMqtt.V3.Selector

namespace NtexMqtt

namespace SelectorService

variable {H Err Pool : Type}

/-! ### The `poll_ready` loop -/

/-- The `?` leaves at the first server that fails. -/
theorem pollReadyLoop_of_fails (i : Nat) (ready : Bool) {pre post : List (Server H Err)}
    {srv : Server H Err} {e : MqttError Err}
    (hpre : ∀ s ∈ pre, ∀ e', s.pollReady ≠ .ready (.error e'))
    (hsrv : srv.pollReady = .ready (.error e)) :
    pollReadyLoop i ready (pre ++ srv :: post) =
      (.ready (.error e), List.range' i (pre.length + 1)) := by
  induction pre generalizing i ready with
  | nil => simp [pollReadyLoop, hsrv, Poll.branch]
  | cons s pre ih =>
    obtain ⟨p, hp⟩ := Poll.exists_branch_eq_ok (hpre s (List.mem_cons_self _ _))
    simp [pollReadyLoop, hp, ih _ _ fun s' hs' => hpre s' (List.mem_cons_of_mem _ hs'),
      List.range'_succ]

/-- The `&=` polls every server when none fails. -/
theorem pollReadyLoop_of_none_fails (i : Nat) (ready : Bool) {servers : List (Server H Err)}
    (h : ∀ srv ∈ servers, ∀ e, srv.pollReady ≠ .ready (.error e)) :
    pollReadyLoop i ready servers =
      (if ready && servers.all (·.pollReady.isReady) then .ready (.ok ()) else .pending,
        List.range' i servers.length) := by
  induction servers generalizing i ready with
  | nil => simp [pollReadyLoop]
  | cons srv rest ih =>
    obtain ⟨p, hp⟩ := Poll.exists_branch_eq_ok (h srv (List.mem_cons_self _ _))
    simp [pollReadyLoop, hp, ih _ _ fun s hs => h s (List.mem_cons_of_mem _ hs),
      Poll.isReady_of_branch_eq_ok hp, List.range'_succ, Bool.and_assoc]

/-! ### The `poll_shutdown` loop -/

theorem pollShutdownLoop_eq (i : Nat) (ready : Bool) (servers : List (Server H Err)) :
    pollShutdownLoop i ready servers =
      (if ready && servers.all (·.pollShutdown.isReady) then .ready () else .pending,
        List.range' i servers.length) := by
  induction servers generalizing i ready with
  | nil => simp [pollShutdownLoop]
  | cons srv rest ih => simp [pollShutdownLoop, ih, List.range'_succ, Bool.and_assoc]

/-! ### The service -/

/-- **Readiness and shutdown of the selector.** -/
theorem pollReady_pollShutdown_spec (svc : SelectorService H Err Pool) :
    (∀ pre srv post e, svc.servers = pre ++ srv :: post →
      (∀ s ∈ pre, ∀ e', s.pollReady ≠ .ready (.error e')) → srv.pollReady = .ready (.error e) →
        svc.pollReady = (.ready (.error e), List.range (pre.length + 1))) ∧
    ((∀ srv ∈ svc.servers, ∀ e, srv.pollReady ≠ .ready (.error e)) →
      svc.pollReady.2 = List.range svc.servers.length ∧
      (svc.pollReady.1 = .ready (.ok ()) ↔ ∀ srv ∈ svc.servers, srv.pollReady = .ready (.ok ())) ∧
      (svc.pollReady.1 = .pending ↔ ¬ ∀ srv ∈ svc.servers, srv.pollReady = .ready (.ok ()))) ∧
    svc.pollShutdown.2 = List.range svc.servers.length ∧
    (svc.pollShutdown.1 = .ready () ↔ ∀ srv ∈ svc.servers, srv.pollShutdown = .ready ()) := by
  refine ⟨fun pre srv post e hs hpre hsrv => ?_, fun h => ?_, ?_, ?_⟩
  · rw [pollReady, hs, pollReadyLoop_of_fails 0 true hpre hsrv, List.range_eq_range']
  · have hall : svc.servers.all (·.pollReady.isReady) = true ↔
        ∀ srv ∈ svc.servers, srv.pollReady = .ready (.ok ()) := by
      simp only [List.all_eq_true]
      exact forall₂_congr fun srv hsrv => Poll.isReady_iff_of_ne_error (h srv hsrv)
    rw [pollReady, pollReadyLoop_of_none_fails 0 true h, List.range_eq_range', ← hall]
    by_cases ha : svc.servers.all (·.pollReady.isReady) = true <;> simp [ha]
  · rw [pollShutdown, pollShutdownLoop_eq, List.range_eq_range']
  · rw [pollShutdown, pollShutdownLoop_eq]
    simp [← Poll.isReady_iff_unit]

/-- A pending server does not keep the one after it from being polled. -/
theorem pollReady_pollShutdown_spec_pending_first :
    (∀ s ∈ [(⟨fun h => .ok (.left h), .pending, .pending⟩ : Server Unit Unit)],
      ∀ e', s.pollReady ≠ .ready (.error e')) ∧
    (⟨[⟨fun h => .ok (.left h), .pending, .pending⟩,
        ⟨fun h => .ok (.left h), .ready (.error (.service ())), .ready ()⟩], 0, ⟨0⟩, ()⟩ :
        SelectorService Unit Unit Unit).pollReady = (.ready (.error (.service ())), [0, 1]) ∧
    (∀ srv ∈ [(⟨fun h => .ok (.left h), .pending, .pending⟩ : Server Unit Unit),
        ⟨fun h => .ok (.left h), .ready (.ok ()), .ready ()⟩],
      ∀ e, srv.pollReady ≠ .ready (.error e)) ∧
    (⟨[⟨fun h => .ok (.left h), .pending, .pending⟩,
        ⟨fun h => .ok (.left h), .ready (.ok ()), .ready ()⟩], 0, ⟨0⟩, ()⟩ :
        SelectorService Unit Unit Unit).pollReady.2 = [0, 1] := by
  have hpre : ∀ s ∈ [(⟨fun h => .ok (.left h), .pending, .pending⟩ : Server Unit Unit)],
      ∀ e', s.pollReady ≠ .ready (.error e') := by simp
  have hnone : ∀ srv ∈ [(⟨fun h => .ok (.left h), .pending, .pending⟩ : Server Unit Unit),
      ⟨fun h => .ok (.left h), .ready (.ok ()), .ready ()⟩],
      ∀ e, srv.pollReady ≠ .ready (.error e) := by simp
  exact ⟨hpre, (pollReady_pollShutdown_spec ⟨_, 0, ⟨0⟩, ()⟩).1 _ _ [] _ rfl hpre rfl, hnone,
    ((pollReady_pollShutdown_spec ⟨_, 0, ⟨0⟩, ()⟩).2.1 hnone).1⟩

end SelectorService

end NtexMqtt
