/-
Building the selector and creating its service.

A selector is built by a run of builder calls from `Selector::new`.  `Build` names those
calls and `Selector.run` applies a list of them in turn, so that what holds of every selector
a program can build is a statement over all runs.  One step lemma per call says what it
changes; `run_servers` and `run_pool` follow by induction on the run, and they say that the
variants sit in the order they were registered and that every one of them got the
selector's pool.

Two runs whose calls of each builder method come in the same order build the same selector,
however those calls are interleaved: `max_size` and `connect_timeout` may come before or
after any `variant`.

`create_service` creates the factories in that order and stops at the first that fails.  Its
loop is handled by two lemmas, one for a run in which every factory is created and one for a
run that meets a failure.  If every factory is created, the service holds their servers in
that order with the selector's size, timeout and pool; if one fails, the first failure is the
outcome and no factory after it is created.
-/
import NtexMqtt.V3.Selector

namespace NtexMqtt

namespace Selector

variable {H Err InitErr Pool Cfg Check : Type}

/-! ### Builder runs -/

/-- A builder call of `Selector`. -/
inductive Build (Cfg Pool Check : Type) where
  | connectTimeout (timeout : Seconds)
  | maxSize (size : UInt32)
  | variant (check : Check) (server : MqttServer Cfg Pool)

variable (finishSelector : MqttServer Cfg Pool → Check → ServerFactory H Err InitErr)

/-- One builder call. -/
def build (self : Selector H Err InitErr Pool) : Build Cfg Pool Check → Selector H Err InitErr Pool
  | .connectTimeout timeout => self.setConnectTimeout timeout
  | .maxSize size => self.setMaxSize size
  | .variant check server => self.variant finishSelector check server

/-- A run of builder calls, applied in turn. -/
def run (self : Selector H Err InitErr Pool) (ops : List (Build Cfg Pool Check)) :
    Selector H Err InitErr Pool :=
  ops.foldl (build finishSelector) self

/-- The variant a builder call registers, if it is one, as `finish_selector` boxes it for a
selector whose pool is `pool`. -/
def Build.registers (pool : Pool) : Build Cfg Pool Check → List (ServerFactory H Err InitErr)
  | .variant check server => [finishSelector { server with pool := pool } check]
  | _ => []

/-- The size a builder call sets, if it is `max_size`. -/
def Build.maxSize? : Build Cfg Pool Check → Option UInt32
  | .maxSize size => some size
  | _ => none

/-- The timeout a builder call sets, if it is `connect_timeout`. -/
def Build.connectTimeout? : Build Cfg Pool Check → Option Seconds
  | .connectTimeout timeout => some timeout
  | _ => none

/-- Which of the builder methods a call is. -/
inductive Build.Kind where
  | connectTimeout
  | maxSize
  | variant
  deriving DecidableEq

/-- The method a builder call is a call of. -/
def Build.kind : Build Cfg Pool Check → Build.Kind
  | .connectTimeout _ => .connectTimeout
  | .maxSize _ => .maxSize
  | .variant _ _ => .variant

@[simp] theorem run_nil (self : Selector H Err InitErr Pool) :
    run finishSelector self ([] : List (Build Cfg Pool Check)) = self := rfl

@[simp] theorem run_cons (self : Selector H Err InitErr Pool) (op : Build Cfg Pool Check)
    (ops : List (Build Cfg Pool Check)) :
    run finishSelector self (op :: ops) = run finishSelector (build finishSelector self op) ops :=
  rfl

@[simp] theorem build_pool (self : Selector H Err InitErr Pool) (op : Build Cfg Pool Check) :
    (build finishSelector self op).pool = self.pool := by
  cases op <;> rfl

@[simp] theorem build_servers (self : Selector H Err InitErr Pool) (op : Build Cfg Pool Check) :
    (build finishSelector self op).servers = self.servers ++ op.registers finishSelector self.pool := by
  cases op <;> simp [build, setConnectTimeout, setMaxSize, variant, Build.registers]

/-- No builder call changes the sink pool. -/
theorem run_pool (self : Selector H Err InitErr Pool) (ops : List (Build Cfg Pool Check)) :
    (run finishSelector self ops).pool = self.pool := by
  induction ops generalizing self with
  | nil => rfl
  | cons op ops ih => simp [ih]

/-- The variants of a run, in the order they were registered. -/
theorem run_servers (self : Selector H Err InitErr Pool) (ops : List (Build Cfg Pool Check)) :
    (run finishSelector self ops).servers =
      self.servers ++ ops.flatMap (Build.registers finishSelector self.pool) := by
  induction ops generalizing self with
  | nil => simp
  | cons op ops ih => simp [ih]

/-- The last `max_size` call of a run wins. -/
theorem run_maxSize (self : Selector H Err InitErr Pool) (ops : List (Build Cfg Pool Check)) :
    (run finishSelector self ops).maxSize = (ops.filterMap Build.maxSize?).getLastD self.maxSize := by
  induction ops generalizing self with
  | nil => rfl
  | cons op ops ih =>
    cases op <;> simp only [run_cons, ih, build, setConnectTimeout, setMaxSize, variant,
      Build.maxSize?, List.filterMap_cons, List.getLastD_cons]

/-- The last `connect_timeout` call of a run wins, in milliseconds. -/
theorem run_connectTimeout (self : Selector H Err InitErr Pool)
    (ops : List (Build Cfg Pool Check)) :
    (run finishSelector self ops).connectTimeout =
      ((ops.filterMap Build.connectTimeout?).map Millis.ofSeconds).getLastD self.connectTimeout := by
  induction ops generalizing self with
  | nil => rfl
  | cons op ops ih =>
    cases op <;> simp only [run_cons, ih, build, setConnectTimeout, setMaxSize, variant,
      Build.connectTimeout?, List.filterMap_cons, List.map_cons, List.getLastD_cons]

/-- A run of `variant` calls only appends their servers, each with the selector's pool. -/
theorem run_variants (self : Selector H Err InitErr Pool)
    (regs : List (Check × MqttServer Cfg Pool)) :
    run finishSelector self (regs.map fun r => .variant r.1 r.2) =
      { self with servers := self.servers ++
          regs.map fun r => finishSelector { r.2 with pool := self.pool } r.1 } := by
  induction regs generalizing self with
  | nil => simp
  | cons r regs ih => simp [ih, build, variant]

/-! ### What a run builds

Each builder call writes one field of its own, and `variant` reads only the pool, which no
call writes.  So a run is determined by three subsequences of it: its `variant` calls, in
order, and its last `max_size` and last `connect_timeout`.
-/

/-- **The selector a run builds.** -/
theorem run_eq (self : Selector H Err InitErr Pool) (ops : List (Build Cfg Pool Check)) :
    run finishSelector self ops =
      { servers := self.servers ++ ops.flatMap (Build.registers finishSelector self.pool),
        maxSize := (ops.filterMap Build.maxSize?).getLastD self.maxSize,
        connectTimeout :=
          ((ops.filterMap Build.connectTimeout?).map Millis.ofSeconds).getLastD self.connectTimeout,
        pool := self.pool } := by
  rw [← run_servers, ← run_maxSize, ← run_connectTimeout, ← run_pool finishSelector self ops]

theorem flatMap_registers_filter (pool : Pool) (ops : List (Build Cfg Pool Check)) :
    ops.flatMap (Build.registers finishSelector pool) =
      (ops.filter (·.kind = .variant)).flatMap (Build.registers finishSelector pool) := by
  induction ops with
  | nil => rfl
  | cons op ops ih => cases op <;> simp [ih, Build.kind, Build.registers]

theorem Build.maxSize?_of_kind_ne {op : Build Cfg Pool Check} (h : op.kind ≠ .maxSize) :
    op.maxSize? = none := by
  cases op <;> simp_all [Build.kind, Build.maxSize?]

theorem Build.connectTimeout?_of_kind_ne {op : Build Cfg Pool Check}
    (h : op.kind ≠ .connectTimeout) : op.connectTimeout? = none := by
  cases op <;> simp_all [Build.kind, Build.connectTimeout?]

theorem filterMap_filter_kind {α : Type} {f : Build Cfg Pool Check → Option α} {k : Build.Kind}
    (hf : ∀ op, op.kind ≠ k → f op = none) (ops : List (Build Cfg Pool Check)) :
    ops.filterMap f = (ops.filter (·.kind = k)).filterMap f := by
  rw [List.filterMap_filter]
  exact List.filterMap_congr fun op _ => by by_cases hk : op.kind = k <;> simp [hk, hf op]

theorem filterMap_eq_nil_of_kind_ne {α : Type} {f : Build Cfg Pool Check → Option α}
    {k : Build.Kind} (hf : ∀ op, op.kind ≠ k → f op = none) {ops : List (Build Cfg Pool Check)}
    (h : ∀ op ∈ ops, op.kind ≠ k) : ops.filterMap f = [] :=
  List.filterMap_eq_nil_iff.mpr fun op hop => hf op (h op hop)

/-- **Only the order within each builder method matters.** -/
theorem run_eq_of_filter_kind_eq (self : Selector H Err InitErr Pool)
    {ops ops' : List (Build Cfg Pool Check)}
    (h : ∀ k, ops.filter (·.kind = k) = ops'.filter (·.kind = k)) :
    run finishSelector self ops = run finishSelector self ops' := by
  have hms : ∀ l : List (Build Cfg Pool Check), l.filterMap Build.maxSize? =
      (l.filter (·.kind = .maxSize)).filterMap Build.maxSize? :=
    filterMap_filter_kind fun _ => Build.maxSize?_of_kind_ne
  have hct : ∀ l : List (Build Cfg Pool Check), l.filterMap Build.connectTimeout? =
      (l.filter (·.kind = .connectTimeout)).filterMap Build.connectTimeout? :=
    filterMap_filter_kind fun _ => Build.connectTimeout?_of_kind_ne
  rw [run_eq, run_eq, flatMap_registers_filter, hms, hct, h, h, h, ← hct, ← hms,
    ← flatMap_registers_filter]

/-- `max_size` before a `variant` or after it builds the same selector. -/
theorem run_eq_of_filter_kind_eq_max_size_first :
    (∀ k, ([.maxSize 5, .variant () ⟨(), ()⟩] : List (Build Unit Unit Unit)).filter (·.kind = k) =
      ([.variant () ⟨(), ()⟩, .maxSize 5] : List (Build Unit Unit Unit)).filter (·.kind = k)) ∧
    (Selector.new () : Selector Unit Unit Unit Unit).run (fun _ _ => ⟨.error ()⟩)
        [.maxSize 5, .variant () ⟨(), ()⟩] =
      (Selector.new ()).run (fun _ _ => ⟨.error ()⟩) [.variant () ⟨(), ()⟩, .maxSize 5] := by
  have h : ∀ k, ([.maxSize 5, .variant () ⟨(), ()⟩] : List (Build Unit Unit Unit)).filter
      (·.kind = k) = ([.variant () ⟨(), ()⟩, .maxSize 5] : List (Build Unit Unit Unit)).filter
      (·.kind = k) := by
    intro k; cases k <;> rfl
  exact ⟨h, run_eq_of_filter_kind_eq _ _ h⟩

/-! ### The creation loop -/

theorem createLoop_of_all_ok (i : Nat) {fs : List (ServerFactory H Err InitErr)}
    {servers : List (Server H Err)} (acc : List (Server H Err))
    (h : fs.map (·.create) = servers.map .ok) :
    createLoop i fs acc = (.ok (acc ++ servers), List.range' i fs.length) := by
  induction fs generalizing i acc servers with
  | nil => cases servers <;> simp_all [createLoop]
  | cons f fs ih =>
    cases servers with
    | nil => simp at h
    | cons s servers =>
      simp only [List.map_cons, List.cons.injEq] at h
      simp [createLoop, h.1, ih _ _ h.2, List.range'_succ]

theorem createLoop_of_fails (i : Nat) {fs : List (ServerFactory H Err InitErr)}
    {oks : List (Server H Err)} {e : InitErr} {rest : List (Except InitErr (Server H Err))}
    (acc : List (Server H Err)) (h : fs.map (·.create) = oks.map .ok ++ .error e :: rest) :
    createLoop i fs acc = (.error e, List.range' i (oks.length + 1)) := by
  induction oks generalizing i acc fs with
  | nil =>
    obtain ⟨f, fs, rfl⟩ : ∃ f fs', fs = f :: fs' := by cases fs <;> simp_all
    simp only [List.map_nil, List.nil_append, List.map_cons, List.cons.injEq] at h
    simp [createLoop, h.1]
  | cons s oks ih =>
    obtain ⟨f, fs, rfl⟩ : ∃ f fs', fs = f :: fs' := by cases fs <;> simp_all
    simp only [List.map_cons, List.cons_append, List.cons.injEq] at h
    simp [createLoop, h.1, ih _ _ h.2, List.range'_succ]

theorem createService_of_all_ok (self : Selector H Err InitErr Pool)
    {servers : List (Server H Err)} (h : self.servers.map (·.create) = servers.map .ok) :
    self.createService =
      (.ok ⟨servers, self.maxSize, self.connectTimeout, self.pool⟩,
        List.range self.servers.length) := by
  simp [createService, createLoop_of_all_ok 0 [] h, Except.map, List.range_eq_range']

theorem createService_of_fails (self : Selector H Err InitErr Pool) {oks : List (Server H Err)}
    {e : InitErr} {rest : List (Except InitErr (Server H Err))}
    (h : self.servers.map (·.create) = oks.map .ok ++ .error e :: rest) :
    self.createService = (.error e, List.range (oks.length + 1)) := by
  simp [createService, createLoop_of_fails 0 [] h, Except.map, List.range_eq_range']

/-! ### Creating the service of a built selector -/

/-- **Variants are created in the order they were registered.** -/
theorem createService_variants (pool : Pool) (regs : List (Check × MqttServer Cfg Pool)) :
    ((Selector.new pool : Selector H Err InitErr Pool).run finishSelector
        (regs.map fun r => .variant r.1 r.2)).servers =
      regs.map (fun r => finishSelector { r.2 with pool := pool } r.1) ∧
    (∀ servers : List (Server H Err),
      (regs.map fun r => (finishSelector { r.2 with pool := pool } r.1).create) =
        servers.map .ok →
      ((Selector.new pool).run finishSelector (regs.map fun r => .variant r.1 r.2)).createService =
        (.ok ⟨servers, 0, ⟨10000⟩, pool⟩, List.range regs.length)) ∧
    (∀ (oks : List (Server H Err)) e rest,
      (regs.map fun r => (finishSelector { r.2 with pool := pool } r.1).create) =
        oks.map .ok ++ .error e :: rest →
      ((Selector.new pool).run finishSelector (regs.map fun r => .variant r.1 r.2)).createService =
        (.error e, List.range (oks.length + 1))) := by
  simp only [run_variants]
  refine ⟨by simp [Selector.new], fun servers h => ?_, fun oks e rest h => ?_⟩
  · rw [createService_of_all_ok _ (by simpa [Selector.new] using h)]
    simp [Selector.new]
  · rw [createService_of_fails _ (by simpa [Selector.new] using h)]

/-- Two variants whose second factory fails: creation stops there, after both were created. -/
theorem createService_variants_second_fails :
    (([(true, ⟨(), ()⟩), (false, ⟨(), ()⟩)] : List (Bool × MqttServer Unit Unit)).map fun r =>
        ((fun _ c => ⟨if c then .ok ⟨fun h => .ok (.left h), .pending, .pending⟩ else .error ()⟩ :
          MqttServer Unit Unit → Bool → ServerFactory Unit Unit Unit)
          { r.2 with pool := () } r.1).create) =
      [⟨fun h => .ok (.left h), .pending, .pending⟩].map .ok ++ [.error ()] ∧
    ((Selector.new () : Selector Unit Unit Unit Unit).run
        (fun _ c => ⟨if c then .ok ⟨fun h => .ok (.left h), .pending, .pending⟩ else .error ()⟩)
        (([(true, ⟨(), ()⟩), (false, ⟨(), ()⟩)] : List (Bool × MqttServer Unit Unit)).map
          fun r => .variant r.1 r.2)).createService =
      (.error (), List.range 2) :=
  ⟨rfl, (createService_variants
    (fun _ c => ⟨if c then .ok ⟨fun h => .ok (.left h), .pending, .pending⟩ else .error ()⟩ :
      MqttServer Unit Unit → Bool → ServerFactory Unit Unit Unit) ()
    [(true, ⟨(), ()⟩), (false, ⟨(), ()⟩)]).2.2 [⟨fun h => .ok (.left h), .pending, .pending⟩] ()
    [] rfl⟩

end Selector

end NtexMqtt
