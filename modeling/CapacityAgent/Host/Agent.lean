/-
# The running agent

One process with its threads: the pipe thread applying messages, the GPU and
Ollama collectors, an HTTP handler reading, and the system clock between them. A
step is one command on the shared connection, one reading of the clock, one query or
the end of a request; any thread may take the next one. A restart ends every thread and
the open transaction, the database stays.
-/

import CapacityAgent.Store.Sharing
import CapacityAgent.Store.Queries
import CapacityAgent.Gpu.Snapshot

namespace CapacityAgent

open KeyedTable Connection SharedConnection Transitions

/-! ## Collectors -/

/-- `Service::Run` initializes a collector once and starts it or goes on without it. -/
inductive CollectorPhase
  | configured
  | running
  | down
  deriving DecidableEq

/-- A collector thread, with the store calls it is about to make. -/
structure Collector where
  phase : CollectorPhase
  calls : List CollectorCall
  deriving DecidableEq

def Collector.initial : Collector := ⟨.configured, []⟩

/-- A report of the GPU collector. -/
def gpuHealth (machineId : CStr) (status : CStr) (nowMs : ℤ) (lastError : Option CStr) :
    CollectorCall :=
  .healthDirect ⟨machineId, text "direct_gpu", text "gpu_poller", status, nowMs, lastError⟩

/-- The store calls of `DirectGpuCollector::Initialize` when the reader fails. -/
def gpuInitCalls (machineId : CStr) (warning : CStr) (nowMs : ℤ) : List CollectorCall :=
  [gpuHealth machineId (text "error") nowMs (some (text "init failed: " ++ warning))]

/-- The store calls of one round of `DirectGpuCollector::PollLoop`; the report follows
whatever the inserts returned. -/
def gpuPollCalls (machineId : CStr) (names : List CStr) (nowMs : ℤ)
    (snapshots : List GpuSnapshot) : List CollectorCall :=
  (pollInserts machineId names nowMs snapshots).map (fun insert => .gpuSample insert.1 insert.2) ++
    [gpuHealth machineId (text "ok") nowMs none]

/-- What `GET /api/ps` came to. -/
inductive OllamaReply
  | connectionFailed
  | httpError (status : ℤ)
  | invalidJson
  | models (row : OllamaRow)
  deriving DecidableEq

/-- A report of the Ollama collector. -/
def ollamaHealth (machineId : CStr) (status : CStr) (nowMs : ℤ) (lastError : Option CStr) :
    CollectorCall :=
  .healthDirect ⟨machineId, text "ollama", text "ollama_poller", status, nowMs, lastError⟩

/-- The store calls of `OllamaRuntimeCollector::PollOnce`. -/
def ollamaPollCalls (machineId : CStr) (nowMs : ℤ) : OllamaReply → List CollectorCall
  | .connectionFailed =>
    [ollamaHealth machineId (text "unreachable") nowMs (some (text "connection failed"))]
  | .httpError status =>
    [ollamaHealth machineId (text "unreachable") nowMs (some (text "HTTP " ++ decimalText status))]
  | .invalidJson => [ollamaHealth machineId (text "error") nowMs (some (text "invalid JSON"))]
  | .models row =>
    [.ollamaSample ⟨machineId, nowMs⟩ row, ollamaHealth machineId (text "ok") nowMs none]

/-! ## Steps -/

/-- A request between its two queries, or after them, with the rows it holds. -/
inductive Request
  | none
  | gotGpus (gpus : List StoredGpu)
  | gotHealth (gpus : List StoredGpu) (health : List (CStr × CollectorRow))
  deriving DecidableEq

structure Host where
  clock : ℤ
  store : SharedStore
  gpu : Collector
  ollama : Collector
  request : Request

/-- An agent on a new database, started at a time. -/
def Host.start (now : ℤ) : Host where
  clock := now
  store := Shared.fresh Database.empty
  gpu := Collector.initial
  ollama := Collector.initial
  request := .none

/-- The next step of one of the threads, or of the world around them. -/
inductive HostEvent
  | tick (now : ℤ)
  | message (message : BridgeMessage)
  | command (ok : Bool)
  | gpuInit (failure : Option CStr)
  | gpuPoll (names : List CStr) (snapshots : List GpuSnapshot)
  | gpuCall (ok : Bool)
  | ollamaInit (ok : Bool)
  | ollamaPoll (reply : OllamaReply)
  | ollamaCall (ok : Bool)
  | restart
  | readGpus
  | readHealth
  | answered

/-- The collector's next store call. -/
def Collector.issue (collector : Collector) (ok : Bool) (store : SharedStore) :
    Option (Collector × SharedStore) :=
  match collector.calls with
  | [] => none
  | call :: rest =>
    some ({ collector with calls := rest }, store.write CollectorCall.effect call ok)

/-- A started collector that has made its calls makes others. -/
def Collector.poll (collector : Collector) (calls : List CollectorCall) : Option Collector :=
  if collector.phase = .running ∧ collector.calls = [] then some { collector with calls := calls }
  else none

/-- The outcome of `Initialize`, which is called once. -/
def Collector.begin (collector : Collector) (phase : CollectorPhase)
    (calls : List CollectorCall) : Option Collector :=
  if collector.phase = .configured then some ⟨phase, calls⟩ else none

theorem Collector.issue_eq_some {collector : Collector} {ok : Bool} {store : SharedStore}
    {next : Collector × SharedStore} (issued : collector.issue ok store = some next) :
    ∃ call rest, collector.calls = call :: rest ∧
      next = ({ collector with calls := rest }, store.write CollectorCall.effect call ok) := by
  unfold Collector.issue at issued
  split at issued
  · exact absurd issued (by simp)
  · exact ⟨_, _, ‹_›, (Option.some.inj issued).symm⟩

theorem Collector.poll_eq_some {collector next : Collector} {calls : List CollectorCall}
    (polled : collector.poll calls = some next) : next.calls = calls := by
  unfold Collector.poll at polled
  split_ifs at polled
  rw [← Option.some.inj polled]

theorem Collector.begin_eq_some {collector next : Collector} {phase : CollectorPhase}
    {calls : List CollectorCall} (began : collector.begin phase calls = some next) :
    next = ⟨phase, calls⟩ := by
  unfold Collector.begin at began
  split_ifs at began
  exact (Option.some.inj began).symm

/-- One step; `none` when the event cannot happen now. -/
def Host.step (machineId : CStr) (s : Host) : HostEvent → Option Host
  | .tick now => if s.clock ≤ now then some { s with clock := now } else none
  | .message message =>
    (SharedStore.step s.store (.submit message)).map fun store => { s with store := store }
  | .command ok =>
    (SharedStore.step s.store (.command ok)).map fun store => { s with store := store }
  | .gpuInit none => (s.gpu.begin .running []).map fun gpu => { s with gpu := gpu }
  | .gpuInit (some warning) =>
    (s.gpu.begin .down (gpuInitCalls machineId warning s.clock)).map fun gpu =>
      { s with gpu := gpu }
  | .gpuPoll names snapshots =>
    (s.gpu.poll (gpuPollCalls machineId names s.clock snapshots)).map fun gpu =>
      { s with gpu := gpu }
  | .gpuCall ok =>
    (s.gpu.issue ok s.store).map fun next => { s with gpu := next.1, store := next.2 }
  | .ollamaInit ok =>
    (s.ollama.begin (if ok then .running else .down) []).map fun ollama =>
      { s with ollama := ollama }
  | .ollamaPoll reply =>
    (s.ollama.poll (ollamaPollCalls machineId s.clock reply)).map fun ollama =>
      { s with ollama := ollama }
  | .ollamaCall ok =>
    (s.ollama.issue ok s.store).map fun next => { s with ollama := next.1, store := next.2 }
  | .restart =>
    -- the journal is dropped too: a restarted process owes nobody an acknowledgement
    some
      { s with
        store := Shared.fresh s.store.conn.base
        gpu := Collector.initial
        ollama := Collector.initial
        request := .none }
  | .readGpus => some { s with request := .gotGpus (latestGpus machineId s.store.conn.db) }
  | .readHealth =>
    match s.request with
    | .gotGpus gpus =>
      some { s with request := .gotHealth gpus (queryCollectorHealth machineId s.store.conn.db) }
    | _ => none
  | .answered =>
    match s.request with
    | .gotHealth .. => some { s with request := .none }
    | _ => none

end CapacityAgent
