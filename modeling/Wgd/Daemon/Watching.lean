import Mathlib.Data.List.Nodup
import Mathlib.Data.List.Perm.Basic
import Mathlib.Logic.Relation

/-! The exit watcher of `dns_watch.rs`: threads that register processes, and the thread
that gets their exits. Every lock, atomic access and kernel call is a step of its own. -/

set_option autoImplicit false

namespace Wgd.Daemon.Watching

/-- What the kernel answers to a registration: the count of receipts or an error, and the receipt. -/
structure KeventReply where
  result : Except Nat Nat
  isError : Bool
  data : Nat

def esrch : Nat := 3

/-- With `EV_RECEIPT` the kernel answers with `EV_ERROR`; `data` is 0 on success and the errno otherwise. -/
def KeventReply.outcome (reply : KeventReply) : Except Nat Unit :=
  match reply.result with
  | .ok count =>
    if count = 1 ∧ reply.isError = true then if reply.data = 0 then .ok () else .error reply.data
    else .ok ()
  | .error errno => .error errno

/-- What `register` returns. A token is known by the call it was given to. -/
inductive Returned where
  | ok
  | gone (token : Nat)
  | alreadyWatched
  | io (errno : Nat)
  deriving DecidableEq

/-- What a failed registration gives back when it finds its entry. -/
def Returned.failure (token errno : Nat) : Returned := if errno = esrch then .gone token else .io errno

theorem Returned.failure_ne_ok (token errno : Nat) : failure token errno ≠ .ok := by
  unfold failure
  split <;> simp

theorem Returned.failure_inj {token first second : Nat} : failure token first = failure token second ↔ first = second := by
  unfold failure
  constructor
  · intro same
    split at same <;> split at same <;> simp_all
  · intro same
    rw [same]

/-- Where the watch thread is with a token it took: before, in or after the callback. -/
inductive Stage where
  | taken
  | running
  | returned
  deriving DecidableEq

/-- The calls of `register` are numbered. Of each there is at most one entry in each list. -/
structure State where
  /-- The calls whose tokens are in the map, each under its pid. -/
  entries : List Nat
  hold : Int
  /-- The calls in progress: their entry is inserted, -/
  inserted : List Nat
  /-- their hold is added, -/
  held : List Nat
  /-- the kernel watches the process, -/
  watched : List Nat
  /-- it does not, for a reason, -/
  failed : List (Nat × Nat)
  /-- or their hold is given back again. -/
  released : List (Nat × Nat)
  /-- The kernel's watches, the exits it has not told yet, and those the thread has fetched. -/
  knotes : List Nat
  queue : List Nat
  events : List Nat
  callback : Option (Nat × Stage)
  /-- What has happened: calls, successful registrations, refused ones, exits of watched processes, tokens
  given to the callback, and what the calls returned. -/
  begun : List Nat
  registered : List Nat
  refused : List (Nat × Nat)
  exited : List Nat
  delivered : List Nat
  results : List (Nat × Returned)

def State.initial : State :=
  { entries := [], hold := 0, inserted := [], held := [], watched := [], failed := [], released := [], knotes := [],
    queue := [], events := [], callback := none, begun := [], registered := [], refused := [], exited := [], delivered := [],
    results := [] }

/-- No thread is in `register`. -/
structure State.Settled (s : State) : Prop where
  inserted : s.inserted = []
  held : s.held = []
  watched : s.watched = []
  failed : s.failed = []
  released : s.released = []

/-- The watch thread: `watch_loop`. -/
inductive LoopStep (pidOf : Nat → Nat) : State → State → Prop where
  /-- Up to four events at once, in any order. -/
  | fetch {s : State} {events queue : List Nat} (idle : s.events = [] ∧ s.callback = none)
    (told : s.queue.Perm (events ++ queue)) (few : events.length ≤ 4) :
    LoopStep pidOf s { s with events, queue }
  | take {s : State} {event token : Nat} {rest before after : List Nat} (idle : s.callback = none)
    (next : s.events = event :: rest) (found : s.entries = before ++ token :: after) (same : pidOf token = pidOf event) :
    LoopStep pidOf s { s with events := rest, entries := before ++ after, callback := some (token, .taken) }
  | skip {s : State} {event : Nat} {rest : List Nat} (idle : s.callback = none)
    (next : s.events = event :: rest) (absent : ∀ token ∈ s.entries, pidOf token ≠ pidOf event) :
    LoopStep pidOf s { s with events := rest }
  | call {s : State} {token : Nat} (now : s.callback = some (token, .taken)) :
    LoopStep pidOf s { s with callback := some (token, .running), delivered := token :: s.delivered }
  | return {s : State} {token : Nat} (now : s.callback = some (token, .running)) :
    LoopStep pidOf s { s with callback := some (token, .returned) }
  | release {s : State} {token : Nat} (now : s.callback = some (token, .returned)) :
    LoopStep pidOf s { s with callback := none, hold := s.hold - 1 }

/-- The other threads and the kernel. -/
inductive Step (pidOf : Nat → Nat) : State → State → Prop where
  | loop {s s' : State} (step : LoopStep pidOf s s') : Step pidOf s s'
  | alreadyWatched {s : State} {call token : Nat} (new : call ∉ s.begun) (there : token ∈ s.entries)
    (same : pidOf token = pidOf call) :
    Step pidOf s { s with begun := call :: s.begun, results := (call, .alreadyWatched) :: s.results }
  /-- Insert first: the exit event may fire before `register` returns. -/
  | insert {s : State} {call : Nat} (new : call ∉ s.begun) (absent : ∀ token ∈ s.entries, pidOf token ≠ pidOf call) :
    Step pidOf s { s with begun := call :: s.begun, entries := call :: s.entries, inserted := call :: s.inserted }
  | addHold {s : State} {call : Nat} {before after : List Nat} (now : s.inserted = before ++ call :: after) :
    Step pidOf s { s with inserted := before ++ after, held := call :: s.held, hold := s.hold + 1 }
  | watch {s : State} {call : Nat} {before after : List Nat} {reply : KeventReply} (now : s.held = before ++ call :: after)
    (succeeds : reply.outcome = .ok ()) :
    Step pidOf s { s with held := before ++ after, watched := call :: s.watched, knotes := call :: s.knotes,
                          registered := call :: s.registered }
  | refuse {s : State} {call errno : Nat} {before after : List Nat} {reply : KeventReply}
    (now : s.held = before ++ call :: after) (fails : reply.outcome = .error errno) :
    Step pidOf s { s with held := before ++ after, failed := (call, errno) :: s.failed,
                          refused := (call, errno) :: s.refused }
  | returnOk {s : State} {call : Nat} {before after : List Nat} (now : s.watched = before ++ call :: after) :
    Step pidOf s { s with watched := before ++ after, results := (call, .ok) :: s.results }
  | subHold {s : State} {call errno : Nat} {before after : List (Nat × Nat)} (now : s.failed = before ++ (call, errno) :: after) :
    Step pidOf s { s with failed := before ++ after, released := (call, errno) :: s.released, hold := s.hold - 1 }
  | remove {s : State} {call errno token : Nat} {before after : List (Nat × Nat)} {before' after' : List Nat}
    (now : s.released = before ++ (call, errno) :: after) (found : s.entries = before' ++ token :: after')
    (same : pidOf token = pidOf call) :
    Step pidOf s { s with released := before ++ after, entries := before' ++ after',
                          results := (call, .failure token errno) :: s.results }
  /-- The exit event may have raced in and consumed the entry. -/
  | removed {s : State} {call errno : Nat} {before after : List (Nat × Nat)}
    (now : s.released = before ++ (call, errno) :: after) (absent : ∀ token ∈ s.entries, pidOf token ≠ pidOf call) :
    Step pidOf s { s with released := before ++ after, results := (call, .io errno) :: s.results }
  /-- A watched process exits: one event. -/
  | exit {s : State} {call : Nat} {before after : List Nat} (now : s.knotes = before ++ call :: after) :
    Step pidOf s { s with knotes := before ++ after, queue := call :: s.queue, exited := call :: s.exited }

/-! ### The invariant -/

/-- The token that is taken and not given to the callback yet. -/
def pendingToken : Option (Nat × Stage) → List Nat
  | some (token, .taken) => [token]
  | _ => []

/-- The calls that came to an end without a registration. -/
def unregistered (results : List (Nat × Returned)) : List Nat :=
  (results.filter fun result => result.2 != .ok).map Prod.fst

def returnedOk (results : List (Nat × Returned)) : List Nat := (results.filter fun result => result.2 == .ok).map Prod.fst

structure Inv (pidOf : Nat → Nat) (s : State) : Prop where
  /-- A pid has one entry. -/
  apart : (s.entries.map pidOf).Nodup
  /-- An entry is of a call on its way, or of a watch or an exit that is not handled. -/
  owned : ∀ n, s.entries.count n = s.inserted.count n + s.held.count n + (s.failed.map Prod.fst).count n +
    (s.released.map Prod.fst).count n + s.knotes.count n + s.queue.count n + s.events.count n
  counted : s.hold = s.held.length + s.failed.length + s.knotes.length + s.queue.length + s.events.length +
    (if s.callback.isSome then 1 else 0)
  once : ∀ n, s.begun.count n ≤ 1
  /-- Each call is in one place, and registered once or not at all. -/
  placed : ∀ n, s.begun.count n = s.inserted.count n + s.held.count n + (s.failed.map Prod.fst).count n +
    (s.released.map Prod.fst).count n + s.registered.count n + (unregistered s.results).count n
  successes : ∀ n, s.registered.count n = s.watched.count n + (returnedOk s.results).count n
  tracked : ∀ n, s.registered.count n = s.knotes.count n + s.queue.count n + s.events.count n +
    (pendingToken s.callback).count n + s.delivered.count n
  exits : ∀ n, s.exited.count n = s.queue.count n + s.events.count n + (pendingToken s.callback).count n + s.delivered.count n
  handedBack : ∀ n token, (n, Returned.gone token) ∈ s.results → token = n
  refusals : ∀ n errno, (n, errno) ∈ s.refused ↔
    (n, errno) ∈ s.failed ∨ (n, errno) ∈ s.released ∨ (n, Returned.failure n errno) ∈ s.results

variable {pidOf : Nat → Nat} {s s' : State}

theorem Inv.initial (pidOf : Nat → Nat) : Inv pidOf .initial where
  apart := List.nodup_nil
  owned _ := rfl
  counted := rfl
  once _ := Nat.zero_le _
  placed _ := rfl
  successes _ := rfl
  tracked _ := rfl
  exits _ := rfl
  handedBack _ _ member := by cases member
  refusals _ _ := by simp [State.initial]

/-- Under a pid there is the entry of no other call. -/
theorem Inv.entry_unique (inv : Inv pidOf s) {first second : Nat} (one : first ∈ s.entries) (two : second ∈ s.entries)
    (same : pidOf first = pidOf second) : first = second := List.inj_on_of_nodup_map inv.apart one two same

theorem Inv.entry_of_event (inv : Inv pidOf s) {event : Nat} {rest : List Nat} (next : s.events = event :: rest) :
    event ∈ s.entries := by
  have owned := inv.owned event
  rw [next, List.count_cons_self] at owned
  exact List.count_pos_iff.mp (by omega)

theorem Inv.entry_of_released (inv : Inv pidOf s) {call errno : Nat} {before after : List (Nat × Nat)}
    (now : s.released = before ++ (call, errno) :: after) : call ∈ s.entries := by
  have owned := inv.owned call
  rw [now, List.map_append, List.count_append, List.map_cons, List.count_cons_self] at owned
  exact List.count_pos_iff.mp (by omega)

theorem Inv.apart_removed (inv : Inv pidOf s) {token : Nat} {before after : List Nat} (found : s.entries = before ++ token :: after) :
    ((before ++ after).map pidOf).Nodup := by
  have apart := inv.apart
  rw [found, List.map_append, List.map_cons] at apart
  rw [List.map_append]
  exact apart.sublist ((List.sublist_cons_self _ _).append_left _)

/-! ### One step -/

/-- An event finds the entry of its own registration. -/
theorem LoopStep.inv (inv : Inv pidOf s) (step : LoopStep pidOf s s') : Inv pidOf s' := by
  cases step with
  | fetch idle told few =>
    obtain ⟨none, -⟩ := idle
    have counts : ∀ n, s.queue.count n = _ := fun n => (told.count_eq n).trans List.count_append
    have sizes := told.length_eq
    rw [List.length_append] at sizes
    refine { inv with owned := ?_, counted := ?_, tracked := ?_, exits := ?_ }
    · intro n
      have owned := inv.owned n
      rw [none, counts n] at owned
      simp only [List.count_nil] at owned
      dsimp only
      omega
    · have counted := inv.counted
      rw [none, sizes] at counted
      simp only [List.length_nil] at counted
      dsimp only
      omega
    · intro n
      have tracked := inv.tracked n
      rw [none, counts n] at tracked
      simp only [List.count_nil] at tracked
      dsimp only
      omega
    · intro n
      have exits := inv.exits n
      rw [none, counts n] at exits
      simp only [List.count_nil] at exits
      dsimp only
      omega
  | @take event token rest before after idle next found same =>
    have mine : token = event := inv.entry_unique (by rw [found]; simp) (inv.entry_of_event next) same
    subst mine
    refine { inv with apart := inv.apart_removed found, owned := ?_, counted := ?_, tracked := ?_, exits := ?_ }
    · intro n
      have owned := inv.owned n
      rw [next, found] at owned
      simp only [List.count_append, List.count_cons] at owned ⊢
      omega
    · have counted := inv.counted
      rw [next, idle] at counted
      simp only [List.length_cons, Option.isSome_none, Option.isSome_some] at counted ⊢
      simp only [if_true, Bool.false_eq_true, if_false] at counted ⊢
      push_cast at counted ⊢
      omega
    · intro n
      have tracked := inv.tracked n
      rw [next, idle] at tracked
      simp only [pendingToken, List.count_cons, List.count_nil] at tracked ⊢
      omega
    · intro n
      have exits := inv.exits n
      rw [next, idle] at exits
      simp only [pendingToken, List.count_cons, List.count_nil] at exits ⊢
      omega
  | skip idle next absent => exact absurd rfl (absent _ (inv.entry_of_event next))
  | call now =>
    refine { inv with counted := ?_, tracked := ?_, exits := ?_ }
    · have counted := inv.counted
      rw [now] at counted
      exact counted
    · intro n
      have tracked := inv.tracked n
      rw [now] at tracked
      simp only [pendingToken, List.count_cons, List.count_nil] at tracked ⊢
      omega
    · intro n
      have exits := inv.exits n
      rw [now] at exits
      simp only [pendingToken, List.count_cons, List.count_nil] at exits ⊢
      omega
  | «return» now =>
    refine { inv with counted := ?_, tracked := ?_, exits := ?_ }
    · have counted := inv.counted
      rw [now] at counted
      exact counted
    · intro n
      have tracked := inv.tracked n
      rw [now] at tracked
      exact tracked
    · intro n
      have exits := inv.exits n
      rw [now] at exits
      exact exits
  | release now =>
    refine { inv with counted := ?_, tracked := ?_, exits := ?_ }
    · have counted := inv.counted
      rw [now] at counted
      simp only [Option.isSome_some, Option.isSome_none, if_true, Bool.false_eq_true, if_false] at counted ⊢
      omega
    · intro n
      have tracked := inv.tracked n
      rw [now] at tracked
      exact tracked
    · intro n
      have exits := inv.exits n
      rw [now] at exits
      exact exits

theorem unregistered_cons {result : Nat × Returned} {results : List (Nat × Returned)} :
    unregistered (result :: results) = if result.2 = .ok then unregistered results else result.1 :: unregistered results := by
  unfold unregistered
  by_cases ok : result.2 = .ok
  · simp [ok]
  · simp [ok]

theorem returnedOk_cons {result : Nat × Returned} {results : List (Nat × Returned)} :
    returnedOk (result :: results) = if result.2 = .ok then result.1 :: returnedOk results else returnedOk results := by
  unfold returnedOk
  by_cases ok : result.2 = .ok
  · simp [ok]
  · simp [ok]

theorem Step.inv (inv : Inv pidOf s) (step : Step pidOf s s') : Inv pidOf s' := by
  cases step with
  | loop step => exact step.inv inv
  | @alreadyWatched call token new there same =>
    have fresh := List.count_eq_zero.mpr new
    refine { inv with once := ?_, placed := ?_, successes := ?_, handedBack := ?_, refusals := ?_ }
    · intro n
      have once := inv.once n
      simp only [List.count_cons]
      split
      next equal =>
        rw [beq_iff_eq] at equal
        subst equal
        omega
      next => omega
    · intro n
      have placed := inv.placed n
      rw [unregistered_cons, if_neg (by simp)]
      simp only [List.count_cons] at placed ⊢
      omega
    · intro n
      rw [returnedOk_cons, if_neg (by simp)]
      exact inv.successes n
    · intro n token member
      cases member with
      | tail _ member => exact inv.handedBack n token member
    · intro n errno
      rw [inv.refusals n errno, List.mem_cons]
      have other : (n, Returned.failure n errno) ≠ (call, .alreadyWatched) := by
        unfold Returned.failure
        split <;> simp
      simp only [other, false_or]
  | @insert call new absent =>
    have fresh := List.count_eq_zero.mpr new
    refine { inv with apart := ?_, owned := ?_, once := ?_, placed := ?_ }
    · rw [List.map_cons, List.nodup_cons]
      refine ⟨fun member => ?_, inv.apart⟩
      obtain ⟨token, there, same⟩ := List.mem_map.mp member
      exact absent token there same
    · intro n
      have owned := inv.owned n
      simp only [List.count_cons] at owned ⊢
      omega
    · intro n
      have once := inv.once n
      simp only [List.count_cons]
      split
      next equal =>
        rw [beq_iff_eq] at equal
        subst equal
        omega
      next => omega
    · intro n
      have placed := inv.placed n
      simp only [List.count_cons] at placed ⊢
      omega
  | addHold now =>
    refine { inv with owned := ?_, counted := ?_, placed := ?_ }
    · intro n
      have owned := inv.owned n
      rw [now] at owned
      simp only [List.count_append, List.count_cons] at owned ⊢
      omega
    · have counted := inv.counted
      simp only [List.length_cons]
      push_cast
      omega
    · intro n
      have placed := inv.placed n
      rw [now] at placed
      simp only [List.count_append, List.count_cons] at placed ⊢
      omega
  | watch now succeeds =>
    refine { inv with owned := ?_, counted := ?_, placed := ?_, successes := ?_, tracked := ?_ }
    · intro n
      have owned := inv.owned n
      rw [now] at owned
      simp only [List.count_append, List.count_cons] at owned ⊢
      omega
    · have counted := inv.counted
      rw [now] at counted
      simp only [List.length_append, List.length_cons] at counted ⊢
      push_cast at counted ⊢
      omega
    · intro n
      have placed := inv.placed n
      rw [now] at placed
      simp only [List.count_append, List.count_cons] at placed ⊢
      omega
    · intro n
      have successes := inv.successes n
      simp only [List.count_cons] at successes ⊢
      omega
    · intro n
      have tracked := inv.tracked n
      simp only [List.count_cons] at tracked ⊢
      omega
  | refuse now fails =>
    refine { inv with owned := ?_, counted := ?_, placed := ?_, refusals := ?_ }
    · intro n
      have owned := inv.owned n
      rw [now] at owned
      simp only [List.count_append, List.count_cons, List.map_cons] at owned ⊢
      omega
    · have counted := inv.counted
      rw [now] at counted
      simp only [List.length_append, List.length_cons] at counted ⊢
      push_cast at counted ⊢
      omega
    · intro n
      have placed := inv.placed n
      rw [now] at placed
      simp only [List.count_append, List.count_cons, List.map_cons] at placed ⊢
      omega
    · intro n errno
      simp only [List.mem_cons, inv.refusals n errno]
      tauto
  | returnOk now =>
    refine { inv with placed := ?_, successes := ?_, handedBack := ?_, refusals := ?_ }
    · intro n
      rw [unregistered_cons, if_pos rfl]
      exact inv.placed n
    · intro n
      have successes := inv.successes n
      rw [now] at successes
      rw [returnedOk_cons, if_pos rfl]
      simp only [List.count_append, List.count_cons] at successes ⊢
      omega
    · intro n token member
      cases member with
      | tail _ member => exact inv.handedBack n token member
    · intro n errno
      rw [inv.refusals n errno, List.mem_cons]
      simp only [Prod.mk.injEq, Returned.failure_ne_ok, and_false, false_or]
  | subHold now =>
    refine { inv with owned := ?_, counted := ?_, placed := ?_, refusals := ?_ }
    · intro n
      have owned := inv.owned n
      rw [now] at owned
      simp only [List.map_append, List.count_append, List.count_cons, List.map_cons] at owned ⊢
      omega
    · have counted := inv.counted
      rw [now] at counted
      simp only [List.length_append, List.length_cons] at counted ⊢
      push_cast at counted ⊢
      omega
    · intro n
      have placed := inv.placed n
      rw [now] at placed
      simp only [List.map_append, List.count_append, List.count_cons, List.map_cons] at placed ⊢
      omega
    · intro n errno
      rw [inv.refusals n errno, now]
      simp only [List.mem_append, List.mem_cons]
      tauto
  | @remove call errno token before after before' after' now found same =>
    have mine : token = call := inv.entry_unique (by rw [found]; simp) (inv.entry_of_released now) same
    subst mine
    refine { inv with apart := inv.apart_removed found, owned := ?_, placed := ?_, successes := ?_, handedBack := ?_,
                      refusals := ?_ }
    · intro n
      have owned := inv.owned n
      rw [now, found] at owned
      simp only [List.map_append, List.count_append, List.count_cons, List.map_cons] at owned ⊢
      omega
    · intro n
      have placed := inv.placed n
      rw [now] at placed
      rw [unregistered_cons, if_neg (Returned.failure_ne_ok _ _)]
      simp only [List.map_append, List.count_append, List.count_cons, List.map_cons] at placed ⊢
      omega
    · intro n
      rw [returnedOk_cons, if_neg (Returned.failure_ne_ok _ _)]
      exact inv.successes n
    · intro n token' member
      rw [List.mem_cons, Prod.mk.injEq] at member
      rcases member with ⟨rfl, back⟩ | member
      · unfold Returned.failure at back
        split at back
        next =>
          cases back
          rfl
        next => cases back
      · exact inv.handedBack n token' member
    · intro n errno'
      rw [inv.refusals n errno', now]
      have same : (n, Returned.failure n errno') = (token, Returned.failure token errno) ↔ (n, errno') = (token, errno) := by
        rw [Prod.mk.injEq, Prod.mk.injEq]
        refine and_congr_right fun here => ?_
        rw [here, Returned.failure_inj]
      simp only [List.mem_append, List.mem_cons, same]
      tauto
  | removed now absent => exact absurd rfl (absent _ (inv.entry_of_released now))
  | exit now =>
    refine { inv with owned := ?_, counted := ?_, tracked := ?_, exits := ?_ }
    · intro n
      have owned := inv.owned n
      rw [now] at owned
      simp only [List.count_append, List.count_cons] at owned ⊢
      omega
    · have counted := inv.counted
      rw [now] at counted
      simp only [List.length_append, List.length_cons] at counted ⊢
      push_cast at counted ⊢
      omega
    · intro n
      have tracked := inv.tracked n
      rw [now] at tracked
      simp only [List.count_append, List.count_cons] at tracked ⊢
      omega
    · intro n
      have exits := inv.exits n
      simp only [List.count_cons] at exits ⊢
      omega

theorem reachable_inv (reached : Relation.ReflTransGen (Step pidOf) .initial s) : Inv pidOf s := by
  induction reached with
  | refl => exact .initial pidOf
  | tail _ step inv => exact step.inv inv

/-! ### What the thread has left to do -/

structure State.Quiet (s : State) : Prop where
  queue : s.queue = []
  events : s.events = []
  callback : s.callback = none

def stageWork : Option (Nat × Stage) → Nat
  | none => 0
  | some (_, .returned) => 1
  | some (_, .running) => 2
  | some (_, .taken) => 3

def State.work (s : State) : Nat := 5 * s.queue.length + 4 * s.events.length + stageWork s.callback

/-- While anything is left the thread can go on, and each step leaves less. -/
theorem Inv.progress (inv : Inv pidOf s) (busy : ¬ s.Quiet) :
    ∃ s', LoopStep pidOf s s' ∧ s'.exited = s.exited ∧ s'.work < s.work := by
  cases now : s.callback with
  | some current =>
    obtain ⟨token, stage⟩ := current
    cases stage with
    | taken => exact ⟨_, .call now, rfl, by simp [State.work, stageWork, now]⟩
    | running => exact ⟨_, .return now, rfl, by simp [State.work, stageWork, now]⟩
    | returned => exact ⟨_, .release now, rfl, by simp [State.work, stageWork, now]⟩
  | none =>
    cases next : s.events with
    | cons event rest =>
      obtain ⟨before, after, found⟩ := List.append_of_mem (inv.entry_of_event next)
      refine ⟨_, .take now next found rfl, rfl, ?_⟩
      simp only [State.work, stageWork, now, next, List.length_cons]
      omega
    | nil =>
      cases told : s.queue with
      | nil => exact absurd ⟨told, next, now⟩ busy
      | cons event queue =>
        refine ⟨_, @LoopStep.fetch pidOf s [event] queue ⟨next, now⟩ (by rw [told]; rfl) (by simp), rfl, ?_⟩
        simp only [State.work, stageWork, now, next, told, List.length_cons, List.length_nil]
        omega

/-- From any reachable state the thread alone gets through with every exit there has been. -/
theorem Inv.drains (inv : Inv pidOf s) :
    ∃ s', Relation.ReflTransGen (LoopStep pidOf) s s' ∧ s'.Quiet ∧ Inv pidOf s' ∧ s'.exited = s.exited := by
  induction work : s.work using Nat.strongRecOn generalizing s with
  | ind work ih =>
    by_cases quiet : s.Quiet
    · exact ⟨s, .refl, quiet, inv, rfl⟩
    · obtain ⟨next, step, exited, less⟩ := inv.progress quiet
      obtain ⟨last, steps, quiet, inv, same⟩ := ih _ (by omega) (step.inv inv) rfl
      exact ⟨last, .head step steps, quiet, inv, same.trans exited⟩

/-! ### Deliveries, returned tokens and the hold count -/

theorem Inv.registered_le (inv : Inv pidOf s) (n : Nat) : s.registered.count n ≤ 1 := by
  have once := inv.once n
  have placed := inv.placed n
  omega

theorem Inv.exited_le (inv : Inv pidOf s) (n : Nat) : s.exited.count n ≤ s.registered.count n := by
  have tracked := inv.tracked n
  have exits := inv.exits n
  omega

theorem Inv.delivered_le (inv : Inv pidOf s) (n : Nat) : s.delivered.count n ≤ s.exited.count n := by
  have exits := inv.exits n
  omega

theorem Inv.delivered_once (inv : Inv pidOf s) (quiet : s.Quiet) {n : Nat} (gone : n ∈ s.exited) :
    s.delivered.count n = 1 := by
  have exits := inv.exits n
  have most := Nat.le_trans (inv.exited_le n) (inv.registered_le n)
  have positive := List.count_pos_iff.mpr gone
  rw [quiet.queue, quiet.events, quiet.callback] at exits
  simp only [pendingToken, List.count_nil] at exits
  omega

/-- What a call has returned. -/
def State.returnedBy (s : State) (n : Nat) : List Returned := (s.results.filter fun result => result.1 == n).map Prod.snd

theorem length_returnedBy (n : Nat) :
    (s.returnedBy n).length = (unregistered s.results).count n + (returnedOk s.results).count n := by
  unfold State.returnedBy
  induction s.results with
  | nil => rfl
  | cons result results ih =>
    rw [unregistered_cons, returnedOk_cons, List.filter_cons]
    by_cases here : result.1 = n <;> by_cases ok : result.2 = .ok <;>
      simp only [here, ok, beq_self_eq_true, beq_iff_eq, if_true, if_false, List.map_cons, List.length_cons, List.count_cons, ih] <;> omega

theorem mem_returnedBy {n : Nat} {r : Returned} : r ∈ s.returnedBy n ↔ (n, r) ∈ s.results := by
  simp [State.returnedBy]

/-- Of a refused call the kernel watches nothing. -/
theorem Inv.refused_unregistered (inv : Inv pidOf s) {n errno : Nat} (refused : (n, errno) ∈ s.refused) :
    s.registered.count n = 0 := by
  have once := inv.once n
  have placed := inv.placed n
  rcases (inv.refusals n errno).mp refused with here | here | here
  · have positive := List.count_pos_iff.mpr (List.mem_map_of_mem (f := Prod.fst) here)
    dsimp only at positive
    omega
  · have positive := List.count_pos_iff.mpr (List.mem_map_of_mem (f := Prod.fst) here)
    dsimp only at positive
    omega
  · have member : n ∈ unregistered s.results :=
      List.mem_map.mpr ⟨_, List.mem_filter.mpr ⟨here, by simp [Returned.failure_ne_ok]⟩, rfl⟩
    have positive := List.count_pos_iff.mpr member
    omega

theorem Inv.returned_once (inv : Inv pidOf s) (n : Nat) : (s.returnedBy n).length ≤ 1 := by
  have once := inv.once n
  have placed := inv.placed n
  have successes := inv.successes n
  rw [length_returnedBy]
  omega

theorem Inv.hands_back (inv : Inv pidOf s) {n : Nat} (refused : (n, esrch) ∈ s.refused) :
    s.returnedBy n = [.gone n] ∨ (s.returnedBy n = [] ∧ ¬ s.Settled) := by
  have once := inv.once n
  have placed := inv.placed n
  have successes := inv.successes n
  have none := inv.refused_unregistered refused
  have size := length_returnedBy (s := s) n
  rcases (inv.refusals n esrch).mp refused with here | here | here
  · have positive := List.count_pos_iff.mpr (List.mem_map_of_mem (f := Prod.fst) here)
    dsimp only at positive
    refine .inr ⟨List.length_eq_zero_iff.mp (by omega), fun settled => ?_⟩
    rw [settled.failed] at here
    cases here
  · have positive := List.count_pos_iff.mpr (List.mem_map_of_mem (f := Prod.fst) here)
    dsimp only at positive
    refine .inr ⟨List.length_eq_zero_iff.mp (by omega), fun settled => ?_⟩
    rw [settled.released] at here
    cases here
  · left
    have back : Returned.gone n ∈ s.returnedBy n := mem_returnedBy.mpr here
    obtain ⟨r, only⟩ := List.length_eq_one_iff.mp (Nat.le_antisymm (inv.returned_once n) (List.length_pos_of_mem back))
    rw [only, List.mem_singleton] at back
    rw [only, back]

/-- Outside of `register` an entry is a watch, or an exit the thread has not handled. -/
theorem Inv.entries_perm (inv : Inv pidOf s) (settled : s.Settled) : s.entries.Perm (s.knotes ++ s.queue ++ s.events) := by
  rw [List.perm_iff_count]
  intro n
  have owned := inv.owned n
  rw [settled.inserted, settled.held, settled.failed, settled.released] at owned
  simp only [List.map_nil, List.count_nil] at owned
  simp only [List.count_append]
  omega

/-- However registrations, the watch thread and exits interleave: of each registered process that exits
the token goes to the callback once, and the thread alone can bring that about from any state; a call the
kernel refused with `ESRCH` gives its own token back once and the callback never sees it; and the hold
count is never negative, and outside of `register` it is the number of entries and of tokens with the
callback. -/
theorem exits_accounted (pidOf : Nat → Nat) {s : State} (reached : Relation.ReflTransGen (Step pidOf) .initial s) :
    (∀ n, s.delivered.count n ≤ 1 ∧ (n ∈ s.delivered → n ∈ s.registered ∧ n ∈ s.exited)) ∧
    (s.Quiet → ∀ n ∈ s.exited, s.delivered.count n = 1) ∧
    (∃ s', Relation.ReflTransGen (LoopStep pidOf) s s' ∧ s'.Quiet ∧ s'.exited = s.exited ∧
      ∀ n ∈ s.exited, s'.delivered.count n = 1) ∧
    (∀ n, (n, esrch) ∈ s.refused → n ∉ s.delivered ∧
      (s.returnedBy n = [.gone n] ∨ (s.returnedBy n = [] ∧ ¬ s.Settled))) ∧
    (∀ n token, .gone token ∈ s.returnedBy n → token = n ∧ (n, esrch) ∈ s.refused) ∧
    0 ≤ s.hold ∧
    (s.Settled → s.hold = s.entries.length + (if s.callback.isSome then 1 else 0)) := by
  have inv := reachable_inv reached
  refine ⟨fun n => ⟨?_, fun given => ?_⟩, fun quiet n gone => inv.delivered_once quiet gone, ?_, fun n refused => ⟨?_, ?_⟩,
    fun n token back => ?_, ?_, fun settled => ?_⟩
  · exact Nat.le_trans (inv.delivered_le n) (Nat.le_trans (inv.exited_le n) (inv.registered_le n))
  · have positive := List.count_pos_iff.mpr given
    have exited := Nat.lt_of_lt_of_le positive (inv.delivered_le n)
    exact ⟨List.count_pos_iff.mp (Nat.lt_of_lt_of_le exited (inv.exited_le n)), List.count_pos_iff.mp exited⟩
  · obtain ⟨s', steps, quiet, inv', exited⟩ := inv.drains
    exact ⟨s', steps, quiet, exited, fun n gone => inv'.delivered_once quiet (exited ▸ gone)⟩
  · intro given
    have positive := List.count_pos_iff.mpr given
    have delivered := inv.delivered_le n
    have exited := inv.exited_le n
    have none := inv.refused_unregistered refused
    omega
  · exact inv.hands_back refused
  · have member := mem_returnedBy.mp back
    obtain rfl := inv.handedBack n token member
    exact ⟨rfl, (inv.refusals token esrch).mpr (.inr (.inr member))⟩
  · have counted := inv.counted
    split at counted <;> omega
  · have counted := inv.counted
    have sizes := (inv.entries_perm settled).length_eq
    rw [settled.held, settled.failed] at counted
    simp only [List.length_append, List.length_nil] at counted sizes
    rw [counted, sizes]
    push_cast
    omega

/-- The process of call 0 exits while its registration is on its way, and that of call 1 is gone already. -/
def raced : State :=
  { State.initial with begun := [1, 0], registered := [0], refused := [(1, esrch)], exited := [0], delivered := [0],
                       results := [(1, .gone 1), (0, .ok)] }

theorem raced_reached : Relation.ReflTransGen (Step (· + 7)) .initial raced := by
  refine .head (@Step.insert _ _ 0 (by simp [State.initial]) (by simp [State.initial])) ?_
  refine .head (@Step.addHold _ _ 0 [] [] rfl) ?_
  refine .head (@Step.insert _ _ 1 (by simp [State.initial]) (by simp [State.initial])) ?_
  refine .head (@Step.watch _ _ 0 [] [] ⟨.ok 1, true, 0⟩ rfl rfl) ?_
  refine .head (@Step.exit _ _ 0 [] [] rfl) ?_
  refine .head (@Step.addHold _ _ 1 [] [] rfl) ?_
  refine .head (.loop (@LoopStep.fetch _ _ [0] [] ⟨rfl, rfl⟩ (.refl _) (by decide))) ?_
  refine .head (@Step.refuse _ _ 1 esrch [] [] ⟨.ok 1, true, 3⟩ rfl rfl) ?_
  refine .head (.loop (@LoopStep.take _ _ 0 0 [] [1] [] rfl rfl rfl rfl)) ?_
  refine .head (.loop (.call rfl)) ?_
  refine .head (@Step.returnOk _ _ 0 [] [] rfl) ?_
  refine .head (@Step.subHold _ _ 1 esrch [] [] rfl) ?_
  refine .head (.loop (.return rfl)) ?_
  refine .head (.loop (.release rfl)) ?_
  refine .head (@Step.remove _ _ 1 esrch 1 [] [] [] [] rfl rfl rfl) ?_
  exact .refl

theorem exits_accounted_raced :
    raced.delivered.count 0 = 1 ∧ (raced.returnedBy 1 = [.gone 1] ∨ (raced.returnedBy 1 = [] ∧ ¬ raced.Settled)) ∧
    raced.hold = raced.entries.length + (if raced.callback.isSome then 1 else 0) := by
  obtain ⟨-, delivered, -, back, -, -, hold⟩ := exits_accounted (· + 7) raced_reached
  exact ⟨delivered ⟨rfl, rfl, rfl⟩ 0 (by decide), (back 1 (by decide)).2, hold ⟨rfl, rfl, rfl, rfl, rfl⟩⟩

end Wgd.Daemon.Watching
