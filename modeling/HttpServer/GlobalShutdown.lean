import HttpServer.Library.RelyGuarantee
import HttpServer.ManagerThreads
import Mathlib.Data.List.Rotate

/-!
# The shutdown of the program

`main` initialises the library, builds a `Server`, lets it listen, and calls `HTTP_Kill`
while the `Server` and its thread are still there.  `HTTP_Kill` destroys the logger and
ends Steam before it stops the network thread and destroys the listeners.

The network thread calls the adapter in every tick, and the destructor of every listener
logs.  So no shutdown gets far: when `HTTP_Kill` returns, or when the network thread has
ended a second tick without Steam, a thread has already used what is gone.
-/

namespace HttpServer

open ThreadCode

namespace ManagerCode

open Code

/-- `value` of the result that the thread got. -/
def takeValue (thread : ManagerThread) : ManagerCode :=
  read fun data =>
    if data.calls thread = .returned .error then fault .valueOfError else skip

/-- Every round of the loop over the messages takes the value of the same result. -/
def serverPollIncMessages : ManagerCode :=
  read fun data =>
    all [executeFunktion .server (.tryPopReceivedMessageQueue data.serverListener),
      takeValue .server]

/-- `Server::run`; `pollErrorMessages` is empty. -/
def serverRun : ManagerCode := loop (fun data => !data.quit) serverPollIncMessages

/-- The constructor of a `Server`. -/
def newServer : ManagerCode :=
  all
    [executeFunktion .control .createListener,
      takeValue .control,
      assign fun data =>
        match data.calls .control with
        | .returned (.listener handler) => { data with serverListener := handler }
        | _ => data,
      spawn .server serverRun]

def serverStartListening : ManagerCode :=
  read fun data => executeFunktion .control (.startListening data.serverListener)

/-- The destructor of a `Server`. -/
def serverDestroy : ManagerCode :=
  all
    [assign fun data => { data with quit := true },
      join .server,
      read fun data => executeFunktion .control (.destroyListener data.serverListener)]

def createLogger : ManagerCode :=
  read fun data =>
    if data.logger then skip
    else all
      [assign fun data => { data with logging := true, messages := 0 },
        spawn .log logThread,
        assign fun data => { data with logger := true }]

/-- `delete` ends the thread of the logger. -/
def destroyLogger : ManagerCode :=
  read fun data =>
    if data.logger then
      all [assign fun data => { data with logging := false }, join .log,
        assign fun data => { data with logger := false }]
    else skip

/-- `GameNetworkingSockets_Init` and `NetworkManager::init` may fail. -/
def initHTTP : ManagerCode :=
  read fun data =>
    if data.isHTTPInitialized then skip
    else all
      [createLogger,
        maybe (all
          [assign fun data => { data with steam := true, ticksAfterKill := 0 },
            init,
            read fun data =>
              if data.initialized then
                assign fun data => { data with isHTTPInitialized := true }
              else skip])]

def httpKill : ManagerCode :=
  all
    [destroyLogger,
      assign fun data => { data with steam := false },
      kill,
      assign fun data => { data with isHTTPInitialized := false }]

/-- `listenForCommands` is empty. -/
def main : ManagerCode :=
  all
    [initHTTP,
      read fun data =>
        if data.isHTTPInitialized then
          all [newServer, serverStartListening, httpKill, serverDestroy]
        else skip]

end ManagerCode

/-- `main` runs from the beginning on, and so do any other users of the manager, who may
have listeners of their own. -/
def programThreads (clients : Nat → List ApiCall) :
    Threads ManagerMutex ManagerThread SharedData where
  data := {}
  code
    | .control => [.run ManagerCode.main]
    | .client client =>
        [.run (.all ((clients client).map (ManagerCode.executeFunktion (.client client))))]
    | .network | .server | .listener _ | .log => []

/-- All interleavings of the threads of the program. -/
def programSystem (clients : Nat → List ApiCall) :
    TransitionSystem (Threads ManagerMutex ManagerThread SharedData) (ManagerThread × Bool) :=
  lockSystem fun threads => threads = programThreads clients

/-- No interleaving ever comes to a fault. -/
def OrderlyShutdown (clients : Nat → List ApiCall) : Prop :=
  ∀ threads, (programSystem clients).Reachable threads → threads.data.faults = []

def ApiCall.destroys : ApiCall → Bool
  | destroyListener _ => true
  | _ => false

def SharedFunction.destroys : SharedFunction → Bool
  | funktion _ call => call.destroys
  | connectionServed => false

/-- Nothing has gone wrong in the data. -/
structure OrderlyData (data : SharedData) : Prop where
  quit : data.quit = false
  ticks : data.ticksAfterKill ≤ 1
  steam : data.steam = true → data.ticksAfterKill = 0
  waiting : ∀ function ∈ data.functionCalls, function.destroys = false
  taken : ∀ function, data.taken = some function → function.destroys = false
  result : ∀ handler, data.result = .listener handler → data.listeners ≠ []
  returned : ∀ thread handler, data.calls thread = .returned (.listener handler) →
    data.listeners ≠ []

/-- The controlling thread has called nothing but `createListener`. -/
structure Creating (data : SharedData) : Prop where
  waiting : ∀ call, .funktion .control call ∈ data.functionCalls → call = .createListener
  taken : ∀ call, data.taken = some (.funktion .control call) → call = .createListener
  value : data.calls .control ≠ .returned .value

/-- What `OrderlyData` and the threads look at. -/
def SharedData.core (data : SharedData) :=
  (data.quit, data.ticksAfterKill, data.steam, data.functionCalls, data.taken, data.result,
    data.calls, data.listeners, data.logger)

/-- A thread knows of these that the others keep them. -/
inductive Relied : ManagerThread → (SharedData → Prop) → Prop
  | faults {thread : ManagerThread} : Relied thread fun _ => False
  | listeners : Relied .control fun data => data.listeners ≠ []
  | logger : Relied .control fun data => data.logger = false
  | creating : Relied .control Creating
  | answered : Relied .control fun data => data.calls .control ≠ .pending
  | ticks : Relied .network fun data => data.ticksAfterKill = 0
  | taken (accepts : Option SharedFunction → Prop) : Relied .network fun data => accepts data.taken
  | result (accepts : CallResult → Prop) : Relied .network fun data => accepts data.result

/-- After a fault, nothing more is said. -/
def UnlessFaulty (property : SharedData → Prop) (data : SharedData) : Prop :=
  data.faults = [] → property data

def shutdownContract : Contract ManagerThread SharedData where
  invariant := UnlessFaulty OrderlyData
  relies thread before after :=
    ∀ property, Relied thread property →
      UnlessFaulty property before → UnlessFaulty property after

section Core

variable {before after : SharedData}

theorem OrderlyData.of_core (orderly : OrderlyData before) (same : after.core = before.core) :
    OrderlyData after := by
  simp only [SharedData.core, Prod.mk.injEq] at same
  obtain ⟨quit, ticks, steam, waiting, taken, result, returned, listeners, -⟩ := same
  exact
    { quit := quit ▸ orderly.quit
      ticks := ticks ▸ orderly.ticks
      steam := by simpa only [steam, ticks] using orderly.steam
      waiting := by simpa only [waiting] using orderly.waiting
      taken := by simpa only [taken] using orderly.taken
      result := by simpa only [result, listeners] using orderly.result
      returned := by simpa only [returned, listeners] using orderly.returned }

theorem Relied.of_core {thread : ManagerThread} {property : SharedData → Prop}
    (relied : Relied thread property) (same : after.core = before.core)
    (holds : property before) : property after := by
  simp only [SharedData.core, Prod.mk.injEq] at same
  obtain ⟨-, ticks, -, waiting, taken, result, returned, listeners, logger⟩ := same
  cases relied with
  | faults => exact holds
  | listeners => simpa only [listeners] using holds
  | logger => simpa only [logger] using holds
  | creating =>
      exact
        { waiting := by simpa only [waiting] using holds.waiting
          taken := by simpa only [taken] using holds.taken
          value := by simpa only [returned] using holds.value }
  | answered => simpa only [returned] using holds
  | ticks => simpa only [ticks] using holds
  | taken accepts => simpa only [taken] using holds
  | result accepts => simpa only [result] using holds

end Core

/-- A thread may know this of the data. -/
structure Known (thread : ManagerThread) (property : SharedData → Prop) : Prop where
  stable : shutdownContract.Stable thread (UnlessFaulty property)
  core : ∀ before after : SharedData, after.core = before.core →
    property before → property after

section Known

variable {thread : ManagerThread} {property other : SharedData → Prop}

theorem known_always : Known thread fun _ => True :=
  ⟨fun _ _ _ _ _ _ => trivial, fun _ _ _ _ => trivial⟩

theorem Relied.known (relied : Relied thread property) : Known thread property :=
  ⟨fun _ _ relies _ => relies property relied, fun _ _ same holds => relied.of_core same holds⟩

theorem Known.and (first : Known thread property) (second : Known thread other) :
    Known thread fun data => property data ∧ other data where
  stable before after relies orderly both noFaults :=
    ⟨first.stable before after relies orderly (fun none => (both none).1) noFaults,
      second.stable before after relies orderly (fun none => (both none).2) noFaults⟩
  core before after same both :=
    ⟨first.core before after same both.1, second.core before after same both.2⟩

end Known

namespace ManagerCode

open Code

section Rules

variable {self : ManagerThread} {property known : SharedData → Prop} {code : ManagerCode}
  {update : SharedData → SharedData} {out : SharedData → Prop}

/-- The code keeps the property, up to faults. -/
abbrev Upholds (self : ManagerThread) (property : SharedData → Prop) (code : ManagerCode) :
    Prop :=
  Maintains shutdownContract self (UnlessFaulty property) code

/-- From data with the property, up to faults, the code ends with the other one. -/
abbrev Brings (self : ManagerThread) (property : SharedData → Prop) (code : ManagerCode)
    (known : SharedData → Prop) : Prop :=
  ∀ out, Triple shutdownContract self (UnlessFaulty property) code (UnlessFaulty known) out

theorem Brings.upholds (brings : Brings self property code property) :
    Upholds self property code :=
  brings _

/-- An assignment that leaves the faults alone may bring about what follows from the
property. -/
theorem brings_assign (stable : Known self property)
    (faults : ∀ data, (update data).faults = data.faults)
    (orderly : ∀ data, OrderlyData data → property data → OrderlyData (update data))
    (relied : ∀ other, other ≠ self → ∀ kept, Relied other kept →
      ∀ data, OrderlyData data → property data → kept data → kept (update data))
    (changes : ∀ data, OrderlyData data → property data → known (update data)) :
    Brings self property (assign update) known := by
  intro out
  refine triple_assign stable.stable fun data invariant holds => ⟨⟨?_, ?_⟩, ?_⟩
  · intro none
    rw [faults] at none
    exact orderly data (invariant none) (holds none)
  · intro other different kept relies before none
    rw [faults] at none
    exact relied other different kept relies data (invariant none) (holds none) (before none)
  · intro none
    rw [faults] at none
    exact changes data (invariant none) (holds none)

/-- An assignment to what nobody looks at. -/
theorem brings_quiet (stable : Known self property)
    (faults : ∀ data, (update data).faults = data.faults)
    (core : ∀ data, (update data).core = data.core) :
    Brings self property (assign update) property :=
  brings_assign stable faults (fun data orderly _ => orderly.of_core (core data))
    (fun _ _ _ relied data _ _ holds => relied.of_core (core data) holds)
    fun data _ holds => stable.core data (update data) (core data) holds

/-- After a fault, anything may be said. -/
theorem brings_fault {kind : ShutdownFault} (stable : Known self property) :
    Brings self property (fault kind) known := by
  intro out
  refine triple_assign stable.stable fun data _ _ => ⟨⟨?_, ?_⟩, ?_⟩
  · exact fun none => (List.cons_ne_nil kind data.faults none).elim
  · exact fun _ _ _ _ _ none => (List.cons_ne_nil kind data.faults none).elim
  · exact fun none => (List.cons_ne_nil kind data.faults none).elim

theorem brings_skip (stable : Known self property) : Brings self property skip property :=
  fun _ => triple_skip stable.stable

theorem upholds_exit (stable : Known self property) : Upholds self property exit :=
  triple_exit stable.stable

theorem upholds_maybe (stable : Known self property) (keeps : Upholds self property code) :
    Upholds self property (maybe code) :=
  keeps.choose (brings_skip stable _)

theorem upholds_all {codes : List ManagerCode} (stable : Known self property)
    (each : ∀ code ∈ codes, Upholds self property code) : Upholds self property (all codes) :=
  .all stable.stable each

theorem upholds_guarded {mutex : ManagerMutex} (stable : Known self property)
    (keeps : Upholds self property code) : Upholds self property (guarded mutex code) :=
  keeps.guarded stable.stable stable.stable

theorem brings_guarded {mutex : ManagerMutex} (stable : Known self property)
    (keeps : Brings self property code property) :
    Brings self property (guarded mutex code) property :=
  fun out => (keeps out).guarded stable.stable stable.stable

theorem brings_read {next : SharedData → ManagerCode} (stable : Known self property)
    (each : ∀ data, Brings self property (next data) known) :
    Brings self property (read next) known :=
  fun out => triple_read stable.stable fun data invariant holds =>
    each data out data invariant holds

theorem Brings.choose {other : ManagerCode} (first : Brings self property code known)
    (second : Brings self property other known) :
    Brings self property (.choose code other) known :=
  fun out => Triple.choose (first out) (second out)

theorem Brings.seq {middle : SharedData → Prop} {further : ManagerCode}
    (first : Brings self property code middle) (second : Brings self middle further known) :
    Brings self property (.seq code further) known :=
  fun out => (first out).seq (second out)

theorem upholds_loop {test : SharedData → Bool} (stable : Known self property)
    (keeps : Upholds self property code) : Brings self property (loop test code) property :=
  fun _ => Maintains.loop stable.stable keeps

theorem upholds_read {next : SharedData → ManagerCode} (stable : Known self property)
    (each : ∀ data, Upholds self property (next data)) : Upholds self property (read next) :=
  triple_read stable.stable fun data invariant holds => each data data invariant holds

end Rules

section Functions

variable {self : ManagerThread} {property : SharedData → Prop} {listener : HListener}

theorem upholds_quiet {update : SharedData → SharedData} (known : Known self property)
    (faults : ∀ data, (update data).faults = data.faults)
    (core : ∀ data, (update data).core = data.core) : Upholds self property (assign update) :=
  brings_quiet known faults core _

theorem brings_write (known : Known self property) :
    Brings self property (maybe write) property := by
  have pushes : Brings self property
      (assign fun data => { data with messages := data.messages + 1 }) property :=
    brings_quiet known (fun _ => rfl) fun _ => rfl
  exact (brings_guarded known pushes).choose (brings_skip known)

theorem brings_log (known : Known self property) : Brings self property log property := by
  refine brings_read known fun data => ?_
  split
  · exact brings_write known
  · exact brings_fault known

theorem upholds_log (known : Known self property) : Upholds self property log :=
  brings_log known _

theorem brings_adapter (known : Known self property) :
    Brings self property adapter property := by
  refine brings_read known fun data => ?_
  split
  · exact brings_skip known
  · exact brings_fault known

theorem upholds_adapter (known : Known self property) : Upholds self property adapter :=
  brings_adapter known _

theorem brings_notifyFunktionCall (known : Known self property) :
    Brings self property notifyFunktionCall property :=
  brings_guarded known (brings_quiet known (fun _ => rfl) fun _ => rfl)

/-- A function on the queue is not that of another thread. -/
theorem brings_pushFunction {function : SharedFunction} (known : Known self property)
    (keeps : ∀ data, property data → property
      { data with functionCalls := ThreadSaveQueue.push data.functionCalls function })
    (destroys : function.destroys = true → ∀ data, ¬ property data)
    (own : ∀ call, function = .funktion .control call → self = .control) :
    Brings self property (pushFunction function) property := by
  refine brings_guarded known (brings_assign known ?_ ?_ ?_ ?_)
  · exact fun _ => rfl
  · intro data orderly holds
    refine { orderly with waiting := fun other member => ?_ }
    rcases ThreadSaveQueue.mem_push.mp member with old | rfl
    · exact orderly.waiting other old
    · exact Bool.eq_false_iff.mpr fun destroying => destroys destroying data holds
  · intro other different kept relied data _ _ holds
    cases relied with
    | creating =>
        refine { holds with waiting := fun call member => ?_ }
        rcases ThreadSaveQueue.mem_push.mp member with old | pushed
        · exact holds.waiting call old
        · exact (different (own call pushed.symm).symm).elim
    | faults | listeners | logger | answered | ticks | taken | result => exact holds
  · exact fun data _ holds => keeps data holds

theorem upholds_connectionServed (known : Known self property)
    (keeps : ∀ data, property data → property
      { data with functionCalls := ThreadSaveQueue.push data.functionCalls .connectionServed }) :
    Upholds self property connectionServed := by
  refine upholds_read known fun data => ?_
  split
  · have pushes : Upholds self property (pushFunction .connectionServed) :=
      brings_pushFunction known keeps nofun nofun _
    have notifies : Upholds self property notifyFunktionCall := brings_notifyFunktionCall known _
    exact upholds_all known (by simp [notifies, pushes])
  · exact brings_skip known _

theorem upholds_useQueue {queue : ListenerQueue} (known : Known self property) :
    Upholds self property (useQueue listener queue) :=
  upholds_guarded known (brings_skip known _)

theorem upholds_initSocket (known : Known self property) : Upholds self property initSocket := by
  have logs := upholds_log known
  have calls := upholds_adapter known
  have fails : Upholds self property (maybe (all [adapter, log])) :=
    upholds_maybe known (upholds_all known (by simp [calls, logs]))
  have groups : Upholds self property (choose log (all [adapter, maybe (all [adapter, log])])) :=
    logs.choose (upholds_all known (by simp [calls, fails]))
  exact upholds_maybe known (upholds_all known (by simp [calls, groups]))

theorem upholds_listenerStartListening (known : Known self property) :
    Upholds self property (listenerStartListening listener) :=
  upholds_maybe known (upholds_guarded known (upholds_quiet known (fun _ => rfl) fun _ => rfl))

theorem upholds_listenerStopListening (known : Known self property) :
    Upholds self property (listenerStopListening listener) := by
  have stops : Upholds self property
      (assign fun data => data.setListening listener false) :=
    upholds_quiet known (fun _ => rfl) fun _ => rfl
  exact upholds_guarded known (upholds_all known (by simp [stops, upholds_log known]))

end Functions

/-- The thread knows nothing. -/
abbrev UpholdsNothing (self : ManagerThread) (code : ManagerCode) : Prop :=
  Upholds self (fun _ => True) code

section Threads

variable {self : ManagerThread} {listener : HListener}

theorem upholds_pollOutMessages : UpholdsNothing self (pollOutMessages listener) := by
  have serves : UpholdsNothing self connectionServed :=
    upholds_connectionServed known_always fun _ _ => trivial
  have sends : UpholdsNothing self (maybe (all [adapter, connectionServed])) :=
    upholds_maybe known_always
      (upholds_all known_always (by simp [upholds_adapter known_always, serves]))
  exact upholds_all known_always (by simp [upholds_useQueue known_always, sends])

theorem upholds_pollIncMessages {failed : ManagerCode} (fails : UpholdsNothing self failed) :
    UpholdsNothing self (pollIncMessages listener failed) := by
  have uses {queue : ListenerQueue} : UpholdsNothing self (useQueue listener queue) :=
    upholds_useQueue known_always
  have failing : UpholdsNothing self (all [log, useQueue listener .error, failed]) :=
    upholds_all known_always (by simp [upholds_log known_always, uses, fails])
  have receives : UpholdsNothing self (choose skip
      (choose (useQueue listener .received) (all [log, useQueue listener .error, failed]))) :=
    Triple.choose (brings_skip known_always _) (Triple.choose uses failing)
  exact upholds_all known_always (by simp [upholds_adapter known_always, receives])

theorem upholds_maybeExit : UpholdsNothing self (maybe exit) :=
  upholds_maybe known_always (upholds_exit known_always)

theorem upholds_pollMessages : UpholdsNothing self (pollMessages listener) := by
  have fails : UpholdsNothing self (all [listenerStopListening listener, exit]) :=
    upholds_all known_always
      (by simp [upholds_listenerStopListening known_always, upholds_exit known_always])
  have polls : UpholdsNothing self
      (pollOnce listener (all [listenerStopListening listener, exit])) :=
    upholds_all known_always (by simp [upholds_pollOutMessages, upholds_pollIncMessages fails])
  exact upholds_loop known_always
    (upholds_all known_always (by simp [polls, upholds_maybeExit])) _

theorem upholds_destroySocket : UpholdsNothing self (destroySocket listener) :=
  upholds_all known_always
    (by simp [upholds_adapter known_always, upholds_useQueue known_always])

theorem upholds_lock {mutex : ManagerMutex} : UpholdsNothing self (lock mutex) :=
  triple_lock known_always.stable

theorem upholds_unlock {mutex : ManagerMutex} : UpholdsNothing self (unlock mutex) :=
  triple_unlock known_always.stable

theorem upholds_release {mutex : ManagerMutex} : UpholdsNothing self (release mutex) :=
  triple_release known_always.stable

theorem upholds_wait {mutex : ManagerMutex} {predicate : SharedData → Bool} :
    UpholdsNothing self (wait mutex predicate) :=
  triple_wait known_always.stable

/-- A thread that goes on only under a test. -/
theorem upholds_goesOn {test : SharedData → Bool} :
    UpholdsNothing self (read fun data => if test data = true then skip else exit) := by
  refine upholds_read known_always fun data => ?_
  split
  · exact brings_skip known_always _
  · exact upholds_exit known_always

theorem upholds_listenerRun : UpholdsNothing self (listenerRun listener) := by
  have serves : UpholdsNothing self (loop (fun data => data.isServing listener)
      (pollMessages listener)) := upholds_loop known_always upholds_pollMessages _
  refine upholds_all known_always ?_
  simp only [List.forall_mem_cons, List.not_mem_nil, false_implies, implies_true, and_true]
  refine ⟨upholds_lock, upholds_loop known_always (upholds_all known_always ?_) _, upholds_release⟩
  simp [upholds_lock, upholds_unlock, upholds_wait, upholds_goesOn, upholds_log known_always,
    serves, upholds_destroySocket]

/-- What a thread runs from its start on keeps to the contract. -/
theorem started {code : ManagerCode} (keeps : UpholdsNothing self code) :
    Maintains shutdownContract self (fun _ => True) code :=
  (keeps.strengthen fun _ _ _ _ => trivial).weaken (fun _ _ _ => trivial) fun _ _ _ => trivial

theorem upholds_writeMessages : UpholdsNothing self writeMessages := by
  have takes : UpholdsNothing self
      (assign fun data => { data with messages := data.messages - 1 }) :=
    upholds_quiet known_always (fun _ => rfl) fun _ => rfl
  exact upholds_loop known_always
    (upholds_all known_always (by simp [takes, upholds_lock, upholds_unlock])) _

theorem upholds_logThread : UpholdsNothing self logThread := by
  refine upholds_loop known_always (upholds_all known_always ?_) _
  simp [upholds_lock, upholds_wait, upholds_writeMessages, upholds_release]

end Threads

section Calls

variable {self : ManagerThread} {property known : SharedData → Prop} {call : ApiCall}

/-- A thread notes what has become of its own call. -/
theorem brings_setCall {state : CallState} (stable : Known self property)
    (plain : ∀ handler, state ≠ .returned (.listener handler))
    (changes : ∀ data, property data →
      known { data with calls := Function.update data.calls self state }) :
    Brings self property (setCall self fun _ => state) known := by
  refine brings_assign stable (fun _ => rfl) ?_ ?_ ?_
  · intro data orderly _
    refine { orderly with returned := fun thread handler returned => ?_ }
    dsimp only at returned
    by_cases own : thread = self
    · subst own
      rw [Function.update_self] at returned
      exact (plain handler returned).elim
    · rw [Function.update_of_ne own] at returned
      exact orderly.returned thread handler returned
  · intro other different kept relied data _ _ holds
    have same (control : other = .control) :
        Function.update data.calls self state .control = data.calls .control :=
      Function.update_of_ne (control ▸ different) ..
    cases relied with
    | creating =>
        exact { holds with value := ne_of_eq_of_ne (same rfl) holds.value }
    | answered => exact ne_of_eq_of_ne (same rfl) holds
    | faults | listeners | logger | ticks | taken | result => exact holds
  · exact fun data _ holds => changes data holds

/-- What a thread knows when its call has come back. -/
theorem brings_executeFunktion (stable : Known self property)
    (destroys : call.destroys = true → ∀ data, ¬ property data)
    (waits : ∀ data, property data →
      property { data with calls := Function.update data.calls self .pending })
    (pushes : ∀ data, property data → property
      { data with functionCalls :=
          ThreadSaveQueue.push data.functionCalls (.funktion self call) })
    (fails : ∀ data, property data →
      known { data with calls := Function.update data.calls self (.returned .error) })
    (answers : ∀ data, property data → data.calls self ≠ .pending → known data)
    (further : Known self known) :
    Brings self property (executeFunktion self call) known := by
  intro out
  refine triple_read stable.stable fun data invariant holds => ?_
  split
  · have sets : Brings self property (setCall self fun _ => .pending) property :=
      brings_setCall stable (by simp) waits
    have pushed : Brings self property (pushFunction (.funktion self call)) property :=
      brings_pushFunction stable pushes destroys fun other same => by
        cases same
        rfl
    have notifies := brings_notifyFunktionCall stable
    have awaits : Brings self property
        (await .network fun data => decide (data.calls self ≠ .pending)) known :=
      fun out => triple_await stable.stable fun data _ holds ready none =>
        answers data (holds none) (of_decide_eq_true ready)
    have calls := sets.seq (pushed.seq (notifies.seq (Brings.seq awaits (brings_skip further))))
    exact calls out data invariant holds
  · exact brings_setCall stable (by simp) fails out data invariant holds

end Calls

section Network

variable {property known : SharedData → Prop} {listener : HListener}

/-- What the network thread may know while a function runs, whose result is not yet
there. -/
structure Running (property : SharedData → Prop) : Prop where
  known : Known .network property
  result : ∀ data result, property data → property { data with result := result }

/-- `returns` of a result that is no handle, or of the handle of a new listener. -/
theorem brings_returns {result : CallResult} (running : Running property)
    (plain : ∀ handler, result ≠ .listener handler) :
    Brings .network property (returns result) property := by
  refine brings_assign running.known (fun _ => rfl) ?_ ?_ ?_
  · exact fun data orderly _ =>
      { orderly with result := fun handler same => (plain handler same).elim }
  · intro other different kept relied data _ _ holds
    cases relied with
    | creating => exact { holds with }
    | ticks | taken | result => exact (different rfl).elim
    | faults | listeners | logger | answered => exact holds
  · exact fun data _ holds => running.result data result holds

theorem upholds_value (running : Running property) :
    Upholds .network property (returns .value) :=
  brings_returns running (by simp) _

theorem upholds_error (running : Running property) :
    Upholds .network property (returns .error) :=
  brings_returns running (by simp) _

theorem upholds_whenValid {code : ManagerCode} (running : Running property)
    (keeps : Upholds .network property code) :
    Upholds .network property (whenValid listener code) := by
  refine upholds_read running.known fun data => ?_
  split
  · exact keeps
  · exact upholds_error running

theorem upholds_closeConnections (known : Known .network property) :
    Upholds .network property closeConnections := by
  have ends : Upholds .network property (maybe exit) := upholds_maybe known (upholds_exit known)
  exact upholds_loop known (upholds_all known (by simp [ends, upholds_adapter known])) _

theorem upholds_coreStopListening (running : Running property) :
    Upholds .network property (coreStopListening listener) := by
  have known := running.known
  have stops : Upholds .network property
      (all [closeConnections, listenerStopListening listener, log, returns .value]) :=
    upholds_all known (by simp [upholds_closeConnections known,
      upholds_listenerStopListening known, upholds_log known, upholds_value running])
  exact upholds_whenValid running (Triple.choose (upholds_error running) stops)

theorem upholds_coreStartListening (running : Running property) :
    Upholds .network property (coreStartListening listener) := by
  have known := running.known
  have fails := upholds_error running
  have logs : Upholds .network property (choose (returns .error) (all [log, returns .value])) :=
    Triple.choose fails
      (upholds_all known (by simp [upholds_log known, upholds_value running]))
  have starts : Upholds .network property (choose (returns .error) (all
      [listenerStartListening listener,
        choose (returns .error) (all [log, returns .value])])) :=
    Triple.choose fails
      (upholds_all known (by simp [upholds_listenerStartListening known, logs]))
  exact upholds_whenValid running (Triple.choose fails
    (upholds_all known (by simp [upholds_initSocket known, starts])))

theorem upholds_listenerDestroy {self : ManagerThread} (known : Known self property) :
    Upholds self property (listenerDestroy listener) := by
  have stops : Upholds self property (assign fun data => data.setRunning listener false) :=
    upholds_quiet known (fun _ => rfl) fun _ => rfl
  have joins : Upholds self property (join (.listener listener)) := triple_join known.stable
  exact upholds_all known (by simp [stops, joins, upholds_log known])

/-- Only after a fault is a listener destroyed by a function. -/
theorem upholds_coreDestroyListener (running : Running property)
    (never : ∀ data, ¬ property data) :
    Upholds .network property (coreDestroyListener listener) := by
  have known := running.known
  have erases : Brings .network property
      (assign fun data => { data with listeners := data.listeners.erase listener }) property :=
    brings_assign known (fun _ => rfl) (fun data _ holds => (never data holds).elim)
      (fun _ _ _ _ data _ holds => (never data holds).elim)
      fun data _ holds => (never data holds).elim
  refine upholds_whenValid running (upholds_all known ?_)
  simp [upholds_coreStopListening running, upholds_log known, upholds_listenerDestroy known,
    erases.upholds, upholds_value running]

end Network

/-- The network thread runs the function. -/
def Processing (function : SharedFunction) (data : SharedData) : Prop :=
  data.taken = some function ∧ function.destroys = false

/-- The result is one that the call returns. -/
def Fits (call : ApiCall) (data : SharedData) : Prop :=
  call = .createListener → ∃ handler, data.result = .listener handler

section Function

variable {function : SharedFunction} {call : ApiCall}

theorem running_processing : Running (Processing function) where
  known := Relied.known
    (.taken fun taken => taken = some function ∧ function.destroys = false)
  result _ _ holds := holds

theorem known_fits : Known .network (Fits call) :=
  Relied.known
    (.result fun result => call = .createListener → ∃ handler, result = .listener handler)

theorem brings_coreCreateListener :
    Brings .network (Processing function) coreCreateListener
      fun data => Processing function data ∧ Fits call data := by
  have known : Known .network (Processing function) := running_processing.known
  refine brings_read known fun data => ?_
  have builds : Brings .network (Processing function)
      (assign fun later => { later with
        flags := Function.update later.flags data.listenerHandlerIndex {} })
      (Processing function) := brings_quiet known (fun _ => rfl) fun _ => rfl
  have starts : Brings .network (Processing function)
      (spawn (.listener data.listenerHandlerIndex) (listenerRun data.listenerHandlerIndex))
      (Processing function) := fun _ => triple_spawn known.stable (started upholds_listenerRun)
  have adds : Brings .network (Processing function)
      (assign fun later => { later with
        listeners := data.listenerHandlerIndex :: later.listeners
        listenerHandlerIndex := data.listenerHandlerIndex + 1
        result := .listener data.listenerHandlerIndex })
      fun later => Processing function later ∧ Fits call later := by
    refine brings_assign known (fun _ => rfl) ?_ ?_ ?_
    · exact fun later orderly _ =>
        { orderly with
          result := fun _ _ => List.cons_ne_nil _ _
          returned := fun _ _ _ => List.cons_ne_nil _ _ }
    · intro other different kept relied later _ _ holds
      cases relied with
      | listeners => exact List.cons_ne_nil _ _
      | creating => exact { holds with }
      | ticks | taken | result => exact (different rfl).elim
      | faults | logger | answered => exact holds
    · exact fun later _ holds => ⟨holds, fun _ => ⟨_, rfl⟩⟩
  exact builds.seq ((brings_log known).seq (starts.seq (adds.seq
    (brings_skip (known.and known_fits)))))

/-- A function returns what its call returns. -/
theorem triple_apiCall {caller : ManagerThread} :
    Triple shutdownContract .network (UnlessFaulty (Processing (.funktion caller call)))
      (apiCall call)
      (UnlessFaulty fun data => Processing (.funktion caller call) data ∧ Fits call data)
      (UnlessFaulty fun _ => True) := by
  have running : Running (Processing (.funktion caller call)) := running_processing
  have other {code : ManagerCode} (different : call ≠ .createListener)
      (keeps : Upholds .network (Processing (.funktion caller call)) code) :
      Triple shutdownContract .network (UnlessFaulty (Processing (.funktion caller call))) code
        (UnlessFaulty fun data => Processing (.funktion caller call) data ∧ Fits call data)
        (UnlessFaulty fun _ => True) :=
    keeps.weaken (fun _ _ holds none => ⟨holds none, fun same => (different same).elim⟩)
      fun _ _ _ _ => trivial
  have pops {listener : HListener} {queue : ListenerQueue} :
      Upholds .network (Processing (.funktion caller call))
        (all [useQueue listener queue, returns .value]) :=
    upholds_all running.known (by simp [upholds_useQueue running.known, upholds_value running])
  cases call with
  | createListener => exact brings_coreCreateListener _
  | destroyListener listener =>
      refine other nofun (upholds_coreDestroyListener running fun data holds => ?_)
      cases holds.2
  | startListening listener => exact other nofun (upholds_coreStartListening running)
  | stopListening listener => exact other nofun (upholds_coreStopListening running)
  | tryPopReceivedMessageQueue listener | tryPopErrorQueue listener =>
      exact other nofun (upholds_whenValid running pops)
  | pushOutgoingMessageQueue listener =>
      exact other nofun
        (upholds_whenValid running (Triple.choose (upholds_error running) pops))

/-- The controlling thread gets a handle for a listener that it creates. -/
theorem brings_setResult {caller : ManagerThread} :
    Brings .network
      (fun data => Processing (.funktion caller call) data ∧ Fits call data)
      (setCall caller fun data => .returned data.result) fun _ => True := by
  refine brings_assign (running_processing.known.and known_fits) (fun _ => rfl) ?_ ?_ ?_
  · intro data orderly _
    refine { orderly with returned := fun thread handler returned => ?_ }
    dsimp only at returned
    by_cases own : thread = caller
    · subst own
      rw [Function.update_self, CallState.returned.injEq] at returned
      exact orderly.result handler returned
    · rw [Function.update_of_ne own] at returned
      exact orderly.returned thread handler returned
  · intro other different kept relied data _ known holds
    obtain ⟨⟨taken, -⟩, fits⟩ := known
    cases relied with
    | creating =>
        by_cases own : caller = .control
        · subst own
          obtain ⟨handler, result⟩ := fits (holds.taken call taken)
          exact { holds with value := by simp [result] }
        · have same := Function.update_of_ne (Ne.symm own) (CallState.returned data.result)
            data.calls
          exact { holds with value := ne_of_eq_of_ne same holds.value }
    | answered =>
        by_cases own : caller = .control
        · subst own
          simp
        · exact ne_of_eq_of_ne (Function.update_of_ne (Ne.symm own) ..) holds
    | ticks | taken | result => exact (different rfl).elim
    | faults | listeners | logger => exact holds
  · exact fun _ _ _ => trivial

theorem triple_callFunction :
    Triple shutdownContract .network (UnlessFaulty (Processing function))
      (callFunction function) (UnlessFaulty fun _ => True) (UnlessFaulty fun _ => True) := by
  cases function with
  | funktion caller call =>
      exact triple_apiCall.seq ((brings_setResult _).seq (brings_skip known_always _))
  | connectionServed =>
      exact (brings_skip running_processing.known _).weaken (fun _ _ _ _ => trivial)
        fun _ _ => id

end Function

theorem upholds_tryPopFunction : UpholdsNothing .network tryPopFunction := by
  refine upholds_guarded known_always (brings_assign known_always ?_ ?_ ?_ ?_ _)
  · exact fun _ => rfl
  · exact fun data orderly _ =>
      { orderly with
        waiting := fun function member =>
          orderly.waiting function (ThreadSaveQueue.mem_of_mem_tryPop member)
        taken := fun function popped =>
          orderly.waiting function (ThreadSaveQueue.mem_of_tryPop_eq_some popped) }
  · intro other different kept relied data _ _ holds
    cases relied with
    | creating =>
        exact { holds with
          waiting := fun call member =>
            holds.waiting call (ThreadSaveQueue.mem_of_mem_tryPop member)
          taken := fun call popped =>
            holds.waiting call (ThreadSaveQueue.mem_of_tryPop_eq_some popped) }
    | ticks | taken | result => exact (different rfl).elim
    | faults | listeners | logger | answered => exact holds
  · exact fun _ _ _ => trivial

theorem upholds_callTaken : UpholdsNothing .network callTaken := by
  refine triple_read known_always.stable fun data invariant _ => ?_
  split
  · exact upholds_exit known_always data invariant fun _ => trivial
  next function taken =>
    refine triple_callFunction data invariant fun none => ?_
    exact ⟨taken, (invariant none).taken function taken⟩

theorem upholds_pollFunctionCalls : UpholdsNothing .network pollFunctionCalls := by
  have looks : UpholdsNothing .network (guarded .functionCalls skip) :=
    upholds_guarded known_always (brings_skip known_always _)
  refine upholds_loop known_always (upholds_all known_always ?_) _
  simp [looks, upholds_maybeExit, upholds_tryPopFunction, upholds_callTaken]

/-- The tick is the first one that ends without Steam. -/
abbrev FirstTick (data : SharedData) : Prop := data.ticksAfterKill = 0

theorem known_firstTick : Known .network FirstTick := Relied.known .ticks

/-- The thread has seen Steam, or there is a fault. -/
theorem brings_runCallbacks : Brings .network (fun _ => True) adapter FirstTick := by
  refine fun out => triple_read known_always.stable fun data invariant _ => ?_
  split
  next steam =>
    exact brings_skip known_firstTick out data invariant fun none => (invariant none).steam steam
  · exact brings_fault known_always out data invariant fun _ => trivial

theorem brings_callbacks : Brings .network FirstTick callbacks FirstTick := by
  have ends : Upholds .network FirstTick (maybe exit) :=
    upholds_maybe known_firstTick (upholds_exit known_firstTick)
  have calls : Upholds .network FirstTick (choose log adapter) :=
    Triple.choose (upholds_log known_firstTick) (upholds_adapter known_firstTick)
  exact upholds_loop known_firstTick
    (upholds_all known_firstTick (by simp [ends, calls]))

theorem brings_endTick :
    Brings .network FirstTick
      (assign fun data =>
        { data with ticksAfterKill := if data.steam then 0 else data.ticksAfterKill + 1 })
      fun _ => True := by
  refine brings_assign known_firstTick (fun _ => rfl) ?_ ?_ ?_
  · intro data orderly first
    refine { orderly with ticks := ?_, steam := fun steam => ?_ }
    · dsimp only
      rw [first]
      split <;> omega
    · dsimp only at steam ⊢
      rw [if_pos steam]
  · intro other different kept relied data _ _ holds
    cases relied with
    | creating => exact { holds with }
    | ticks | taken | result => exact (different rfl).elim
    | faults | listeners | logger | answered => exact holds
  · exact fun _ _ _ => trivial

theorem upholds_tick : UpholdsNothing .network tick := by
  have changes : Brings .network (fun _ => True) pollConnectionChanges FirstTick :=
    brings_runCallbacks.seq (brings_callbacks.seq (brings_skip known_firstTick))
  exact upholds_pollFunctionCalls.seq
    ((changes.seq (brings_endTick.seq (brings_skip known_always))) _)

theorem upholds_networkRun : UpholdsNothing .network networkRun := by
  have looks : UpholdsNothing .network (guarded .functionCalls skip) :=
    upholds_guarded known_always (brings_skip known_always _)
  have rests : UpholdsNothing .network
      (maybe (assign fun data => { data with busy := false })) :=
    upholds_maybe known_always (upholds_quiet known_always (fun _ => rfl) fun _ => rfl)
  have quiet : UpholdsNothing .network (maybe (all [guarded .functionCalls skip,
      maybe (assign fun data => { data with busy := false })])) :=
    upholds_maybe known_always (upholds_all known_always (by simp [looks, rests]))
  have ticks : UpholdsNothing .network (loop (fun data => data.busy || data.running)
      (all [tick, maybe (all [guarded .functionCalls skip,
        maybe (assign fun data => { data with busy := false })])])) :=
    upholds_loop known_always (upholds_all known_always (by simp [upholds_tick, quiet])) _
  refine upholds_all known_always ?_
  simp only [List.forall_mem_cons, List.not_mem_nil, false_implies, implies_true, and_true]
  refine ⟨upholds_lock, upholds_loop known_always (upholds_all known_always ?_) _,
    upholds_release⟩
  simp [upholds_lock, upholds_unlock, upholds_wait, upholds_goesOn, ticks]

theorem upholds_executeFunktion {self : ManagerThread} {call : ApiCall}
    (stays : call.destroys = false) : UpholdsNothing self (executeFunktion self call) := by
  refine brings_executeFunktion known_always ?_ ?_ ?_ ?_ ?_ known_always _
  · intro destroys
    rw [stays] at destroys
    cases destroys
  all_goals exact fun _ _ => by first | trivial | exact fun _ => trivial

theorem upholds_takeValue {self thread : ManagerThread} :
    UpholdsNothing self (takeValue thread) := by
  refine upholds_read known_always fun data => ?_
  split
  · exact brings_fault known_always _
  · exact brings_skip known_always _

theorem upholds_serverRun : UpholdsNothing .server serverRun := by
  refine upholds_loop known_always (upholds_read known_always fun data => ?_) _
  have calls : UpholdsNothing .server
      (executeFunktion .server (.tryPopReceivedMessageQueue data.serverListener)) :=
    upholds_executeFunktion rfl
  exact upholds_all known_always (by simp [calls, upholds_takeValue])

section Main

/-- There is a listener, which the destruction of the core will destroy. -/
abbrev HasListener (data : SharedData) : Prop := data.listeners ≠ []

/-- There is a listener, and no logger for the end of it. -/
abbrev Unlogged (data : SharedData) : Prop := HasListener data ∧ data.logger = false

/-- The controlling thread goes on only after a fault. -/
abbrev Never (_ : SharedData) : Prop := False

theorem known_creating : Known .control Creating := Relied.known .creating

theorem known_hasListener : Known .control HasListener := Relied.known .listeners

theorem known_unlogged : Known .control Unlogged := known_hasListener.and (Relied.known .logger)

theorem known_never : Known .control Never := Relied.known .faults

theorem brings_createListener :
    Brings .control Creating (executeFunktion .control .createListener)
      fun data => Creating data ∧ data.calls .control ≠ .pending := by
  refine brings_executeFunktion known_creating nofun ?_ ?_ ?_ ?_
    (known_creating.and (Relied.known .answered))
  · exact fun data holds => { holds with value := by simp }
  · intro data holds
    refine { holds with waiting := fun call member => ?_ }
    rcases ThreadSaveQueue.mem_push.mp member with old | same
    · exact holds.waiting call old
    · cases same
      rfl
  · exact fun data holds => ⟨{ holds with value := by simp }, by simp⟩
  · exact fun data holds returned => ⟨holds, returned⟩

/-- `createListener` returns an error or the handle of a listener. -/
theorem brings_takeValue :
    Brings .control (fun data => Creating data ∧ data.calls .control ≠ .pending)
      (takeValue .control) HasListener := by
  have known := known_creating.and (Relied.known .answered)
  refine fun out => triple_read known.stable fun data invariant holds => ?_
  split
  · exact brings_fault known out data invariant holds
  next noError =>
    refine brings_skip known_hasListener out data invariant fun none => ?_
    obtain ⟨creating, answered⟩ := holds none
    cases state : data.calls .control with
    | pending => exact (answered state).elim
    | returned result =>
        cases result with
        | error => exact (noError state).elim
        | value => exact (creating.value state).elim
        | listener handler => exact (invariant none).returned .control handler state

theorem brings_newServer : Brings .control Creating newServer HasListener := by
  have notes : Brings .control HasListener
      (assign fun data =>
        match data.calls .control with
        | .returned (.listener handler) => { data with serverListener := handler }
        | _ => data) HasListener := by
    refine brings_quiet known_hasListener (fun data => ?_) fun data => ?_
    · split <;> rfl
    · split <;> rfl
  have starts : Brings .control HasListener (spawn .server serverRun) HasListener :=
    fun _ => triple_spawn known_hasListener.stable (started upholds_serverRun)
  exact brings_createListener.seq (brings_takeValue.seq (notes.seq (starts.seq
    (brings_skip known_hasListener))))

theorem brings_serverStartListening :
    Brings .control HasListener serverStartListening HasListener := by
  refine brings_read known_hasListener fun data => ?_
  exact brings_executeFunktion known_hasListener nofun (fun _ => id) (fun _ => id)
    (fun _ => id) (fun _ holds _ => holds) known_hasListener

theorem brings_destroyLogger : Brings .control HasListener destroyLogger Unlogged := by
  refine fun out => triple_read known_hasListener.stable fun data invariant holds => ?_
  split
  · have stops : Brings .control HasListener
        (assign fun data => { data with logging := false }) HasListener :=
      brings_quiet known_hasListener (fun _ => rfl) fun _ => rfl
    have joins : Brings .control HasListener (join .log) HasListener :=
      fun _ => triple_join known_hasListener.stable
    have resets : Brings .control HasListener
        (assign fun data => { data with logger := false }) Unlogged := by
      refine brings_assign known_hasListener (fun _ => rfl) ?_ ?_ ?_
      · exact fun _ orderly _ => { orderly with }
      · intro other different kept relied data _ _ holds
        cases relied with
        | creating => exact { holds with }
        | logger => exact (different rfl).elim
        | faults | listeners | answered | ticks | taken | result => exact holds
      · exact fun _ _ holds => ⟨holds, rfl⟩
    exact (stops.seq (joins.seq (resets.seq (brings_skip known_unlogged)))) out data invariant
      holds
  next noLogger =>
    refine brings_skip known_unlogged out data invariant fun none => ⟨holds none, ?_⟩
    exact Bool.eq_false_iff.mpr noLogger

/-- After a fault, an assignment need not keep anything. -/
theorem brings_afterFault {update : SharedData → SharedData} {known : SharedData → Prop}
    (faults : ∀ data, (update data).faults = data.faults) :
    Brings .control Never (assign update) known :=
  brings_assign known_never faults (fun _ _ => False.elim) (fun _ _ _ _ _ _ => False.elim)
    fun _ _ => False.elim

/-- The logger is gone when a listener is destroyed. -/
theorem brings_listenerDestroy {listener : HListener} :
    Brings .control Unlogged (listenerDestroy listener) Never := by
  have stops : Brings .control Unlogged
      (assign fun data => data.setRunning listener false) Unlogged :=
    brings_quiet known_unlogged (fun _ => rfl) fun _ => rfl
  have joins : Brings .control Unlogged (join (.listener listener)) Unlogged :=
    fun _ => triple_join known_unlogged.stable
  have logs : Brings .control Unlogged log Never := by
    refine fun out => triple_read known_unlogged.stable fun data invariant holds => ?_
    split
    next logger =>
      refine brings_write known_never out data invariant fun none => ?_
      rw [(holds none).2] at logger
      cases logger
    · exact brings_fault known_unlogged out data invariant holds
  exact stops.seq (joins.seq (logs.seq (brings_skip known_never)))

theorem brings_destroyFirst : Brings .control Unlogged destroyFirst Unlogged := by
  refine brings_read known_unlogged fun data => ?_
  split
  · exact brings_skip known_unlogged
  next listener rest _ =>
    have drops : Brings .control Never
        (assign fun data => { data with listeners := rest }) Unlogged :=
      brings_afterFault fun _ => rfl
    exact brings_listenerDestroy.seq (drops.seq (brings_skip known_unlogged))

theorem brings_rotate :
    Brings .control Unlogged
      (assign fun data => { data with listeners := data.listeners.rotate 1 }) Unlogged := by
  have stays {listeners : List HListener} (some : listeners ≠ []) : listeners.rotate 1 ≠ [] :=
    fun none => some (List.rotate_eq_nil_iff.mp none)
  refine brings_assign known_unlogged (fun _ => rfl) ?_ ?_ ?_
  · exact fun data orderly holds =>
      { orderly with
        result := fun _ _ => stays holds.1
        returned := fun _ _ _ => stays holds.1 }
  · intro other different kept relied data _ _ holds
    cases relied with
    | listeners | logger | creating | answered => exact (different rfl).elim
    | faults | ticks | taken | result => exact holds
  · exact fun data _ holds => ⟨stays holds.1, holds.2⟩

/-- The core is gone only after a fault. -/
theorem brings_destroyCore : Brings .control Unlogged destroyCore Never := by
  refine fun out => Triple.loop known_unlogged.stable ?_ ?_
  · exact fun data invariant holds _ =>
      (brings_rotate.choose brings_destroyFirst) _ data invariant holds
  · exact fun data _ holds ends none => (holds none).1 (by simpa using ends)

theorem brings_kill : Brings .control Unlogged kill Never := by
  have ends : Brings .control Unlogged (assign fun data => { data with running := false })
      Unlogged := brings_quiet known_unlogged (fun _ => rfl) fun _ => rfl
  have joins : Brings .control Unlogged (join .network) Unlogged :=
    fun _ => triple_join known_unlogged.stable
  refine (brings_guarded known_unlogged ends).seq (joins.seq (brings_destroyCore.seq
    ((brings_afterFault ?_).seq ((brings_afterFault ?_).seq
      ((brings_guarded known_never (brings_afterFault ?_)).seq (brings_skip known_never))))))
  all_goals exact fun _ => rfl

/-- `HTTP_Kill` does not return without a fault. -/
theorem brings_httpKill : Brings .control HasListener httpKill Never := by
  have kills : Brings .control Unlogged (assign fun data => { data with steam := false })
      Unlogged := by
    refine brings_assign known_unlogged (fun _ => rfl) ?_ ?_ fun _ _ holds => holds
    · exact fun _ orderly _ => { orderly with steam := nofun }
    · intro other different kept relied data _ _ holds
      cases relied with
      | listeners | logger | creating | answered => exact (different rfl).elim
      | faults | ticks | taken | result => exact holds
  have resets : Brings .control Never
      (assign fun data => { data with isHTTPInitialized := false }) Never :=
    brings_afterFault fun _ => rfl
  exact brings_destroyLogger.seq (kills.seq (brings_kill.seq (resets.seq
    (brings_skip known_never))))

theorem brings_serverDestroy : Brings .control Never serverDestroy Never := by
  have quits : Brings .control Never (assign fun data => { data with quit := true }) Never :=
    brings_afterFault fun _ => rfl
  have joins : Brings .control Never (join .server) Never :=
    fun _ => triple_join known_never.stable
  have destroys : Brings .control Never
      (read fun data => executeFunktion .control (.destroyListener data.serverListener)) Never :=
    brings_read known_never fun data =>
      brings_executeFunktion known_never (fun _ _ => id) (fun _ => id) (fun _ => id)
        (fun _ => id) (fun _ holds _ => holds) known_never
  exact quits.seq (joins.seq (destroys.seq (brings_skip known_never)))

theorem brings_createLogger : Brings .control Creating createLogger Creating := by
  refine brings_read known_creating fun data => ?_
  split
  · exact brings_skip known_creating
  · have builds : Brings .control Creating
        (assign fun data => { data with logging := true, messages := 0 }) Creating :=
      brings_quiet known_creating (fun _ => rfl) fun _ => rfl
    have starts : Brings .control Creating (spawn .log logThread) Creating :=
      fun _ => triple_spawn known_creating.stable (started upholds_logThread)
    have sets : Brings .control Creating
        (assign fun data => { data with logger := true }) Creating := by
      refine brings_assign known_creating (fun _ => rfl) ?_ ?_ ?_
      · exact fun _ orderly _ => { orderly with }
      · intro other different kept relied data _ _ holds
        cases relied with
        | listeners | logger | creating | answered => exact (different rfl).elim
        | faults | ticks | taken | result => exact holds
      · exact fun _ _ holds => { holds with }
    exact builds.seq (starts.seq (sets.seq (brings_skip known_creating)))

theorem brings_init : Brings .control Creating init Creating := by
  refine brings_read known_creating fun data => ?_
  split
  · exact brings_skip known_creating
  · have runs : Brings .control Creating (assign fun data => { data with running := true })
        Creating := brings_quiet known_creating (fun _ => rfl) fun _ => rfl
    have sets : Brings .control Creating (assign fun data => { data with initialized := true })
        Creating := brings_quiet known_creating (fun _ => rfl) fun _ => rfl
    have starts : Brings .control Creating (spawn .network networkRun) Creating :=
      fun _ => triple_spawn known_creating.stable (started upholds_networkRun)
    have succeeds := runs.seq (sets.seq (starts.seq (brings_skip known_creating)))
    exact (brings_adapter known_creating).seq
      ((succeeds.choose (brings_skip known_creating)).seq (brings_skip known_creating))

theorem brings_initHTTP : Brings .control Creating initHTTP Creating := by
  refine brings_read known_creating fun data => ?_
  split
  · exact brings_skip known_creating
  · have inits : Brings .control Creating
        (assign fun data => { data with steam := true, ticksAfterKill := 0 }) Creating := by
      refine brings_assign known_creating (fun _ => rfl) ?_ ?_ ?_
      · exact fun _ orderly _ => { orderly with ticks := Nat.zero_le 1, steam := fun _ => rfl }
      · intro other different kept relied data _ _ holds
        cases relied with
        | listeners | logger | creating | answered => exact (different rfl).elim
        | ticks => rfl
        | faults | taken | result => exact holds
      · exact fun _ _ holds => { holds with }
    have succeeds : Brings .control Creating
        (read fun data =>
          if data.initialized then
            assign fun data => { data with isHTTPInitialized := true }
          else skip) Creating := by
      refine brings_read known_creating fun data => ?_
      split
      · exact brings_quiet known_creating (fun _ => rfl) fun _ => rfl
      · exact brings_skip known_creating
    have starts := inits.seq (brings_init.seq (succeeds.seq (brings_skip known_creating)))
    exact brings_createLogger.seq ((starts.choose (brings_skip known_creating)).seq
      (brings_skip known_creating))

theorem brings_main : Brings .control Creating main fun _ => True := by
  have rest : Brings .control Creating
      (read fun data =>
        if data.isHTTPInitialized then
          all [newServer, serverStartListening, httpKill, serverDestroy]
        else skip) fun _ => True := by
    refine brings_read known_creating fun data => ?_
    split
    · have ends := brings_newServer.seq (brings_serverStartListening.seq
        (brings_httpKill.seq (brings_serverDestroy.seq (brings_skip known_never))))
      exact fun out => (ends out).weaken (fun _ _ _ _ => trivial) fun _ _ => id
    · exact fun out =>
        (brings_skip known_creating out).weaken (fun _ _ _ _ => trivial) fun _ _ => id
  exact brings_initHTTP.seq (rest.seq (brings_skip known_always))

end Main

end ManagerCode

/-- The other users of the manager keep their listeners. -/
def NeverDestroys (clients : Nat → List ApiCall) : Prop :=
  ∀ client, ∀ call ∈ clients client, call.destroys = false

theorem orderly_programThreads (clients : Nat → List ApiCall) :
    OrderlyData (programThreads clients).data where
  quit := rfl
  ticks := Nat.zero_le 1
  steam := nofun
  waiting := nofun
  taken := nofun
  result := by simp [programThreads]
  returned := by simp [programThreads]

theorem fulfilled_programThreads {clients : Nat → List ApiCall} (keep : NeverDestroys clients) :
    Fulfilled shutdownContract (programThreads clients) where
  invariant _ := orderly_programThreads clients
  holds thread := by
    have orderly : shutdownContract.invariant (programThreads clients).data :=
      fun _ => orderly_programThreads clients
    cases thread with
    | network | server | listener | log => trivial
    | control =>
        have creating : Creating (programThreads clients).data :=
          { waiting := nofun, taken := nofun, value := nofun }
        have holds := ManagerCode.brings_main (fun _ => True) _ orderly fun _ => creating
        exact Code.holds_mono (fun _ _ _ => trivial) (fun _ _ => id) orderly holds
    | client client =>
        have calls : ManagerCode.UpholdsNothing (.client client)
            (.all ((clients client).map (ManagerCode.executeFunktion (.client client)))) := by
          refine ManagerCode.upholds_all known_always ?_
          simp only [List.mem_map, forall_exists_index, and_imp, forall_apply_eq_imp_iff₂]
          exact fun call member => ManagerCode.upholds_executeFunktion (keep client call member)
        exact ManagerCode.started calls _ orderly trivial

open ManagerThread in
/-- `main` up to `GameNetworkingSockets_Kill`, with a listener that listens. -/
def mainRun : List (ManagerThread × Bool) :=
  -- `initHTTP`, and the call of `createListener`, which the network thread answers
  List.replicate 55 (control, true) ++
  List.replicate 43 (network, false) ++ [(network, true)] ++
  List.replicate 12 (network, false) ++
  -- the call of `startListening`, which succeeds
  List.replicate 28 (control, true) ++
  List.replicate 24 (network, false) ++ [(network, true)] ++
  List.replicate 16 (network, false) ++
  [(network, true)] ++ List.replicate 9 (network, false) ++ [(network, true)] ++
  List.replicate 12 (network, false) ++
  -- the logger writes its messages and ends
  List.replicate 8 (control, true) ++ List.replicate 30 (log, true) ++
  List.replicate 5 (control, true)

open ManagerThread in
/-- Steam ends, the queue of functions is empty, and the network thread calls the adapter. -/
def shutdownRun : List (ManagerThread × Bool) :=
  mainRun ++ (control, true) ::
    List.replicate 10 (network, false) ++ [(network, true)] ++ List.replicate 5 (network, false)

open ManagerThread in
/-- The network thread has polled the callbacks when Steam ends, and comes to the end of this
tick. -/
def lastTickRun : List (ManagerThread × Bool) :=
  mainRun ++ List.replicate 10 (network, false) ++ [(network, true)] ++
    List.replicate 9 (network, false) ++ [(control, true), (network, true)] ++
    List.replicate 6 (network, false)

theorem run_shutdownRun :
    ((programSystem fun _ => []).run (programThreads fun _ => []) shutdownRun).map
        (fun last => (last.data.faults, (last.data.flags 1).listening)) =
      some ([.adapterAfterKill], true) := by
  decide +kernel

theorem run_lastTickRun :
    ((programSystem fun _ => []).run (programThreads fun _ => []) lastTickRun).map
        (fun last => (last.data.faults, last.data.steam, last.data.ticksAfterKill)) =
      some ([], false, 1) := by
  decide +kernel

/-- The users of the manager besides `main` need not move. -/
theorem reachable_of_run_main (clients : Nat → List ApiCall)
    {actions : List (ManagerThread × Bool)}
    {last : Threads ManagerMutex ManagerThread SharedData}
    (own : ∀ action ∈ actions, action.1 = .control ∨ action.1 = .network ∨ action.1 = .log)
    (runs : (programSystem fun _ => []).run (programThreads fun _ => []) actions = some last) :
    ∃ threads, (programSystem clients).Reachable threads ∧ threads.data = last.data := by
  let other : ManagerThread → Option (List (Frame ManagerMutex ManagerThread SharedData))
    | .client client => some ((programThreads clients).code (.client client))
    | _ => none
  have same : (programThreads fun _ => []).withCode other = programThreads clients := by
    refine congrArg (Threads.mk _ _) (funext fun thread => ?_)
    cases thread <;> rfl
  have busy : Busy (programThreads fun _ => []) other := by
    intro thread waits
    cases thread with
    | client client => exact List.cons_ne_nil _ _
    | network | control | server | listener | log => exact (waits rfl).elim
  have moving : ∀ action ∈ actions, other action.1 = none := by
    intro action member
    rcases own action member with own | own | own <;> rw [own]
  have otherRuns : (programSystem clients).run (programThreads clients) actions =
      some (last.withCode other) :=
    same ▸ run_withCode busy moving runs
  exact ⟨_, TransitionSystem.reachable_of_run rfl otherRuns, rfl⟩

theorem reachable_shutdownRun (clients : Nat → List ApiCall) :
    ∃ threads, (programSystem clients).Reachable threads ∧
      (threads.data.flags 1).listening = true ∧ threads.data.faults = [.adapterAfterKill] := by
  obtain ⟨last, runs, ends⟩ := Option.map_eq_some_iff.mp run_shutdownRun
  obtain ⟨faults, listening⟩ := Prod.mk.inj ends
  obtain ⟨threads, reached, same⟩ := reachable_of_run_main clients (by decide +kernel) runs
  exact ⟨threads, reached, same ▸ listening, same ▸ faults⟩

/-- Whoever else uses the manager, some shutdown goes wrong; and where nobody destroys
the listeners, one goes wrong before `HTTP_Kill` returns, and before the network thread
ends a second tick without Steam. -/
theorem no_orderly_shutdown (clients : Nat → List ApiCall) :
    ¬ OrderlyShutdown clients ∧
      (NeverDestroys clients → ∀ threads, (programSystem clients).Reachable threads →
        threads.data.faults = [] →
          threads.data.quit = false ∧ threads.data.ticksAfterKill ≤ 1) := by
  constructor
  · intro orderly
    obtain ⟨threads, reached, -, faults⟩ := reachable_shutdownRun clients
    rw [orderly threads reached] at faults
    cases faults
  · intro keep threads reached none
    have starts : ∀ threads, threads = programThreads clients →
        Fulfilled shutdownContract threads := by
      rintro _ rfl
      exact fulfilled_programThreads keep
    have orderly := shutdownContract.invariant_of_reachable starts reached none
    exact ⟨orderly.quit, orderly.ticks⟩

/-- One tick may end without Steam before anything goes wrong. -/
theorem no_orderly_shutdown_lastTick :
    ∃ threads,
      (programSystem fun _ => [.createListener, .startListening 1]).Reachable threads ∧
      (threads.data.steam = false ∧ threads.data.ticksAfterKill = 1) ∧
      threads.data.quit = false ∧ threads.data.ticksAfterKill ≤ 1 := by
  obtain ⟨last, runs, ends⟩ := Option.map_eq_some_iff.mp run_lastTickRun
  obtain ⟨faults, steam, ticks⟩ : last.data.faults = [] ∧ last.data.steam = false ∧
      last.data.ticksAfterKill = 1 := by simpa using ends
  obtain ⟨threads, reached, same⟩ := reachable_of_run_main
    (fun _ => [.createListener, .startListening 1]) (by decide +kernel) runs
  rw [← same] at faults steam ticks
  exact ⟨threads, reached, ⟨steam, ticks⟩, (no_orderly_shutdown _).2
    (by simp [NeverDestroys, ApiCall.destroys]) threads reached faults⟩

/-- The `Server` of `main` listens when the network thread calls the adapter after
`GameNetworkingSockets_Kill`. -/
theorem disorderly_shutdown_of_main :
    ∃ threads, (programSystem fun _ => []).Reachable threads ∧
      (threads.data.flags 1).listening = true ∧ threads.data.faults = [.adapterAfterKill] :=
  reachable_shutdownRun fun _ => []

end HttpServer
