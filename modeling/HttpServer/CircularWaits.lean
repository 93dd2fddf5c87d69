import HttpServer.Library.LockOrder
import HttpServer.ManagerThreads

/-!
# No circular wait

A thread that owns `m_ListenMutex` may lock the mutex of the logger, and no thread
locks any other mutex while it owns one.  A thread that joins another one or waits for
a promise owns no mutex, and these waits only go from clients and `kill` to the network
thread, and from these to the listeners' threads.
-/

namespace HttpServer

open ThreadCode

/-- The mutexes of the queues and of the logger are below the other two, and a thread
is only waited for by those above it. -/
def managerOrder : Order ManagerMutex ManagerThread where
  level
    | .manager | .listen _ => 1
    | .functionCalls | .log | .queue _ _ => 0
  rank
    | .control | .server | .client _ => 3
    | .network => 2
    | .listener _ => 1
    | .log => 0

namespace ManagerCode

open Code

variable {self : ManagerThread} {held : List ManagerMutex} {listener : HListener}

/-- The code may be run by the thread with these mutexes. -/
abbrev Keeps (self : ManagerThread) (held : List ManagerMutex) (code : ManagerCode) : Prop :=
  Neutral managerOrder self held code

theorem keeps_maybe {code : ManagerCode} (keeps : Keeps self held code) :
    Keeps self held (maybe code) :=
  keeps.choose neutral_skip

theorem keeps_all {codes : List ManagerCode} (each : ∀ code ∈ codes, Keeps self held code) :
    Keeps self held (all codes) :=
  .all each

theorem keeps_guarded {mutex : ManagerMutex} {code : ManagerCode}
    (inner : Keeps self [mutex] code) : Keeps self [] (guarded mutex code) :=
  Neutral.guarded nofun inner

theorem keeps_log (above : ∀ mutex ∈ held, 0 < managerOrder.level mutex) :
    Keeps self held log := by
  refine .read fun data => ?_
  split
  · exact keeps_maybe (Neutral.guarded above neutral_assign)
  · exact neutral_assign

theorem keeps_adapter : Keeps self held adapter := by
  refine .read fun data => ?_
  split
  · exact neutral_skip
  · exact neutral_assign

theorem keeps_notifyFunktionCall : Keeps self [] notifyFunktionCall :=
  keeps_guarded neutral_assign

theorem keeps_pushFunction {function : SharedFunction} :
    Keeps self [] (pushFunction function) :=
  keeps_guarded neutral_assign

theorem keeps_useQueue {queue : ListenerQueue} : Keeps self [] (useQueue listener queue) :=
  keeps_guarded neutral_skip

theorem keeps_connectionServed : Keeps self [] connectionServed := by
  refine .read fun data => ?_
  split
  · exact keeps_all (by simp [keeps_notifyFunktionCall, keeps_pushFunction])
  · exact neutral_skip

theorem keeps_setCall {thread : ManagerThread} {call : SharedData → CallState} :
    Keeps self held (setCall thread call) :=
  neutral_assign

theorem keeps_executeFunktion {caller : ManagerThread} {call : ApiCall}
    (below : managerOrder.rank .network < managerOrder.rank self) :
    Keeps self [] (executeFunktion caller call) := by
  refine .read fun data => ?_
  split
  · refine keeps_all ?_
    simp [keeps_setCall, keeps_pushFunction, keeps_notifyFunktionCall, neutral_await below]
  · exact keeps_setCall

/-- `m_ListenMutex` is held while the message is logged. -/
theorem keeps_listenerStopListening : Keeps self [] (listenerStopListening listener) := by
  have logs : Keeps self [.listen listener] log := keeps_log (by simp [managerOrder])
  refine keeps_guarded (keeps_all ?_)
  simp [neutral_assign, logs]

theorem keeps_listenerStartListening : Keeps self [] (listenerStartListening listener) :=
  keeps_maybe (keeps_guarded neutral_assign)

theorem keeps_log_free : Keeps self [] log := keeps_log nofun

theorem keeps_initSocket : Keeps self [] initSocket := by
  have fails : Keeps self [] (maybe (all [adapter, log])) :=
    keeps_maybe (keeps_all (by simp [keeps_adapter, keeps_log_free]))
  have groups : Keeps self [] (choose log (all [adapter, maybe (all [adapter, log])])) :=
    keeps_log_free.choose (keeps_all (by simp [keeps_adapter, fails]))
  exact keeps_maybe (keeps_all (by simp [keeps_adapter, groups]))

theorem keeps_pollOutMessages : Keeps self [] (pollOutMessages listener) := by
  have sends : Keeps self [] (maybe (all [adapter, connectionServed])) :=
    keeps_maybe (keeps_all (by simp [keeps_adapter, keeps_connectionServed]))
  exact keeps_all (by simp [keeps_useQueue, sends])

theorem leaving_pollIncMessages {failed : ManagerCode}
    (fails : Leaving managerOrder self [] failed) :
    Leaving managerOrder self [] (pollIncMessages listener failed) := by
  have failing : Leaving managerOrder self [] (all [log, useQueue listener .error, failed]) :=
    .all (by simp [keeps_log_free.leaving, keeps_useQueue.leaving, fails])
  have receives : Leaving managerOrder self [] (choose skip
      (choose (useQueue listener .received) (all [log, useQueue listener .error, failed]))) :=
    neutral_skip.leaving.choose (keeps_useQueue.leaving.choose failing)
  exact .all (by simp [keeps_adapter.leaving, receives])

theorem leaving_pollOnce {failed : ManagerCode} (fails : Leaving managerOrder self [] failed) :
    Leaving managerOrder self [] (pollOnce listener failed) := by
  refine .all ?_
  simp [keeps_pollOutMessages.leaving, leaving_pollIncMessages fails]

theorem keeps_pollMessages : Keeps self [] (pollMessages listener) := by
  have fails : Leaving managerOrder self [] (all [listenerStopListening listener, exit]) :=
    .all (by simp [keeps_listenerStopListening.leaving, leaving_exit])
  have ends : Leaving managerOrder self [] (maybe exit) :=
    leaving_exit.choose neutral_skip.leaving
  exact .loop (.all (by simp [leaving_pollOnce fails, ends]))

theorem keeps_destroySocket : Keeps self [] (destroySocket listener) :=
  keeps_all (by simp [keeps_adapter, keeps_useQueue])

/-- The mutex is owned at the test of the loop, and nowhere in its body but in `wait`. -/
theorem keeps_listenerRun : Keeps self [] (listenerRun listener) := by
  have serves : Keeps self [] (loop (fun data => data.isServing listener)
      (pollMessages listener)) := .loop keeps_pollMessages.leaving
  intro post out holds
  refine ⟨nofun, fun held => held = [.listen listener], rfl, ?_⟩
  rintro _ rfl
  have ends : (all [release (.listen listener)] : ManagerCode).wp managerOrder self post out
      [.listen listener] := by
    simpa [Code.all, Code.wp] using holds
  have waits : Keeps self [.listen listener] (wait (.listen listener) fun data =>
      !(data.flags listener).running || (data.flags listener).listening) := neutral_wait
  refine ⟨ends, waits _ out ⟨List.mem_singleton_self _, ?_⟩⟩
  rw [List.erase_cons_head]
  intro data
  dsimp only
  split
  · refine keeps_log_free _ _ (serves _ out (keeps_log_free _ _ (keeps_destroySocket _ _ ?_)))
    exact ⟨nofun, rfl⟩
  · exact holds

section Core

/-- The listener's thread needs no mutex that its destroyer owns. -/
theorem keeps_listenerDestroy
    (above : managerOrder.rank (.listener listener) < managerOrder.rank self) :
    Keeps self [] (listenerDestroy listener) :=
  keeps_all (by simp [neutral_assign, neutral_join above, keeps_log_free])

theorem keeps_returns {result : CallResult} : Keeps self held (returns result) :=
  neutral_assign

theorem keeps_whenValid {code : ManagerCode} (keeps : Keeps self [] code) :
    Keeps self [] (whenValid listener code) := by
  refine .read fun data => ?_
  split
  · exact keeps
  · exact keeps_returns

theorem leaving_maybeExit : Leaving managerOrder self held (maybe exit) :=
  leaving_exit.choose neutral_skip.leaving

theorem keeps_closeConnections : Keeps self [] closeConnections :=
  .loop (.all (by simp [leaving_maybeExit, keeps_adapter.leaving]))

theorem keeps_coreStopListening : Keeps self [] (coreStopListening listener) := by
  have stops : Keeps self []
      (all [closeConnections, listenerStopListening listener, log, returns .value]) :=
    keeps_all (by simp [keeps_closeConnections, keeps_listenerStopListening, keeps_log_free,
      keeps_returns])
  exact keeps_whenValid (keeps_returns.choose stops)

theorem keeps_coreDestroyListener
    (above : managerOrder.rank (.listener listener) < managerOrder.rank self) :
    Keeps self [] (coreDestroyListener listener) := by
  refine keeps_whenValid (keeps_all ?_)
  simp [keeps_coreStopListening, keeps_log_free, keeps_listenerDestroy above, neutral_assign,
    keeps_returns]

theorem keeps_coreStartListening : Keeps self [] (coreStartListening listener) := by
  have logs : Keeps self [] (choose (returns .error) (all [log, returns .value])) :=
    keeps_returns.choose (keeps_all (by simp [keeps_log_free, keeps_returns]))
  have starts : Keeps self [] (choose (returns .error) (all
      [listenerStartListening listener,
        choose (returns .error) (all [log, returns .value])])) :=
    keeps_returns.choose (keeps_all (by simp [keeps_listenerStartListening, logs]))
  exact keeps_whenValid (keeps_returns.choose (keeps_all (by simp [keeps_initSocket, starts])))

theorem keeps_coreCreateListener : Keeps self [] coreCreateListener := by
  refine .read fun data => keeps_all ?_
  simp [neutral_assign, keeps_log_free, Neutral.spawn keeps_listenerRun]

end Core

theorem keeps_apiCall (call : ApiCall) : Keeps .network [] (apiCall call) := by
  have below (listener : HListener) : managerOrder.rank (.listener listener) <
      managerOrder.rank .network := Nat.lt_succ_self 1
  have pops {listener : HListener} {queue : ListenerQueue} :
      Keeps .network [] (all [useQueue listener queue, returns .value]) :=
    keeps_all (by simp [keeps_useQueue, keeps_returns])
  cases call with
  | createListener => exact keeps_coreCreateListener
  | destroyListener listener => exact keeps_coreDestroyListener (below listener)
  | startListening listener => exact keeps_coreStartListening
  | stopListening listener => exact keeps_coreStopListening
  | tryPopReceivedMessageQueue listener => exact keeps_whenValid pops
  | pushOutgoingMessageQueue listener => exact keeps_whenValid (keeps_returns.choose pops)
  | tryPopErrorQueue listener => exact keeps_whenValid pops

theorem keeps_callFunction (function : SharedFunction) :
    Keeps .network [] (callFunction function) := by
  cases function with
  | funktion caller call => exact keeps_all (by simp [keeps_apiCall, keeps_setCall])
  | connectionServed => exact neutral_skip

theorem keeps_tryPopFunction : Keeps self [] tryPopFunction :=
  keeps_guarded neutral_assign

theorem leaving_callTaken : Leaving managerOrder .network [] callTaken := by
  refine .read fun data => ?_
  split
  · exact leaving_exit
  · exact (keeps_callFunction _).leaving

theorem keeps_pollFunctionCalls : Keeps .network [] pollFunctionCalls := by
  have looks : Keeps .network [] (guarded .functionCalls skip) := keeps_guarded neutral_skip
  refine .loop (.all ?_)
  simp [looks.leaving, leaving_maybeExit, keeps_tryPopFunction.leaving, leaving_callTaken]

theorem keeps_pollConnectionChanges : Keeps self [] pollConnectionChanges := by
  have calls : Leaving managerOrder self [] (choose log adapter) :=
    keeps_log_free.leaving.choose keeps_adapter.leaving
  have runs : Keeps self [] callbacks := .loop (.all (by simp [leaving_maybeExit, calls]))
  exact keeps_all (by simp [keeps_adapter, runs])

theorem keeps_tick : Keeps .network [] tick :=
  keeps_all (by simp [keeps_pollFunctionCalls, keeps_pollConnectionChanges, neutral_assign])

/-- The loop may be left with the mutex owned. -/
theorem keeps_networkRun : Keeps .network [] networkRun := by
  have looks : Keeps .network [] (guarded .functionCalls skip) := keeps_guarded neutral_skip
  have rests : Keeps .network [] (maybe (assign fun data => { data with busy := false })) :=
    keeps_maybe neutral_assign
  have quiet : Keeps .network [] (maybe (all [guarded .functionCalls skip,
      maybe (assign fun data => { data with busy := false })])) :=
    keeps_maybe (keeps_all (by simp [looks, rests]))
  have ticks : Keeps .network [] (loop (fun data => data.busy || data.running)
      (all [tick, maybe (all [guarded .functionCalls skip,
        maybe (assign fun data => { data with busy := false })])])) :=
    .loop (Neutral.leaving (keeps_all (by simp [keeps_tick, quiet])))
  intro post out holds
  refine ⟨nofun, fun held => held = [.manager], rfl, ?_⟩
  rintro _ rfl
  have ends : (all [release .manager] : ManagerCode).wp managerOrder .network post out
      [.manager] := by
    simpa [Code.all, Code.wp] using holds
  have waits : Keeps .network [.manager]
      (wait .manager fun data => data.busy || !data.running) := neutral_wait
  refine ⟨ends, waits _ out fun data => ?_⟩
  dsimp only
  split
  · refine ⟨List.mem_singleton_self _, ?_⟩
    rw [List.erase_cons_head]
    exact ticks _ out ⟨nofun, rfl⟩
  · exact ends

theorem keeps_init : Keeps self [] init := by
  refine .read fun data => ?_
  split
  · exact neutral_skip
  · have starts : Keeps self [] (maybe (all
        [assign fun data => { data with running := true },
          assign fun data => { data with initialized := true },
          spawn .network networkRun])) :=
      keeps_maybe (keeps_all (by simp [neutral_assign, Neutral.spawn keeps_networkRun]))
    exact keeps_all (by simp [keeps_adapter, starts])

theorem keeps_destroyFirst : Keeps .control [] destroyFirst := by
  have below (listener : HListener) : managerOrder.rank (.listener listener) <
      managerOrder.rank .control := by
    show 1 < 3
    decide
  refine .read fun data => ?_
  split
  · exact neutral_skip
  · exact keeps_all (by simp [keeps_listenerDestroy (below _), neutral_assign])

theorem keeps_destroyCore : Keeps .control [] destroyCore :=
  .loop (neutral_assign.choose keeps_destroyFirst).leaving

theorem keeps_kill : Keeps .control [] kill := by
  have stops : Keeps .control []
      (guarded .manager (assign fun data => { data with running := false })) :=
    keeps_guarded neutral_assign
  have joins : Keeps .control [] (join .network) := neutral_join (Nat.lt_succ_self 2)
  refine keeps_all ?_
  simp [stops, joins, keeps_destroyCore, neutral_assign, keeps_guarded]

/-- `writeMessages` gives the mutex up and takes it again. -/
theorem keeps_logThread : Keeps self [] logThread := by
  have writes : Keeps self [.log] writeMessages := by
    refine .loop fun post out holds _ => ⟨List.mem_singleton_self _, ?_, ?_⟩
    · simp
    · simpa [Code.all, Code.wp] using holds
  have waits : Keeps self [.log]
      (wait .log fun data => decide (0 < data.messages) || !data.logging) := neutral_wait
  refine .loop fun post out holds _ => ⟨nofun, waits _ out (writes _ out ?_)⟩
  simpa [Code.all, Code.wp] using holds

end ManagerCode

/-- What the controlling thread calls. -/
inductive ControlCall where
  | init
  | kill

def ControlCall.code : ControlCall → ManagerCode
  | init => ManagerCode.init
  | kill => ManagerCode.kill

/-- What every thread runs from the beginning on: the clients and the controlling
thread their calls, one after the other, and the others what is started on them. -/
def firstCode (clients : Nat → List ApiCall) (control : List ControlCall) :
    ManagerThread → List (Frame ManagerMutex ManagerThread SharedData)
  | .network | .server | .listener _ => []
  | .control => [.run (.all (control.map ControlCall.code))]
  | .client client =>
      [.run (.all ((clients client).map (ManagerCode.executeFunktion (.client client))))]
  | .log => [.run ManagerCode.logThread]

/-- The manager before `init`, with the calls that are to come.  Steam and the logger
are there. -/
def managerThreads (clients : Nat → List ApiCall) (control : List ControlCall) :
    Threads ManagerMutex ManagerThread SharedData where
  data := { logger := true, steam := true }
  code := firstCode clients control

/-- All interleavings of the threads. -/
def threadsSystem (clients : Nat → List ApiCall) (control : List ControlCall) :
    TransitionSystem (Threads ManagerMutex ManagerThread SharedData) (ManagerThread × Bool) :=
  lockSystem fun threads => threads = managerThreads clients control

theorem allObey_managerThreads (clients : Nat → List ApiCall) (control : List ControlCall) :
    AllObey managerOrder (managerThreads clients control) := by
  intro thread
  refine ⟨[], List.nodup_nil, by simp [managerThreads], ?_⟩
  cases thread with
  | network | server | listener => exact rfl
  | control =>
      refine ManagerCode.keeps_all ?_ _ _ rfl
      simp only [List.mem_map, forall_exists_index, and_imp, forall_apply_eq_imp_iff₂]
      intro call _
      cases call with
      | init => exact ManagerCode.keeps_init
      | kill => exact ManagerCode.keeps_kill
  | client client =>
      refine ManagerCode.keeps_all ?_ _ _ rfl
      simp only [List.mem_map, forall_exists_index, and_imp, forall_apply_eq_imp_iff₂]
      exact fun call _ => ManagerCode.keeps_executeFunktion (Nat.lt_succ_self 2)
  | log => exact ManagerCode.keeps_logThread _ (fun _ => False) rfl

/-- Whatever the clients call, and whenever the manager is started and killed, no
threads ever wait for each other in a circle. -/
theorem no_circular_wait (clients : Nat → List ApiCall) (control : List ControlCall)
    {threads : Threads ManagerMutex ManagerThread SharedData}
    (reached : (threadsSystem clients control).Reachable threads) (thread : ManagerThread) :
    ¬ Relation.TransGen threads.WaitsFor thread thread := by
  have all : AllObey managerOrder threads := by
    refine allObey_of_reachable ?_ reached
    rintro _ rfl
    exact allObey_managerThreads clients control
  exact all.acyclic thread

set_option maxRecDepth 4000 in
/-- A client waits for the network thread, which waits for the end of a listener. -/
theorem no_circular_wait_destroyListener :
    ∃ threads : Threads ManagerMutex ManagerThread SharedData,
      threads.WaitsFor (.client 0) .network ∧
      threads.WaitsFor .network (.listener 1) ∧
      ¬ Relation.TransGen threads.WaitsFor (.client 0) (.client 0) := by
  have executes : ∃ last,
      (threadsSystem (fun _ => [.createListener, .destroyListener 1]) [.init]).runWhere
        (fun _ _ => True) (managerThreads (fun _ => [.createListener, .destroyListener 1]) [.init])
        (List.replicate 16 (.control, true) ++ List.replicate 17 (.client 0, true) ++
          List.replicate 52 (.network, false) ++ List.replicate 19 (.client 0, true) ++
          List.replicate 24 (.network, false) ++ [(.network, true)] ++
          List.replicate 9 (.network, false)) = some last ∧
      last.WaitsFor (.client 0) .network ∧ last.WaitsFor .network (.listener 1) :=
    ⟨_, rfl, ⟨rfl, rfl⟩, rfl, nofun⟩
  obtain ⟨last, steps, client, network⟩ := executes
  have reached := TransitionSystem.reachable_of_run rfl steps
  exact ⟨last, client, network, no_circular_wait _ _ reached _⟩

end HttpServer
