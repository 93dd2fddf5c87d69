import HttpServer.DeliveredMessages

/-!
# How soon a listener acts

A listener that listens does not sleep: each turn of its loop takes one response off the
queue and makes at most six statements.  How many statements of its thread a response has to
wait for therefore only depends on how many responses are before it.

A listener that is told to stop finishes the turn it is in, and closes its handles.
-/

namespace HttpServer

open Listener

namespace ListenThread

/-- The thread is on its way out of its loop, or clears the queues. -/
def isLeaving : ListenThread → Bool
  | storeError | stopListening | clearOutgoing | clearReceived | clearErrors => true
  | place => place.isTearingDown

/-- How many statements the thread makes at most until it has sent the response that has
`position` responses before it. -/
def untilSent (position : Nat) : ListenThread → Nat
  | lock => 6 * position + 9
  | loopTest | notified => 6 * position + 8
  | waitTest | send _ => 6 * position + 7
  | unlock | served _ | receive false => 6 * position + 6
  | breakTest | receive true | pollTest false => 6 * position + 5
  | pollLoop | store _ => 6 * position + 4
  | pollTest true => 6 * position + 3
  | pollOut => 6 * position + 2
  | _ => 0

theorem untilSent_le {position : Nat} {place : ListenThread} :
    place.untilSent position ≤ 6 * position + 9 := by
  cases place with
  | receive polledOutMsg => cases polledOutMsg <;> simp [untilSent]
  | pollTest pollingSuccesfull => cases pollingSuccesfull <;> simp [untilSent]
  | _ => simp [untilSent]

end ListenThread

/-- A thread that does not sleep and has not ended can go on. -/
theorem Listener.exists_run {listener : Listener} (awake : listener.thread ≠ .parked)
    (goesOn : listener.thread ≠ .exited) (received : ReceivedMessages) :
    ∃ next, listener.run received = some next := by
  unfold Listener.run
  cases place : listener.thread with
  | parked => exact absurd place awake
  | exited => exact absurd place goesOn
  | loopTest | waitTest | breakTest | pollLoop | pollTest =>
      dsimp only
      split <;> exact ⟨_, rfl⟩
  | pollOut =>
      dsimp only
      split
      · exact ⟨_, rfl⟩
      · split <;> exact ⟨_, rfl⟩
  | receive => cases received <;> exact ⟨_, rfl⟩
  | _ => exact ⟨_, rfl⟩

/-- No stop of the listener and no destruction begins, and no poll fails. -/
def staysListening : ListenerInfo Listener → EntryAction → Bool
  | _, .beginStop | _, .beginDestroy | _, .run .negative => false
  | _, _ => true

abbrev StaysListening (info : ListenerInfo Listener) (action : EntryAction) : Prop :=
  staysListening info action = true

/-- The thread of a listener that listens does not sleep, and has not ended before the
destructor. -/
structure Wakeful (listener : Listener) : Prop where
  park : listener.listening = true → listener.thread ≠ .park
  parked : listener.listening = true → listener.thread ≠ .parked
  exited : listener.thread = .exited → listener.running = false

namespace Wakeful

variable {listener next : Listener} {info : ListenerInfo Listener}

theorem run {received : ReceivedMessages} (wakeful : Wakeful listener)
    (steps : listener.run received = some next) : Wakeful next := by
  have listening := run_listening steps
  have sameRunning := (run_frame steps).2.1
  have before (listens : next.listening = true) : listener.listening = true := by
    rw [listening] at listens
    exact ((Bool.and_eq_true _ _).mp listens).1
  constructor
  case park =>
    intro listens place
    cases runStep_of_run steps with
    | waits _ _ quiet => exact absurd ((before listens).symm.trans quiet) (by decide)
    | _ => cases place
  case parked =>
    intro listens place
    cases runStep_of_run steps with
    | park parks => exact wakeful.park (before listens) parks
    | _ => cases place
  case exited =>
    intro place
    rw [sameRunning]
    cases runStep_of_run steps with
    | leave _ stopped | breaks _ stopped => exact stopped
    | _ => cases place

theorem same (wakeful : Wakeful listener) (thread : next.thread = listener.thread)
    (listening : next.listening = listener.listening)
    (running : next.running = listener.running) : Wakeful next where
  park := by
    rw [listening, thread]
    exact wakeful.park
  parked := by
    rw [listening, thread]
    exact wakeful.parked
  exited := by
    rw [thread, running]
    exact wakeful.exited

/-- A thread that was notified is not parked any more. -/
theorem notify (park : listener.listening = true → listener.thread ≠ .park)
    (exited : listener.thread = .exited → listener.running = false) :
    Wakeful listener.notify := by
  unfold Listener.notify
  split
  next parked => exact ⟨fun _ => nofun, fun _ => nofun, nofun⟩
  next moving =>
    refine ⟨park, fun _ place => ?_, exited⟩
    exact moving (ListenThread.isParked_eq_true.mpr place)

theorem callStep {handle : UInt32} (wakeful : Wakeful listener)
    (steps : listener.callStep handle = some next) : Wakeful next := by
  cases callStep_of_callStep steps with
  | startSet call unlocked =>
      rw [notify_listening]
      refine notify (fun _ place => ?_) wakeful.exited
      rw [show listener.thread = .park from place] at unlocked
      cases unlocked
  | stopSet =>
      rw [notify_listening]
      exact notify nofun wakeful.exited
  | dtorFlag => exact ⟨wakeful.park, wakeful.parked, fun _ => rfl⟩
  | dtorNotify => exact notify wakeful.park wakeful.exited
  | _ => exact wakeful.same rfl rfl rfl

theorem entryStep {next : ListenerInfo Listener} {action : EntryAction}
    (wakeful : Wakeful info.listener) (steps : HttpServer.entryStep info action = some next) :
    Wakeful next.listener := by
  cases entryStep_of_entryStep steps with
  | run runs => exact wakeful.run runs
  | callStep calls => exact wakeful.callStep calls
  | wake => exact ⟨fun _ => nofun, fun _ => nofun, nofun⟩
  | _ => exact wakeful.same rfl rfl rfl

end Wakeful

theorem wakeful_of_reachable {info : ListenerInfo Listener}
    (reaches : entrySystem.Reachable info) : Wakeful info.listener := by
  refine reaches.invariant (fun info => Wakeful info.listener) ?_ ?_
  · intro info starts
    rw [starts.1]
    exact ⟨nofun, nofun, nofun⟩
  · intro info action next _ wakeful _ steps
    exact wakeful.entryStep steps

section Sending

variable {start calls : List AdapterCall} {due : List Request} {left : Nat}
  {info next : ListenerInfo Listener}

/-- The listener listens, no operation is in progress on it, and its thread is in its loop or
on the way there. -/
structure Attends (info : ListenerInfo Listener) : Prop where
  coherent : Coherent info
  wakeful : Wakeful info.listener
  listening : info.listener.listening = true
  idle : info.listener.call.isIdle = true
  stays : info.listener.thread.isLeaving = false

theorem Attends.running (attends : Attends info) : info.listener.running = true := by
  rw [attends.coherent.alive, ListenerCall.isEnding_eq_false_of_isIdle attends.idle]
  rfl

/-- The thread is not asleep and can go on. -/
theorem Attends.goesOn (attends : Attends info) :
    info.listener.thread ≠ .park ∧ info.listener.thread ≠ .parked ∧
      ∀ received, ∃ moved, info.listener.run received = some moved := by
  have awake := attends.wakeful.parked attends.listening
  refine ⟨attends.wakeful.park attends.listening, awake, Listener.exists_run awake ?_⟩
  intro exited
  have stopped := attends.wakeful.exited exited
  exact absurd (stopped.symm.trans attends.running) (by decide)

/-- Without a stop and a destruction only the listener's thread and its clients act. -/
inductive Served (info : ListenerInfo Listener) : EntryAction → ListenerInfo Listener → Prop where
  | run {received : ReceivedMessages} {listener : Listener}
      (runs : info.listener.run received = some listener) :
      Served info (.run received) (info.setListener listener)
  | push {message : Request} {mark : Nat} :
      Served info (.push message mark) (info.setListener
        (IListener.pushOutgoing { info.listener with mark := mark } message))
  | popReceived :
      Served info .popReceived (info.setListener (IListener.tryPopReceived info.listener).2)
  | popError :
      Served info .popError (info.setListener (IListener.tryPopError info.listener).2)

theorem Attends.served {action : EntryAction} (attends : Attends info)
    (meets : StaysListening info action) (steps : entryStep info action = some next) :
    Served info action next := by
  have idle := attends.idle
  cases entryStep_of_entryStep steps with
  | run runs => exact .run runs
  | wake parked => exact absurd parked (attends.wakeful.parked attends.listening)
  | callStep calls =>
      cases callStep_of_callStep calls with
      | initListening call | initTest call | initInitialized call | initGuard call
      | socketFailed call | createSocket call | pollGroupFailed call | createPollGroup call
      | closeSocket call | resetSocket call | initReturn call | startInvalid call
      | startTest call | startSet call | stopSet call | dtorFlag call | dtorNotify call
      | dtorJoin call => cases call ▸ idle
  | beginStart unbound =>
      have quiet := attends.coherent.idle idle unbound
      exact absurd (quiet.symm.trans attends.listening) (by decide)
  | initFailed call | adopt call | startReturned call | stopReturned call => cases call ▸ idle
  | beginStop | destroyStopped | destroyIdle => cases meets
  | push => exact .push
  | popReceived => exact .popReceived
  | popError => exact .popError

theorem Attends.step {action : EntryAction} (attends : Attends info)
    (meets : StaysListening info action) (steps : entryStep info action = some next) :
    Attends next := by
  have running := attends.running
  have coherent := attends.coherent.entryStep steps
  have wakeful := attends.wakeful.entryStep steps
  have stays := attends.stays
  cases attends.served meets steps with
  | @run received listener runs =>
      have listens : listener.listening = true := by
        rw [run_listening runs, attends.listening]
        refine decide_eq_true fun place => ?_
        cases place ▸ stays
      refine ⟨coherent, wakeful, listens, (congrArg ListenerCall.isIdle
        (run_frame runs).1).trans attends.idle, ?_⟩
      cases runStep_of_run runs with
      | tearDown _ ends => simp [attends.listening, running] at ends
      | receiveNegative _ negative =>
          subst negative
          cases meets
      | storeError place | stopListening place | closeSocket place | resetSocket place
      | destroyPollGroup place | resetPollGroup place | clearOutgoing place
      | clearReceived place => cases place ▸ stays
      | _ => rfl
  | push | popReceived | popError =>
      exact ⟨coherent, wakeful, attends.listening, attends.idle, stays⟩

/-- The responses in `due` have been sent, or are the next ones to be sent: the last of them is
in the thread's hands or in the queue, and `left` statements of the thread are enough. -/
inductive Sending (start : List AdapterCall) (due : List Request) (left : Nat)
    (listener : Listener) : Prop where
  | held {made : List AdapterCall} {message : QueuedMessage}
      (calls : listener.calls = start ++ made) (place : listener.thread = .send message)
      (sent : made.filterMap AdapterCall.sent? ++ [message.request.sized] = due)
      (statements : 1 ≤ left)
  | queued {made : List AdapterCall} {before after : ThreadSaveQueue QueuedMessage}
      {message : QueuedMessage} (calls : listener.calls = start ++ made)
      (queue : listener.core.outgoingMessages = before ++ message :: after)
      (sent : made.filterMap AdapterCall.sent? ++ (listener.sending ++
        nonempty (requests (before ++ [message]))).map Request.sized = due)
      (statements : listener.thread.untilSent before.length ≤ left)

/-- The listener has sent the responses in `due`, before any others. -/
def HasSent (start : List AdapterCall) (due : List Request) (listener : Listener) : Prop :=
  ∃ made, listener.calls = start ++ made ∧ due <+: made.filterMap AdapterCall.sent?

/-- The responses have been sent, or they need one statement of the thread less. -/
def ComesToSend (start : List AdapterCall) (due : List Request) (left : Nat)
    (listener : Listener) : Prop :=
  HasSent start due listener ∨ ∃ rest, Sending start due rest listener ∧ rest + 1 ≤ left

/-- Nothing else is sent, and the thread has come closer. -/
theorem comesToSend_queued {listener moved : Listener} {made extra : List AdapterCall}
    {before after : ThreadSaveQueue QueuedMessage} {message : QueuedMessage}
    (calls : listener.calls = start ++ made) (callsNext : moved.calls = listener.calls ++ extra)
    (queue : moved.core.outgoingMessages = before ++ message :: after)
    (sent : made.filterMap AdapterCall.sent? ++ (listener.sending ++
      nonempty (requests (before ++ [message]))).map Request.sized = due)
    (sends : listener.sending.map Request.sized =
      extra.filterMap AdapterCall.sent? ++ moved.sending.map Request.sized)
    (statements : moved.thread.untilSent before.length + 1 ≤ left) :
    ComesToSend start due left moved := by
  have allCalls : moved.calls = start ++ (made ++ extra) := by
    rw [callsNext, calls, List.append_assoc]
  refine Or.inr ⟨left - 1, .queued allCalls queue ?_ (Nat.le_sub_one_of_lt statements), by omega⟩
  · rw [← sent, List.filterMap_append, List.map_append, List.map_append, sends]
    simp only [List.append_assoc]

theorem comesToSend_run {received : ReceivedMessages} {listener : Listener}
    (attends : Attends info) (meets : StaysListening info (.run received))
    (sending : Sending start due left info.listener)
    (runs : info.listener.run received = some listener) :
    ComesToSend start due left listener := by
  have callsNext := run_calls runs
  cases sending with
  | @held made message calls place sent statements =>
      rw [place] at callsNext
      refine Or.inl ⟨made ++ [.sendMessageToConnection message.request.sized], ?_, ?_⟩
      · rw [callsNext, calls, List.append_assoc]
      · rw [List.filterMap_append, ← sent]
        exact List.prefix_rfl
  | @queued made before after message calls queue sent statements =>
      have running := attends.running
      have listening := attends.listening
      have stays := attends.stays
      cases runStep_of_run runs with
      | lock place | enter place | told place | notified place | unlock place | serve place
      | poll place | pollOnce place =>
          rw [place] at statements callsNext
          refine comesToSend_queued calls callsNext queue sent ?_ statements
          simp [Listener.sending, place, goTo]
      | leave _ stopped | breaks _ stopped => exact absurd (running.symm.trans stopped) (by decide)
      | waits _ _ quiet => exact absurd (listening.symm.trans quiet) (by decide)
      | park place => exact absurd place (attends.wakeful.park listening)
      | tearDown _ ends => simp [listening, running] at ends
      | receiveNegative _ negative =>
          subst negative
          cases meets
      | storeError place | stopListening place | closeSocket place | resetSocket place
      | destroyPollGroup place | resetPollGroup place | clearOutgoing place
      | clearReceived place | clearErrors place => cases place ▸ stays
      | @pause pollingSuccesfull place ends =>
          obtain rfl : pollingSuccesfull = false := by simpa [listening, running] using ends
          rw [place] at statements callsNext
          refine comesToSend_queued calls callsNext queue sent ?_ statements
          simp [Listener.sending, place, goTo]
      | nothing _ empty => rw [queue] at empty; cases before <;> cases empty
      | @skip taken rest place taking empty =>
          rw [place] at statements callsNext
          rw [queue] at taking
          have none : info.listener.sending = [] := by simp [Listener.sending, place]
          cases before with
          | nil =>
              obtain ⟨rfl, rfl⟩ := List.cons.inj taking
              have done : made.filterMap AdapterCall.sent? = due := by
                simpa [none, requests, nonempty_cons, empty] using sent
              exact Or.inl ⟨made, by rw [callsNext, calls, List.append_nil], done ▸ List.prefix_rfl⟩
          | cons first before =>
              obtain ⟨rfl, rfl⟩ := List.cons.inj taking
              apply comesToSend_queued calls callsNext rfl
              · simpa [requests, nonempty_cons, empty] using sent
              · simp [Listener.sending, place, goTo]
              · simp only [ListenThread.untilSent, List.length_cons, goTo] at statements ⊢
                omega
      | @take taken rest place taking filled =>
          rw [place] at statements callsNext
          rw [queue] at taking
          have none : info.listener.sending = [] := by simp [Listener.sending, place]
          rw [List.append_nil, calls] at callsNext
          cases before with
          | nil =>
              obtain ⟨rfl, rfl⟩ := List.cons.inj taking
              refine Or.inr ⟨1, .held callsNext rfl ?_ le_rfl, statements⟩
              simpa [none, requests, nonempty_cons, filled] using sent
          | cons first before =>
              obtain ⟨rfl, rfl⟩ := List.cons.inj taking
              refine Or.inr ⟨left - 1, .queued callsNext rfl ?_ ?_, ?_⟩
              · simpa [Listener.sending, place, goTo, requests, nonempty_cons, filled] using sent
              · simp only [ListenThread.untilSent, List.length_cons, goTo] at statements ⊢
                omega
              · simp only [ListenThread.untilSent] at statements
                omega
      | @send held place =>
          rw [place] at statements callsNext
          refine comesToSend_queued calls callsNext queue sent ?_ statements
          simp [Listener.sending, place, goTo, Listener.record, AdapterCall.sent?]
      | served place =>
          rw [place] at statements callsNext
          refine comesToSend_queued calls callsNext queue sent ?_ statements
          simp [Listener.sending, place, goTo]
      | @receiveNone polledOutMsg place | @receive polledOutMsg _ place =>
          rw [place] at statements callsNext
          apply comesToSend_queued calls callsNext queue sent
          · simp [Listener.sending, place, goTo, Listener.record, AdapterCall.sent?]
          · cases polledOutMsg <;> simp [goTo, ListenThread.untilSent] at statements ⊢ <;> omega
      | store place =>
          rw [place] at statements callsNext
          refine comesToSend_queued calls callsNext queue sent ?_ statements
          simp [Listener.sending, place, goTo, Listener.record, AdapterCall.sent?]

/-- The adapter calls of a listener are only ever continued. -/
theorem entryStep_calls {action : EntryAction} (steps : entryStep info action = some next) :
    ∃ made, next.listener.calls = info.listener.calls ++ made := by
  cases entryStep_of_entryStep steps with
  | run runs => exact ⟨_, run_calls runs⟩
  | callStep calls =>
      obtain ⟨made, same⟩ := SameMessages.callStep calls
      exact ⟨made, same.calls⟩
  | _ => exact ⟨[], (List.append_nil _).symm⟩

theorem HasSent.step {action : EntryAction} (sent : HasSent start due info.listener)
    (steps : entryStep info action = some next) : HasSent start due next.listener := by
  obtain ⟨made, calls, isPrefix⟩ := sent
  obtain ⟨more, callsNext⟩ := entryStep_calls steps
  refine ⟨made ++ more, by rw [callsNext, calls, List.append_assoc], ?_⟩
  rw [List.filterMap_append]
  exact isPrefix.trans (List.prefix_append _ _)

/-- What the clients do changes nothing for the responses in the queue. -/
theorem Sending.served {listener : Listener} (sending : Sending start due left info.listener)
    (calls : listener.calls = info.listener.calls)
    (thread : listener.thread = info.listener.thread)
    (queue : ∃ more, listener.core.outgoingMessages =
      info.listener.core.outgoingMessages ++ more) : Sending start due left listener := by
  cases sending with
  | held callsBefore place sent statements =>
      exact .held (calls.trans callsBefore) (thread.trans place) sent statements
  | queued callsBefore queueBefore sent statements =>
      obtain ⟨more, queue⟩ := queue
      refine .queued (calls.trans callsBefore) (by rw [queue, queueBefore]; simp; rfl) ?_
        (by rwa [thread])
      rwa [Listener.sending, thread]

theorem Attends.comesToSend {action : EntryAction} (attends : Attends info)
    (meets : StaysListening info action) (sending : Sending start due left info.listener)
    (steps : entryStep info action = some next) :
    HasSent start due next.listener ∨ ∃ rest,
      (Attends next ∧ Sending start due rest next.listener) ∧
        rest + (if action.isRun then 1 else 0) ≤ left := by
  have attendsNext := attends.step meets steps
  cases attends.served meets steps with
  | run runs =>
      apply (comesToSend_run attends meets sending runs).imp_right
      rintro ⟨rest, still, paid⟩
      exact ⟨rest, ⟨attendsNext, still⟩, paid⟩
  | push =>
      exact Or.inr ⟨left, ⟨attendsNext, sending.served rfl rfl ⟨_, rfl⟩⟩, le_rfl⟩
  | popReceived | popError =>
      exact Or.inr ⟨left, ⟨attendsNext, sending.served rfl rfl ⟨[], (List.append_nil _).symm⟩⟩,
        le_rfl⟩

/-- A response in the queue needs at least one more statement. -/
theorem Attends.pos (attends : Attends info) (sending : Sending start due left info.listener) :
    0 < left := by
  cases sending with
  | held _ _ _ statements => exact statements
  | queued _ _ _ statements =>
      refine Nat.lt_of_lt_of_le ?_ statements
      have park := attends.wakeful.park attends.listening
      have parked := attends.wakeful.parked attends.listening
      have stays := attends.stays
      cases place : info.listener.thread with
      | park => exact absurd place park
      | parked => exact absurd place parked
      | exited =>
          have stopped := attends.wakeful.exited place
          exact absurd (stopped.symm.trans attends.running) (by decide)
      | storeError | stopListening | closeSocket | resetSocket | destroyPollGroup
      | resetPollGroup | clearOutgoing | clearReceived | clearErrors => cases place ▸ stays
      | receive polledOutMsg => cases polledOutMsg <;> exact Nat.succ_pos _
      | pollTest pollingSuccesfull => cases pollingSuccesfull <;> exact Nat.succ_pos _
      | _ => exact Nat.succ_pos _

end Sending

/-- While a listener listens, the responses in its queue up to any one of them are sent within
`6 * k + 9` statements of its thread, where `k` responses are before that one.  What else is
pushed, popped and received makes no difference.  The thread is never asleep meanwhile, and it
can always go on. -/
theorem responses_sent_promptly (info last : ListenerInfo Listener)
    (actions : List EntryAction) (reaches : entrySystem.Reachable info)
    (listens : info.listener.listening = true) (idle : info.listener.call.isIdle = true)
    (stays : info.listener.thread.isLeaving = false)
    (before after : ThreadSaveQueue QueuedMessage) (message : QueuedMessage)
    (queue : info.listener.core.outgoingMessages = before ++ message :: after)
    (steps : entrySystem.StepsWhere StaysListening info actions last) :
    (6 * before.length + 9 ≤ actions.countP EntryAction.isRun →
      ∃ made, last.listener.calls = info.listener.calls ++ made ∧
        (info.listener.sending ++ nonempty (requests (before ++ [message]))).map
          Request.sized <+: made.filterMap AdapterCall.sent?) ∧
    last.listener.thread ≠ .park ∧ last.listener.thread ≠ .parked ∧
    ∀ received, ∃ moved, last.listener.run received = some moved := by
  have attends : Attends info :=
    ⟨coherent_of_reachable reaches, wakeful_of_reachable reaches, listens, idle, stays⟩
  have attendsLast : Attends last :=
    steps.kept Attends attends fun _ _ _ attends meets stepTo => attends.step meets stepTo
  refine ⟨fun statements => ?_, attendsLast.goesOn⟩
  have start : Sending info.listener.calls
      ((info.listener.sending ++ nonempty (requests (before ++ [message]))).map Request.sized)
      (6 * before.length + 9) info.listener :=
    .queued (List.append_nil _).symm queue rfl ListenThread.untilSent_le
  rcases steps.responds (fun info => HasSent _ _ info.listener)
    (fun left info => Attends info ∧ Sending _ _ left info.listener) EntryAction.isRun
    ⟨attends, start⟩ (fun left _ _ _ waits meets steps => waits.1.comesToSend meets waits.2 steps)
    fun _ _ _ sent _ steps => sent.step steps with sent | ⟨left, ⟨attends, sending⟩, spent⟩
  · exact sent
  · have waits := attends.pos sending
    omega

/-- The manager starts the listener, and two responses are accepted. -/
def startAndPush : List EntryAction :=
  List.replicate 4 (.run .none) ++
    [.beginStart 80, .callStep 0, .callStep 0, .callStep 5, .callStep 6, .callStep 0, .adopt,
      .callStep 0, .callStep 0, .startReturned, .push ⟨9, [72]⟩ 1, .push ⟨9, [73]⟩ 2]

theorem responses_sent_promptly_startAndPush :
    ∃ info last made, entrySystem.Reachable info ∧
      entrySystem.StepsWhere StaysListening info (List.replicate 15 (.run .none)) last ∧
      last.listener.calls = info.listener.calls ++ made ∧
      [⟨9, [72]⟩, ⟨9, [73]⟩] <+: made.filterMap AdapterCall.sent? ∧
      ∀ received, ∃ moved, last.listener.run received = some moved := by
  have executes : ∃ info last,
      entrySystem.run { listener := {} } startAndPush = some info ∧
      info.listener.listening = true ∧ info.listener.call.isIdle = true ∧
      info.listener.thread = .notified ∧
      info.listener.core.outgoingMessages = [⟨⟨9, [72]⟩, 1, 1⟩] ++ ⟨⟨9, [73]⟩, 1, 2⟩ :: [] ∧
      entrySystem.runWhere StaysListening info (List.replicate 15 (.run .none)) = some last :=
    ⟨_, _, rfl, rfl, rfl, rfl, rfl, rfl⟩
  obtain ⟨info, last, executes, listens, idle, place, queue, goesOn⟩ := executes
  have reaches : entrySystem.Reachable info :=
    TransitionSystem.reachable_of_run ⟨rfl, rfl⟩ executes
  have steps := TransitionSystem.runWhere_eq_some_iff.mp goesOn
  obtain ⟨sends, -, -, goesOn⟩ := responses_sent_promptly info last _ reaches listens idle
    (by rw [place]; rfl) _ _ _ queue steps
  obtain ⟨made, calls, sent⟩ := sends (by decide)
  rw [sending, place] at sent
  exact ⟨info, last, made, reaches, steps, calls, sent, goesOn⟩

namespace ListenThread

/-- The thread is in one of its loops, or has just left them. -/
def isInLoop : ListenThread → Bool
  | pollLoop | pollTest _ | pollOut | send _ | served _ | receive _ | store _ | storeError
  | stopListening | closeSocket => true
  | _ => false

/-- How many statements a thread that is to stop makes at most until both handles are
closed. -/
def untilClosed : ListenThread → Nat
  | pollOut => 10
  | send _ => 9
  | served _ => 8
  | receive _ => 7
  | store _ | storeError => 6
  | stopListening | pollTest _ => 5
  | pollLoop => 4
  | closeSocket => 3
  | resetSocket => 2
  | destroyPollGroup => 1
  | _ => 0

/-- The thread may send a message in the turn it is in. -/
def sendsLeft : ListenThread → Nat
  | pollOut | send _ => 1
  | _ => 0

/-- The thread asks for a message in the turn it is in. -/
def receivesLeft : ListenThread → Nat
  | pollOut | send _ | served _ | receive _ => 1
  | _ => 0

theorem untilClosed_le {place : ListenThread} : place.untilClosed ≤ 10 := by
  cases place <;> simp [untilClosed]

theorem isServing_of_isInLoop {place : ListenThread} (inLoop : place.isInLoop = true) :
    place.isServing = true := by
  cases place <;> first | rfl | cases inLoop

end ListenThread

def AdapterCall.isSend : AdapterCall → Bool
  | .sendMessageToConnection _ => true
  | _ => false

def AdapterCall.isReceive : AdapterCall → Bool
  | .receiveMessagesOnPollGroup _ => true
  | _ => false

section Closing

variable {start : List AdapterCall} {socket : HSteamListenSocket}
  {pollGroup : HSteamNetPollGroup} {left : Nat} {info next : ListenerInfo Listener}

/-- The listener is to stop listening or to end, and its thread has not closed the handles. -/
structure Ends (info : ListenerInfo Listener) : Prop where
  coherent : Coherent info
  told : info.listener.listening = false ∨ info.listener.running = false
  serves : info.listener.thread.isServing = true

/-- What everybody but the listener's thread leaves alone until the handles are closed. -/
structure LeftAlone (listener next : Listener) : Prop where
  thread : next.thread = listener.thread
  calls : next.calls = listener.calls
  socket : next.core.socket = listener.core.socket
  pollGroup : next.core.pollGroup = listener.core.pollGroup
  told : listener.listening = false ∨ listener.running = false →
    next.listening = false ∨ next.running = false

theorem LeftAlone.notify {listener next : Listener}
    (serves : listener.thread.isServing = true) (same : LeftAlone listener next) :
    LeftAlone listener next.notify := by
  have moving : next.thread.isParked ≠ true := by
    intro parked
    rw [same.thread] at parked
    cases ListenThread.isParked_eq_true.mp parked ▸ serves
  rwa [Listener.notify, if_neg moving]

theorem Ends.leftAlone {action : EntryAction} (ends : Ends info)
    (steps : entryStep info action = some next) (notRun : action.isRun = false) :
    LeftAlone info.listener next.listener := by
  have serves := ends.serves
  have notApart : info.listener.call.isApart ≠ true := by
    intro apart
    have waits := ends.coherent.apart apart
    exact absurd ((ListenThread.isCommitted_of_isServing serves).symm.trans waits) (by decide)
  cases entryStep_of_entryStep steps with
  | run => cases notRun
  | wake parked => cases parked ▸ serves
  | callStep calls =>
      cases callStep_of_callStep calls with
      | socketFailed call | createSocket call | pollGroupFailed call | createPollGroup call
      | closeSocket call | resetSocket call | initReturn call | startInvalid call
      | startTest call | startSet call =>
          rw [call] at notApart
          exact absurd rfl notApart
      | stopSet =>
          rw [ListenerInfo.setListener, notify_listening]
          exact .notify serves ⟨rfl, rfl, rfl, rfl, fun _ => Or.inl rfl⟩
      | dtorFlag => exact ⟨rfl, rfl, rfl, rfl, fun _ => Or.inr rfl⟩
      | dtorNotify => exact .notify serves ⟨rfl, rfl, rfl, rfl, id⟩
      | _ => exact ⟨rfl, rfl, rfl, rfl, id⟩
  | _ => exact ⟨rfl, rfl, rfl, rfl, id⟩

/-- The thread has made `polled` since `start`, one message at most each way, and is on its way
to close the handles. -/
inductive Closing (start : List AdapterCall) (socket : HSteamListenSocket)
    (pollGroup : HSteamNetPollGroup) (left : Nat) (listener : Listener) : Prop where
  | polling {polled : List AdapterCall} (inLoop : listener.thread.isInLoop = true)
      (calls : listener.calls = start ++ polled) (sameSocket : listener.core.socket = socket)
      (samePollGroup : listener.core.pollGroup = pollGroup)
      (sends : polled.countP AdapterCall.isSend + listener.thread.sendsLeft ≤ 1)
      (receives : polled.countP AdapterCall.isReceive + listener.thread.receivesLeft ≤ 1)
      (statements : listener.thread.untilClosed ≤ left)
  | closed {polled : List AdapterCall}
      (place : listener.thread = .resetSocket ∨ listener.thread = .destroyPollGroup)
      (calls : listener.calls = start ++ (polled ++ [.closeListenSocket socket]))
      (samePollGroup : listener.core.pollGroup = pollGroup)
      (sends : polled.countP AdapterCall.isSend ≤ 1)
      (receives : polled.countP AdapterCall.isReceive ≤ 1)
      (statements : listener.thread.untilClosed ≤ left)

/-- Both handles are closed, and before that at most one message went each way. -/
def HasClosed (start : List AdapterCall) (socket : HSteamListenSocket)
    (pollGroup : HSteamNetPollGroup) (listener : Listener) : Prop :=
  ∃ polled later, listener.calls = start ++ (polled ++
      [.closeListenSocket socket, .destroyPollGroup pollGroup] ++ later) ∧
    polled.countP AdapterCall.isSend ≤ 1 ∧ polled.countP AdapterCall.isReceive ≤ 1

theorem HasClosed.step {action : EntryAction}
    (closed : HasClosed start socket pollGroup info.listener)
    (steps : entryStep info action = some next) :
    HasClosed start socket pollGroup next.listener := by
  obtain ⟨polled, later, calls, few⟩ := closed
  obtain ⟨more, callsNext⟩ := entryStep_calls steps
  exact ⟨polled, later ++ more, by simp [callsNext, calls], few⟩

/-- The turn goes on, and the handles are still open. -/
theorem comesToClose {listener moved : Listener} {polled extra : List AdapterCall}
    (inLoop : moved.thread.isInLoop = true) (calls : listener.calls = start ++ polled)
    (callsNext : moved.calls = listener.calls ++ extra) (sameSocket : moved.core.socket = socket)
    (samePollGroup : moved.core.pollGroup = pollGroup)
    (sends : polled.countP AdapterCall.isSend + listener.thread.sendsLeft ≤ 1)
    (sendsNext : extra.countP AdapterCall.isSend + moved.thread.sendsLeft ≤
      listener.thread.sendsLeft)
    (receives : polled.countP AdapterCall.isReceive + listener.thread.receivesLeft ≤ 1)
    (receivesNext : extra.countP AdapterCall.isReceive + moved.thread.receivesLeft ≤
      listener.thread.receivesLeft)
    (statements : moved.thread.untilClosed + 1 ≤ left) :
    ∃ rest, Closing start socket pollGroup rest moved ∧ rest + 1 ≤ left := by
  have allCalls : moved.calls = start ++ (polled ++ extra) := by
    rw [callsNext, calls, List.append_assoc]
  refine ⟨left - 1, .polling inLoop allCalls sameSocket samePollGroup ?_ ?_
    (Nat.le_sub_one_of_lt statements), by omega⟩
  · rw [List.countP_append]
    omega
  · rw [List.countP_append]
    omega

theorem closing_run {received : ReceivedMessages} {listener : Listener} (ends : Ends info)
    (closing : Closing start socket pollGroup left info.listener)
    (runs : info.listener.run received = some listener) :
    HasClosed start socket pollGroup listener ∨
      ∃ rest, Closing start socket pollGroup rest listener ∧ rest + 1 ≤ left := by
  have callsNext := run_calls runs
  have socketNext := run_socket runs
  have pollGroupNext := run_pollGroup runs
  cases closing with
  | @polling polled inLoop calls sameSocket samePollGroup sends receives statements =>
      cases runStep_of_run runs with
      | poll _ listening running | pollOnce _ listening running =>
          have told := ends.told
          rw [listening, running] at told
          simp at told
      | closeSocket place =>
          rw [place] at statements callsNext sends receives
          refine Or.inr ⟨2, @Closing.closed _ _ _ _ _ polled (Or.inl rfl) ?_ samePollGroup sends
            receives le_rfl, statements⟩
          rw [callsNext, calls, sameSocket, List.append_assoc]
      | tearDown place | pause place | nothing place | skip place | take place | send place
      | served place | receiveNone place | receive place | receiveNegative place
      | store place | storeError place | stopListening place =>
          rw [place] at statements callsNext
          refine Or.inr (comesToClose rfl calls callsNext sameSocket samePollGroup sends ?_
            receives ?_ ?_)
          · simp [place, goTo, Listener.record, ListenThread.sendsLeft, AdapterCall.isSend]
          · simp [place, goTo, Listener.record, ListenThread.receivesLeft,
              AdapterCall.isReceive]
          · simp only [goTo, ListenThread.untilClosed] at statements ⊢
            omega
      | lock place | enter place | leave place | told place | waits place | park place
      | notified place | unlock place | serve place | breaks place | resetSocket place
      | destroyPollGroup place | resetPollGroup place | clearOutgoing place
      | clearReceived place | clearErrors place => cases place ▸ inLoop
  | @closed polled place calls samePollGroup sends receives statements =>
      cases runStep_of_run runs with
      | resetSocket reset =>
          rw [reset] at statements callsNext
          rw [List.append_nil, calls] at callsNext
          exact Or.inr ⟨1, .closed (Or.inr rfl) callsNext samePollGroup sends receives le_rfl,
            statements⟩
      | destroyPollGroup destroy =>
          rw [destroy] at callsNext
          refine Or.inl ⟨polled, [], ?_, sends, receives⟩
          rw [callsNext, calls, samePollGroup]
          simp
      | _ => simp_all

theorem Closing.leftAlone {listener moved : Listener}
    (closing : Closing start socket pollGroup left listener)
    (same : LeftAlone listener moved) : Closing start socket pollGroup left moved := by
  cases closing with
  | polling inLoop calls sameSocket samePollGroup sends receives statements =>
      rw [← same.thread] at inLoop sends receives statements
      exact .polling inLoop (same.calls.trans calls) (same.socket.trans sameSocket)
        (same.pollGroup.trans samePollGroup) sends receives statements
  | closed place calls samePollGroup sends receives statements =>
      rw [← same.thread] at place statements
      exact .closed place (same.calls.trans calls) (same.pollGroup.trans samePollGroup) sends
        receives statements

theorem Closing.pos {listener : Listener}
    (closing : Closing start socket pollGroup left listener) :
    0 < left ∧ listener.thread.isServing = true := by
  cases closing with
  | polling inLoop _ _ _ _ _ statements =>
      refine ⟨Nat.lt_of_lt_of_le ?_ statements, ListenThread.isServing_of_isInLoop inLoop⟩
      cases place : listener.thread <;> rw [place] at inLoop <;>
        first | exact Nat.succ_pos _ | cases inLoop
  | closed place _ _ _ _ statements =>
      rcases place with place | place
      · rw [place] at statements ⊢
        exact ⟨Nat.lt_of_lt_of_le Nat.two_pos statements, rfl⟩
      · rw [place] at statements ⊢
        exact ⟨Nat.lt_of_lt_of_le Nat.one_pos statements, rfl⟩

theorem Ends.closes {action : EntryAction} (ends : Ends info)
    (closing : Closing start socket pollGroup left info.listener)
    (steps : entryStep info action = some next) :
    HasClosed start socket pollGroup next.listener ∨ ∃ rest,
      (Ends next ∧ Closing start socket pollGroup rest next.listener) ∧
        rest + (if action.isRun then 1 else 0) ≤ left := by
  have coherent := ends.coherent.entryStep steps
  cases runs : action.isRun with
  | true =>
      cases action with
      | run received =>
          obtain ⟨listener, moves, rfl⟩ := Option.map_eq_some_iff.mp steps
          apply (closing_run ends closing moves).imp_right
          rintro ⟨rest, still, paid⟩
          refine ⟨rest, ⟨⟨coherent, ?_, still.pos.2⟩, still⟩, paid⟩
          rcases ends.told with quiet | stopped
          · exact Or.inl (by simp [ListenerInfo.setListener, run_listening moves, quiet])
          · exact Or.inr ((run_frame moves).2.1.trans stopped)
      | _ => cases runs
  | false =>
      have same := ends.leftAlone steps runs
      have still := closing.leftAlone same
      exact Or.inr ⟨left, ⟨⟨coherent, same.told ends.told, still.pos.2⟩, still⟩, le_rfl⟩

end Closing

/-- A listener whose thread is in its loop when it is told to stop or to end closes both
handles within ten statements of the thread.  Before that it sends one more message at most
and asks for one more at most, whatever else happens, and the thread can always go on. -/
theorem stop_closes_promptly (info last : ListenerInfo Listener) (actions : List EntryAction)
    (reaches : entrySystem.Reachable info)
    (told : info.listener.listening = false ∨ info.listener.running = false)
    (inLoop : info.listener.thread.isInLoop = true)
    (steps : entrySystem.Steps info actions last) :
    (∃ polled later, last.listener.calls = info.listener.calls ++ (polled ++
        [.closeListenSocket info.listener.core.socket,
          .destroyPollGroup info.listener.core.pollGroup] ++ later) ∧
      polled.countP AdapterCall.isSend ≤ 1 ∧ polled.countP AdapterCall.isReceive ≤ 1) ∨
    actions.countP EntryAction.isRun < 10 ∧
      ∀ received, ∃ moved, last.listener.run received = some moved := by
  have serves := ListenThread.isServing_of_isInLoop inLoop
  have ends : Ends info := ⟨coherent_of_reachable reaches, told, serves⟩
  have start : Closing info.listener.calls info.listener.core.socket
      info.listener.core.pollGroup 10 info.listener := by
    refine .polling inLoop (List.append_nil _).symm rfl rfl ?_ ?_ ListenThread.untilClosed_le
    · cases info.listener.thread <;> simp [ListenThread.sendsLeft]
    · cases info.listener.thread <;> simp [ListenThread.receivesLeft]
  rcases steps.responds (fun info => HasClosed _ _ _ info.listener)
    (fun left info => Ends info ∧ Closing _ _ _ left info.listener) EntryAction.isRun
    ⟨ends, start⟩ (fun left _ _ _ waits _ steps => waits.1.closes waits.2 steps)
    fun _ _ _ closed _ steps => closed.step steps with closed | ⟨left, ⟨-, closing⟩, spent⟩
  · exact Or.inl closed
  · obtain ⟨waits, serves⟩ := closing.pos
    refine Or.inr ⟨by omega, Listener.exists_run ?_ ?_⟩
    · intro parked
      cases parked ▸ serves
    · intro exited
      cases exited ▸ serves

/-- The listener is stopped while its thread polls. -/
def pollAndStop : List EntryAction :=
  startAndPush ++ List.replicate 5 (.run .none) ++ [.beginStop, .callStep 0]

theorem stop_closes_promptly_pollAndStop :
    ∃ info last polled later, entrySystem.Reachable info ∧
      entrySystem.Steps info (List.replicate 10 (.run .none)) last ∧
      last.listener.calls = info.listener.calls ++ (polled ++
        [.closeListenSocket 5, .destroyPollGroup 6] ++ later) := by
  have executes : ∃ info last,
      entrySystem.run { listener := {} } pollAndStop = some info ∧
      info.listener.listening = false ∧ info.listener.thread.isInLoop = true ∧
      info.listener.core.socket = 5 ∧ info.listener.core.pollGroup = 6 ∧
      entrySystem.run info (List.replicate 10 (.run .none)) = some last :=
    ⟨_, _, rfl, rfl, rfl, rfl, rfl, rfl⟩
  obtain ⟨info, last, executes, told, inLoop, socket, pollGroup, goesOn⟩ := executes
  have reaches : entrySystem.Reachable info :=
    TransitionSystem.reachable_of_run ⟨rfl, rfl⟩ executes
  have steps := TransitionSystem.runWhere_eq_some_iff.mp goesOn
  rcases stop_closes_promptly info last _ reaches (Or.inl told) inLoop steps with
    ⟨polled, later, calls, -⟩ | ⟨few, -⟩
  · rw [socket, pollGroup] at calls
    exact ⟨info, last, polled, later, reaches, steps, calls⟩
  · exact absurd few (by decide)

end HttpServer
