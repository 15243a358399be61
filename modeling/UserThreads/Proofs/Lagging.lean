import UserThreads.Proofs.Gating
import UserThreads.Proofs.Recast

/-!
Runs side by side: the timer comes in at the head of some calls of a run, and in another
run the thread yields before the call instead. What the threads of the two runs say and
hear, where their timers come in and how their processors change hands, and how far a
thread of the second run may lag behind.
-/

namespace UserThreads

variable {n k : Nat} {C ν : Type}

/-- Puts something else down for one of the threads. -/
def ThreadId.put {α : Type} (thread : ThreadId) (now : α) (notes : ThreadId → α) : ThreadId → α :=
  fun other => if other = thread then now else notes other

/-- What a thread says and hears in its own code. -/
inductive Utterance (n k : Nat) (C ν : Type)
  | said (move : Move n k C ν)
  | heard (answer : Reply ν)

/-- The calls that begin with closing the gate. -/
def Call.closes : Call n k C ν → Bool
  | .create .. | .yield _ | .exit .. | .join .. | .tryJoin .. | .numReady _ | .numCompleted _
  | .passGate _ => true
  | _ => false

namespace Moment

def utterance? (moment : Moment n k C ν) : Option (Utterance n k C ν) :=
  match moment.move, moment.machine.todo with
  | .work, .reply answer :: _ => some (.heard answer)
  | .work, .readCurrent index :: _ =>
      some (.heard (.id (moment.machine.runtime index).current))
  | .work, _ => none
  | move, _ => some (.said move)

def interrupted (moment : Moment n k C ν) : Bool :=
  match moment.move, moment.machine.todo with
  | .work, .close index :: _ => (moment.machine.runtime index).gate.close.2
  | _, _ => false

/-- The switch from one thread to another that this move carries out. -/
def switch? (home : Fin n) (moment : Moment n k C ν) : Option Switch :=
  if moment.after.thread home = moment.thread home then none
  else some ⟨moment.thread home, moment.after.thread home⟩

/-- The move is a call that begins with a chosen closing at which the timer is due. -/
def trades (home : Fin n) (chosen : Nat → Bool) (moment : Moment n k C ν) : Bool :=
  match moment.move with
  | .ask request => request.closes && (moment.machine.runtime home).gate.close.2 &&
      chosen ((moment.machine.runtime home).gate.seen + 1)
  | _ => false

/-- What the thread says and hears by this move; if the move is one of the `traded` ones, a
yield comes before. The newest utterance comes first. -/
def telling (home : Fin n) (traded : Moment n k C ν → Bool) (moment : Moment n k C ν) :
    List (Utterance n k C ν) :=
  moment.utterance?.toList ++
    if traded moment then [.heard .done, .said (.ask (.yield home))] else []

end Moment

/-- What a thread has said and heard, if it had yielded before its `traded` calls. -/
def dialogue (home : Fin n) (traded : Moment n k C ν → Bool) (thread : ThreadId) :
    List (Moment n k C ν) → List (Utterance n k C ν)
  | [] => []
  | moment :: past =>
      (if moment.thread home = thread then moment.telling home traded else []) ++
        dialogue home traded thread past

/-- The threads on which the timer has come in, but for its entries right behind a `traded` call. -/
def interruptions (home : Fin n) (traded : Moment n k C ν → Bool) :
    List (Moment n k C ν) → List ThreadId
  | [] => []
  | moment :: past =>
      if moment.interrupted && !past.head?.any traded then
        moment.thread home :: interruptions home traded past
      else interruptions home traded past

def switches (home : Fin n) (past : List (Moment n k C ν)) : List Switch :=
  past.filterMap (Moment.switch? home)

/-- The machine with which a run began. -/
def origin (past : List (Moment n k C ν)) (machine : Machine n k C ν) : Machine n k C ν :=
  (past.getLast?.map Moment.machine).getD machine

/-- The machine with another plan for the timer of its runtime. -/
def Machine.planned (machine : Machine n k C ν) (home : Fin n) (plan : Nat → Bool) :
    Machine n k C ν :=
  machine.setGate home { (machine.runtime home).gate with plan }

/-- How far a thread lags behind that yields where the timer has come in. The own code that
asks is that of a thread of `host`, or of the initial context. -/
inductive Lag (n k : Nat) (C ν : Type)
  | abreast
  /-- The timer is on its way in at the head of `request`; the yield is yet to come. -/
  | entering (request : Call n k C ν) (host : Option (Fin n))
  /-- The timer has made its decision; so has the yield. -/
  | entered (request : Call n k C ν) (host : Option (Fin n))

namespace Lag

/-- What is left for a thread that lags behind one that has `todo` left. -/
def todo (home : Fin n) : Lag n k C ν → List (Action n k C ν) → List (Action n k C ν)
  | .abreast, todo => todo
  | .entering _ host, _ => [.own host]
  | .entered _ host, _ => [.reopen home, .reply .done, .own host]

/-- What a thread that lags behind has still to say and to hear, the newest first. -/
def pending (home : Fin n) : Lag n k C ν → List (Utterance n k C ν)
  | .abreast => []
  | .entering request _ => [.said (.ask request), .heard .done, .said (.ask (.yield home))]
  | .entered request _ => [.said (.ask request), .heard .done]

def pendings (home : Fin n) (lag : ThreadId → Lag n k C ν) (thread : ThreadId) :
    List (Utterance n k C ν) :=
  (lag thread).pending home

/-- The thread has `todo` left in the timer's entry at the head of its call, and the decision
is yet to come. -/
inductive Approaches (home : Fin n) (request : Call n k C ν) (host : Option (Fin n)) :
    List (Action n k C ν) → Prop
  | close : Approaches home request host (.close home :: (request.actions.tail ++ [.own host]))
  | timer : Approaches home request host
      (.timer :: .closed home :: (request.actions.tail ++ [.own host]))
  | timerCloses : Approaches home request host
      (.close home :: .schedule home none :: .closed home ::
        (request.actions.tail ++ [.own host]))
  | timerSchedules : Approaches home request host
      (.schedule home none :: .closed home :: (request.actions.tail ++ [.own host]))

/-- A thread from which another lags behind has `todo` left. -/
inductive Stands (home : Fin n) : Lag n k C ν → List (Action n k C ν) → Prop
  | abreast {todo : List (Action n k C ν)} : Stands home .abreast todo
  | entering {request : Call n k C ν} {host : Option (Fin n)} {todo : List (Action n k C ν)}
      (closes : request.closes = true) (keeps : request.KeepsTo home)
      (approaches : Approaches home request host todo) :
      Stands home (.entering request host) todo
  | entered {request : Call n k C ν} {host : Option (Fin n)} (closes : request.closes = true)
      (keeps : request.KeepsTo home) :
      Stands home (.entered request host)
        (.closed home :: (request.actions.tail ++ [.own host]))

/-- The other thread's context, by how far it lags behind. -/
def cast (home : Fin n) (lag : ThreadId → Lag n k C ν) (thread : ThreadId)
    (context : Context n k C ν) : Context n k C ν :=
  ⟨(lag thread).todo home context.todo, context.code⟩

end Lag

variable {home : Fin n} {chosen : Nat → Bool} {past past' : List (Moment n k C ν)}
  {machine machine' : Machine n k C ν} {moment moment' : Moment n k C ν}
  {pending : ThreadId → List (Utterance n k C ν)}

theorem Call.closing {request : Call n k C ν} (closes : request.closes = true)
    (keeps : request.KeepsTo home) :
    request.actions = .close home :: request.actions.tail := by
  cases request with
  | create | yield | exit | join | tryJoin | numReady | numCompleted | passGate =>
      cases keeps
      rfl
  | current | dropRuntime | init | lock | unlock | destroy | dropMutex => cases closes

theorem Machine.todo_ask {request : Call n k C ν} {host : Option (Fin n)}
    (closes : request.closes = true) (keeps : request.KeepsTo home)
    (own : machine.todo = [.own host]) :
    (machine.make (.ask request)).todo = .close home :: (request.actions.tail ++ [.own host]) := by
  have first := congrArg (· ++ machine.todo) (request.closing closes keeps)
  rw [own] at first
  simpa [make, call, own] using first

@[simp] theorem put_self {α : Type} (thread : ThreadId) (now : α) (notes : ThreadId → α) :
    thread.put now notes thread = now := if_pos rfl

theorem put_other {α : Type} {thread other : ThreadId} (apart : other ≠ thread) (now : α)
    (notes : ThreadId → α) : thread.put now notes other = notes other := if_neg apart

theorem put_same {α : Type} {thread : ThreadId} {now : α} {notes : ThreadId → α}
    (same : notes thread = now) : thread.put now notes = notes := by
  funext other
  unfold ThreadId.put
  split
  · rename_i self
    rw [self, same]
  · rfl

theorem Lag.pendings_put (lag : ThreadId → Lag n k C ν) (thread : ThreadId)
    (now : Lag n k C ν) : pendings home (thread.put now lag) =
      thread.put (now.pending home) (pendings home lag) := by
  funext other
  unfold pendings ThreadId.put
  split <;> rfl

theorem origin_cons (move : Move n k C ν) (after : Machine n k C ν) :
    origin (⟨machine, move⟩ :: past) after = origin past machine := by
  cases past with
  | nil => rfl
  | cons moment past =>
      simp [origin, List.getLast?_eq_some_getLast]

theorem Moment.switch_eq (before : moment'.thread home = moment.thread home)
    (after : moment'.after.thread home = moment.after.thread home) :
    moment'.switch? home = moment.switch? home := by
  rw [switch?, switch?, before, after]

/-- Two runs tell the same, but for what is `pending` in the second one. -/
structure Tells (home : Fin n) (chosen : Nat → Bool)
    (pending : ThreadId → List (Utterance n k C ν)) (past past' : List (Moment n k C ν)) :
    Prop where
  interruptions : interruptions home (fun _ => false) past' =
    interruptions home (Moment.trades home chosen) past
  switches : switches home past' = switches home past
  dialogues : ∀ thread, dialogue home (Moment.trades home chosen) thread past =
    pending thread ++ dialogue home (fun _ => false) thread past'

namespace Tells

theorem switches_quiet (quiet : moment.switch? home = none) :
    UserThreads.switches home (moment :: past) = UserThreads.switches home past :=
  List.filterMap_cons_none quiet

/-- The second run goes on alone, and tells something of what is pending. -/
theorem behind {later : ThreadId → List (Utterance n k C ν)}
    (tells : Tells home chosen pending past past') (quiet : moment'.interrupted = false)
    (stays : moment'.switch? home = none)
    (speaks : ∀ thread, pending thread = later thread ++
      if moment'.thread home = thread then moment'.utterance?.toList else []) :
    Tells home chosen later past (moment' :: past') := by
  constructor
  case interruptions =>
    rw [UserThreads.interruptions, quiet]
    exact tells.interruptions
  case switches => rw [switches_quiet stays, tells.switches]
  case dialogues =>
    intro thread
    rw [tells.dialogues, speaks, dialogue, List.append_assoc]
    congr 2
    simp [Moment.telling]

theorem silent (tells : Tells home chosen pending past past')
    (quiet : moment'.interrupted = false) (stays : moment'.switch? home = none)
    (mute : moment'.utterance? = none) : Tells home chosen pending past (moment' :: past') :=
  tells.behind quiet stays fun thread => by simp [mute]

/-- The second run catches up by one utterance. -/
theorem utters {thread : ThreadId} {left : List (Utterance n k C ν)}
    {utterance : Utterance n k C ν}
    (tells : Tells home chosen (thread.put (left ++ [utterance]) pending) past past')
    (quiet : moment'.interrupted = false) (stays : moment'.switch? home = none)
    (self : moment'.thread home = thread) (speaks : moment'.utterance? = some utterance) :
    Tells home chosen (thread.put left pending) past (moment' :: past') := by
  refine tells.behind quiet stays fun other => ?_
  rw [self, speaks]
  by_cases same : other = thread
  · simp [same]
  · simp [put_other same, Ne.symm same]

/-- The first run goes on alone, and tells something that is pending then. -/
theorem ahead {later : ThreadId → List (Utterance n k C ν)}
    (tells : Tells home chosen pending past past')
    (traded : moment.interrupted = true → past.head?.any (Moment.trades home chosen) = true)
    (stays : moment.switch? home = none)
    (speaks : ∀ thread, later thread =
      (if moment.thread home = thread then moment.telling home (Moment.trades home chosen)
        else []) ++ pending thread) :
    Tells home chosen later (moment :: past) past' := by
  constructor
  case interruptions =>
    have skipped : (moment.interrupted &&
        !past.head?.any (Moment.trades home chosen)) = false := by
      cases comes : moment.interrupted with
      | false => rfl
      | true => rw [traded comes]; rfl
    rw [UserThreads.interruptions, skipped]
    exact tells.interruptions
  case switches => rw [switches_quiet stays, tells.switches]
  case dialogues =>
    intro thread
    rw [dialogue, tells.dialogues, speaks, List.append_assoc]

/-- Both runs go on in the same way. -/
theorem both (tells : Tells home chosen pending past past')
    (thread : moment'.thread home = moment.thread home)
    (untraded : moment.trades home chosen = false)
    (same : moment'.interrupted = moment.interrupted)
    (apart : moment.interrupted = true → past.head?.any (Moment.trades home chosen) = false)
    (switch : moment'.switch? home = moment.switch? home)
    (utterance : moment'.utterance? = moment.utterance?)
    (speaks : moment.utterance? = none ∨ pending (moment.thread home) = []) :
    Tells home chosen pending (moment :: past) (moment' :: past') := by
  constructor
  case interruptions =>
    rw [UserThreads.interruptions, UserThreads.interruptions, same, thread, tells.interruptions]
    cases comes : moment.interrupted with
    | false => rfl
    | true =>
        rw [apart comes]
        cases past'.head? <;> rfl
  case switches =>
    have earlier := tells.switches
    rw [UserThreads.switches, UserThreads.switches] at earlier
    rw [UserThreads.switches, UserThreads.switches, List.filterMap_cons, List.filterMap_cons,
      switch, earlier]
  case dialogues =>
    intro other
    have told : moment'.telling home (fun _ => false) =
        moment.telling home (Moment.trades home chosen) := by
      simp [Moment.telling, utterance, untraded]
    rw [dialogue, dialogue, thread, told, tells.dialogues]
    split
    · rename_i self
      rcases speaks with silent | nothing
      · simp [Moment.telling, silent, untraded]
      · rw [← self, nothing]
        rfl
    · rfl

end Tells

end UserThreads
