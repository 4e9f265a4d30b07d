import Pubsub.Client.Connecting

/-! Scripts of what an application does with a client: what it does between frames, what its listeners
do when they are called, and what happens while one of its frames is being sent. -/

namespace Pubsub

/-- The name that an application has for a channel. -/
abbrev Handle := Text

/-- What is over at once, and can be done inside a callback too. -/
inductive Act where
  | make (handle : Handle) (name : Option Text) (family : Family)
  | bind (channel : Handle) (event : Option Text) (listener : Option Listener)
  | unbind (channel : Handle) (event : Option Text) (listener : Option Listener)
  | listeners (channel : Handle) (event : Option Text)
  | request (channel : Handle)
  | farewell (channel : Handle)
  | move (channel : Handle) (phase : Phase)
  | setToken (channel : Handle) (token : Option Text)
  | setLifecycle (channel : Handle) (listener : Option Listener)
  | receive (channel : Handle) (event : Text) (frame : Frame)
  | describe (channel : Handle)
  | precedes (channel other : Handle)
  | sort (channels : List Handle)
  | find (name : Option Text)
  | contains (name : Option Text)
  | deliver (name event : Text) (frame : Frame)
  | lose (resumable : Bool)
  | attach (connected : Bool)
  | setConnected (connected : Bool)
  /-- Something arrives on a socket, the one opened last unless another is named. -/
  | arrive (socket : Option SocketId) (arrival : Arrival)
  | statistics
  | shutDown

mutual

inductive Step where
  | act (act : Act)
  | subscribe (name : Option Text) (listener : Option Listener) (events : List (Option Text))
  | unsubscribe (name : Option Text)
  | resubscribe
  | connect (failure : Option Text)
  | send (message : Text)
  /-- A failure is what closing the socket that was opened last runs into, from now on. -/
  | disconnect (failure : Option Text)
  /-- Replaces the plans for the sends to come. -/
  | plan (plans : List Plan)
  /-- Makes callbacks that were put off: so many, or all. -/
  | makeCallbacks (count : Option Nat)

/-- What happens while a frame is being sent: some steps, then turns of the others. Then the send
is over, or fails. -/
inductive Plan where
  | while (during : List Step) (turns : Nat) (failure : Option Error)

end

mutual

def Step.size : Step → Nat
  | .plan plans => 1 + Plan.sizes plans
  | _ => 1

def Plan.size : Plan → Nat
  | .while during turns _ => 1 + turns + Step.sizes during

def Step.sizes : List Step → Nat
  | [] => 0
  | step :: rest => step.size + Step.sizes rest

def Plan.sizes : List Plan → Nat
  | [] => 0
  | plan :: rest => plan.size + Plan.sizes rest

end

/-- How a listener takes its calls. -/
inductive Manner where
  | plain
  /-- Raises an error after it has done everything else. -/
  | failing (reason : Text)
  /-- Cannot be told of subscriptions at all. -/
  | eventsOnly
deriving DecidableEq

def Manner.error : Manner → Option Text
  | .failing reason => some reason
  | .plain | .eventsOnly => none

/-- Each call of a listener performs the next of its scripts, as long as there are some. -/
structure Behaviour where
  manner : Manner := .plain
  onEvent : List (List Act) := []
  onSubscribed : List (List Act) := []

namespace Behaviour

def next (behaviour : Behaviour) : Notice → List Act × Behaviour
  | .event _ _ _ =>
    match behaviour.onEvent with
    | [] => ([], behaviour)
    | script :: rest => (script, { behaviour with onEvent := rest })
  | .subscribed _ =>
    match behaviour.onSubscribed with
    | [] => ([], behaviour)
    | script :: rest => (script, { behaviour with onSubscribed := rest })

/-- The acts in all scripts that are left. -/
def size (behaviour : Behaviour) : Nat :=
  behaviour.onEvent.flatten.length + behaviour.onSubscribed.flatten.length

theorem next_size (behaviour : Behaviour) (notice : Notice) :
    (behaviour.next notice).1.length + (behaviour.next notice).2.size = behaviour.size := by
  unfold next
  split <;> split <;> simp_all [size] <;> omega

end Behaviour

/-- The listeners and how they behave. One that is not listed is plain and has no scripts. -/
abbrev Cast := List (Listener × Behaviour)

namespace Cast

def next (notice : Notice) (listener : Listener) : Cast → Manner × List Act × Cast
  | [] => (.plain, [], [])
  | (name, behaviour) :: rest =>
    if name = listener then
      let (script, behaviour') := behaviour.next notice
      (behaviour.manner, script, (name, behaviour') :: rest)
    else
      let (manner, script, rest) := next notice listener rest
      (manner, script, (name, behaviour) :: rest)

def size : Cast → Nat
  | [] => 0
  | (_, behaviour) :: rest => behaviour.size + size rest

theorem next_size (notice : Notice) (listener : Listener) (cast : Cast) :
    (next notice listener cast).2.1.length + (next notice listener cast).2.2.size = cast.size := by
  induction cast with
  | nil => rfl
  | cons entry rest ih =>
    obtain ⟨name, behaviour⟩ := entry
    have own := behaviour.next_size notice
    by_cases same : name = listener
    · simp [next, same, size] at own ⊢
      omega
    · unfold next
      generalize next notice listener rest = found at ih ⊢
      obtain ⟨manner, script, left⟩ := found
      simp [same, size] at ih ⊢
      omega

end Cast
end Pubsub
