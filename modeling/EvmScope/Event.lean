set_option autoImplicit false

/-! # Events and their handlers

A hub keeps a list of handlers for every topic, in the order in which they subscribed; a handler may be
in a list more than once. Firing runs the handlers that are in the list at that moment, one after the
other, and a handler that fails does not keep the others from running. Taking a handler out removes its
first occurrence. -/

namespace EvmScope

/-- What an event is about. -/
inductive Topic
  | tourStepChanged
  | tourEnded
  | tourNotice
  | snapshotCreated
  | contractAnalyzed
  deriving DecidableEq, Repr

namespace Topic

/-- All topics. -/
def all : List Topic :=
  [tourStepChanged, tourEnded, tourNotice, snapshotCreated, contractAnalyzed]

/-- The word for a topic. -/
def name : Topic → String
  | tourStepChanged => "tour_step_changed"
  | tourEnded => "tour_ended"
  | tourNotice => "tour_notice"
  | snapshotCreated => "snapshot_created"
  | contractAnalyzed => "contract_analyzed"

/-- The topic that a word stands for. -/
def ofName? (word : String) : Option Topic :=
  all.find? (fun t => t.name == word)

end Topic

/-- The handlers of every topic. -/
structure Hub (η : Type) where
  handlers : Topic → List η

namespace Hub

variable {η : Type}

/-- No handlers at all. -/
def empty : Hub η := ⟨fun _ => []⟩

/-- Replace the handlers of one topic. -/
def update (hub : Hub η) (topic : Topic) (change : List η → List η) : Hub η :=
  ⟨fun t => if t = topic then change (hub.handlers t) else hub.handlers t⟩

/-- Add a handler behind the others of a topic. -/
def subscribe (hub : Hub η) (topic : Topic) (handler : η) : Hub η :=
  hub.update topic (fun handlers => handlers ++ [handler])

/-- Take out the first occurrence of a handler. -/
def unsubscribe [BEq η] (hub : Hub η) (topic : Topic) (handler : η) : Hub η :=
  hub.update topic (fun handlers => handlers.erase handler)

/-- Whether a handler is subscribed to a topic. -/
def isSubscribed [BEq η] (hub : Hub η) (topic : Topic) (handler : η) : Bool :=
  (hub.handlers topic).contains handler

/-- The number of handlers of a topic. -/
def count (hub : Hub η) (topic : Topic) : Nat :=
  (hub.handlers topic).length

/-- Run the handlers of a topic; `run` says whether a handler succeeded. The result is the number of
    those that did. -/
def fire {m : Type → Type} [Monad m] (hub : Hub η) (topic : Topic) (run : η → m Bool) : m Nat :=
  (hub.handlers topic).foldlM
    (fun delivered handler => do
      let succeeded ← run handler
      pure (if succeeded then delivered + 1 else delivered))
    0

end Hub

end EvmScope
