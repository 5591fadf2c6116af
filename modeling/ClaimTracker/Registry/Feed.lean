import ClaimTracker.Registry

/-!
# The feed of a registry

Events come to the registry through a queue of limited length, which gives them out in the order in
which they were sent. A sender waits as long as the queue is full. When all senders have gone, the
registry still follows what is waiting and is closed after that.
-/

namespace ClaimTracker

/-- A registry behind a queue of events. -/
structure Feed where
  registry : Registry
  /-- The number of events for which there is room. -/
  capacity : Nat
  /-- The events that have been sent and not followed, the oldest first. -/
  waiting : List ConfigEvent := []
  served : Bool := true

namespace Feed

/-- What can happen to a feed. -/
inductive Step where
  | send (e : ConfigEvent)
  /-- The registry follows the oldest event, or is closed when no more can come. -/
  | deliver
  /-- The last sender goes. -/
  | hangUp
deriving DecidableEq, Repr

/-- The feed after a step, unless the step has to wait. -/
def step? (f : Feed) : Step → Option Feed
  | .send e =>
    if f.served && f.waiting.length < f.capacity then
      some { f with waiting := f.waiting ++ [e] }
    else none
  | .deliver =>
    match f.waiting with
    | e :: waiting => some { f with registry := f.registry.receive e, waiting }
    | [] => if f.served then none else some { f with registry := f.registry.close }
  | .hangUp => some { f with served := false }

/-- The feed after steps one after the other, if each could be taken. -/
def run? (f : Feed) (steps : List Step) : Option Feed :=
  steps.foldlM step? f

end Feed

end ClaimTracker
