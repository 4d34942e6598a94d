/-!
# Observable values

`Signal<T>` in `crates/panelkit-core/src/state.rs`: `set`, `update`, `subscribe` and the
notification loop `notify`, with callbacks that call the signal again.

A `Signal` holds a value and the subscribers to its changes, in subscription order. A change
stores a value, then calls the subscribers that exist at that moment, in order, each with the
value stored. A subscriber is a callback: called with a value, it makes calls on the signal
through a handle of its own, as any holder of a handle may (`Signal.Call`). It may subscribe
others, which are called from the next change on, set the value, or update it from the value
it then holds. A change a subscriber makes runs to its end, its own subscribers included,
before the subscriber's next call, and the next subscriber of the outer change is called once
the subscriber's calls are done.

Every time a subscriber is called, its name and the value it was given are logged.

Changes nest, so a run takes a depth bound, the number of changes that may be open inside
one another; a run that would go deeper gives `none`.
-/

namespace Sidebar

mutual

/-- A call on a signal through a handle on it, from outside any notification or from a
subscriber. A set is the update to a constant (`Signal.Call.set`). -/
inductive Signal.Call (α : Type) where
  /-- Stores the value `f` gives for the current one and notifies the subscribers. -/
  | update (f : α → α)
  /-- Adds a subscriber after the others. -/
  | subscribe (sub : Subscriber α)

/-- A subscriber to the changes of a signal: a name, and the calls it makes on the signal, in
order, when it is called with a value. -/
structure Subscriber (α : Type) where
  name : String
  react : α → List (Signal.Call α)

end

/-- A value with its subscribers, in subscription order. -/
structure Signal (α : Type) where
  value : α
  subscribers : List (Subscriber α) := []

/-- A signal and the calls of its subscribers logged so far, in order. -/
structure Run (α : Type) where
  signal : Signal α
  log : Array (String × α) := #[]

variable {α : Type}

namespace Signal

/-- The signal with one more subscriber, after the others. -/
def subscribe (s : Signal α) (sub : Subscriber α) : Signal α :=
  { s with subscribers := s.subscribers ++ [sub] }

/-- Stores `v` and notifies the subscribers: the update to the constant `v`. -/
def Call.set (v : α) : Call α := .update fun _ => v

end Signal

namespace Run

/-- The run with `v` stored as the value. -/
def store (r : Run α) (v : α) : Run α := { r with signal := { r.signal with value := v } }

/-- The run with `sub` subscribed after the others. -/
def subscribe (r : Run α) (sub : Subscriber α) : Run α :=
  { r with signal := r.signal.subscribe sub }

/-- The run with a call of the subscriber `name` with `v` logged. -/
def called (r : Run α) (name : String) (v : α) : Run α := { r with log := r.log.push (name, v) }

@[simp] theorem store_signal_value (r : Run α) (v : α) : (r.store v).signal.value = v := rfl

@[simp] theorem store_signal_subscribers (r : Run α) (v : α) :
    (r.store v).signal.subscribers = r.signal.subscribers := rfl

@[simp] theorem store_log (r : Run α) (v : α) : (r.store v).log = r.log := rfl

@[simp] theorem subscribe_signal_value (r : Run α) (sub : Subscriber α) :
    (r.subscribe sub).signal.value = r.signal.value := rfl

@[simp] theorem subscribe_signal_subscribers (r : Run α) (sub : Subscriber α) :
    (r.subscribe sub).signal.subscribers = r.signal.subscribers ++ [sub] := rfl

@[simp] theorem subscribe_log (r : Run α) (sub : Subscriber α) : (r.subscribe sub).log = r.log :=
  rfl

@[simp] theorem called_signal (r : Run α) (name : String) (v : α) :
    (r.called name v).signal = r.signal := rfl

@[simp] theorem called_log (r : Run α) (name : String) (v : α) :
    (r.called name v).log = r.log.push (name, v) := rfl

end Run

namespace Signal

/-- Makes a subscriber's calls in order on the run so far; `nested r v` makes the change to `v`
that a call opens inside the notification. -/
def perform (nested : Run α → α → Option (Run α)) (r : Run α) :
    List (Call α) → Option (Run α)
  | [] => some r
  | .subscribe sub :: calls => perform nested (r.subscribe sub) calls
  | .update f :: calls =>
    match nested r (f r.signal.value) with
    | none => none
    | some r' => perform nested r' calls

/-- Calls the subscribers `subs` in order with `v`: each call is logged, then the subscriber
makes its calls, the changes they open made by `nested`. -/
def notifyWith (nested : Run α → α → Option (Run α)) (r : Run α) (v : α) :
    List (Subscriber α) → Option (Run α)
  | [] => some r
  | sub :: rest =>
    match perform nested (r.called sub.name v) (sub.react v) with
    | none => none
    | some r' => notifyWith nested r' v rest

/-- Stores `v` and calls the subscribers there are now; the changes they open nest inside this
one, with at most `depth` more open at once. -/
def setIn : Nat → Run α → α → Option (Run α)
  | 0, r, v => notifyWith (fun _ _ => none) (r.store v) v r.signal.subscribers
  | d + 1, r, v => notifyWith (setIn d) (r.store v) v r.signal.subscribers

/-- How deep changes may nest inside one another. -/
def depthBound : Nat := 100000

/-- Sets the value of a signal, with the calls of its subscribers logged. -/
def set (s : Signal α) (v : α) : Option (Run α) :=
  setIn depthBound { signal := s } v

/-- Changes the value by `f` and notifies as `set` does. -/
def update (s : Signal α) (f : α → α) : Option (Run α) := s.set (f s.value)

/-- Makes a call from outside any notification: the signal after it, with the calls of its
subscribers logged; `none` when the changes it starts nest too deeply. -/
def Call.run (s : Signal α) : Call α → Option (Run α)
  | .update f => s.update f
  | .subscribe sub => some { signal := s.subscribe sub }

/-- Makes calls in order: the signal after them, with the calls of subscribers logged, in
order. -/
def runCalls (s : Signal α) : List (Call α) → Option (Run α)
  | [] => some { signal := s }
  | c :: cs =>
    match Call.run s c with
    | none => none
    | some r => (runCalls r.signal cs).map fun r' => { r' with log := r.log ++ r'.log }

/-- The diagnostic text of a signal: its value, written by `write`, and the number of its
subscribers. -/
def debugText (s : Signal α) (write : α → String) : String :=
  "Signal \x7b value: " ++ write s.value ++ ", subscribers: " ++ toString s.subscribers.length ++ " \x7d"

end Signal

end Sidebar
