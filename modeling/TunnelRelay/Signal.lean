/-!
# Stop signals

Signals form a forest. A request on a signal reaches the signal, the ones made under it and no
other, and it is never taken back; a signal that is made under a requested one is requested from
the start. A clone is another handle of the same signal.
-/

namespace TunnelRelay

/-- One signal: the one it was made under, if any, and whether it was itself requested. -/
structure Signal where
  parent : Option Nat
  requested : Bool
  deriving DecidableEq

/-- The signals that have been made, each known by its place. A signal's parent was made before
it. -/
structure SignalForest where
  signals : List Signal
  deriving DecidableEq

namespace SignalForest

/-- Whether the signal at a place or one that it was made under was requested. Parents come
earlier, so `fuel` places suffice for the signals before that place. -/
def reaches (f : SignalForest) : Nat → Nat → Bool
  | 0, _ => false
  | fuel + 1, i =>
    match f.signals[i]? with
    | none => false
    | some s =>
      s.requested ||
        match s.parent with
        | none => false
        | some p => f.reaches fuel p

/-- Whether a signal is requested. -/
def isRequested (f : SignalForest) (i : Nat) : Bool := f.reaches (i + 1) i

/-- A forest of one signal. -/
def new : SignalForest := ⟨[⟨none, false⟩]⟩

/-- Makes a signal under another one and gives its place. -/
def child (f : SignalForest) (i : Nat) : SignalForest × Nat :=
  (⟨f.signals ++ [⟨some i, false⟩]⟩, f.signals.length)

/-- Requests a signal. -/
def request (f : SignalForest) (i : Nat) : SignalForest :=
  ⟨f.signals.modify i fun s => { s with requested := true }⟩

end SignalForest

/-- What is done with a list of handles, each named by its place in the list. -/
inductive SignalOp where
  /-- A handle of a new signal under this one. -/
  | child (handle : Nat)
  /-- Another handle of this signal. -/
  | clone (handle : Nat)
  | request (handle : Nat)
  /-- Starts to wait for this signal. -/
  | wait (handle : Nat)

/-- One that waits for a signal. -/
structure Waiter where
  signal : Nat
  isWoken : Bool

/-- Wakes if the signal is requested. What is woken stays so. -/
def Waiter.look (w : Waiter) (f : SignalForest) : Waiter :=
  { w with isWoken := w.isWoken || f.isRequested w.signal }

/-- The handles of signals and those that wait. -/
structure SignalSession where
  forest : SignalForest
  /-- The signal of each handle. -/
  handles : List Nat
  waiters : List Waiter

namespace SignalSession

/-- One handle of one signal. -/
def new : SignalSession := ⟨.new, [0], []⟩

/-- The signal of a handle; a handle that is not there stands for the first signal. -/
def signal (s : SignalSession) (handle : Nat) : Nat := s.handles[handle]?.getD 0

/-- Does one operation. A waiter looks at its signal when it starts to wait, and again at each
request. -/
def apply (s : SignalSession) : SignalOp → SignalSession
  | .child h =>
    let (forest, i) := s.forest.child (s.signal h)
    { s with forest := forest, handles := s.handles ++ [i] }
  | .clone h => { s with handles := s.handles ++ [s.signal h] }
  | .request h =>
    let forest := s.forest.request (s.signal h)
    { s with forest := forest, waiters := s.waiters.map (·.look forest) }
  | .wait h =>
    let waiter : Waiter := ⟨s.signal h, false⟩
    { s with waiters := s.waiters ++ [waiter.look s.forest] }

/-- Whether each handle's signal is requested. -/
def requested (s : SignalSession) : List Bool := s.handles.map s.forest.isRequested

/-- Whether each waiter has been woken. -/
def woken (s : SignalSession) : List Bool := s.waiters.map (·.isWoken)

end SignalSession

end TunnelRelay
