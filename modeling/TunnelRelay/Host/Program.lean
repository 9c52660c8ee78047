import TunnelRelay.OsError
/-!
# Programs of the system

How the successive runs of a program end, as a script.
-/

namespace TunnelRelay.Host

/-- How a run of a program ends. -/
inductive Ending where
  /-- It cannot be started. -/
  | unstarted (e : OsError)
  | exited (code : Nat)
  | killed (signal : Nat)
  deriving DecidableEq

namespace Ending

/-- Whether there is a run at all. -/
def isStarted : Ending → Bool
  | .unstarted _ => false
  | _ => true

/-- Whether the run is a success. -/
def isSuccess (e : Ending) : Bool := e = .exited 0

end Ending

/-- How the runs of a program end. -/
structure ExitScript where
  /-- The next runs. -/
  next : List Ending
  /-- All later runs. -/
  later : Ending
  deriving DecidableEq

namespace ExitScript

/-- The program is not installed. -/
def missing : ExitScript := ⟨[], .unstarted .noEntry⟩

/-- The exit codes of the next runs. All later runs end with 0. -/
def codes (cs : List Nat) : ExitScript := ⟨cs.map .exited, .exited 0⟩

/-- One run. -/
def take (s : ExitScript) : Ending × ExitScript :=
  match s.next with
  | [] => (s.later, s)
  | e :: es => (e, { s with next := es })

end ExitScript

end TunnelRelay.Host
