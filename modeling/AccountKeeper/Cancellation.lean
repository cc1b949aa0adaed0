/-!
# Cancellation signals

A signal is raised once and stays raised.  Several handles may share one
signal: a handle made from another one stands for the same signal.
-/

set_option autoImplicit false

namespace AccountKeeper

structure CancelHandle where
  signal : Nat
  deriving DecidableEq, Repr

/-- All signals, with whether each of them is raised. -/
structure CancelSignals where
  raised : List Bool := []
  deriving DecidableEq, Repr

namespace CancelSignals

def create (signals : CancelSignals) : CancelHandle × CancelSignals :=
  (⟨signals.raised.length⟩, ⟨signals.raised ++ [false]⟩)

def cancel (signals : CancelSignals) (handle : CancelHandle) : CancelSignals :=
  ⟨signals.raised.set handle.signal true⟩

def isCancelled (signals : CancelSignals) (handle : CancelHandle) : Bool :=
  signals.raised.getD handle.signal false

end CancelSignals

end AccountKeeper
