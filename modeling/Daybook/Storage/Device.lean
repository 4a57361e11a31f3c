import Daybook.Text.Basic

namespace Daybook

/-!
# Places to save to

A device takes a text or refuses it with a fault, and has a state that either
outcome may change.  What the state is, is up to the device.
-/

/-- Why a ledger could not be written, and where to. -/
structure WriteFault where
  message : Text
  path : Option Text
  deriving DecidableEq, Repr

/-- A place to save to, with a state of its own. -/
structure Device (σ : Type) where
  target : Text
  write : σ → Text → Except WriteFault Unit × σ

/-- The fault of a path that could not be written, for a reason. -/
def WriteFault.ofReason (path reason : Text) : WriteFault :=
  ⟨"Cannot write ledger to ".toList ++ path ++ ": ".toList ++ reason, some path⟩

/-- A device whose answer is known beforehand; its state is the text that it was
asked to write, if it was asked. -/
def Device.answering (target : Text) (result : Except WriteFault Unit) : Device (Option Text) where
  target := target
  write _ text := (result, some text)

end Daybook
