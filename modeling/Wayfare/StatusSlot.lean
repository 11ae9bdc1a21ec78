/-!
A slot for the status of an answer. It holds the last status stored, and gives it out once.
-/
namespace Wayfare

structure StatusSlot where
  status? : Option Nat := none
  deriving DecidableEq, Repr

namespace StatusSlot

def store (_ : StatusSlot) (status : Nat) : StatusSlot :=
  ⟨some status⟩

/-- The stored status, which leaves the slot. -/
def take (s : StatusSlot) : Option Nat × StatusSlot :=
  (s.status?, {})

theorem take_store (s : StatusSlot) (status : Nat) : (s.store status).take = (some status, {}) :=
  rfl

end StatusSlot

end Wayfare
