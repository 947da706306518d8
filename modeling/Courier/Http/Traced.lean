import Courier.Http.Exchange

/-!
# Traced activities

The value of an activity together with the requests it made, in order.  Activities that follow each
other make their requests one after the other.
-/

namespace Courier

/-- A value and the requests made on the way to it. -/
structure Traced (α : Type) where
  /-- What came of the activity. -/
  value : α
  /-- The requests made, in order. -/
  requests : List Request := []

namespace Traced

variable {α β : Type}

/-- A value that takes no request. -/
def pure (a : α) : Traced α := ⟨a, []⟩

/-- One activity and then another that depends on what came of it. -/
def bind (t : Traced α) (f : α → Traced β) : Traced β :=
  ⟨(f t.value).value, t.requests ++ (f t.value).requests⟩

instance : Monad Traced where
  pure := Traced.pure
  bind := Traced.bind

end Traced

end Courier
