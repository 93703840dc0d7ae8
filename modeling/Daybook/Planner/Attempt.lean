import Daybook.Output
import Daybook.Planner.Failure

namespace Daybook

/-- What a computation comes to, and the notes that it has made, which are kept where it fails. -/
structure Attempt (α : Type) where
  notes : List Note := []
  result : Except Failure α

namespace Attempt

/-- An attempt that follows these notes. -/
def after {α : Type} (notes : List Note) (attempt : Attempt α) : Attempt α :=
  { attempt with notes := notes ++ attempt.notes }

/-- Goes on with the result of an attempt, if there is one. -/
def andThen {α β : Type} (first : Attempt α) (next : α → Attempt β) : Attempt β :=
  match first.result with
  | .ok a => (next a).after first.notes
  | .error failure => { notes := first.notes, result := .error failure }

instance : Monad Attempt where
  pure a := { result := .ok a }
  bind := andThen

/-- A part that may fail and makes no notes. -/
def of {ε α : Type} (wrap : ε → Failure) (part : Except ε α) : Attempt α where
  result := part.mapError wrap

def fail {α : Type} (failure : Failure) : Attempt α where
  result := .error failure

def note (context : Option String) (message : String) : Attempt Unit where
  notes := [{ context := context, message := message }]
  result := .ok ()

end Attempt

end Daybook
