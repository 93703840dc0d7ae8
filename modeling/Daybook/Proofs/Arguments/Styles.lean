import Daybook.Proofs.Arguments.Alike

namespace Daybook.Arguments

open Scan (Alike Same)

variable {free : List Setting} {scan : Scan} {setting : Setting} {texts : List String}

/-- Whether a reading is refused or goes on from a scan that is alike. -/
def GoesOn (free : List Setting) (scan : Scan) (reading : Except Stop Scan) : Prop :=
  reading = .error .refused ∨ ∃ next, reading = .ok next ∧ Alike free false scan next

section OneWord

variable (hclosed : scan.closed = false)

include hclosed

end OneWord

end Daybook.Arguments
