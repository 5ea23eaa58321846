import QueryTemplates.Pattern.Reader
import QueryTemplates.Proofs.Pattern.Reasons

/-! # Faults of patterns

Reading a pattern meets a fault only where there is a reason for it in the text: a numeral that is too large
for a repetition, a numeral of too many digits, or the letters of two options that exclude each other.
-/

namespace QueryTemplates.Pattern

open Reader

variable {pattern : Text}

/-! ## Repetitions -/

namespace SoundWith

variable {fuel : Nat}

end SoundWith

end QueryTemplates.Pattern
