import EventMapLint.Setup
import Mathlib.Data.List.DropRight
import Mathlib.Data.List.Infix

/-! Setups after any number of edits. Each name is the last one given since the last reset. The rules are as the last
edit that switches them left them: a copy of the names of that moment, which no later edit of the names reaches. -/

namespace EventMapLint

namespace Edit

end Edit

namespace Setup

/-- The setup after all of some edits. -/
def run (setup : Setup) (edits : List Edit) : Setup := edits.foldl apply setup

section

variable {given? : Edit → Option String} {default : String} {edit : Edit}

end

section

variable {edit : Edit}

end

end Setup

end EventMapLint
