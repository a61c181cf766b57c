namespace EventMapLint

/-- The names that a handler's first two parameters should have. -/
structure Names where
  event : String := "event"
  templateInstance : String := "templateInstance"
  deriving DecidableEq, Repr

namespace Names

def default : Names := {}

def withEvent (names : Names) (event : String) : Names := { names with event }

def withTemplateInstance (names : Names) (templateInstance : String) : Names := { names with templateInstance }

/-- The expected names by position. -/
def toList (names : Names) : List String := [names.event, names.templateInstance]

end Names

end EventMapLint
