import EventMapLint.Lint

namespace EventMapLint

/-- Names being edited, and the rules that copies of them have been given to. -/
structure Setup where
  names : Names := Names.default
  rules : Rules := Rules.all
  deriving DecidableEq, Repr

inductive Edit
  | event (name : String)
  | templateInstance (name : String)
  | reset
  | disableAll
  | enableAll
  | enable
  deriving DecidableEq, Repr

/-- Only `enable` carries the names over to the rules, as they are at that moment. -/
def Setup.apply (setup : Setup) : Edit → Setup
  | .event name => { setup with names := setup.names.withEvent name }
  | .templateInstance name => { setup with names := setup.names.withTemplateInstance name }
  | .reset => { setup with names := Names.default }
  | .disableAll => { setup with rules := Rules.none }
  | .enableAll => { setup with rules := Rules.all }
  | .enable => { setup with rules := setup.rules.withEventMapParams setup.names }

/-- The setups after each edit. -/
def Setup.history (setup : Setup) : List Edit → List Setup
  | [] => []
  | edit :: edits => setup.apply edit :: (setup.apply edit).history edits

end EventMapLint
