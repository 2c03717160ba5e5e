/-! The stages a connection to a display goes through. -/

namespace CharLcd

/-- How far a connection has been brought up, or how it ended. -/
inductive Stage where
  | unconfigured
  | pinsAllocated
  | pinsExported
  | protocolReset
  | ready
  | failed
  | closed
deriving DecidableEq, Repr

namespace Stage

/-- Every stage once, in the order a connection can reach them. -/
def all : List Stage :=
  [unconfigured, pinsAllocated, pinsExported, protocolReset, ready, failed, closed]

/-- The identifier in structured input. -/
def name : Stage → String
  | unconfigured => "Unconfigured"
  | pinsAllocated => "PinsAllocated"
  | pinsExported => "PinsExported"
  | protocolReset => "ProtocolReset"
  | ready => "Ready"
  | failed => "Failed"
  | closed => "Closed"

/-- The words a stage is shown with. -/
def label : Stage → String
  | unconfigured => "unconfigured"
  | pinsAllocated => "pins allocated"
  | pinsExported => "pins exported"
  | protocolReset => "protocol reset"
  | ready => "ready"
  | failed => "failed"
  | closed => "closed"

/-- The stage that goes by `text`, if any does. -/
def ofName? (text : String) : Option Stage :=
  all.find? (·.name == text)

end Stage

end CharLcd
