namespace EventMapLint

/-- A stretch of source text, by the UTF-8 byte offsets of its ends. Nothing asks that `start ≤ stop`. -/
structure Span where
  start : Nat
  stop : Nat
  deriving DecidableEq, Repr, Inhabited

end EventMapLint
