/-! # The text of a span of time

A span is a count of nanoseconds. It is shown in the largest unit of s, ms, µs and ns that leaves
a whole part, as a decimal without closing zeros: 1.5s, 30ms, 1.001µs, 0ns.

Main definition: **`Span.text`**. -/

namespace MqttSessions

/-- A span of time, in nanoseconds. -/
structure Span where
  nanos : Nat
  deriving DecidableEq, Repr

namespace Span

/-- The span of so many milliseconds. -/
def ofMillis (ms : Nat) : Span := ⟨ms * 1000000⟩

/-- Ten to the number of places. -/
def scale (places : Nat) : Nat := Nat.pow 10 places

/-- The digits of a fraction `n / scale places`, without closing zeros. -/
def fractionDigits : (places : Nat) → (n : Nat) → List Char
  | 0, _ => []
  | places + 1, n =>
    if n = 0 then []
    else Nat.digitChar (n / scale places) :: fractionDigits places (n % scale places)

/-- The decimal `n / scale places`, without closing zeros. -/
def decimal (places n : Nat) : String :=
  let whole := toString (n / scale places)
  match fractionDigits places (n % scale places) with
  | [] => whole
  | digits => whole ++ "." ++ String.ofList digits

/-- The text of a span, in its largest unit with a whole part. -/
def text (span : Span) : String :=
  if 1000000000 ≤ span.nanos then decimal 9 span.nanos ++ "s"
  else if 1000000 ≤ span.nanos then decimal 6 span.nanos ++ "ms"
  else if 1000 ≤ span.nanos then decimal 3 span.nanos ++ "µs"
  else toString span.nanos ++ "ns"

end Span

end MqttSessions
