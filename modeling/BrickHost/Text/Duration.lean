/-! Spans of time, counted in nanoseconds, and how they are written: in the largest of the units
s, ms, µs and ns that leaves a whole part, with no trailing zeros in the fraction. -/

namespace BrickHost

structure Duration where
  nanos : Nat
  deriving DecidableEq, Repr

namespace Duration

def ofMillis (ms : Nat) : Duration := ⟨ms * 1000000⟩

def ofParts (secs nanos : Nat) : Duration := ⟨secs * 1000000000 + nanos⟩

def secs (d : Duration) : Nat := d.nanos / 1000000000

/-- What is left over the whole seconds, in nanoseconds. -/
def subsec (d : Duration) : Nat := d.nanos % 1000000000

def millis (d : Duration) : Nat := d.nanos / 1000000

/-- The first whole millisecond at which the span is over. -/
def ceilMillis (d : Duration) : Nat := (d.nanos + 999999) / 1000000

def longest : Duration := ofParts (UInt64.size - 1) 999999999

/-- Seconds and nanoseconds together, `none` past the longest span. -/
def ofParts? (secs nanos : Nat) : Option Duration :=
  let d := ofParts secs nanos
  if d.nanos ≤ longest.nanos then some d else none

def max (a b : Duration) : Duration := ⟨Nat.max a.nanos b.nanos⟩

/-- Twice the span, `none` past the longest. -/
def double? (d : Duration) : Option Duration :=
  if 2 * d.nanos ≤ longest.nanos then some ⟨2 * d.nanos⟩ else none

def sub (a b : Duration) : Duration := ⟨a.nanos - b.nanos⟩

/-- The digits of `n` behind the point, `width` places without the zeros at the end. -/
def fraction (width n : Nat) : List Char :=
  let digits := Nat.toDigits 10 n
  let padded := List.replicate (width - digits.length) '0' ++ digits
  (padded.reverse.dropWhile (· == '0')).reverse

def decimal (width whole part : Nat) (unit : String) : String :=
  let shown := toString whole
  if part = 0 then shown ++ unit
  else shown ++ "." ++ String.ofList (fraction width part) ++ unit

def text (d : Duration) : String :=
  let n := d.nanos
  if 1000000000 ≤ n then decimal 9 (n / 1000000000) (n % 1000000000) "s"
  else if 1000000 ≤ n then decimal 6 (n / 1000000) (n % 1000000) "ms"
  else if 1000 ≤ n then decimal 3 (n / 1000) (n % 1000) "µs"
  else decimal 0 n 0 "ns"

example : (ofParts 3600 10).text = "3600.00000001s" := by decide +kernel
example : (ofMillis 1600).text = "1.6s" := by decide +kernel
example : (⟨1500⟩ : Duration).text = "1.5µs" := by decide +kernel

end Duration
end BrickHost
