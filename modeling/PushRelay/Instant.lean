/-!
# Instants

An instant is a reading of a clock in nanoseconds.  The clock counts its seconds in a signed word, so
that there is a last instant: `Instant.after?` says which instant comes so much later, if any does.
-/

namespace PushRelay

namespace Instant

/-- The end of the instants. -/
def bound : Int := 0x8000000000000000 * 1000000000

/-- The instant that comes so many nanoseconds after a reading. -/
def after? (now : Int) (nanos : Nat) : Option Int :=
  if now + nanos < bound then some (now + nanos) else none

theorem after?_eq_some {now : Int} {nanos : Nat} (fits : now + nanos < bound) :
    after? now nanos = some (now + nanos) :=
  if_pos fits

end Instant

end PushRelay
