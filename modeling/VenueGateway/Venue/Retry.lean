import VenueGateway.Duration

/-!
When a lost connection is tried again: always after the same delay, without any limit to the
attempts.
-/

namespace VenueGateway

/-- The attempts that have been made, and the delay before each of them. -/
structure RetryPolicy where
  delay : Duration := .ofSeconds 5
  attempts : Nat := 0
  deriving DecidableEq, Repr, Inhabited

namespace RetryPolicy

/-- Where the count of attempts stops. -/
def mostAttempts : Nat := 0xFFFFFFFF

/-- The delay before the next attempt, which is counted. -/
def next (p : RetryPolicy) : RetryPolicy × Duration :=
  ({ p with attempts := min (p.attempts + 1) mostAttempts }, p.delay)

@[simp] theorem next_snd (p : RetryPolicy) : p.next.2 = p.delay := rfl
@[simp] theorem delay_next (p : RetryPolicy) : p.next.1.delay = p.delay := rfl

def delays (p : RetryPolicy) : Nat → RetryPolicy × List Duration
  | 0 => (p, [])
  | n + 1 =>
    let r := p.next
    let rest := delays r.1 n
    (rest.1, r.2 :: rest.2)

end RetryPolicy

end VenueGateway
