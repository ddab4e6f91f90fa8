/-!
# Primes by trial division

`isPrime` settles 0 to 3 and the multiples of 2 and 3 at once, then tries the candidates
`6k - 1` and `6k + 1` from 5 upward while the candidate's square does not exceed the number
(tested as `i ≤ num / i`, which never needs a product). `upTo` keeps the primes of `2 … limit`
in increasing order.
-/

namespace CpuBench.Primes

/-- Trial division by `i` and `i + 2`, then by the next pair six further on, while
`i ≤ num / i`; `true` when no candidate divides `num`. -/
def trialFrom (num i : Nat) : Bool :=
  if h : i ≤ num / i then
    if num % i == 0 || num % (i + 2) == 0 then false
    else trialFrom num (i + 6)
  else true
termination_by num + 1 - i
decreasing_by
  have := Nat.div_le_self num i
  omega

/-- Whether `num` is a prime number. -/
def isPrime (num : Nat) : Bool :=
  if num ≤ 1 then false
  else if num ≤ 3 then true
  else if num % 2 == 0 || num % 3 == 0 then false
  else trialFrom num 5

/-- The primes `p` with `2 ≤ p ≤ limit`, in increasing order. -/
def upTo (limit : Nat) : List Nat :=
  (List.range' 2 (limit - 1)).filter isPrime

end CpuBench.Primes
