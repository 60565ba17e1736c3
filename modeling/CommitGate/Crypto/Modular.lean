/-! # Arithmetic modulo a number

* `Modular.pow` is a power, by squaring; `Modular.inverse` is the inverse modulo a prime.
-/

namespace CommitGate.Crypto.Modular

/-- `b` to the power of `e`, modulo `m`. -/
def pow (m b e : Nat) : Nat :=
  if e = 0 then 1 % m
  else
    let h := pow m (b * b % m) (e / 2)
    if e % 2 = 1 then h * b % m else h
termination_by e

/-- The inverse of `x` modulo the prime `p`. -/
def inverse (p x : Nat) : Nat := pow p (x % p) (p - 2)

/-- The difference of `a` and `b`, modulo `m`. -/
def sub (m a b : Nat) : Nat := (a + (m - b % m)) % m

end CommitGate.Crypto.Modular
