namespace KeystrokeTally

/-- The ways a step of 64-bit signed arithmetic can fail. -/
inductive Fault where
  | addOverflow
  | subOverflow
  | remByZero
  | remOverflow
  deriving DecidableEq, Repr

def Fault.message : Fault → String
  | .addOverflow => "attempt to add with overflow"
  | .subOverflow => "attempt to subtract with overflow"
  | .remByZero => "attempt to calculate the remainder with a divisor of zero"
  | .remOverflow => "attempt to calculate the remainder with overflow"

namespace Word

def min : Int := -9223372036854775808

def max : Int := 9223372036854775807

def maxPid : Nat := 4294967295

def maxUnsigned : Nat := 18446744073709551615

def Fits (x : Int) : Prop := min ≤ x ∧ x ≤ max

instance (x : Int) : Decidable (Fits x) := inferInstanceAs (Decidable (_ ∧ _))

def add (a b : Int) : Except Fault Int :=
  if Fits (a + b) then .ok (a + b) else .error .addOverflow

def sub (a b : Int) : Except Fault Int :=
  if Fits (a - b) then .ok (a - b) else .error .subOverflow

/-- The least non-negative remainder of `a` by `c`, which uses the magnitude of `c`. A zero
divisor is a fault, and so is the least word divided by minus one, whose quotient leaves the
range even though the remainder would be zero. -/
def remEuclid (a c : Int) : Except Fault Int :=
  if c = 0 then .error .remByZero
  else if a = min ∧ c = -1 then .error .remOverflow
  else .ok (a % c)

def sum (xs : List Int) : Except Fault Int :=
  xs.foldlM add 0

theorem add_eq_ok {a b : Int} (h : Fits (a + b)) : add a b = .ok (a + b) := by
  simp [add, h]

theorem sub_eq_ok {a b : Int} (h : Fits (a - b)) : sub a b = .ok (a - b) := by
  simp [sub, h]

theorem remEuclid_eq_ok {a c : Int} (hc : c ≠ 0) (hm : ¬(a = min ∧ c = -1)) :
    remEuclid a c = .ok (a % c) := by
  simp only [remEuclid, hc, if_false]
  rw [if_neg hm]

end Word

end KeystrokeTally
