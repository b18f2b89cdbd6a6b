set_option autoImplicit false

/-!
# Statements: nonces

A nonce is a text of letters and digits, each chosen at random.  The choices are
an endless sequence of numbers of which a caller has used some, so what uses
them says how many are used afterwards.
-/

namespace Eligibility.Statement

/-- Random choices. -/
structure Choices where
  /-- The choices in order; each is taken modulo the number of things to choose from. -/
  pick : Nat → Nat
  /-- How many of them are used. -/
  used : Nat := 0

/-- The characters of a nonce. -/
def nonceAlphabet : List Char :=
  "abcdefghijklmnopqrstuvwxyzABCDEFGHIJKLMNOPQRSTUVWXYZ0123456789".toList

/-- The character that a choice picks. -/
def nonceChar (choice : Nat) : Char :=
  nonceAlphabet.getD (choice % nonceAlphabet.length) 'a'

/-- The number of characters of a nonce, unless the caller asks for another one. -/
def defaultNonceLength : Nat := 17

/-- A nonce of some characters, and the choices after it. -/
def Choices.nonce (c : Choices) (length : Nat) : String × Choices :=
  (String.ofList ((List.range length).map fun i => nonceChar (c.pick (c.used + i))),
   { c with used := c.used + length })

theorem length_nonce (c : Choices) (length : Nat) : (c.nonce length).1.length = length := by
  simp [Choices.nonce]

end Eligibility.Statement
