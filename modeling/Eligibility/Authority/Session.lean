set_option autoImplicit false

/-!
# The verification authority: connections

A client holds at most one connection.  It may borrow one, which then is never
its own to close; otherwise it opens one when one is needed and closes it when
told to.  Connections are numbered in the order in which they came to be.
-/

namespace Eligibility.Authority

/-- The connections of a client. -/
structure Session where
  /-- The connection at hand. -/
  held : Option Nat := none
  /-- Whether the connection at hand is the client's own. -/
  owned : Bool := true
  /-- For each connection that came to be, whether it is closed. -/
  closed : List Bool := []
  deriving DecidableEq, Repr

namespace Session

/-- A client that has no connection yet. -/
def fresh : Session := {}

/-- A client that was lent a connection. -/
def borrowing : Session := { held := some 0, owned := false, closed := [false] }

/-- Whether a connection is closed. -/
def isClosed (s : Session) (connection : Nat) : Bool := s.closed.getD connection false

/-- The connection at hand, opened if there is none. -/
def connect (s : Session) : Nat × Session :=
  match s.held with
  | some connection => (connection, s)
  | none =>
    let connection := s.closed.length
    (connection, { held := some connection, owned := true, closed := s.closed ++ [false] })

/-- Close the connection at hand, if it is the client's own. -/
def close (s : Session) : Session :=
  match s.held with
  | some connection =>
    if s.owned then { s with held := none, closed := s.closed.set connection true } else s
  | none => s

theorem close_close (s : Session) : s.close.close = s.close := by
  unfold close
  rcases s with ⟨_ | c, o, cl⟩ <;> cases o <;> rfl

end Session

end Eligibility.Authority
