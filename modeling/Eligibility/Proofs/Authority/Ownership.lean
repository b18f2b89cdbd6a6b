import Eligibility.Authority.Session
set_option autoImplicit false

/-!
# The verification authority: who owns a connection

A client may fetch a connection, close what it has, and be left, any number of times and
in any order.  One that was lent a connection hands that one out and leaves it open.  One
that was not opens its own: the connection at hand is the only one that is open, it is
handed out until it is closed, and what is opened after that was never handed out before.
-/

namespace Eligibility.Authority

/-- What is done with the connections of a client. -/
inductive Use where
  | fetch
  | close
  /-- A block that has the client for its length is left, with or without a fault. -/
  | leave
  deriving DecidableEq, Repr

namespace Session

/-- The connections after a use. -/
def use (s : Session) : Use → Session
  | .fetch => s.connect.2
  | .close | .leave => s.close

/-- The connections after some uses. -/
def after (s : Session) (uses : List Use) : Session := uses.foldl use s

/-- The connections that are handed out along some uses, in order. -/
def fetched (s : Session) : List Use → List Nat
  | [] => []
  | .fetch :: uses => s.connect.1 :: (s.use .fetch).fetched uses
  | u :: uses => (s.use u).fetched uses

/-- The connection came to be and is not closed. -/
def IsOpen (s : Session) (connection : Nat) : Prop := s.closed[connection]? = some false

variable {s : Session} {connection : Nat}

@[simp] theorem after_nil (s : Session) : s.after [] = s := rfl

@[simp] theorem after_cons (s : Session) (u : Use) (uses : List Use) :
    s.after (u :: uses) = (s.use u).after uses := rfl

theorem after_append (s : Session) (uses uses' : List Use) :
    s.after (uses ++ uses') = (s.after uses).after uses' := List.foldl_append

/-! ## One use -/

theorem connect_of_held (h : s.held = some connection) : s.connect = (connection, s) := by
  simp [connect, h]

theorem connect_of_none (h : s.held = none) : s.connect = (s.closed.length,
    { held := some s.closed.length, owned := true, closed := s.closed ++ [false] }) := by
  simp [connect, h]

theorem close_of_none (h : s.held = none) : s.close = s := by
  simp [close, h]

theorem close_of_owned (h : s.held = some connection) (howned : s.owned = true) :
    s.close = { s with held := none, closed := s.closed.set connection true } := by
  simp [close, h, howned]

theorem use_of_ne_fetch {u : Use} (h : u ≠ .fetch) (s : Session) : s.use u = s.close := by
  cases u with
  | fetch => exact absurd rfl h
  | close => rfl
  | leave => rfl

/-- All that a use can do to a client that owns what it has. -/
theorem use_cases (howned : s.owned = true) (u : Use) :
    s.use u = s ∨
    (s.held = none ∧ s.use u =
      { held := some s.closed.length, owned := true, closed := s.closed ++ [false] }) ∨
    ∃ c, s.held = some c ∧ s.use u = { s with held := none, closed := s.closed.set c true } := by
  by_cases hu : u = .fetch
  · subst hu
    cases hheld : s.held with
    | none => exact .inr (.inl ⟨rfl, by rw [use, connect_of_none hheld]⟩)
    | some c => exact .inl (by rw [use, connect_of_held hheld])
  · rw [use_of_ne_fetch hu]
    cases hheld : s.held with
    | none => exact .inl (close_of_none hheld)
    | some c => exact .inr (.inr ⟨c, rfl, close_of_owned hheld howned⟩)

/-! ## A connection that was lent -/

/-- No use changes anything about a connection that was lent. -/
theorem after_borrowing (uses : List Use) : borrowing.after uses = borrowing := by
  induction uses with
  | nil => rfl
  | cons u uses ih =>
    have huse : borrowing.use u = borrowing := by cases u <;> rfl
    rw [after_cons, huse, ih]

theorem fetched_borrowing (uses : List Use) : ∀ c ∈ borrowing.fetched uses, c = 0 := by
  induction uses with
  | nil => simp [fetched]
  | cons u uses ih =>
    cases u with
    | fetch => exact List.forall_mem_cons.mpr ⟨rfl, ih⟩
    | close => exact ih
    | leave => exact ih

/-! ## Connections of its own -/

/-- The client owns what it has, and has what is open. -/
structure Owns (s : Session) : Prop where
  owned : s.owned = true
  isOpen_iff : ∀ c, s.IsOpen c ↔ s.held = some c

theorem owns_fresh : fresh.Owns where
  owned := rfl
  isOpen_iff := by simp [fresh, IsOpen]

namespace Owns

theorem lt_length (h : s.Owns) (hheld : s.held = some connection) :
    connection < s.closed.length :=
  (List.getElem?_eq_some_iff.mp ((h.isOpen_iff connection).mpr hheld)).1

theorem connect (h : s.Owns) : s.connect.2.Owns := by
  cases hheld : s.held with
  | some c =>
    rw [connect_of_held hheld]
    exact h
  | none =>
    rw [connect_of_none hheld]
    refine ⟨rfl, ?_⟩
    intro c
    have hold : s.closed[c]? ≠ some false := by
      intro hopen
      have hc := (h.isOpen_iff c).mp hopen
      simp [hheld] at hc
    simp only [IsOpen, Option.some.injEq]
    rcases Nat.lt_trichotomy c s.closed.length with hlt | rfl | hgt
    · rw [List.getElem?_append_left hlt]
      exact iff_of_false hold (Nat.ne_of_gt hlt)
    · simp
    · have hnone : (s.closed ++ [false])[c]? = none :=
        List.getElem?_eq_none (by rw [List.length_append]; exact hgt)
      simp [hnone, Nat.ne_of_lt hgt]

theorem close (h : s.Owns) : s.close.Owns ∧ s.close.held = none := by
  cases hheld : s.held with
  | none =>
    rw [close_of_none hheld]
    exact ⟨h, hheld⟩
  | some connection =>
    rw [close_of_owned hheld h.owned]
    refine ⟨⟨h.owned, ?_⟩, rfl⟩
    intro c
    simp only [IsOpen, reduceCtorEq, iff_false, List.getElem?_set]
    split
    · split
      · simp
      · simp
    · next hne =>
      intro hopen
      have hc := (h.isOpen_iff c).mp hopen
      exact hne (Option.some.inj (hheld.symm.trans hc))

theorem use (h : s.Owns) (u : Use) : (s.use u).Owns := by
  by_cases hu : u = .fetch
  · subst hu
    exact h.connect
  · rw [use_of_ne_fetch hu]
    exact h.close.1

/-- A client goes on owning what it has. -/
theorem after (h : s.Owns) (uses : List Use) : (s.after uses).Owns := by
  induction uses generalizing s with
  | nil => exact h
  | cons u uses ih => exact ih (h.use u)

/-- A connection that is fetched is open, and at hand. -/
theorem isOpen_connect (h : s.Owns) :
    s.connect.2.held = some s.connect.1 ∧ s.connect.2.IsOpen s.connect.1 := by
  have hheld : s.connect.2.held = some s.connect.1 := by
    cases hheld : s.held with
    | none => rw [connect_of_none hheld]
    | some c => rw [connect_of_held hheld]; exact hheld
  exact ⟨hheld, (h.connect.isOpen_iff _).mpr hheld⟩

/-- A connection that is closed stays so. -/
theorem closed_after (h : s.Owns) (hclosed : s.closed[connection]? = some true)
    (uses : List Use) : (s.after uses).closed[connection]? = some true := by
  induction uses generalizing s with
  | nil => exact hclosed
  | cons u uses ih =>
    apply ih (h.use u)
    have hlt : connection < s.closed.length := (List.getElem?_eq_some_iff.mp hclosed).1
    rcases use_cases h.owned u with huse | ⟨-, huse⟩ | ⟨c, -, huse⟩
    · rw [huse]
      exact hclosed
    · rw [huse, List.getElem?_append_left hlt]
      exact hclosed
    · rw [huse]
      by_cases hc : c = connection
      · subst hc
        exact List.getElem?_set_self hlt
      · rw [List.getElem?_set_ne hc]
        exact hclosed

/-- No connection is forgotten. -/
theorem length_le_use (h : s.Owns) (u : Use) : s.closed.length ≤ (s.use u).closed.length := by
  rcases use_cases h.owned u with huse | ⟨-, huse⟩ | ⟨c, -, huse⟩
  · simp [huse]
  · simp [huse]
  · simp [huse]

theorem length_le_after (h : s.Owns) (uses : List Use) :
    s.closed.length ≤ (s.after uses).closed.length := by
  induction uses generalizing s with
  | nil => exact Nat.le_refl _
  | cons u uses ih => exact Nat.le_trans (h.length_le_use u) (ih (h.use u))

/-- Everything that was handed out is among the connections that came to be. -/
theorem lt_of_mem_fetched (h : s.Owns) {uses : List Use} (hmem : connection ∈ s.fetched uses) :
    connection < (s.after uses).closed.length := by
  induction uses generalizing s with
  | nil => simp [fetched] at hmem
  | cons u uses ih =>
    have hrest : connection ∈ (s.use u).fetched uses →
        connection < ((s.use u).after uses).closed.length := ih (h.use u)
    cases u with
    | close => exact hrest hmem
    | leave => exact hrest hmem
    | fetch =>
      rcases List.mem_cons.mp hmem with rfl | hmem
      · exact Nat.lt_of_lt_of_le (h.connect.lt_length h.isOpen_connect.1)
          (h.connect.length_le_after uses)
      · exact hrest hmem

/-- The connection at hand is handed out until it is closed, and never after that. -/
theorem connect_after_iff (h : s.Owns) (hheld : s.held = some connection) (uses : List Use) :
    (s.after uses).connect.1 = connection ↔ ∀ u ∈ uses, u = .fetch := by
  induction uses with
  | nil => simp [connect_of_held hheld]
  | cons u uses ih =>
    by_cases hu : u = .fetch
    · subst hu
      have huse : s.use .fetch = s := by rw [Session.use, connect_of_held hheld]
      rw [after_cons, huse, ih, List.forall_mem_cons]
      simp
    · have hclosed : (s.use u).closed[connection]? = some true := by
        rw [use_of_ne_fetch hu, close_of_owned hheld h.owned]
        exact List.getElem?_set_self (h.lt_length hheld)
      refine iff_of_false ?_ fun hall => hu (hall u List.mem_cons_self)
      intro hagain
      -- What is handed out is open, and what was closed has stayed so.
      have hopen := (h.after (u :: uses)).isOpen_connect.2
      have hstill := (h.use u).closed_after hclosed (uses ++ [.fetch])
      rw [hagain, IsOpen] at hopen
      rw [after_append] at hstill
      have hboth := hopen.symm.trans hstill
      simp at hboth

end Owns

/-! ## Any uses -/

/-- A client that was lent a connection hands out that one, and leaves it open. -/
structure Borrows (uses : List Use) : Prop where
  fetched : ∀ c ∈ borrowing.fetched uses, c = 0
  isOpen_iff : ∀ c, (borrowing.after uses).IsOpen c ↔ c = 0
  connect : (borrowing.after uses).connect = (0, borrowing.after uses)

/-- A client that was lent none has one open connection at most, and hands it out. -/
structure Manages (uses : List Use) : Prop where
  /-- Every connection that came to be is closed, but for the one at hand. -/
  isOpen_iff : ∀ c, (fresh.after uses).IsOpen c ↔ (fresh.after uses).held = some c
  isOpen_connect : (fresh.after (uses ++ [.fetch])).IsOpen (fresh.after uses).connect.1
  /-- The connection that is fetched next is fetched again until it is closed, and never after
  that. -/
  again : ∀ between, (fresh.after (uses ++ .fetch :: between)).connect.1 =
    (fresh.after uses).connect.1 ↔ ∀ u ∈ between, u = .fetch
  /-- After a close, the connection that is fetched next was never fetched before. -/
  new : ∀ u, u ≠ .fetch → (fresh.after (uses ++ [u])).connect.1 ∉ fresh.fetched uses
  /-- After a close there is no connection at hand. -/
  close : (fresh.after uses).close.held = none

theorem borrows (uses : List Use) : Borrows uses where
  fetched := fetched_borrowing uses
  isOpen_iff := by
    intro c
    rw [after_borrowing, IsOpen, borrowing]
    cases c with
    | zero => simp
    | succ c => simp
  connect := by rw [after_borrowing]; rfl

theorem manages (uses : List Use) : Manages uses where
  isOpen_iff := (owns_fresh.after uses).isOpen_iff
  isOpen_connect := by
    rw [after_append]
    exact (owns_fresh.after uses).isOpen_connect.2
  again := by
    intro between
    have hfetch := owns_fresh.after uses |>.isOpen_connect.1
    rw [after_append, after_cons]
    exact (owns_fresh.after uses).connect.connect_after_iff hfetch between
  new := by
    intro u hu hmem
    have howns := owns_fresh.after uses
    have hlt := owns_fresh.lt_of_mem_fetched hmem
    have hle := howns.length_le_use u
    rw [after_append, after_cons, after_nil, use_of_ne_fetch hu,
      connect_of_none howns.close.2] at hlt
    rw [use_of_ne_fetch hu] at hle
    exact Nat.not_lt.mpr hle hlt
  close := (owns_fresh.after uses).close.2

/-- Whatever is done with a client, and in whatever order, it hands out the connection that it was
lent and never closes it, or it hands out connections of its own and leaves none of them open but
the one at hand.  To close twice is to close once. -/
theorem borrows_and_manages (uses : List Use) :
    Borrows uses ∧ Manages uses ∧ ∀ s : Session, s.close.close = s.close :=
  ⟨borrows uses, manages uses, close_close⟩

end Session

end Eligibility.Authority
