import Eligibility.Proofs.Statement.Header
set_option autoImplicit false

/-!
# Statements: the window that is asked for

A caller may say for how long a statement is to be valid, with any number of microseconds
before or after its issue.  The statement then expires when the clock of its issue shows
that much more, whatever is done to the clock in between, unless the number is zero: a
window of nothing counts as no window asked for, and the one of the settings takes its
place.  Both times stand in the message as the caller gets them back.
-/

namespace Eligibility.Statement

open Calendar (Duration Stamp)

section

variable {settings : Settings} {now : Stamp} {choices : Choices} {o : Order} {b : Built}
  {m : Message}

/-- The times that a caller gets back are the texts of the times of issue and of expiry. -/
theorem times_of_build [Uri.Idna] (h : (build settings now choices o).1 = .ok b) :
    (o.issued now).millis? = some b.issuedAt ∧
      (o.expires? settings now).bind Stamp.millis? = some b.expirationTime := by
  obtain ⟨p, hplan, hfinish⟩ := build_eq_ok.mp h
  obtain ⟨hissued, hexpires, -⟩ := finish_eq_ok.mp hfinish
  obtain ⟨-, -, -, -, hissuedAt, hexpiresAt⟩ := plan_eq_ok hplan
  refine ⟨hissuedAt ▸ hissued, ?_⟩
  rw [hexpiresAt]
  exact hexpires

/-- A window that is not zero is the one that is asked for. -/
theorem expires?_of_ne_zero {d : Duration} (hd : o.expiresIn = some d) (hne : d ≠ 0) :
    o.expires? settings now = (o.start now).add? d := by
  simp [Order.expires?, window?, hd, hne]

/-- In the place of a window of zero stands the one of the settings. -/
theorem expires?_of_zero (hd : o.expiresIn = some 0) :
    o.expires? settings now =
      (Duration.ofUnits? Duration.hour settings.statementTtlHours).bind (o.start now).add? := by
  simp [Order.expires?, window?, window?.fromSettings, hd]

/-- The times of a message are the last fields of its header. -/
theorem Fills.lines_eq [Uri.Idna] (h : Fills settings now o b m) {expirationTime : String}
    (hexpires : (o.expires? settings now).bind Stamp.millis? = some expirationTime) :
    ∃ front, Text.lines b.message = front ++ ["Nonce: " ++ b.nonce,
      "Issued At: " ++ m.issuedAt, "Expiration Time: " ++ expirationTime] ++
        resourceLines b.resources := by
  obtain ⟨d, hgives⟩ := h.gives
  obtain ⟨expires, text, hexpiresAt, htext, hexpirationTime⟩ := h.expirationTime
  rw [hexpiresAt, Option.bind_some, htext, Option.some.injEq] at hexpires
  have hexpiration : labelled "Expiration Time: " m.expirationTime =
      ["Expiration Time: " ++ expirationTime] := by
    rw [labelled_eq, written_of_isTime hgives.expirationTime.2, hexpirationTime, hexpires]
    rfl
  have hnotBefore : labelled "Not Before: " m.notBefore = [] := by
    rw [h.notBefore]
    rfl
  have hrequestId : labelled "Request ID: " m.requestId = [] := by
    rw [h.requestId]
    rfl
  refine ⟨[m.domain ++ headerTail, m.address] ++ statementLines m.statement ++
    ["URI: " ++ m.uri, "Version: " ++ version,
     "Chain ID: " ++ toString (if m.chainId = 0 then 1 else m.chainId)], ?_⟩
  rw [h.message, Message.lines_render h.plain, Message.lines, hexpiration, hnotBefore, hrequestId,
    h.nonce.1, h.resources.2]
  simp only [List.append_assoc, List.cons_append, List.nil_append]

/-- A window that a caller asks for is the one of the statement, unless it is zero, and the times
stand in the message, behind the nonce and in front of the resources. -/
theorem window_asked_of_build [Uri.Idna] (h : (build settings now choices o).1 = .ok b)
    {d : Duration} (hd : o.expiresIn = some d) :
    (o.issued now).millis? = some b.issuedAt ∧
    (d ≠ 0 → ((o.start now).add? d).bind Stamp.millis? = some b.expirationTime) ∧
    (d = 0 → ∃ window,
      Duration.ofUnits? Duration.hour settings.statementTtlHours = some window ∧
      ((o.start now).add? window).bind Stamp.millis? = some b.expirationTime) ∧
    ∃ front, Text.lines b.message = front ++ ["Nonce: " ++ b.nonce,
      "Issued At: " ++ b.issuedAt, "Expiration Time: " ++ b.expirationTime] ++
        resourceLines b.resources := by
  obtain ⟨hissued, hexpires⟩ := times_of_build h
  obtain ⟨m, hm⟩ := fills_of_build h
  have hissuedAt : m.issuedAt = b.issuedAt := Option.some.inj (hm.issuedAt.symm.trans hissued)
  refine ⟨hissued, ?_, ?_, ?_⟩
  · intro hne
    rw [← expires?_of_ne_zero hd hne]
    exact hexpires
  · intro hzero
    subst hzero
    rw [expires?_of_zero hd, Option.bind_assoc] at hexpires
    exact Option.bind_eq_some_iff.mp hexpires
  · rw [← hissuedAt]
    exact hm.lines_eq hexpires

end

/-! ## Windows below a millisecond, and none -/

/-- An order that asks for a window. -/
def windowOrder (d : Duration) : Order :=
  { signInOrder "Sign in" with expiresIn := some d }

theorem windowOrder_builds [Uri.Idna] {d : Duration} {expires : Stamp}
    (hoffset : expires.offset = some 0) (h : (windowOrder d).expires? {} oneOClock = some expires) :
    ∃ b, (build {} oneOClock ⟨id, 0⟩ (windowOrder d)).1 = .ok b := by
  obtain ⟨_, hsignIn⟩ := @signInOrder_builds _ "Sign in" (by decide) ⟨by decide, by decide⟩
  refine exists_build_iff.mpr ?_
  exact { buildable_of_build hsignIn with
    times := ⟨expires, h, Stamp.exists_millis? rfl, Stamp.exists_millis? hoffset⟩ }

/-- One and a half milliseconds before one o'clock. -/
def beforeOneOClock : Stamp := ⟨3599998500, some 0, by decide⟩

section

attribute [local instance] Uri.Idna.plain

/-- A window may end before it starts, and part of a millisecond is cut off. -/
theorem window_asked_of_build_negative :
    ∃ b, (build {} oneOClock ⟨id, 0⟩ (windowOrder (-1500))).1 = .ok b ∧
      b.issuedAt = "0001-01-01T01:00:00.000Z" ∧ b.expirationTime = "0001-01-01T00:59:59.998Z" ∧
      "Expiration Time: 0001-01-01T00:59:59.998Z" ∈ Text.lines b.message := by
  have hexpires : (windowOrder (-1500)).expires? {} oneOClock = some beforeOneOClock := by
    decide +kernel
  obtain ⟨b, hb⟩ := windowOrder_builds rfl hexpires
  obtain ⟨hissued, hasked, -, front, hlines⟩ := window_asked_of_build hb rfl
  have hissuedAt : b.issuedAt = "0001-01-01T01:00:00.000Z" := by
    refine Option.some.inj (hissued.symm.trans ?_)
    rfl
  have hexpiration : b.expirationTime = "0001-01-01T00:59:59.998Z" := by
    refine Option.some.inj ((hasked (by decide)).symm.trans ?_)
    decide +kernel
  refine ⟨b, hb, hissuedAt, hexpiration, ?_⟩
  rw [hlines, hexpiration]
  simp

/-- Six hours after one o'clock. -/
def sevenOClock : Stamp := ⟨25200000000, some 0, by decide⟩

/-- A window of zero is not honoured: the statement is valid for the hours of the settings. -/
theorem window_zero_not_honoured :
    ∃ b, (build {} oneOClock ⟨id, 0⟩ (windowOrder 0)).1 = .ok b ∧
      (windowOrder 0).expiresIn = some 0 ∧
      (((windowOrder 0).start oneOClock).add? 0).bind Stamp.millis? ≠ some b.expirationTime := by
  have hexpires : (windowOrder 0).expires? {} oneOClock = some sevenOClock := by decide +kernel
  obtain ⟨b, hb⟩ := windowOrder_builds rfl hexpires
  obtain ⟨-, hexpiration⟩ := times_of_build hb
  refine ⟨b, hb, rfl, ?_⟩
  rw [← hexpiration, hexpires]
  decide +kernel

end

end Eligibility.Statement
