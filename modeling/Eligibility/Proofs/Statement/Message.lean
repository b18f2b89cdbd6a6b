import Eligibility.Proofs.Field
import Eligibility.Statement.Message
set_option autoImplicit false

/-!
# Statements: what a checked draft says

The checks of a draft change no field: the message of a draft holds the texts of
the draft, each in the form that its field asks for.
-/

namespace Eligibility.Statement

open Eligibility.Field (Problem Checked)

theorem textThat_eq_ok {p : String → Bool} {problem : Problem} {j : Json} {s : String} :
    textThat p problem j = .ok s ↔ j = .text s ∧ p s = true := by
  simp only [textThat, Outcome.then_eq_ok, Field.text_eq_ok, Field.require_eq_ok]
  constructor
  · rintro ⟨_, rfl, rfl, hp⟩
    exact ⟨rfl, hp⟩
  · rintro ⟨rfl, hp⟩
    exact ⟨s, rfl, rfl, hp⟩

theorem time_eq_ok {j : Json} {s : String} :
    time j = .ok s ↔ j = .text s ∧ isTime s = true := textThat_eq_ok

theorem statement_eq_ok {j : Json} {o : Option String} :
    Field.optional (textThat isLine .otherForm) j = .ok o ↔
      j = Json.ofText? o ∧ o.all isLine = true :=
  @Field.optional_eq_ok _ isLine (fun _ _ => textThat_eq_ok) j o

theorem optionalTime_eq_ok {j : Json} {o : Option String} :
    Field.optional time j = .ok o ↔ j = Json.ofText? o ∧ o.all isTime = true :=
  @Field.optional_eq_ok _ isTime (fun _ _ => time_eq_ok) j o

theorem requestId_eq_ok {j : Json} {o : Option String} :
    Field.optional Field.text j = .ok o ↔ j = Json.ofText? o := by
  have h := @Field.optional_eq_ok Field.text (fun _ => true) (by simp) j o
  simpa using h

theorem chainId_eq_ok {j : Json} {n : Int} :
    (Field.whole j).bind (Field.require (fun n => 0 ≤ n) .negative) = .ok n ↔
      Field.whole j = .ok n ∧ 0 ≤ n := by
  simp only [Outcome.then_eq_ok, Field.require_eq_ok, decide_eq_true_eq]
  constructor
  · rintro ⟨_, hj, rfl, hn⟩
    exact ⟨hj, hn⟩
  · rintro ⟨hj, hn⟩
    exact ⟨n, hj, rfl, hn⟩

variable [Uri.Idna]

/-- A draft holds the fields of a message as texts, and they have the forms of their fields. -/
structure Draft.Gives (d : Draft) (m : Message) : Prop where
  domain : d.domain = .text m.domain ∧ isDomain m.domain = true
  address : d.address = .text m.address ∧ Wallet.isAddress m.address = true
  uri : d.uri = .text m.uri ∧ Uri.isWebAddress m.uri = true
  chainId : Field.whole d.chainId = .ok m.chainId ∧ 0 ≤ m.chainId
  issuedAt : d.issuedAt = .text m.issuedAt ∧ isTime m.issuedAt = true
  nonce : d.nonce = .text m.nonce ∧ nonceLength ≤ m.nonce.length
  statement : d.statement = .ofText? m.statement ∧ m.statement.all isLine = true
  expirationTime : d.expirationTime = .ofText? m.expirationTime ∧ m.expirationTime.all isTime = true
  notBefore : d.notBefore = .ofText? m.notBefore ∧ m.notBefore.all isTime = true
  requestId : d.requestId = .ofText? m.requestId
  resources : d.resources = m.resources.map .text ∧
    ∀ uri ∈ m.resources, Uri.isWebAddress uri = true

/-- A draft passes its checks exactly if it holds the fields of a message, and gives that one. -/
theorem Draft.check_eq_ok {d : Draft} {m : Message} : d.check = .ok m ↔ d.Gives m := by
  constructor
  · intro h
    -- The fields are peeled off from the last one to the first one.
    simp only [check, Checked.also, Checked.apply_eq_ok, Checked.located_eq_ok] at h
    obtain ⟨_, _, h, hresources, rfl⟩ := h
    obtain ⟨_, _, h, hrequestId, rfl⟩ := h
    obtain ⟨_, _, h, hnotBefore, rfl⟩ := h
    obtain ⟨_, _, h, hexpirationTime, rfl⟩ := h
    obtain ⟨_, _, h, hstatement, rfl⟩ := h
    obtain ⟨_, _, h, hnonce, rfl⟩ := h
    obtain ⟨_, _, h, hissuedAt, rfl⟩ := h
    obtain ⟨_, _, h, hchainId, rfl⟩ := h
    obtain ⟨_, _, h, huri, rfl⟩ := h
    obtain ⟨_, _, h, haddress, rfl⟩ := h
    obtain ⟨_, _, h, hdomain, rfl⟩ := h
    obtain rfl := Except.ok.inj h
    exact {
      domain := textThat_eq_ok.mp hdomain
      address := textThat_eq_ok.mp haddress
      uri := Field.address_eq_ok.mp huri
      chainId := chainId_eq_ok.mp hchainId
      issuedAt := time_eq_ok.mp hissuedAt
      nonce := by simpa using textThat_eq_ok.mp hnonce
      statement := statement_eq_ok.mp hstatement
      expirationTime := optionalTime_eq_ok.mp hexpirationTime
      notBefore := optionalTime_eq_ok.mp hnotBefore
      requestId := requestId_eq_ok.mp hrequestId
      resources := (Field.items_texts_eq_ok fun _ _ => Field.address_eq_ok).mp hresources }
  · intro h
    have hnonce : textThat (fun s => nonceLength ≤ s.length) .tooShort d.nonce = .ok m.nonce :=
      textThat_eq_ok.mpr (by simpa using h.nonce)
    have hresources := (@Field.items_texts_eq_ok "resources" _ _
      (fun _ _ => Field.address_eq_ok) _ _).mpr h.resources
    simp only [check, textThat_eq_ok.mpr h.domain, textThat_eq_ok.mpr h.address,
      Field.address_eq_ok.mpr h.uri, chainId_eq_ok.mpr h.chainId, time_eq_ok.mpr h.issuedAt,
      hnonce, statement_eq_ok.mpr h.statement, optionalTime_eq_ok.mpr h.expirationTime,
      optionalTime_eq_ok.mpr h.notBefore, requestId_eq_ok.mpr h.requestId, hresources]
    rfl

/-- A draft gives one message at most. -/
theorem Draft.Gives.unique {d : Draft} {m k : Message} (h : d.Gives m) (h' : d.Gives k) : k = m :=
  Except.ok.inj ((Draft.check_eq_ok.mpr h').symm.trans (Draft.check_eq_ok.mpr h))

end Eligibility.Statement
