import Eligibility.Proofs.Gate.Built
import Eligibility.Proofs.Http.Route
import Eligibility.Proofs.Settings.Usable
set_option autoImplicit false

/-!
# HTTP: statements for a gate

Builder and gate agree, in the library and over HTTP: a statement that is built for
what a gate expects passes the gate, and so does every statement that the application
hands out for a scenario, at the gate that the application itself has for the scenario.
-/

namespace Eligibility.Http

open Statement (Choices Order Built)

theorem word_ne_empty (p : Provider) : p.word ≠ "" := by
  cases p <;> decide

/-! ## The endpoint -/

/-- A request for a statement is answered with success exactly by a statement that was built for the
scenario. -/
theorem answer?_statement [Uri.Idna] {app : App} {choices : Choices} {p : StatementPayload}
    {s : Scenario} {content : Content} : (app.statement choices p s).answer? = some (200, content) ↔
      ∃ b, (Statement.build app.settings app.now choices (orderFor s p)).1 = .ok b ∧
        content = (ofBuilt b).content := by
  unfold App.statement
  split
  · next b choices' hbuild =>
    simp [Handled.answer?, hbuild, ofBuilt, eq_comm]
  · next fault choices' hbuild =>
    cases fault <;> simp [Handled.answer?, hbuild, refuseBuild, Response.detail]

/-- A statement that is built for a scenario passes the gate of the scenario. -/
theorem check_of_orderFor [Uri.Idna] {settings : Settings} {now : Calendar.Stamp}
    {choices : Choices} {p : StatementPayload} {s : Scenario} (hs : s ∈ Scenario.all) {b : Built}
    (hb : (Statement.build settings now choices (orderFor s p)).1 = .ok b) :
    ∃ g, Gate.ofScenario s = .ok g ∧ g.check b.message = .ok ⟨[]⟩ := by
  obtain ⟨⟨g, hg⟩, hdistinct, haction⟩ := Gate.ofScenario_of_mem hs
  have hasked : some s.action ≠ some "" := fun h => haction (Option.some.inj h)
  have hnames : (s.traits.mapValues Trait.Raw.text).Distinct := by
    unfold Mapping.Distinct
    rw [Mapping.keys_mapValues]
    exact hdistinct
  have hmake : Gate.make s.provider.word (orderFor s p).resources.traits (some s.action) = .ok g :=
    hg
  exact ⟨g, hg, Gate.check_of_build rfl (word_ne_empty s.provider) rfl hasked hnames hmake hb⟩

/-- Builder and gate agree.  A statement that is built for the provider, the traits and the action
that a gate was made with passes the gate, whatever else was asked for; and a statement that the
application hands out for a scenario passes the gate of that scenario. -/
theorem check_met_of_built [Uri.Idna] :
    (∀ (settings : Settings) (now : Calendar.Stamp) (choices : Choices) (o : Order) (b : Built)
      (provider : String) (action : Option String) (g : Gate),
      provider ≠ "" → o.resources.provider = .text provider →
      action ≠ some "" → o.resources.action = .ofText? action →
      o.resources.traits.Distinct → Gate.make provider o.resources.traits action = .ok g →
      (Statement.build settings now choices o).1 = .ok b → g.check b.message = .ok ⟨[]⟩) ∧
    ∀ (app : App) (choices : Choices) (r : Request) (id : String) (content : Content),
      app.Reaches r (.statement id) →
      (app.handle choices r).answer? = some (200, content) →
      ∃ s g b, Scenario.find? id = some s ∧ Gate.ofScenario s = .ok g ∧
        content = (ofBuilt b).content ∧ g.check b.message = .ok ⟨[]⟩ := by
  constructor
  · intro settings now choices o b provider action g hne hprovider hsome haction hdistinct hg hb
    exact Gate.check_of_build hprovider hne haction hsome hdistinct hg hb
  · intro app choices r id content hreaches hanswer
    rw [App.answer?_handle hreaches, Option.some.injEq] at hanswer
    have hroute : (app.route choices r (.statement id)).answer? = some (200, content) := by
      cases hr : (app.route choices r (.statement id)).answer? with
      | none => simp [hr, failure] at hanswer
      | some answer => rw [← hanswer, hr, Option.getD_some]
    obtain ⟨p, s, -, hfind, hgo⟩ := withPayload_succeeds hroute
    obtain ⟨b, hb, hcontent⟩ := answer?_statement.mp hgo
    obtain ⟨g, hg, hcheck⟩ := check_of_orderFor (List.mem_of_find?_eq_some hfind) hb
    exact ⟨s, g, b, hfind, hg, hcontent, hcheck⟩

/-! ## A request for a statement -/

/-- An application with no settings of its own, at one o'clock, that turns no request away. -/
def plainApp : App := ⟨{}, none, Statement.oneOClock, fun _ _ => true⟩

/-- A request for a statement. -/
def followersRequest : Request where
  method := "POST"
  path := "/api/v1/scenarios/x-followers-100/statement"
  headers := [("host", "localhost"), ("content-type", "application/json")]
  body := "\x7b\"address\": \"" ++ Wallet.zeroAddress ++ "\"\x7d"

theorem reaches_followersRequest :
    plainApp.Reaches followersRequest (.statement "x-followers-100") where
  admitted := by decide +kernel
  path := by decide +kernel
  method := rfl

theorem payload_followersRequest :
    payload StatementPayload.check followersRequest = .ok ⟨Wallet.zeroAddress, none⟩ := by
  rw [← Outcome.toOption_eq_some]
  decide +kernel

theorem build_followers [Uri.Idna] :
    ∃ b, (Statement.build {} Statement.oneOClock ⟨id, 0⟩
      (orderFor followersScenario ⟨Wallet.zeroAddress, none⟩)).1 = .ok b := by
  have hexpires : (orderFor followersScenario ⟨Wallet.zeroAddress, none⟩).expires? {}
      Statement.oneOClock = some ⟨7 * 3600000000, some 0, by decide⟩ := by
    decide +kernel
  refine Statement.exists_build_iff.mpr ?_
  exact {
    address := ⟨_, rfl, Wallet.isAddress_zeroAddress⟩
    domain := ⟨_, rfl, Settings.domain_eq_ok {}⟩
    uri := ⟨_, rfl, Settings.usable_default.appUrl⟩
    chainId := ⟨_, rfl, by decide, Settings.usable_default.chainId⟩
    statement := by
      refine ⟨some "Claim airdrop with X Blue Checkmark", by rfl, ?_⟩
      intro s hs
      obtain rfl := Option.some.inj hs
      exact ⟨by decide, by decide⟩
    resources := ⟨_, rfl⟩
    times := ⟨_, hexpires, Calendar.Stamp.exists_millis? rfl, Calendar.Stamp.exists_millis? rfl⟩ }

theorem answer_followersRequest [Uri.Idna] :
    ∃ content, (plainApp.handle ⟨id, 0⟩ followersRequest).answer? = some (200, content) := by
  obtain ⟨b, hb⟩ := build_followers
  have hanswer :
      (plainApp.statement ⟨id, 0⟩ ⟨Wallet.zeroAddress, none⟩ followersScenario).answer? =
        some (200, (ofBuilt b).content) := answer?_statement.mpr ⟨b, hb, rfl⟩
  refine ⟨(ofBuilt b).content, ?_⟩
  rw [App.answer?_handle reaches_followersRequest,
    App.route_statement payload_followersRequest rfl find?_followersScenario, hanswer,
    Option.getD_some]

section

attribute [local instance] Uri.Idna.plain

/-- Both ways to a statement lead to one that passes. -/
theorem check_met_of_built_followers :
    (∃ b g, (Statement.build {} Statement.oneOClock ⟨id, 0⟩ Statement.lookalikeOrder).1 = .ok b ∧
      Gate.make "x" [("verified", .flag true), ("followers", .text "gte:1000")] (some "claim") =
        .ok g ∧
      g.check b.message = .ok ⟨[]⟩) ∧
    ∃ s g b, Scenario.find? "x-followers-100" = some s ∧ Gate.ofScenario s = .ok g ∧
      (plainApp.handle ⟨id, 0⟩ followersRequest).answer? = some (200, (ofBuilt b).content) ∧
      g.check b.message = .ok ⟨[]⟩ := by
  obtain ⟨hbuilt, hhanded⟩ := check_met_of_built
  constructor
  · obtain ⟨b, hb⟩ := Statement.lookalikeOrder_builds
    obtain ⟨g, hg⟩ : ∃ g, Gate.make "x" Statement.lookalikeOrder.resources.traits (some "claim") =
        .ok g := ⟨_, by rfl⟩
    have hdistinct : Statement.lookalikeOrder.resources.traits.Distinct := by
      unfold Mapping.Distinct
      decide
    exact ⟨b, g, hb, hg, hbuilt _ _ _ _ b "x" (some "claim") g (by decide) rfl (by decide) rfl
      hdistinct hg hb⟩
  · obtain ⟨content, hcontent⟩ := answer_followersRequest
    obtain ⟨s, g, b, hs, hg, rfl, hcheck⟩ :=
      hhanded _ _ _ _ content reaches_followersRequest hcontent
    exact ⟨s, g, b, hs, hg, hcontent, hcheck⟩

end

end Eligibility.Http
