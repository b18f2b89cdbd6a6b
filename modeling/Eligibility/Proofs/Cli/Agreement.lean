import Eligibility.Proofs.Cli.Line
import Eligibility.Proofs.Mapping
import Eligibility.Proofs.Resource.Section
import Eligibility.Proofs.Text.Breaks
import Mathlib.Data.List.Basic
set_option autoImplicit false

/-!
# Command line: the commands say what the library says

`check` and `parse` read the statement of a file with all its line ends made LF, and say of
that text what the gate and the scan say of it.  A text in which every CR belongs to a line
end is the same statement to all of them.  A CR inside a line is not: only the commands
take it for a line end.
-/

namespace Eligibility.Resource

/-- Making all line ends one leaves the resources of a statement alone. -/
theorem linesOf_unifyBreaks {s : String} (h : Text.ReturnsEndLines s.toList) :
    linesOf (Text.unifyBreaks s) = linesOf s := by
  rw [linesOf, linesOf]
  rcases Text.lines_unifyBreaks h with hsame | hmore
  · rw [hsame]
  · have hempty : Text.after? marker "" = none := by rfl
    have hheader : sectionHeader ∉ [""] := by decide
    rw [hmore, ofSection_append]
    split
    · simp [hempty]
    · next hnone => rw [ofSection_eq_nil hnone, ofSection_eq_nil hheader]

/-- Making all line ends one leaves what a scan finds alone. -/
theorem scan_unifyBreaks {s : String} (h : Text.ReturnsEndLines s.toList) :
    scan (Text.unifyBreaks s) = scan s := by
  simp only [scan, linesOfStatement, Text.isBlankText_unifyBreaks, linesOf_unifyBreaks h]

end Eligibility.Resource

namespace Eligibility.Cli

/-! ## Command lines for a check and for a look -/

/-- A pair of a name and a raw value that a command line can hold. -/
structure IsPair (pair : String × String) : Prop where
  name : pair.1 ≠ ""
  plain : '=' ∉ pair.1.toList
  raw : pair.2 ≠ ""

/-- A pair as a value of an option. -/
def pairText (pair : String × String) : String := pair.1 ++ "=" ++ pair.2

theorem readPair?_pairText {pair : String × String} (h : IsPair pair) :
    readPair? (pairText pair) = some pair := by
  obtain ⟨name, raw⟩ := pair
  have hcut : Text.cutAt '=' (name ++ "=" ++ raw) = (name, some raw) := by
    refine Text.cutAt_eq_some.mpr ⟨h.plain, ?_⟩
    simp
  simp [readPair?, pairText, hcut, h.name, h.raw]

/-- The formats of a check. -/
inductive Format where
  | text
  | json
  | compact
  deriving DecidableEq, Repr

/-- The word of a format. -/
def Format.word : Format → String
  | text => "text"
  | json => "json"
  | compact => "compact"

/-- What a check is asked, as options. -/
def checkOptions (provider : String) (pairs : List (String × String)) (action : Option String)
    (format : Format) : List (String × String) :=
  ("provider", provider) :: (pairs.map fun pair => ("expect", pairText pair)) ++
    (action.toList.map fun a => ("action", a)) ++ [("output", format.word)]

/-- What a look at a statement is asked, as options. -/
def parseOptions (provider : String) (json : Bool) : List (String × String) :=
  [("provider", provider), ("output", if json then "json" else "text")]

section

variable {s : Surroundings} {choices : Statement.Choices} {file content provider : String}
  {pairs : List (String × String)} {action : Option String} {format : Format} {gate : Gate}

/-! ## What the words hold -/

/-- The words of a check hold each value that it is asked. -/
structure AsksCheck (w : Words) (file provider : String) (pairs : List (String × String))
    (action : Option String) (format : Format) : Prop where
  provider : w.values "provider" = [provider]
  expect : w.values "expect" = pairs.map pairText
  action : w.values "action" = action.toList
  output : w.values "output" = [format.word]
  statement : w.values Command.statementKey = [file]

/-- The words of a look hold each value that it is asked. -/
structure AsksParse (w : Words) (file provider : String) (json : Bool) : Prop where
  provider : w.values "provider" = [provider]
  output : w.values "output" = [if json then "json" else "text"]
  statement : w.values Command.statementKey = [file]

theorem asksCheck_namedWords (file provider : String) (pairs : List (String × String))
    (action : Option String) (format : Format) :
    AsksCheck (namedWords Command.statementFile (checkOptions provider pairs action format) file)
      file provider pairs action format := by
  have hall : pairs.filter (fun _ => true) = pairs := List.filter_eq_self.mpr fun _ _ => rfl
  constructor <;> cases action <;>
    simp [Words.values, namedWords, checkOptions, Command.statementFile, Command.statementKey,
      List.filter_append, List.filter_map, Function.comp_def, hall]

theorem asksParse_namedWords (file provider : String) (json : Bool) :
    AsksParse (namedWords Command.statementFile (parseOptions provider json) file) file provider
      json := by
  constructor <;> cases json <;>
    simp [Words.values, namedWords, parseOptions, Command.statementFile, Command.statementKey]

theorem has_of_values {w : Words} {key value : String} (h : w.values key = [value]) :
    w.has key = true := by
  have hmem : value ∈ w.values key := h ▸ List.mem_cons_self
  obtain ⟨option, hoption, -⟩ := List.mem_map.mp hmem
  obtain ⟨hgiven, hkey⟩ := List.mem_filter.mp hoption
  exact List.any_eq_true.mpr ⟨option, hgiven, hkey⟩

theorem last?_of_values {w : Words} {key value : String} (h : w.values key = [value]) :
    w.last? key = some value := by
  rw [Words.last?, h, List.getLast?_singleton]

theorem pairsOf_pairTexts (hpairs : ∀ pair ∈ pairs, IsPair pair) :
    pairsOf (pairs.map pairText) = Mapping.ofPairs pairs := by
  have hread : (pairs.map pairText).filterMap readPair? = pairs := by
    rw [List.filterMap_map]
    have hsome : ∀ pair ∈ pairs, (readPair? ∘ pairText) pair = some pair :=
      fun pair h => readPair?_pairText (hpairs pair h)
    rw [List.filterMap_congr hsome, List.filterMap_some]
  rw [pairsOf, hread]

theorem ofPairs_ne_nil (h : pairs ≠ []) : Mapping.ofPairs pairs ≠ [] := by
  intro hnil
  have hkeys := Mapping.keys_ofPairs pairs
  cases pairs with
  | nil => exact h rfl
  | cons pair rest => simp [hnil, Mapping.keys, List.eraseDups_cons] at hkeys

/-! ## What the commands do -/

section

variable {w : Words}

/-- The file passes where a statement is to be read. -/
theorem checkParameter_statementFile (hfile : s.place file = .text content)
    (h : w.values Command.statementKey = [file]) :
    checkParameter s.place w Command.statementFile = .ok () := by
  refine checkParameter_eq_ok.mpr ⟨fun _ => has_of_values h, ?_⟩
  intro value hvalue
  have hlast : countingValues w Command.statementFile = [file] := by
    rw [countingValues, if_neg (by decide)]
    exact congrArg Option.toList (last?_of_values h)
  rw [hlast, List.mem_singleton] at hvalue
  simp [hvalue, wrongWith?, Command.statementFile, hfile]

/-- A format passes where it is one of the words. -/
theorem checkParameter_format {words : List String} {word : String} (hword : word ∈ words)
    (h : w.values "output" = [word]) :
    checkParameter s.place w (Command.format words) = .ok () := by
  refine checkParameter_eq_ok.mpr ⟨fun hrequired => absurd hrequired Bool.false_ne_true, ?_⟩
  intro value hvalue
  have hlast : countingValues w (Command.format words) = [word] := by
    rw [countingValues, if_neg (by simp [Command.format])]
    exact congrArg Option.toList (last?_of_values h)
  rw [hlast, List.mem_singleton] at hvalue
  simp [hvalue, wrongWith?, Command.format, hword]

theorem AsksCheck.checkParameter (h : AsksCheck w file provider pairs action format)
    (hfile : s.place file = .text content) (hpairs : ∀ pair ∈ pairs, IsPair pair) :
    ∀ p ∈ Command.check.parameters, checkParameter s.place w p = .ok () := by
  intro p hp
  simp only [Command.parameters, List.mem_cons, List.not_mem_nil, or_false] at hp
  rcases hp with rfl | rfl | rfl | rfl | rfl
  · exact checkParameter_statementFile hfile h.statement
  · exact checkParameter_eq_ok.mpr ⟨fun _ => has_of_values h.provider, fun _ _ => rfl⟩
  · refine checkParameter_eq_ok.mpr ⟨fun hrequired => absurd hrequired Bool.false_ne_true, ?_⟩
    intro value hvalue
    simp only [countingValues, if_true, h.expect] at hvalue
    obtain ⟨pair, hpair, rfl⟩ := List.mem_map.mp hvalue
    simp [wrongWith?, readPair?_pairText (hpairs pair hpair)]
  · exact checkParameter_eq_ok.mpr
      ⟨fun hrequired => absurd hrequired Bool.false_ne_true, fun _ _ => rfl⟩
  · exact checkParameter_format (by cases format <;> decide) h.output

theorem AsksParse.checkParameter {json : Bool} (h : AsksParse w file provider json)
    (hfile : s.place file = .text content) :
    ∀ p ∈ Command.parse.parameters, checkParameter s.place w p = .ok () := by
  intro p hp
  simp only [Command.parameters, List.mem_cons, List.not_mem_nil, or_false] at hp
  rcases hp with rfl | rfl | rfl
  · exact checkParameter_statementFile hfile h.statement
  · exact checkParameter_eq_ok.mpr ⟨fun _ => has_of_values h.provider, fun _ _ => rfl⟩
  · exact checkParameter_format (by cases json <;> decide) h.output

theorem statementText_of_values (hfile : s.place file = .text content)
    (h : w.values Command.statementKey = [file]) :
    statementText s w = Text.unifyBreaks content := by
  simp [statementText, last?_of_values h, hfile]

/-- A check prints what the gate says of the statement with all its line ends made LF. -/
theorem AsksCheck.check_eq (h : AsksCheck w file provider pairs action format)
    (hfile : s.place file = .text content) (hpairs : ∀ pair ∈ pairs, IsPair pair)
    (hne : pairs ≠ [])
    (hgate : Gate.make provider ((Mapping.ofPairs pairs).mapValues .text) action = .ok gate) :
    check s w =
      match gate.check (Text.unifyBreaks content) with
      | .error fault => refuseScan fault
      | .ok v => printVerdict s w v := by
  have hexpected : rawPairs w "expect" = (Mapping.ofPairs pairs).mapValues .text := by
    rw [rawPairs, h.expect, pairsOf_pairTexts hpairs]
  have hsome : ((Mapping.ofPairs pairs).mapValues Trait.Raw.text).isEmpty = false := by
    simpa [Mapping.mapValues] using ofPairs_ne_nil hne
  have haction : w.last? "action" = action := by
    rw [Words.last?, h.action]
    cases action <;> rfl
  simp only [check, hexpected, hsome, haction, last?_of_values h.provider,
    statementText_of_values hfile h.statement, Option.getD_some, hgate]
  exact if_neg Bool.false_ne_true

/-- A look prints what the scan finds in the statement with all its line ends made LF. -/
theorem AsksParse.parse_eq {json : Bool} (h : AsksParse w file provider json)
    (hfile : s.place file = .text content) :
    parse s w =
      match Resource.scan (Text.unifyBreaks content) with
      | .error fault => refuseScan fault
      | .ok f =>
        if json then .prints [Json.write (some 2) (findingsJson provider f)]
        else findingsOutcome provider f := by
  simp only [parse, last?_of_values h.provider, last?_of_values h.output,
    statementText_of_values hfile h.statement, Option.getD_some]
  cases json <;> rfl

end

/-- The command line of a check prints what the gate says of the statement with all its line ends
made LF. -/
theorem run_check_eq [Uri.Idna] (hfile : s.place file = .text content)
    (hpairs : ∀ pair ∈ pairs, IsPair pair) (hne : pairs ≠ [])
    (hgate : Gate.make provider ((Mapping.ofPairs pairs).mapValues .text) action = .ok gate) :
    (run s choices (longLine .check (checkOptions provider pairs action format) file)).1 =
      match gate.check (Text.unifyBreaks content) with
      | .error fault => refuseScan fault
      | .ok v => printVerdict s (namedWords Command.statementFile
          (checkOptions provider pairs action format) file) v := by
  have hasks := asksCheck_namedWords file provider pairs action format
  have hkeys : ∀ key ∈ ["provider", "expect", "action", "output"],
      TakesLong (Command.check.parameters.filterMap (·.switch?) ++ [helpSwitch]) key ∧
        key ≠ helpKey := by
    intro key hkey
    simp only [List.mem_cons, List.not_mem_nil, or_false] at hkey
    rcases hkey with rfl | rfl | rfl | rfl <;>
      exact ⟨⟨by decide, by decide, ⟨_, rfl⟩⟩, by decide⟩
  have hlong : ∀ option ∈ checkOptions provider pairs action format,
      option.1 ∈ ["provider", "expect", "action", "output"] := by
    intro option hoption
    simp only [checkOptions, List.mem_append, List.mem_cons, List.mem_map] at hoption
    rcases hoption with ((rfl | ⟨_, -, rfl⟩) | ⟨_, -, rfl⟩) | rfl | h <;> simp_all
  rw [run_longLine (fun option h => hkeys option.1 (hlong option h)) rfl
    (hasks.checkParameter hfile hpairs)]
  exact hasks.check_eq hfile hpairs hne hgate

/-- The command line of a look prints what the scan finds in the statement with all its line ends
made LF. -/
theorem run_parse_eq [Uri.Idna] {json : Bool} (hfile : s.place file = .text content) :
    (run s choices (longLine .parse (parseOptions provider json) file)).1 =
      match Resource.scan (Text.unifyBreaks content) with
      | .error fault => refuseScan fault
      | .ok f =>
        if json then .prints [Json.write (some 2) (findingsJson provider f)]
        else findingsOutcome provider f := by
  have hasks := asksParse_namedWords file provider json
  have hkeys : ∀ key ∈ ["provider", "output"],
      TakesLong (Command.parse.parameters.filterMap (·.switch?) ++ [helpSwitch]) key ∧
        key ≠ helpKey := by
    intro key hkey
    simp only [List.mem_cons, List.not_mem_nil, or_false] at hkey
    rcases hkey with rfl | rfl <;> exact ⟨⟨by decide, by decide, ⟨_, rfl⟩⟩, by decide⟩
  have hlong : ∀ option ∈ parseOptions provider json, option.1 ∈ ["provider", "output"] := by
    simp [parseOptions]
  rw [run_longLine (fun option h => hkeys option.1 (hlong option h)) rfl
    (hasks.checkParameter hfile)]
  exact hasks.parse_eq hfile

/-! ## The verdict of a check -/

theorem joinParts_complete {parts : List (Option (List String))} :
    (joinParts parts).2 = true ↔ ∀ part ∈ parts, part.isSome = true := by
  induction parts with
  | nil => simp [joinParts]
  | cons part rest ih =>
    cases part with
    | none => simp [joinParts]
    | some lines => simp [joinParts, ih]

/-- A console can print the parts of the report on a valid statement. -/
structure IsShown (console : Terminal.Console) (file : String) (action : Option String) :
    Prop where
  file : (console.print? ("Statement: " ++ file)).isSome = true
  action : ∀ a ∈ action, a ≠ "" → (console.print? ("Action: " ++ a)).isSome = true
  status : (console.print? validStatus).isSome = true

/-- The report on a valid statement is complete exactly if the console can print its parts. -/
theorem report_complete_iff {console : Terminal.Console} {v : Validation.Verdict}
    (hvalid : v.isValid = true) :
    (report console v file action).2 = true ↔ IsShown console file action := by
  rw [report, joinParts_complete, reportParts, if_pos hvalid]
  simp only [List.forall_mem_append, List.forall_mem_singleton, List.forall_mem_map]
  constructor
  · rintro ⟨⟨hfile, haction⟩, hstatus⟩
    refine ⟨hfile, ?_, hstatus⟩
    intro a ha hne
    refine haction a ?_
    simp [Option.mem_def.mp ha, hne]
  · intro h
    refine ⟨⟨h.file, ?_⟩, h.status⟩
    intro a ha
    simp only [Option.mem_toList, Option.filter_eq_some_iff, Bool.not_eq_true',
      String.isEmpty_eq_false_iff] at ha
    exact h.action a ha.1 ha.2

/-- Runs of a check in each format end as a verdict says, if there is one. -/
structure ChecksAs (runs : Format → Outcome) (found : Except Resource.ScanFault Validation.Verdict)
    (console : Terminal.Console) (file : String) (action : Option String) : Prop where
  /-- A report that the console cannot print ends the run, whatever the verdict is. -/
  code : ∀ format, (runs format).code = 0 ↔
    (∃ v, found = .ok v ∧ v.isValid = true) ∧ (format = .text → IsShown console file action)
  json : ∀ v, found = .ok v → (runs .json).output = [v.toText (some 2)]

/-- Runs of a look in each format print what is found, if it can be. -/
structure ParsesAs (runs : Bool → Outcome) (found : Except Resource.ScanFault Resource.Findings)
    (provider : String) : Prop where
  json : ∀ f, found = .ok f →
    runs true = .prints [Json.write (some 2) (findingsJson provider f)]
  text : ∀ f, found = .ok f → runs false = findingsOutcome provider f
  fault : ∀ fault, found = .error fault → ∀ json, runs json = refuseScan fault

theorem code_refuseScan (fault : Resource.ScanFault) : (refuseScan fault).code = 1 := by
  cases fault <;> rfl

theorem codeOf_eq_zero {v : Validation.Verdict} : codeOf v = 0 ↔ v.isValid = true := by
  unfold codeOf
  split
  · next h => simp [h]
  · next h => simp [h]

/-- What is printed of a verdict in a format, and the code. -/
theorem code_printVerdict {w : Words} (h : AsksCheck w file provider pairs action format)
    {v : Validation.Verdict} :
    (printVerdict s w v).code = 0 ↔
      v.isValid = true ∧ (format = .text → IsShown s.console file action) := by
  have haction : w.last? "action" = action := by
    rw [Words.last?, h.action]
    cases action <;> rfl
  simp only [printVerdict, last?_of_values h.output, last?_of_values h.statement, haction,
    Option.getD_some]
  cases format with
  | json => simp [Format.word, codeOf_eq_zero]
  | compact => simp [Format.word, codeOf_eq_zero]
  | text =>
    simp only [Format.word, forall_const]
    by_cases hvalid : v.isValid = true
    · have hreport := @report_complete_iff file action s.console v hvalid
      rw [← hreport]
      cases hcomplete : (report s.console v file action).2 with
      | true => simp [codeOf_eq_zero, hvalid]
      | false => simp [Outcome.fails]
    · cases hcomplete : (report s.console v file action).2 with
      | true => simp [codeOf_eq_zero, hvalid]
      | false => simp [Outcome.fails, hvalid]

theorem checksAs_run [Uri.Idna] (hfile : s.place file = .text content)
    (hpairs : ∀ pair ∈ pairs, IsPair pair) (hne : pairs ≠ [])
    (hgate : Gate.make provider ((Mapping.ofPairs pairs).mapValues .text) action = .ok gate) :
    ChecksAs
      (fun format =>
        (run s choices (longLine .check (checkOptions provider pairs action format) file)).1)
      (gate.check (Text.unifyBreaks content)) s.console file action where
  code := by
    intro format
    rw [run_check_eq hfile hpairs hne hgate]
    cases gate.check (Text.unifyBreaks content) with
    | error fault => simp [code_refuseScan]
    | ok v =>
      simpa using code_printVerdict (asksCheck_namedWords file provider pairs action format)
  json := by
    intro v hv
    have houtput := (asksCheck_namedWords file provider pairs action .json).output
    rw [run_check_eq hfile hpairs hne hgate, hv]
    simp only [printVerdict, last?_of_values houtput, Format.word]

theorem parsesAs_run [Uri.Idna] (hfile : s.place file = .text content) :
    ParsesAs (fun json => (run s choices (longLine .parse (parseOptions provider json) file)).1)
      (Resource.scan (Text.unifyBreaks content)) provider where
  json := by
    intro f hf
    rw [run_parse_eq hfile, hf]
    rfl
  text := by
    intro f hf
    rw [run_parse_eq hfile, hf]
    rfl
  fault := by
    intro fault hfault json
    rw [run_parse_eq hfile, hfault]

/-- The commands say of a statement file what the gate and the scan say of its text with all line
ends made LF, which is what they say of the text itself if every CR belongs to a line end. -/
theorem commands_agree [Uri.Idna] (hfile : s.place file = .text content)
    (hpairs : ∀ pair ∈ pairs, IsPair pair) (hne : pairs ≠ [])
    (hgate : Gate.make provider ((Mapping.ofPairs pairs).mapValues .text) action = .ok gate) :
    ChecksAs
        (fun format =>
          (run s choices (longLine .check (checkOptions provider pairs action format) file)).1)
        (gate.check (Text.unifyBreaks content)) s.console file action ∧
      ParsesAs
        (fun json => (run s choices (longLine .parse (parseOptions provider json) file)).1)
        (Resource.scan (Text.unifyBreaks content)) provider ∧
      (Text.ReturnsEndLines content.toList →
        gate.check (Text.unifyBreaks content) = gate.check content ∧
          Resource.scan (Text.unifyBreaks content) = Resource.scan content) := by
  refine ⟨checksAs_run hfile hpairs hne hgate, parsesAs_run hfile, ?_⟩
  intro h
  have hscan := Resource.scan_unifyBreaks h
  refine ⟨?_, hscan⟩
  simp only [Gate.check, hscan]

end

/-- A run in front of one file. -/
def besideFile (content : String) : Surroundings where
  place name := if name = "s.txt" then .text content else .vacant
  environment _ := none
  now := ⟨0, some 0, Calendar.tickLimit_pos⟩
  freshKey := ⟨1, "key", by decide, by decide⟩
  console := .plain 80

/-- The expectation that an account is verified. -/
def verifiedAccount : Expectation where
  name := "verified"
  raw := "true"
  requirement := ⟨"verified", .eq, "true", .boolean true, by rfl⟩
  parses := by rfl
  wellTyped := by rfl

/-- The gate of that expectation. -/
def verifiedGate : Gate := ⟨"x", [verifiedAccount], none⟩

theorem make_verifiedGate :
    Gate.make "x" ((Mapping.ofPairs [("verified", "true")]).mapValues .text) none =
      .ok verifiedGate := by rfl

theorem isPair_verified : ∀ pair ∈ [("verified", "true")], IsPair pair := by
  intro pair hpair
  obtain rfl := List.mem_singleton.mp hpair
  exact ⟨by decide, by decide, by decide⟩

section

attribute [local instance] Uri.Idna.plain

theorem commands_agree_returns :
    (run (besideFile "Resources:\r\n- urn:verify:provider:x:verified:eq:true\r\n") ⟨id, 0⟩
      (longLine .check (checkOptions "x" [("verified", "true")] none .json) "s.txt")).1.code =
        0 := by
  have hvalid : verifiedGate.check (Text.unifyBreaks
      "Resources:\r\n- urn:verify:provider:x:verified:eq:true\r\n") = .ok ⟨[]⟩ := by rfl
  obtain ⟨hchecks, -, -⟩ := @commands_agree
    (besideFile "Resources:\r\n- urn:verify:provider:x:verified:eq:true\r\n") ⟨id, 0⟩ "s.txt" _ "x"
    [("verified", "true")] none verifiedGate _ rfl isPair_verified (by simp) make_verifiedGate
  exact (hchecks.code .json).mpr ⟨⟨_, hvalid, rfl⟩, by simp⟩

/-- A CR inside a line that is no resource: the gate finds no trait, and the check finds the one
that stands behind it. -/
theorem check_passes_behind_return :
    ∃ content gate v, Gate.make "x" ((Mapping.ofPairs [("verified", "true")]).mapValues .text)
        none = .ok gate ∧
      gate.check content = .ok v ∧ v.isValid = false ∧
      (run (besideFile content) ⟨id, 0⟩
        (longLine .check (checkOptions "x" [("verified", "true")] none .json) "s.txt")).1.code =
          0 := by
  refine ⟨"Resources:\n- x\r- urn:verify:provider:x:verified:eq:true", verifiedGate,
    ⟨[⟨"verified", "true", none, .missing⟩]⟩, make_verifiedGate, by rfl, rfl, ?_⟩
  have hvalid : verifiedGate.check (Text.unifyBreaks
      "Resources:\n- x\r- urn:verify:provider:x:verified:eq:true") = .ok ⟨[]⟩ := by rfl
  rw [run_check_eq rfl isPair_verified (by simp) make_verifiedGate, hvalid]
  exact (code_printVerdict (asksCheck_namedWords "s.txt" "x" [("verified", "true")] none
    .json)).mpr ⟨rfl, by simp⟩

end

end Eligibility.Cli
