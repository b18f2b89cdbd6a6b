import Eligibility.Cli.Run
import Eligibility.Proofs.Outcome
import Eligibility.Proofs.Text.Cut
set_option autoImplicit false

/-!
# Command line: a command line for every request

Long names with a value each, and two dashes in front of the file, say everything that a
command can be asked, whatever the values are: a value is taken as it stands, and so is
what follows the dashes.  So what is asked is read back from its command line.
-/

namespace Eligibility.Cli

/-! ## Options with long names -/

/-- The words of options that are written with their long names. -/
def longWords (given : List (String × String)) : List String :=
  given.flatMap fun option => ["--" ++ option.1, option.2]

/-- An option is kept under its long name, and has a value. -/
structure TakesLong (switches : List Switch) (key : String) : Prop where
  plain : '=' ∉ key.toList
  ne_empty : key ≠ ""
  found : ∃ names, switch? switches ("--" ++ key) = some ⟨key, names, true⟩

variable {switches : List Switch} {key value : String} {rest : List String}

theorem isLongName_append (key : String) : isLongName ("--" ++ key) = true := by
  rw [isLongName, Text.after?_eq_some.mpr rfl]
  rfl

theorem takeOptions_long (h : TakesLong switches key) (value : String) (rest : List String) :
    takeOptions switches ("--" ++ key) (value :: rest) = .ok ([(key, value)], rest) := by
  obtain ⟨names, hfound⟩ := h.found
  have hcut : Text.cutAt '=' ("--" ++ key) = ("--" ++ key, none) := by
    refine Text.cutAt_eq_none.mpr ⟨?_, rfl⟩
    simpa using h.plain
  have hlong := isLongName_append key
  simp only [takeOptions, takeLong, hcut, hfound, hlong, if_true, Option.filter_some, takeValue]
  rfl

theorem namesOptions_long (h : key ≠ "") :
    namesOptions ("--" ++ key) = true ∧ "--" ++ key ≠ "--" := by
  refine ⟨?_, ?_⟩
  · have hlist : ("--" ++ key).toList = '-' :: '-' :: key.toList := by simp
    rw [namesOptions, hlist]
    rfl
  · simpa using h

/-- Options with long names are read back, and so is what follows two dashes. -/
theorem readWords_longWords {given : List (String × String)}
    (h : ∀ option ∈ given, TakesLong switches option.1) (mixed : Bool) (arguments : List String)
    {fuel : Nat} (hfuel : given.length < fuel) :
    readWords switches mixed fuel (longWords given ++ "--" :: arguments) =
      .ok ⟨given, arguments⟩ := by
  induction given generalizing fuel with
  | nil =>
    cases fuel with
    | zero => simp at hfuel
    | succ fuel => simp [longWords, readWords]
  | cons option given ih =>
    obtain ⟨key, value⟩ := option
    have hkey : TakesLong switches key := h (key, value) List.mem_cons_self
    cases fuel with
    | zero => simp at hfuel
    | succ fuel =>
      have hrest := ih (fun o ho => h o (List.mem_cons_of_mem _ ho))
        (Nat.lt_of_succ_lt_succ hfuel)
      obtain ⟨hnames, hne⟩ := namesOptions_long hkey.ne_empty
      have hwords : longWords ((key, value) :: given) ++ "--" :: arguments =
          ("--" ++ key) :: value :: (longWords given ++ "--" :: arguments) := by
        simp [longWords]
      rw [hwords, readWords, if_neg hne, if_pos hnames, takeOptions_long hkey]
      simp only [bind, Except.bind, hrest]
      rfl

theorem read_longWords {given : List (String × String)}
    (h : ∀ option ∈ given, TakesLong switches option.1) (mixed : Bool) (arguments : List String) :
    Words.read switches mixed (longWords given ++ "--" :: arguments) = .ok ⟨given, arguments⟩ := by
  refine readWords_longWords h mixed arguments ?_
  have hlength : given.length ≤ (longWords given).length := by
    induction given with
    | nil => simp
    | cons option given ih =>
      have hrest := ih fun o ho => h o (List.mem_cons_of_mem _ ho)
      simp only [longWords, List.flatMap_cons, List.length_append, List.length_cons,
        List.length_nil] at hrest ⊢
      omega
  simp only [List.length_append, List.length_cons]
  omega

/-! ## Commands -/

/-- A command line with long names and a file. -/
def longLine (c : Command) (given : List (String × String)) (file : String) : List String :=
  c.word :: (longWords given ++ ["--", file])

/-- The first word is the command, and the others are its words. -/
theorem read_longLine (c : Command) (given : List (String × String)) (file : String) :
    Line.read (longLine c given file) = .ok (.command c (longWords given ++ ["--", file])) := by
  have hword : namesOptions c.word = false ∧ c.word ≠ "--" := by cases c <;> decide
  have hread : Words.read frontSwitches false (longLine c given file) =
      .ok { arguments := longLine c given file } := by
    simp [Words.read, longLine, readWords, hword.1, hword.2]
  have hcommand : commandOf c.word (longLine c given file) = .ok c := by
    simp only [commandOf, Command.ofWord?_word]
    rfl
  have hhelp : Words.has { arguments := longLine c given file } helpKey = false := rfl
  have hempty : (longLine c given file).isEmpty = false := rfl
  simp only [Line.read, hread, bind, Except.bind, hhelp, hempty, Bool.or_self, Bool.false_eq_true,
    if_false]
  rw [longLine] at hcommand ⊢
  simp only [hcommand]
  rfl

/-- A parameter passes if it is there where it must be and each of its values has its form. -/
theorem checkParameter_eq_ok {place : String → Place} {w : Words} {p : Parameter} :
    checkParameter place w p = .ok () ↔ (p.required = true → w.has p.key = true) ∧
      ∀ value ∈ countingValues w p, wrongWith? place p.form value = none := by
  unfold checkParameter
  split
  · next hmissing =>
    simp only [Bool.and_eq_true, Bool.not_eq_true'] at hmissing
    simp [hmissing.1, hmissing.2]
  · next hthere =>
    have hgiven : p.required = true → w.has p.key = true := by
      intro hrequired
      simpa [hrequired] using hthere
    cases hwrong : (countingValues w p).findSome? (wrongWith? place p.form) with
    | none => exact ⟨fun _ => ⟨hgiven, List.findSome?_eq_none_iff.mp hwrong⟩, fun _ => rfl⟩
    | some reason =>
      simp only [reduceCtorEq, false_iff]
      rintro ⟨-, hall⟩
      simp [List.findSome?_eq_none_iff.mpr hall] at hwrong

theorem mem_of_mem_checkOrder {w : Words} {parameters : List Parameter} {p : Parameter}
    (h : p ∈ checkOrder w parameters) : p ∈ parameters := by
  simp only [checkOrder, List.mem_append, List.mem_filter, List.mem_filterMap] at h
  rcases h with (⟨key, -, hfind⟩ | ⟨hmem, -⟩) | ⟨⟨hmem, -⟩, -⟩
  · exact (List.mem_filter.mp (List.mem_of_find?_eq_some hfind)).1
  · exact hmem
  · exact hmem

theorem forM_eq_ok {α ε : Type} {step : α → Except ε Unit} {items : List α}
    (h : ∀ a ∈ items, step a = .ok ()) : items.forM step = .ok () := by
  induction items with
  | nil => rfl
  | cons a items ih =>
    have hrest := ih fun b hb => h b (List.mem_cons_of_mem a hb)
    have hcons : (a :: items).forM step = (step a >>= fun _ => items.forM step) := rfl
    rw [hcons, h a List.mem_cons_self]
    exact hrest

/-- The words of a command line with long names, the file under the name of its parameter. -/
def namedWords (argument : Parameter) (given : List (String × String)) (file : String) : Words where
  given := given ++ [(argument.key, file)]

/-- A command of one argument runs on what its command line with long names says. -/
theorem run_longLine [Uri.Idna] {s : Surroundings} {choices : Statement.Choices} {c : Command}
    {given : List (String × String)} {file : String} {argument : Parameter}
    (hlong : ∀ option ∈ given,
      TakesLong (c.parameters.filterMap (·.switch?) ++ [helpSwitch]) option.1 ∧
        option.1 ≠ helpKey)
    (hargument : c.parameters.filter (·.isArgument) = [argument])
    (hchecks : ∀ p ∈ c.parameters,
      checkParameter s.place (namedWords argument given file) p = .ok ()) :
    run s choices (longLine c given file) =
      runCommand s choices c (namedWords argument given file) := by
  have hread : readCommandWords c.parameters (longWords given ++ ["--", file]) =
      .ok ⟨given, [file]⟩ := read_longWords (fun o ho => (hlong o ho).1) true [file]
  have hhelp : Words.has ⟨given, [file]⟩ helpKey = false := by
    simp only [Words.has, List.any_eq_false, decide_eq_true_eq]
    exact fun o ho => (hlong o ho).2
  have hnamed : nameArguments c.parameters ⟨given, [file]⟩ = namedWords argument given file := by
    simp [nameArguments, hargument, namedWords]
  have hwords : checkWords s.place c.parameters ⟨given, [file]⟩ =
      .ok (namedWords argument given file) := by
    have hall : (checkOrder ⟨given, [file]⟩ c.parameters).forM
        (checkParameter s.place (namedWords argument given file)) = .ok () :=
      forM_eq_ok fun p hp => hchecks p (mem_of_mem_checkOrder hp)
    simp only [checkWords, hnamed, hall, bind, Except.bind]
    rfl
  simp only [run, read_longLine, hread, hhelp, hwords, Bool.false_eq_true, if_false]

end Eligibility.Cli
