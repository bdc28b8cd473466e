import Mathlib.Data.List.TakeWhile
import LiterateCalc.CommandLine.Program
import LiterateCalc.Files.Memory
import LiterateCalc.Proofs.CommandLine.Admission

/-! A command line without a command. It is one for `run` where nothing but switches for every command stands
before its first word, and is refused otherwise. -/
namespace LiterateCalc.CommandLine
open Request

/-- A switch that every command understands, and that asks for no help. -/
inductive IsGlobal : String → Prop
  | noColor : IsGlobal "--no-color"
  | verbose : IsGlobal "--verbose"
  | short (filled : letters ≠ []) (each : ∀ c ∈ letters, c = 'v') : IsGlobal (String.ofList ('-' :: letters))

/-- Only switches that `run` does not look at. -/
def Quiet (arguments : List Argument) : Prop :=
  ∀ argument ∈ arguments, argument = .switch "no-color" "" ∨ argument = .switch "verbose" ""

/-- The arguments in front of the first word. -/
def leadingDashes (arguments : List String) : List String := arguments.takeWhile (·.startsWith "-")

section
variable {argument : String} {arguments front rest : List String} {found quiet : List Argument}

theorem Quiet.unended (quietly : Quiet quiet) : Unended quiet := by
  intro long value inside
  rcases quietly _ inside with same | same
  all_goals
    obtain ⟨rfl, -⟩ := Argument.switch.inj same
    decide

theorem Quiet.operands_append (quietly : Quiet quiet) (found : List Argument) :
    operands (quiet ++ found) = operands found := by
  have none : operands quiet = [] := List.filterMap_eq_nil_iff.mpr fun argument inside => by
    rcases quietly argument inside with rfl | rfl <;> rfl
  rw [operands, List.filterMap_append, ← operands, none, List.nil_append]
  rfl

theorem Quiet.valuesOf_append (quietly : Quiet quiet) (other : long ∉ ["no-color", "verbose"])
    (found : List Argument) : valuesOf long (quiet ++ found) = valuesOf long found := by
  have none : valuesOf long quiet = [] := List.filterMap_eq_nil_iff.mpr fun argument inside => by
    simp only [List.mem_cons, List.not_mem_nil, or_false, not_or] at other
    rcases quietly argument inside with rfl | rfl
    · simpa using Ne.symm other.1
    · simpa using Ne.symm other.2
  rw [valuesOf, List.filterMap_append, ← valuesOf, none, List.nil_append]
  rfl

theorem Quiet.readRun_append (quietly : Quiet quiet) (found : List Argument) :
    readRun (quiet ++ found) = readRun found := by
  have values (long : String) (other : long ∉ ["no-color", "verbose"]) :
      valuesOf long (quiet ++ found) = valuesOf long found := quietly.valuesOf_append other found
  simp [readRun, readOperand, readValue, viewOf, isGiven, quietly.operands_append, values]

theorem atTop_switch : ∀ switch ∈ atTop.switches,
    (switch.repeats = false → switch.long = "no-color") ∧ ∀ value, switch.accepts value = true := by
  simp [atTop, everywhere]

/-- No colors are asked for at most once, so nothing is wrong in front of a command. -/
theorem Quiet.sound (quietly : Quiet quiet) (single : (valuesOf "no-color" quiet).length ≤ 1) :
    Sound atTop quiet where
  single switch member once := by
    rw [(atTop_switch switch member).1 once]
    exact single
  accepted switch member value _ := (atTop_switch switch member).2 value
  few := by
    have none := quietly.operands_append []
    rw [List.append_nil] at none
    rw [none]
    exact Nat.le_refl 0

theorem readShort_verbose (extra : List Switch) (rest : List String) (letters : List Char)
    (each : ∀ c ∈ letters, c = 'v') :
    readShort (everywhere ++ extra) rest letters = (letters.map fun _ => .switch "verbose" "", .ok false) := by
  induction letters with
  | nil => rfl
  | cons c letters ih =>
    obtain ⟨rfl, later⟩ := List.forall_mem_cons.mp each
    have known : (everywhere ++ extra).find? (·.short == some 'v') =
        some { long := "verbose", short := some 'v', repeats := true } := rfl
    simp [readShort, known, ih later]

/-- A switch of every command says the same to all of them. -/
theorem IsGlobal.read (isGlobal : IsGlobal argument) : ∃ quiet, Quiet quiet ∧
    ∀ extra rest, readArgument (everywhere ++ extra) argument rest = (quiet, .ok false) := by
  cases isGlobal with
  | noColor => exact ⟨[.switch "no-color" ""], by simp [Quiet], fun extra rest => rfl⟩
  | verbose => exact ⟨[.switch "verbose" ""], by simp [Quiet], fun extra rest => rfl⟩
  | @short letters filled each =>
    refine ⟨letters.map fun _ => .switch "verbose" "", by simp [Quiet], fun extra rest => ?_⟩
    cases letters with
    | nil => exact absurd rfl filled
    | cons c letters =>
      obtain ⟨rfl, -⟩ := List.forall_mem_cons.mp each
      rw [← readShort_verbose extra rest _ each, readArgument, String.toList_ofList]
      rfl

theorem startsWith_dash : argument.startsWith "-" = true ↔ ∃ rest, argument.toList = '-' :: rest := by
  rw [String.startsWith_string_iff]
  constructor
  · rintro ⟨rest, same⟩
    exact ⟨rest, same.symm⟩
  · rintro ⟨rest, same⟩
    exact ⟨rest, same.symm⟩

theorem IsGlobal.startsWith (isGlobal : IsGlobal argument) : argument.startsWith "-" = true := by
  rw [startsWith_dash]
  cases isGlobal with
  | noColor => exact ⟨_, rfl⟩
  | verbose => exact ⟨_, rfl⟩
  | short filled each => exact ⟨_, String.toList_ofList⟩

theorem IsGlobal.ne_dashes (isGlobal : IsGlobal argument) : argument ≠ "-" ∧ argument ≠ "--" := by
  cases isGlobal with
  | noColor => decide
  | verbose => decide
  | short filled each =>
    constructor
    · intro same
      have same := congrArg String.toList same
      rw [String.toList_ofList] at same
      exact filled (List.cons.inj same).2
    · intro same
      have same := congrArg String.toList same
      rw [String.toList_ofList] at same
      rw [(List.cons.inj same).2] at each
      exact absurd (each '-' List.mem_cons_self) (by decide)

theorem IsGlobal.isSwitch (isGlobal : IsGlobal argument) : isSwitch argument = true := by
  simp [CommandLine.isSwitch, isGlobal.startsWith, isGlobal.ne_dashes.1]

theorem readArguments_globals (each : ∀ argument ∈ front, IsGlobal argument) : ∃ quiet, Quiet quiet ∧
    ∀ extra rest, readArguments (everywhere ++ extra) (front ++ rest) =
      ⟨quiet ++ (readArguments (everywhere ++ extra) rest).found,
        (readArguments (everywhere ++ extra) rest).refusal⟩ := by
  induction front with
  | nil => exact ⟨[], nofun, fun extra rest => rfl⟩
  | cons argument front ih =>
    obtain ⟨first, later⟩ := List.forall_mem_cons.mp each
    obtain ⟨quiet, quietly, here⟩ := first.read
    obtain ⟨others, also, read⟩ := ih later
    refine ⟨quiet ++ others, List.forall_mem_append.mpr ⟨quietly, also⟩, fun extra rest => ?_⟩
    rw [List.cons_append, readArguments.eq_3 _ _ _ first.ne_dashes.2, here]
    simp [read]

theorem withCommand_append (dashes : ∀ argument ∈ front, argument.startsWith "-" = true) (rest : List String) :
    withCommand (front ++ rest) = front ++ withCommand rest := by
  induction front with
  | nil => rfl
  | cons argument front ih =>
    obtain ⟨first, later⟩ := List.forall_mem_cons.mp dashes
    rw [List.cons_append, withCommand, if_pos first, ih later, List.cons_append]

theorem splitCommand_append (switches : ∀ argument ∈ front, isSwitch argument = true) (rest : List String) :
    splitCommand (front ++ rest) = (front ++ (splitCommand rest).1, (splitCommand rest).2) := by
  induction front with
  | nil => rfl
  | cons argument front ih =>
    obtain ⟨first, later⟩ := List.forall_mem_cons.mp switches
    rw [List.cons_append, splitCommand, if_pos first, ih later]
    rfl

theorem splitCommand_word {word : String} (solid : isSwitch word = false) (rest : List String) :
    splitCommand (word :: rest) = ([], word :: rest) := by
  rw [splitCommand, if_neg (by simp [solid])]

theorem isSwitch_run : isSwitch "run" = false := by
  have solid : ¬ "run".startsWith "-" = true := by
    rw [startsWith_dash]
    rintro ⟨rest, same⟩
    cases same
  simp [isSwitch, solid]

theorem read_run (arguments : List String) :
    Request.read ("run" :: arguments) = readCommand "run" true arguments := by
  have kept : withCommand ("run" :: arguments) = "run" :: arguments := by
    rw [withCommand]
    split
    · rename_i dash
      rw [startsWith_dash] at dash
      obtain ⟨rest, same⟩ := dash
      cases same
    · rfl
  rw [Request.read, kept, splitCommand_word isSwitch_run]
  simp only
  rw [readUsage_of_takes (⟨readArguments.eq_1 _, fun _ _ => List.not_mem_nil.elim, ?_⟩ : Takes _ _ [])]
  · have none : isGiven "no-color" [] = false := rfl
    rw [none, if_neg (by simp), Bool.not_false]
  · exact ⟨by simp [valuesOf], by simp [valuesOf], Nat.le_refl 0⟩

/-- The first word names no command, so the command is put in front of it. -/
theorem withCommand_word {word : String} (solid : ¬ word.startsWith "-" = true) (unnamed : word ∉ commands)
    (rest : List String) : withCommand (word :: rest) = "run" :: word :: rest := by
  rw [withCommand, if_neg solid, if_neg (by simpa using unnamed)]

variable {request : RunRequest}

theorem takes_of_read_run (accepted : Request.read ("run" :: arguments) = .ok (.run request)) :
    ∃ found, Takes ofRun arguments found ∧ readRun found = .ok request := by
  rw [read_run, readCommand, if_pos rfl] at accepted
  obtain ⟨found, takes, whole⟩ := takes_of_readUsage accepted (fun _ same => by cases same)
  cases read : readRun found with
  | error refusal =>
    rw [read] at whole
    cases whole
  | ok other =>
    rw [read] at whole
    exact ⟨found, takes, by rw [read, Request.run.inj (Except.ok.inj whole)]⟩

/-- What every command understands can be left out. -/
theorem Takes.split (takes : Takes ofRun (front ++ rest) found) (each : ∀ argument ∈ front, IsGlobal argument) :
    ∃ quiet later, found = quiet ++ later ∧ Quiet quiet ∧ Takes ofRun rest later ∧ Takes atTop front quiet := by
  obtain ⟨quiet, quietly, read⟩ := readArguments_globals each
  have whole := (read (ofRun.switches.drop 3) rest).symm.trans takes.read
  obtain ⟨same, unrefused⟩ := Arguments.mk.inj whole
  have alone := read (atTop.switches.drop 3) []
  rw [List.append_nil, readArguments.eq_1, List.append_nil] at alone
  subst same
  refine ⟨quiet, _, rfl, quietly, ⟨?_, ?_, ?_⟩, alone, quietly.unended, quietly.sound ?_⟩
  · exact congrArg (Arguments.mk _) unrefused
  · exact fun long value inside => takes.unended long value (List.mem_append_right quiet inside)
  · exact takes.sound.of_sublist (List.sublist_append_right quiet _)
  · exact (takes.sound.of_sublist (List.sublist_append_left quiet _)).single _ List.mem_cons_self rfl

/-- Behind the switches of every command the first word is what `run` is put in front of. -/
theorem read_bare (unnamed : ∀ argument ∈ arguments, argument ∉ commands)
    (accepted : Request.read ("run" :: arguments) = .ok (.run request))
    (each : ∀ argument ∈ leadingDashes arguments, IsGlobal argument) :
    Request.read arguments = .ok (.run request) := by
  obtain ⟨found, takes, whole⟩ := takes_of_read_run accepted
  rw [← List.takeWhile_append_dropWhile (p := (·.startsWith "-")) (l := arguments)] at takes unnamed ⊢
  change ∀ argument ∈ arguments.takeWhile _, IsGlobal argument at each
  have solid := List.head?_dropWhile_not (·.startsWith "-") arguments
  generalize arguments.takeWhile (·.startsWith "-") = front at takes unnamed each ⊢
  generalize arguments.dropWhile (·.startsWith "-") = rest at takes unnamed solid ⊢
  obtain ⟨quiet, later, rfl, quietly, here, top⟩ := takes.split each
  rw [quietly.readRun_append] at whole
  cases rest with
  | nil =>
    obtain rfl : [] = later := congrArg Arguments.found ((readArguments.eq_1 _).symm.trans here.read)
    cases whole
  | cons word rest =>
    have command := withCommand_append (fun argument inside => (each argument inside).startsWith) (word :: rest)
    have other : word ∉ commands := unnamed word (List.mem_append_right front List.mem_cons_self)
    rw [withCommand_word (by simpa using solid) other] at command
    have parted := splitCommand_append (fun argument inside => (each argument inside).isSwitch) ("run" :: word :: rest)
    rw [splitCommand_word isSwitch_run, List.append_nil] at parted
    have apart : front.contains "--" = false := by
      simpa using fun inside => (each _ inside).ne_dashes.2 rfl
    rw [Request.read, command, parted]
    simp only
    rw [readUsage_of_takes top, apart, if_neg Bool.false_ne_true, readCommand, if_pos rfl,
      readUsage_of_takes here, whole]
    rfl

theorem not_mem_of_splitFirst {text : List Char} (none : Text.splitFirst [c] text = none) : c ∉ text := by
  induction text with
  | nil => exact nofun
  | cons d text ih =>
    rw [Text.splitFirst] at none
    split at none
    · cases none
    · rename_i other
      rw [Option.map_eq_none_iff] at none
      simp only [List.mem_cons, not_or]
      refine ⟨?_, ih none⟩
      rintro rfl
      exact other (by simp [Text.startsWith])

theorem ofRun_switch : ∀ switch ∈ ofRun.switches,
    (switch.long ∈ everywhere.map Switch.long ∧ switch.takesValue = false ∨
      switch.long ∉ atTop.switches.map Switch.long) ∧
    ∀ letter, switch.short = some letter →
      switch.takesValue = false ∧ (letter = 'v' ∨ switch.long = "help") := by
  simp [ofRun, atTop, everywhere, once]

/-- Of the switches with one dash `run` has none of its own. -/
theorem verbose_of_readShort {letters : List Char} {used : Bool}
    (read : readShort ofRun.switches rest letters = (found, .ok used)) (unended : Unended found) :
    ∀ c ∈ letters, c = 'v' := by
  induction letters generalizing found with
  | nil => exact nofun
  | cons c letters ih =>
    rw [readShort] at read
    split at read
    · cases read
    · rename_i switch known
      have short : switch.short = some c := by simpa using List.find?_some known
      obtain ⟨bare, kind⟩ := (ofRun_switch switch (List.mem_of_find?_eq_some known)).2 c short
      rw [if_neg (by simp [bare])] at read
      obtain ⟨rfl, outcome⟩ := Prod.mk.inj read
      have later := ih (Prod.ext rfl outcome) fun long value inside =>
        unended long value (List.mem_cons_of_mem _ inside)
      refine List.forall_mem_cons.mpr ⟨?_, later⟩
      rcases kind with same | help
      · exact same
      · exact absurd (help ▸ by decide) (unended _ _ List.mem_cons_self)

/-- A long switch that `run` takes is one of every command, or unknown in front of a command. -/
theorem kind_of_readLong {text : List Char} {used : Bool} {said : Argument}
    (read : readLong ofRun.switches text rest = .ok (said, used)) (unended : Unended [said]) :
    String.ofList text = "no-color" ∨ String.ofList text = "verbose" ∨
      ∃ refusal, ∀ rest, readLong atTop.switches text rest = .error refusal := by
  unfold readLong at read ⊢
  simp only at read ⊢
  generalize named : String.ofList (text.takeWhile (· != '=')) = name at read ⊢
  cases known : ofRun.switches.find? (·.long == name) with
  | none => simp [known] at read
  | some switch =>
    have same : switch.long = name := by simpa using List.find?_some known
    rcases (ofRun_switch switch (List.mem_of_find?_eq_some known)).1 with ⟨shared, bare⟩ | own
    · cases cut : Text.splitFirst ['='] text with
      | some parts => simp [known, cut, bare] at read
      | none =>
        have whole : text.takeWhile (· != '=') = text := List.takeWhile_eq_self_iff.mpr fun c inside => by
          simpa using fun equals : c = '=' => not_mem_of_splitFirst cut (equals ▸ inside)
        rw [whole] at named
        rw [named]
        simp only [known, cut, bare, Option.map_none, Bool.false_eq_true, if_false] at read
        obtain ⟨rfl, -⟩ := Prod.mk.inj (Except.ok.inj read)
        have going := unended name "" List.mem_cons_self
        rw [same] at shared
        simp only [everywhere, List.map_cons, List.map_nil, List.mem_cons, List.not_mem_nil, or_false] at shared
        rcases shared with rfl | rfl | rfl
        · exact .inl rfl
        · exact .inr (.inl rfl)
        · exact absurd (by decide) going
    · have unknown : atTop.switches.find? (·.long == name) = none := List.find?_eq_none.mpr fun other member equal =>
        own (same ▸ List.mem_map.mpr ⟨other, member, by simpa using equal⟩)
      exact .inr (.inr ⟨.unknownSwitch ("--" ++ name), fun rest => by simp [unknown]⟩)

/-- The same of the whole argument. -/
theorem kind_of_long {text : List Char} {used : Bool} {said : Argument} (shape : argument.toList = '-' :: '-' :: text)
    (read : readLong ofRun.switches text rest = .ok (said, used)) (unended : Unended [said]) :
    IsGlobal argument ∨ ∃ refusal, ∀ rest, readArgument atTop.switches argument rest = ([], .error refusal) := by
  have whole : argument = String.ofList ('-' :: '-' :: text) := by rw [← shape, String.ofList_toList]
  rcases kind_of_readLong read unended with same | same | ⟨refusal, unknown⟩
  · have known : text = "no-color".toList := by rw [← same, String.toList_ofList]
    rw [whole, known]
    exact .inl .noColor
  · have known : text = "verbose".toList := by rw [← same, String.toList_ofList]
    rw [whole, known]
    exact .inl .verbose
  · refine .inr ⟨refusal, fun rest => ?_⟩
    rw [readArgument, shape]
    simp only [unknown rest]

/-- An argument with a dash that `run` takes is a switch of every command, or one of those that are read
otherwise in front of a command. -/
theorem kind_of_dash (dash : argument.startsWith "-" = true)
    (unrefused : (readArguments ofRun.switches (argument :: rest)).refusal = none)
    (unended : Unended (readArguments ofRun.switches (argument :: rest)).found) :
    IsGlobal argument ∨ argument = "-" ∨ argument = "--" ∨ argument ≠ "-" ∧ argument ≠ "--" ∧
      ∃ refusal, ∀ rest, readArgument atTop.switches argument rest = ([], .error refusal) := by
  by_cases bare : argument = "-"
  · exact .inr (.inl bare)
  by_cases dashes : argument = "--"
  · exact .inr (.inr (.inl dashes))
  rw [readArguments.eq_3 _ _ _ dashes] at unrefused unended
  rcases read : readArgument ofRun.switches argument rest with ⟨found, refusal | used⟩
  · rw [read] at unrefused
    cases unrefused
  rw [read] at unended
  have going : Unended found := fun long value inside => unended long value (List.mem_append_left _ inside)
  obtain ⟨tail, shape⟩ := startsWith_dash.mp dash
  have whole : argument = String.ofList ('-' :: tail) := by rw [← shape, String.ofList_toList]
  rw [readArgument, shape] at read
  split at read
  · rename_i text long
    split at read
    · rename_i said used' known
      obtain ⟨rfl, outcome⟩ := Prod.mk.inj read
      rw [(List.cons.inj long).2] at shape
      rcases kind_of_long shape known going with isGlobal | unknown
      · exact .inl isGlobal
      · exact .inr (.inr (.inr ⟨bare, dashes, unknown⟩))
    · cases (Prod.mk.inj read).2
  · rename_i c more _ short
    rw [(List.cons.inj short).2] at whole
    rw [whole]
    exact .inl (.short (List.cons_ne_nil c more) (verbose_of_readShort read going))
  · rename_i neither
    cases tail with
    | nil => exact absurd whole bare
    | cons c more => exact absurd rfl (neither c more)

theorem exists_first (other : ¬ ∀ argument ∈ leadingDashes arguments, IsGlobal argument) :
    ∃ front argument rest, arguments = front ++ argument :: rest ∧ (∀ argument ∈ front, IsGlobal argument) ∧
      argument.startsWith "-" = true ∧ ¬ IsGlobal argument := by
  induction arguments with
  | nil => exact absurd nofun other
  | cons argument arguments ih =>
    by_cases dash : argument.startsWith "-" = true
    · by_cases isGlobal : IsGlobal argument
      · have later : ¬ ∀ argument ∈ leadingDashes arguments, IsGlobal argument := by
          intro each
          refine other ?_
          rw [leadingDashes, List.takeWhile_cons, if_pos dash]
          exact List.forall_mem_cons.mpr ⟨isGlobal, each⟩
        obtain ⟨front, first, rest, rfl, each, found⟩ := ih later
        exact ⟨argument :: front, first, rest, rfl, List.forall_mem_cons.mpr ⟨isGlobal, each⟩, found⟩
      · exact ⟨[], argument, arguments, rfl, nofun, dash, isGlobal⟩
    · rw [leadingDashes, List.takeWhile_cons, if_neg dash] at other
      exact absurd nofun other

/-- With the command put in, an argument with a dash still follows the switches in front of it. -/
theorem splitCommand_globals (each : ∀ argument ∈ front, IsGlobal argument) (dash : argument.startsWith "-" = true)
    (rest : List String) : splitCommand (withCommand (front ++ argument :: rest)) =
      (front ++ (splitCommand (argument :: withCommand rest)).1, (splitCommand (argument :: withCommand rest)).2) := by
  rw [withCommand_append fun argument inside => (each argument inside).startsWith, withCommand, if_pos dash]
  exact splitCommand_append (fun argument inside => (each argument inside).isSwitch) _

section
variable (each : ∀ argument ∈ front, IsGlobal argument)
include each

/-- A single dash is a word, and names no command. -/
theorem read_dash_refused (rest : List String) : ∃ refusal, Request.read (front ++ "-" :: rest) = .error refusal := by
  obtain ⟨quiet, quietly, alike⟩ := readArguments_globals each
  have read := alike (atTop.switches.drop 3) []
  rw [Request.read, splitCommand_globals each (startsWith_dash.mpr ⟨_, rfl⟩), splitCommand_word (by simp [isSwitch])]
  refine readUsage_refused (read.trans (congrArg (Arguments.mk · _) ?_)) quietly.unended fun _ => ?_
  · rw [readArguments.eq_1, List.append_nil]
  · simp only
    split
    · exact ⟨_, rfl⟩
    · exact ⟨_, rfl⟩

/-- Behind two dashes every word is an operand, and there is no room for one in front of a command. -/
theorem read_dashes_refused (rest : List String) :
    ∃ refusal, Request.read (front ++ "--" :: rest) = .error refusal := by
  obtain ⟨quiet, quietly, alike⟩ := readArguments_globals each
  rw [Request.read, splitCommand_globals each (startsWith_dash.mpr ⟨_, rfl⟩), splitCommand, if_pos (by simp [isSwitch])]
  rcases splitCommand (withCommand rest) with ⟨operands, behind⟩
  have read := alike (atTop.switches.drop 3) ("--" :: operands)
  rw [readArguments.eq_2] at read
  refine readUsage_refused read ?_ fun _ => ?_
  · intro long value inside
    rcases List.mem_append.mp inside with early | operand
    · exact quietly.unended long value early
    · simp at operand
  · cases behind with
    | nil => exact ⟨_, rfl⟩
    | cons command more => exact ⟨.unexpectedOperand command, by simp⟩

theorem read_unknown_refused {refusal : Refusal} (dash : argument.startsWith "-" = true) (bare : argument ≠ "-")
    (double : argument ≠ "--")
    (unknown : ∀ rest, readArgument atTop.switches argument rest = ([], .error refusal)) (rest : List String) :
    ∃ refusal, Request.read (front ++ argument :: rest) = .error refusal := by
  obtain ⟨quiet, quietly, alike⟩ := readArguments_globals each
  rw [Request.read, splitCommand_globals each dash, splitCommand, if_pos (by simp [isSwitch, dash, bare])]
  rcases splitCommand (withCommand rest) with ⟨more, behind⟩
  have read := alike (atTop.switches.drop 3) (argument :: more)
  rw [readArguments.eq_3 _ _ _ double, show everywhere ++ atTop.switches.drop 3 = atTop.switches from rfl,
    unknown] at read
  refine readUsage_refused read ?_ fun none => absurd none (Option.some_ne_none refusal)
  rw [List.append_nil]
  exact quietly.unended

end

theorem read_refused (accepted : Request.read ("run" :: arguments) = .ok (.run request))
    (other : ¬ ∀ argument ∈ leadingDashes arguments, IsGlobal argument) :
    ∃ refusal, Request.read arguments = .error refusal := by
  obtain ⟨front, argument, rest, rfl, each, dash, foreign⟩ := exists_first other
  obtain ⟨found, takes, -⟩ := takes_of_read_run accepted
  obtain ⟨_, later, rfl, -, ⟨read, unended, -⟩, -⟩ := takes.split each
  have unrefused : (readArguments ofRun.switches (argument :: rest)).refusal = none := by rw [read]
  rcases kind_of_dash dash unrefused (by rw [read]; exact unended) with
    isGlobal | rfl | rfl | ⟨bare, double, refusal, unknown⟩
  · exact absurd isGlobal foreign
  · exact read_dash_refused each rest
  · exact read_dashes_refused each rest
  · exact read_unknown_refused each dash bare double unknown rest

theorem readDocument_failure {settings : Settings} {source : String} {outcome : Outcome}
    (failed : readDocument request settings source = .error outcome) : outcome.exitCode = 1 := by
  unfold readDocument at failed
  split at failed
  · split at failed
    · cases failed
    · obtain rfl := Except.error.inj failed
      rfl
  · unfold readSource at failed
    simp only at failed
    split at failed
    · cases failed
    · obtain rfl := Except.error.inj failed
      rfl

theorem present_exitCode (settings : Settings) (document : Document) :
    (present request settings document).exitCode = 0 := by
  unfold present
  split <;> rfl

/-- Calculating a document succeeds or fails, but is never refused. -/
theorem runDocument_exitCode (files : Files Id) (request : RunRequest) :
    Outcome.exitCode (runDocument files request) ≤ 1 := by
  unfold runDocument
  simp only [bind, pure]
  split
  · exact Nat.le_refl 1
  · split
    · exact Nat.le_refl 1
    · split
      · rename_i failed
        exact Nat.le_of_eq (readDocument_failure failed)
      · exact (present_exitCode _ _).trans_le (Nat.zero_le 1)

theorem program_refused (files : Files Id) (accepted : Request.read ("run" :: arguments) = .ok (.run request))
    (other : ¬ ∀ argument ∈ leadingDashes arguments, IsGlobal argument) :
    program files arguments ≠ program files ("run" :: arguments) := by
  intro same
  obtain ⟨refusal, refused⟩ := read_refused accepted other
  have code := congrArg Outcome.exitCode same
  rw [program, program, accepted, refused] at code
  exact absurd (code.trans_le (runDocument_exitCode files request)) (by simp [pure])

/-- Without a command the program does what it does for `run`, if `run` takes the arguments, exactly where only
switches of every command stand in front of the first word. -/
theorem program_bare_iff (files : Files Id) (unnamed : ∀ argument ∈ arguments, argument ∉ commands)
    (accepted : Request.read ("run" :: arguments) = .ok (.run request)) :
    program files arguments = program files ("run" :: arguments) ↔
      ∀ argument ∈ leadingDashes arguments, IsGlobal argument := by
  constructor
  · intro same
    by_contra other
    exact program_refused files accepted other same
  · intro each
    rw [program, program, accepted, read_bare unnamed accepted each]

/-- Of a switch of every command in front of the document, and one of `run` behind it. -/
theorem program_bare_iff_behind :
    program (FileTree.files (.ofList [("doc.md", "x = 1\n")])) ["-v", "doc.md", "--decimals", "3"] =
      program (FileTree.files (.ofList [("doc.md", "x = 1\n")])) ["run", "-v", "doc.md", "--decimals", "3"] := by
  have accepted : Request.read ["run", "-v", "doc.md", "--decimals", "3"] = .ok (.run
      { file := "doc.md", settings := [], inputs := [], detectInputs := true, format := none, style := none
        decimals := some 3, showHidden := false, showFormulas := false, html := false, config := none
        view := .report }) := by with_unfolding_all rfl
  have before : leadingDashes ["-v", "doc.md", "--decimals", "3"] = ["-v"] := by with_unfolding_all rfl
  refine (program_bare_iff _ (by decide) accepted).mpr ?_
  rw [before]
  have global : IsGlobal (String.ofList ['-', 'v']) := .short (by decide) (by simp)
  exact List.forall_mem_singleton.mpr global

/-- A switch of `run` in front of the document is refused without the command. -/
theorem program_bare_before :
    let files := FileTree.files (.ofList [("doc.md", "x = 1\n")])
    let arguments := ["--decimals", "3", "doc.md"]
    (∀ argument ∈ arguments, argument ∉ commands) ∧
      (∃ request, Request.read ("run" :: arguments) = .ok (.run request)) ∧
      program files arguments ≠ program files ("run" :: arguments) := by
  intro files arguments
  have accepted : Request.read ("run" :: arguments) = .ok (.run
      { file := "doc.md", settings := [], inputs := [], detectInputs := true, format := none, style := none
        decimals := some 3, showHidden := false, showFormulas := false, html := false, config := none
        view := .report }) := by with_unfolding_all rfl
  have before : leadingDashes arguments = ["--decimals"] := by with_unfolding_all rfl
  refine ⟨by decide, ⟨_, accepted⟩, program_refused files accepted ?_⟩
  rw [before, List.forall_mem_singleton]
  generalize same : "--decimals" = argument
  rintro (_ | _ | ⟨-, each⟩)
  · exact absurd same (by decide)
  · exact absurd same (by decide)
  · have letters := (congrArg String.toList same).trans String.toList_ofList
    exact absurd (each '-' ((List.cons.inj letters).2 ▸ List.mem_cons_self)) (by decide)

end
end LiterateCalc.CommandLine
