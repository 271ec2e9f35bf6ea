import Mathlib.Algebra.BigOperators.Group.List.Basic
import Mathlib.Algebra.Ring.Nat
import ScriptLexer.Proofs.CommandLine.Taking

/-!
# What a command line says

Before `--` an argument may be the long form of a flag, a bundle of short forms, or positional;
after it, every argument is positional. With that, a command line is described by counting: how
many positional arguments there are, and how often each flag occurs. The description says which
command lines are accepted (`CommandLine.IsAcceptable`) and what the options then are
(`CommandLine.Tells`), and it agrees with the reading from left to right
(`CommandLine.parse_eq_ok_iff`).

The link between the two is made argument by argument. The items of an argument can be accepted
just when it has one of the three forms (`Item.forall_isPlain_ofArgument_iff`), and then counting
flags among the items is counting letters (`Item.count_flag_ofArgument`).
-/

namespace ScriptLexer

/-! ### Where the source comes from -/

namespace Options

variable {o : Options}

theorem input_eq_demo_iff : o.input = .demo ↔ o.demo = true := by
  rw [input]
  split <;> grind

theorem input_eq_file_iff {path : String} :
    o.input = .file path ↔ o.demo = false ∧ o.file = some path ∧ path ≠ "-" := by
  rw [input]
  split <;> grind

theorem input_eq_standardInput_iff :
    o.input = .standardInput ↔ o.demo = false ∧ ∀ path, o.file = some path → path = "-" := by
  rw [input]
  split <;> grind

end Options

/-! ### Arguments, one by one -/

namespace Flag

/-- The long form of a flag. -/
def longForm : Flag → String
  | demo => "--demo"
  | trace => "--trace"
  | verbose => "--verbose"
  | quiet => "--quiet"

/-- The letter of a flag that has a short form. -/
def letter? : Flag → Option Char
  | demo => none
  | trace => some 't'
  | verbose => some 'v'
  | quiet => some 'q'

end Flag

namespace CommandLine

/-- The letters of the short forms. -/
def letters : List Char :=
  ['t', 'v', 'q']

/-- Whether an argument is the long form of a flag. -/
def isLong (argument : String) : Bool :=
  ["--demo", "--trace", "--verbose", "--quiet"].contains argument

/-- Whether an argument is a bundle of short forms, of which there may be only one. -/
def isBundle (argument : String) : Bool :=
  match argument.toList with
  | '-' :: c :: rest => (c :: rest).all letters.contains
  | _ => false

/-- Whether an argument stands for itself: it is a lone dash, or does not begin with one. -/
def isPositional (argument : String) : Bool :=
  argument == "-" || argument.toList.head? != some '-'

/-- Whether an argument is one that may stand before `--`. -/
def isKnown (argument : String) : Bool :=
  isLong argument || isBundle argument || isPositional argument

/-- How often a flag occurs in an argument. -/
def occurrencesIn (f : Flag) (argument : String) : Nat :=
  if argument = f.longForm then 1
  else if isBundle argument then argument.toList.countP fun c ↦ f.letter? == some c
  else 0

variable {argument : String}

theorem isLong_iff : isLong argument = true ↔ ∃ f : Flag, argument = f.longForm := by
  constructor
  · intro h
    have hmem : argument ∈ ["--demo", "--trace", "--verbose", "--quiet"] := by
      simpa [isLong] using h
    simp only [List.mem_cons, List.not_mem_nil, or_false] at hmem
    obtain rfl | rfl | rfl | rfl := hmem
    exacts [⟨.demo, rfl⟩, ⟨.trace, rfl⟩, ⟨.verbose, rfl⟩, ⟨.quiet, rfl⟩]
  · rintro ⟨f, rfl⟩
    cases f <;> decide +kernel

theorem isBundle_iff : isBundle argument = true ↔
    ∃ c rest, argument.toList = '-' :: c :: rest ∧ ∀ d ∈ c :: rest, d ∈ letters := by
  constructor
  · intro h
    fun_cases isBundle argument with
    | case1 c rest htext =>
      rw [isBundle, htext] at h
      exact ⟨c, rest, htext, by simpa using h⟩
    | case2 => simp_all [isBundle]
  · rintro ⟨c, rest, htext, h⟩
    rw [isBundle, htext]
    simpa using h

/-- The only positional argument that begins with a dash is the dash. -/
theorem isPositional_iff_of_dash {rest : List Char} (htext : argument.toList = '-' :: rest) :
    isPositional argument = true ↔ rest = [] := by
  have hdash : argument = "-" ↔ rest = [] := by
    rw [← String.toList_inj, htext]
    simp
  simp [isPositional, htext, hdash]

theorem isBundle_of_isPositional (h : isPositional argument = true) :
    isBundle argument = false := by
  rw [Bool.eq_false_iff, Ne, isBundle_iff]
  rintro ⟨c, rest, htext, -⟩
  exact absurd ((isPositional_iff_of_dash htext).1 h) (List.cons_ne_nil c rest)

theorem isBundle_longForm (f : Flag) : isBundle f.longForm = false := by
  cases f <;> decide +kernel

theorem isPositional_longForm (f : Flag) : isPositional f.longForm = false := by
  cases f <;> decide +kernel

end CommandLine

open CommandLine

namespace Item

variable {argument : String} {text : List Char} {c : Char}

/-- A letter stands for the flag that has it. -/
theorem ofLetter_eq_flag_iff {f : Flag} : ofLetter c = .flag f ↔ f.letter? = some c := by
  fun_cases ofLetter c <;> cases f <;> grind [Flag.letter?]

theorem isPlain_ofLetter : (ofLetter c).isPlain = letters.contains c := by
  fun_cases ofLetter c <;> simp_all [isPlain, letters]

theorem path?_ofLetter : (ofLetter c).path? = none := by
  fun_cases ofLetter c <;> rfl

theorem ofArgument_longForm (f : Flag) : ofArgument f.longForm = [.flag f] := by
  cases f <;> decide +kernel

theorem exists_longForm_of_ofName {name : String} (h : (ofName name).isPlain = true) :
    ∃ f : Flag, f.longForm = "--" ++ name := by
  fun_cases ofName name with
  | case1 => exact ⟨.demo, by decide +kernel⟩
  | case2 => exact ⟨.trace, by decide +kernel⟩
  | case3 => exact ⟨.verbose, by decide +kernel⟩
  | case4 => exact ⟨.quiet, by decide +kernel⟩
  | case5 => cases h
  | case6 => simp_all [ofName, isPlain]

/-- Only the long form of a flag is plain behind its two dashes. -/
theorem exists_longForm_of_ofLong (h : (ofLong text).isPlain = true) :
    ∃ f : Flag, f.longForm.toList = '-' :: '-' :: text := by
  by_cases hname : text.takeWhile (· ≠ '=') = text
  · rw [ofLong, if_pos (.inl hname), hname] at h
    obtain ⟨f, hf⟩ := exists_longForm_of_ofName h
    exact ⟨f, by simp [hf]⟩
  · by_cases hitem : ofName (String.ofList (text.takeWhile (· ≠ '='))) = .unknown
    · rw [ofLong, if_pos (.inr hitem), hitem] at h
      cases h
    · rw [ofLong, if_neg (not_or.2 ⟨hname, hitem⟩)] at h
      cases h

theorem ofArgument_of_isPositional (h : isPositional argument = true) :
    ofArgument argument = [.file argument] := by
  fun_cases ofArgument argument with
  | case1 text htext => exact absurd ((isPositional_iff_of_dash htext).1 h) (by simp)
  | case2 c rest _ htext => exact absurd ((isPositional_iff_of_dash htext).1 h) (by simp)
  | case3 => rfl

theorem ofArgument_of_dash {rest : List Char} (htext : argument.toList = '-' :: c :: rest)
    (hc : c ≠ '-') : ofArgument argument = (c :: rest).map ofLetter := by
  rw [ofArgument, htext]
  split <;> simp_all

theorem ofArgument_of_letters {rest : List Char} (htext : argument.toList = '-' :: c :: rest)
    (h : ∀ d ∈ c :: rest, d ∈ letters) : ofArgument argument = (c :: rest).map ofLetter :=
  ofArgument_of_dash htext (ne_of_mem_of_not_mem (h c List.mem_cons_self) (by decide))

/-- **The items of an argument can be accepted** just when the argument is known. -/
theorem forall_isPlain_ofArgument_iff :
    (∀ item ∈ ofArgument argument, item.isPlain = true) ↔ isKnown argument = true := by
  constructor
  · intro h
    rw [isKnown, Bool.or_eq_true, Bool.or_eq_true]
    fun_cases ofArgument argument with
    | case1 text htext =>
      rw [ofArgument, htext] at h
      obtain ⟨f, hf⟩ := exists_longForm_of_ofLong (h _ List.mem_cons_self)
      exact .inl (.inl (isLong_iff.2 ⟨f, String.toList_injective (htext.trans hf.symm)⟩))
    | case2 c rest hc htext =>
      refine .inl (.inr (isBundle_iff.2 ⟨c, rest, htext, fun d hd ↦ ?_⟩))
      rw [ofArgument_of_dash htext hc] at h
      simpa [isPlain_ofLetter] using h _ (List.mem_map_of_mem hd)
    | case3 _ hnone =>
      refine .inr ?_
      match htext : argument.toList with
      | [] => simp [isPositional, htext]
      | d :: rest =>
        by_cases hd : d = '-'
        · subst hd
          match rest with
          | [] => exact (isPositional_iff_of_dash htext).2 rfl
          | c :: rest => exact (hnone c rest htext).elim
        · simp [isPositional, htext, hd]
  · intro h
    rw [isKnown, Bool.or_eq_true, Bool.or_eq_true] at h
    obtain (hlong | hbundle) | hpositional := h
    · obtain ⟨f, rfl⟩ := isLong_iff.1 hlong
      rw [ofArgument_longForm]
      simp [Item.isPlain]
    · obtain ⟨c, rest, htext, hletters⟩ := isBundle_iff.1 hbundle
      rw [ofArgument_of_letters htext hletters, List.forall_mem_map]
      exact fun d hd ↦ by simpa [isPlain_ofLetter] using hletters d hd
    · rw [ofArgument_of_isPositional hpositional]
      simp [Item.isPlain]

theorem count_flag_ofArgument (h : isKnown argument = true) (f : Flag) :
    (ofArgument argument).count (.flag f) = occurrencesIn f argument := by
  rw [isKnown, Bool.or_eq_true, Bool.or_eq_true] at h
  obtain (hlong | hbundle) | hpositional := h
  · obtain ⟨g, rfl⟩ := isLong_iff.1 hlong
    rw [ofArgument_longForm]
    cases f <;> cases g <;> decide +kernel
  · obtain ⟨c, rest, htext, hletters⟩ := isBundle_iff.1 hbundle
    have hne : argument ≠ f.longForm := by
      rintro rfl
      exact absurd hbundle (ne_true_of_eq_false (isBundle_longForm f))
    have hdash : f.letter? ≠ some '-' := by cases f <;> decide
    rw [ofArgument_of_letters htext hletters, occurrencesIn, if_neg hne, if_pos hbundle, htext,
      List.countP_cons_of_neg (by simpa using hdash), List.count_eq_countP, List.countP_map]
    refine List.countP_congr fun d _ ↦ ?_
    simp [ofLetter_eq_flag_iff]
  · have hne : argument ≠ f.longForm := by
      rintro rfl
      exact absurd hpositional (ne_true_of_eq_false (isPositional_longForm f))
    rw [ofArgument_of_isPositional hpositional, occurrencesIn, if_neg hne,
      isBundle_of_isPositional hpositional]
    simp

theorem files_ofArgument (h : isKnown argument = true) :
    files (ofArgument argument) = if isPositional argument then [argument] else [] := by
  split
  · next hpositional =>
    rw [ofArgument_of_isPositional hpositional]
    rfl
  · next hpositional =>
    rw [isKnown, Bool.or_eq_true, Bool.or_eq_true, or_iff_left hpositional] at h
    obtain hlong | hbundle := h
    · obtain ⟨f, rfl⟩ := isLong_iff.1 hlong
      rw [ofArgument_longForm]
      rfl
    · obtain ⟨c, rest, htext, hletters⟩ := isBundle_iff.1 hbundle
      rw [ofArgument_of_letters htext hletters, files, List.filterMap_map]
      exact List.filterMap_eq_nil_iff.2 fun _ _ ↦ path?_ofLetter

end Item

/-! ### All arguments -/

namespace CommandLine

/-- The arguments before the first `--`. -/
def optionPart (arguments : List String) : List String :=
  arguments.takeWhile (· ≠ "--")

/-- The arguments after the first `--`. -/
def operandPart (arguments : List String) : List String :=
  (arguments.dropWhile (· ≠ "--")).drop 1

/-- The positional arguments: those before `--` that look so, and all after it. -/
def positionals (arguments : List String) : List String :=
  (optionPart arguments).filter isPositional ++ operandPart arguments

/-- How often a flag occurs, over all long forms and bundles. -/
def occurrences (f : Flag) (arguments : List String) : Nat :=
  ((optionPart arguments).map (occurrencesIn f)).sum

/-- **Acceptable arguments**, by what they are and how many. -/
structure IsAcceptable (arguments : List String) : Prop where
  /-- Before `--` there are long forms, bundles and positional arguments only. -/
  isKnown : ∀ argument ∈ optionPart arguments, isKnown argument = true
  /-- There is one positional argument at most. -/
  length_positionals_le : (positionals arguments).length ≤ 1
  /-- It is not empty. -/
  empty_notMem_positionals : "" ∉ positionals arguments
  /-- Only `verbose` may be repeated. -/
  occurrences_le : ∀ f, f ≠ .verbose → occurrences f arguments ≤ 1
  /-- Beside `--demo` there is no positional argument. -/
  demo_alone : 0 < occurrences .demo arguments → positionals arguments = []

variable {arguments : List String}

theorem ofArguments_eq (arguments : List String) :
    Item.ofArguments arguments = (optionPart arguments).flatMap Item.ofArgument ++
      (operandPart arguments).map .file := by
  induction arguments with
  | nil => rfl
  | cons argument arguments ih =>
    by_cases hdashes : argument = "--"
    · simp [Item.ofArguments, optionPart, operandPart, hdashes]
    · have hoptions : optionPart (argument :: arguments) = argument :: optionPart arguments := by
        simp [optionPart, hdashes]
      have hoperands : operandPart (argument :: arguments) = operandPart arguments := by
        simp [operandPart, hdashes]
      rw [Item.ofArguments, if_neg hdashes, ih, hoptions, hoperands, List.flatMap_cons,
        List.append_assoc]

theorem forall_isPlain_ofArguments_iff :
    (∀ item ∈ Item.ofArguments arguments, item.isPlain = true) ↔
      ∀ argument ∈ optionPart arguments, isKnown argument = true := by
  have hoperands : ∀ item ∈ (operandPart arguments).map Item.file, item.isPlain = true := by
    simp [Item.isPlain]
  rw [ofArguments_eq, List.forall_mem_append, and_iff_left hoperands]
  simp only [List.forall_mem_flatMap, Item.forall_isPlain_ofArgument_iff]

theorem count_flag_ofArguments (h : ∀ argument ∈ optionPart arguments, isKnown argument = true)
    (f : Flag) : (Item.ofArguments arguments).count (.flag f) = occurrences f arguments := by
  have hoperands : ((operandPart arguments).map Item.file).count (.flag f) = 0 := by
    rw [List.count_eq_zero]
    simp
  rw [ofArguments_eq, List.count_append, hoperands, Nat.add_zero, List.count_flatMap, occurrences]
  exact congrArg List.sum (List.map_congr_left fun argument hmem ↦
    Item.count_flag_ofArgument (h argument hmem) f)

theorem files_ofArguments (h : ∀ argument ∈ optionPart arguments, isKnown argument = true) :
    Item.files (Item.ofArguments arguments) = positionals arguments := by
  have hoptions (known : List String) (h : ∀ argument ∈ known, isKnown argument = true) :
      Item.files (known.flatMap Item.ofArgument) = known.filter isPositional := by
    induction known with
    | nil => rfl
    | cons argument known ih =>
      obtain ⟨hargument, hknown⟩ := List.forall_mem_cons.1 h
      rw [List.flatMap_cons, Item.files_append, ih hknown, Item.files_ofArgument hargument,
        List.filter_cons]
      split <;> rfl
  have hoperands : Item.files ((operandPart arguments).map Item.file) = operandPart arguments := by
    simp [Item.files, Item.path?, Function.comp_def]
  rw [ofArguments_eq, Item.files_append, hoptions _ h, hoperands, positionals]

/-- The options that arguments stand for, whatever their order. -/
def options (arguments : List String) : Options where
  file := (positionals arguments).head?
  demo := decide (0 < occurrences .demo arguments)
  trace := decide (0 < occurrences .trace arguments)
  verbose := min 255 (occurrences .verbose arguments)
  quiet := decide (0 < occurrences .quiet arguments)

/-- **What is accepted, and as what.** -/
theorem parse_eq_ok_iff {o : Options} :
    Options.parse arguments = .ok o ↔ IsAcceptable arguments ∧ o = options arguments := by
  have hoptions (h : ∀ argument ∈ optionPart arguments, isKnown argument = true) :
      Options.ofItems (Item.ofArguments arguments) = options arguments := by
    simp only [Options.ofItems, options, ← List.count_pos_iff, count_flag_ofArguments h,
      files_ofArguments h]
  rw [Options.parse_eq_ok_iff_items, ← List.count_pos_iff]
  constructor
  · rintro ⟨⟨hplain, hlength, hempty, hcount⟩, hdemo, rfl⟩
    have hknown := forall_isPlain_ofArguments_iff.1 hplain
    simp only [files_ofArguments hknown, count_flag_ofArguments hknown]
      at hlength hempty hcount hdemo
    exact ⟨⟨hknown, hlength, hempty, hcount, hdemo⟩, hoptions hknown⟩
  · rintro ⟨⟨hknown, hlength, hempty, hcount, hdemo⟩, rfl⟩
    simp only [← files_ofArguments hknown, ← count_flag_ofArguments hknown]
      at hlength hempty hcount hdemo
    exact ⟨⟨forall_isPlain_ofArguments_iff.2 hknown, hlength, hempty, hcount⟩, hdemo,
      (hoptions hknown).symm⟩

/-- Options tell what arguments say. -/
structure Tells (arguments : List String) (o : Options) : Prop where
  /-- `trace` says whether its flag occurs. -/
  trace_iff : o.trace = true ↔ 0 < occurrences .trace arguments
  /-- `quiet` says whether its flag occurs. -/
  quiet_iff : o.quiet = true ↔ 0 < occurrences .quiet arguments
  /-- `demo` says whether its flag occurs. -/
  demo_iff : o.demo = true ↔ 0 < occurrences .demo arguments
  /-- The verbosity counts its flag, as far as 255. -/
  logVerbosity_eq : o.logVerbosity = 1 + min 255 (occurrences .verbose arguments)
  /-- The input is the built-in program if the flag for it occurs. -/
  input_eq_demo_iff : o.input = .demo ↔ 0 < occurrences .demo arguments
  /-- It is the file of a positional argument that is no lone dash. -/
  input_eq_file_iff : ∀ path, o.input = .file path ↔ path ∈ positionals arguments ∧ path ≠ "-"
  /-- Otherwise it is standard input. -/
  input_eq_standardInput_iff : o.input = .standardInput ↔
    occurrences .demo arguments = 0 ∧ ∀ path ∈ positionals arguments, path = "-"

/-- With one positional argument at most, the first of them is all of them. -/
theorem IsAcceptable.head?_positionals_eq_iff (h : IsAcceptable arguments) {path : String} :
    (positionals arguments).head? = some path ↔ path ∈ positionals arguments := by
  match hone : positionals arguments, h.length_positionals_le with
  | [], _ | [_], _ => simp [eq_comm]

theorem tells_options (h : IsAcceptable arguments) : Tells arguments (options arguments) where
  trace_iff := decide_eq_true_iff
  quiet_iff := decide_eq_true_iff
  demo_iff := decide_eq_true_iff
  logVerbosity_eq := rfl
  input_eq_demo_iff := Options.input_eq_demo_iff.trans decide_eq_true_iff
  input_eq_file_iff path := by
    have hdemo : path ∈ positionals arguments → ¬ 0 < occurrences .demo arguments :=
      fun hpath hpos ↦ List.ne_nil_of_mem hpath (h.demo_alone hpos)
    rw [Options.input_eq_file_iff]
    simp only [options, h.head?_positionals_eq_iff, decide_eq_false_iff_not]
    exact ⟨fun ⟨_, hpath⟩ ↦ hpath, fun hpath ↦ ⟨hdemo hpath.1, hpath⟩⟩
  input_eq_standardInput_iff := by
    rw [Options.input_eq_standardInput_iff]
    simp only [options, h.head?_positionals_eq_iff, decide_eq_false_iff_not, Nat.pos_iff_ne_zero,
      ne_eq, not_not]

end CommandLine

end ScriptLexer
