import ScriptLexer.Proofs.CommandLine.Acceptance

/-!
# Other ways to say the same

As a command line is described by counting, whatever leaves the counts as they are leaves the
outcome as it is (`CommandLine.SameWords.parse_eq_ok_iff`). That is so for another order of the
arguments before `--`, for a bundle that is taken apart, and for a long form in the place of a short
one (`CommandLine.Respells`).
-/

namespace ScriptLexer

namespace CommandLine

/-! ### Other ways to say the same -/

/-- The argument that bundles short forms. -/
def bundle (cs : List Char) : String :=
  String.ofList ('-' :: cs)

/-- Arguments before `--` written in another way: in another order, with a bundle taken apart, or
with a long form for a short one. -/
inductive Respells : List String → List String → Prop
  /-- The order is another. -/
  | reorder {words words' : List String} : words.Perm words' → Respells words words'
  /-- A bundle is taken apart. -/
  | split {cs : List Char} : cs ≠ [] → (∀ c ∈ cs, c ∈ letters) →
      Respells [bundle cs] (cs.map fun c ↦ bundle [c])
  /-- A flag has its other form. -/
  | exchange {f : Flag} {c : Char} : f.letter? = some c → Respells [f.longForm] [bundle [c]]

/-- Arguments before `--` that agree in all that counts. -/
structure SameWords (words words' : List String) : Prop where
  /-- Both are known or neither is. -/
  known_iff : (∀ word ∈ words, isKnown word = true) ↔ ∀ word ∈ words', isKnown word = true
  /-- They have the same positional arguments. -/
  perm_positionals : (words.filter isPositional).Perm (words'.filter isPositional)
  /-- They have the same flags as often. -/
  sum_occurrences : ∀ f, (words.map (occurrencesIn f)).sum = (words'.map (occurrencesIn f)).sum

variable {cs : List Char} {words words' front back : List String}

theorem isBundle_bundle (hne : cs ≠ []) (h : ∀ c ∈ cs, c ∈ letters) :
    isBundle (bundle cs) = true := by
  obtain ⟨c, rest, rfl⟩ := List.exists_cons_of_ne_nil hne
  exact isBundle_iff.2 ⟨c, rest, String.toList_ofList, h⟩

theorem isKnown_bundle (hne : cs ≠ []) (h : ∀ c ∈ cs, c ∈ letters) :
    isKnown (bundle cs) = true := by
  simp [CommandLine.isKnown, isBundle_bundle hne h]

theorem isPositional_bundle (hne : cs ≠ []) : isPositional (bundle cs) = false := by
  rw [Bool.eq_false_iff, Ne, bundle, isPositional_iff_of_dash String.toList_ofList]
  exact hne

/-- In a bundle, the letters count. -/
theorem occurrencesIn_bundle (hne : cs ≠ []) (h : ∀ c ∈ cs, c ∈ letters) (f : Flag) :
    occurrencesIn f (bundle cs) = cs.countP fun c ↦ f.letter? == some c := by
  have hlong : bundle cs ≠ f.longForm := fun heq ↦
    absurd (heq ▸ isBundle_bundle hne h) (ne_true_of_eq_false (isBundle_longForm f))
  have hdash : f.letter? ≠ some '-' := by cases f <;> decide
  rw [occurrencesIn, if_neg hlong, if_pos (isBundle_bundle hne h), bundle, String.toList_ofList,
    List.countP_cons_of_neg (by simpa using hdash)]

/-- **Respelling changes nothing that counts.** -/
theorem Respells.sameWords (h : Respells words words') : SameWords words words' := by
  cases h with
  | reorder hperm =>
    exact ⟨by simp only [hperm.mem_iff], hperm.filter _, fun f ↦ (hperm.map _).sum_nat⟩
  | @split cs hne hletters =>
    have hsingle (c : Char) (hc : c ∈ cs) : ∀ d ∈ [c], d ∈ letters := by simpa using hletters c hc
    refine ⟨iff_of_true ?_ ?_, ?_, fun f ↦ ?_⟩
    · simpa using isKnown_bundle hne hletters
    · rw [List.forall_mem_map]
      exact fun c hc ↦ isKnown_bundle (by simp) (hsingle c hc)
    · rw [List.filter_cons_of_neg (ne_true_of_eq_false (isPositional_bundle hne)),
        List.filter_nil, List.nil_perm, List.filter_eq_nil_iff, List.forall_mem_map]
      exact fun c _ ↦ ne_true_of_eq_false (isPositional_bundle (by simp))
    · rw [List.map_singleton, List.sum_singleton, occurrencesIn_bundle hne hletters, List.map_map]
      calc cs.countP (fun c ↦ f.letter? == some c)
          = (cs.flatMap fun c ↦ [c]).countP fun c ↦ f.letter? == some c := by
            rw [List.flatMap_singleton']
        _ = (cs.map fun c ↦ [c].countP fun c ↦ f.letter? == some c).sum := List.countP_flatMap
        _ = (cs.map (occurrencesIn f ∘ fun c ↦ bundle [c])).sum := by
            refine congrArg List.sum (List.map_congr_left fun c hc ↦ ?_)
            exact (occurrencesIn_bundle (by simp) (hsingle c hc) f).symm
  | @exchange f c hletter =>
    cases f with
    | demo => cases hletter
    | trace | verbose | quiet =>
      obtain rfl := Option.some.inj hletter
      exact ⟨by decide +kernel, by decide +kernel, fun g ↦ by cases g <;> decide +kernel⟩

theorem optionPart_append (h : "--" ∉ front) :
    optionPart (front ++ back) = front ++ optionPart back :=
  List.takeWhile_append_of_pos fun word hword ↦ by
    simpa using ne_of_mem_of_not_mem hword h

theorem operandPart_append (h : "--" ∉ front) :
    operandPart (front ++ back) = operandPart back := by
  rw [operandPart, operandPart, List.dropWhile_append_of_pos]
  exact fun word hword ↦ by simpa using ne_of_mem_of_not_mem hword h

/-- A respelling brings no `--` about. -/
theorem Respells.dashes_notMem (h : Respells words words') (hwords : "--" ∉ words) :
    "--" ∉ words' := by
  have hunknown : isKnown "--" = false := by decide +kernel
  cases h with
  | reorder hperm => rwa [← hperm.mem_iff]
  | @split cs _ hletters =>
    rw [List.mem_map]
    rintro ⟨c, hc, heq⟩
    have hknown : isKnown (bundle [c]) = true :=
      isKnown_bundle (by simp) (by simpa using hletters c hc)
    exact absurd (heq ▸ hknown) (ne_true_of_eq_false hunknown)
  | @exchange f c hletter =>
    cases f with
    | demo => cases hletter
    | trace | verbose | quiet =>
      obtain rfl := Option.some.inj hletter
      decide +kernel

namespace SameWords

theorem symm (h : SameWords words words') : SameWords words' words :=
  ⟨h.known_iff.symm, h.perm_positionals.symm, fun f ↦ (h.sum_occurrences f).symm⟩

/-- Words that stand between others. -/
theorem append (h : SameWords words words') (front back : List String) :
    SameWords (front ++ (words ++ back)) (front ++ (words' ++ back)) := by
  refine ⟨?_, ?_, fun f ↦ ?_⟩
  · simp only [List.forall_mem_append, h.known_iff]
  · simp only [List.filter_append]
    exact (h.perm_positionals.append_right _).append_left _
  · simp only [List.map_append, List.sum_append, h.sum_occurrences f]

variable {arguments arguments' : List String}

/-- **What is acceptable stays so**, and stands for the same options. -/
theorem isAcceptable (hoptions : SameWords (optionPart arguments) (optionPart arguments'))
    (hoperands : operandPart arguments = operandPart arguments') (h : IsAcceptable arguments) :
    IsAcceptable arguments' ∧ options arguments' = options arguments := by
  obtain ⟨hknown, hlength, hempty, hcount, hdemo⟩ := h
  have hperm : (positionals arguments).Perm (positionals arguments') := by
    rw [positionals, positionals, hoperands]
    exact hoptions.perm_positionals.append_right _
  -- there is one positional argument at most, so their order does not matter
  have hpositionals : positionals arguments' = positionals arguments := by
    rcases hone : positionals arguments with - | ⟨path, others⟩
    · exact (hone ▸ hperm).nil_eq.symm
    · obtain rfl : others = [] := by
        rw [hone, List.length_cons] at hlength
        exact List.length_eq_zero_iff.1 (by omega)
      exact List.perm_singleton.1 (hone ▸ hperm).symm
  have hoccurrences (f : Flag) : occurrences f arguments' = occurrences f arguments :=
    (hoptions.sum_occurrences f).symm
  refine ⟨⟨hoptions.known_iff.1 hknown, ?_, ?_, fun f hf ↦ ?_, ?_⟩, ?_⟩
  · rwa [hpositionals]
  · rwa [hpositionals]
  · rw [hoccurrences]
    exact hcount f hf
  · rwa [hoccurrences, hpositionals]
  · simp only [options, hoccurrences, hpositionals]

theorem parse_eq_ok_iff (hoptions : SameWords (optionPart arguments) (optionPart arguments'))
    (hoperands : operandPart arguments = operandPart arguments') {o : Options} :
    Options.parse arguments = .ok o ↔ Options.parse arguments' = .ok o := by
  rw [CommandLine.parse_eq_ok_iff, CommandLine.parse_eq_ok_iff]
  constructor
  · rintro ⟨h, rfl⟩
    obtain ⟨h', heq⟩ := isAcceptable hoptions hoperands h
    exact ⟨h', heq.symm⟩
  · rintro ⟨h, rfl⟩
    obtain ⟨h', heq⟩ := isAcceptable hoptions.symm hoperands.symm h
    exact ⟨h', heq.symm⟩

end SameWords

/-- **Respelling changes nothing.** -/
theorem Respells.parse_eq_ok_iff (h : Respells words words') (hfront : "--" ∉ front)
    (hwords : "--" ∉ words) {o : Options} :
    Options.parse (front ++ (words ++ back)) = .ok o ↔
      Options.parse (front ++ (words' ++ back)) = .ok o := by
  have hwords' := h.dashes_notMem hwords
  refine SameWords.parse_eq_ok_iff ?_ ?_
  · rw [optionPart_append hfront, optionPart_append hwords, optionPart_append hfront,
      optionPart_append hwords']
    exact h.sameWords.append front (optionPart back)
  · rw [operandPart_append hfront, operandPart_append hwords, operandPart_append hfront,
      operandPart_append hwords']

/-! ### All command lines -/

/-- **The command line is read exactly**, and its order does not matter. Arguments are accepted just
when they are acceptable by what they are and how many; the options then tell what the arguments
say; and arguments before `--` may be reordered, bundles taken apart and forms exchanged without any
difference. -/
theorem parse_exact (arguments : List String) :
    ((∃ o, Options.parse arguments = .ok o) ↔ IsAcceptable arguments) ∧
      (∀ o, Options.parse arguments = .ok o → Tells arguments o) ∧
      ∀ front words words' back, arguments = front ++ (words ++ back) → "--" ∉ front →
        "--" ∉ words → Respells words words' → ∀ o,
          Options.parse arguments = .ok o ↔ Options.parse (front ++ (words' ++ back)) = .ok o := by
  refine ⟨?_, fun o ho ↦ ?_, fun front words words' back harguments hfront hwords h o ↦ ?_⟩
  · simp [parse_eq_ok_iff]
  · obtain ⟨h, rfl⟩ := parse_eq_ok_iff.1 ho
    exact tells_options h
  · rw [harguments]
    exact h.parse_eq_ok_iff hfront hwords

/-- A bundle with a flag twice is refused; behind `--`, anything is a name. -/
example : Options.parse ["-tvt"] = .error (.usage .repeatedFlag) ∧
    Options.parse ["-vqv", "--", "--demo"] =
      .ok { file := some "--demo", verbose := 2, quiet := true } := by
  decide +kernel

end CommandLine

end ScriptLexer
