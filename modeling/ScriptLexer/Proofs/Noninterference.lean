import ScriptLexer.Program
import ScriptLexer.Proofs.TokenList

/-!
# Noninterference of the options

Each option works on its own part of what the command does, and on nothing else. That is a statement
about two runs at a time. Both read the same source (`Program.Reads`), from wherever their arguments
tell them to, and their options may be any two.

* The exit status and the excerpt are those of the source.
* The listing of an accepted source does not depend on `-t`, as the tokens that are seen on the way
  are then the tokens of the answer (`Program.listing_report_of_accepted`). After an error they are
  listed with `-t` only.
* What is let through to standard error under one verbosity is let through under every higher one,
  so the lower of two verbosities can be had by filtering what the higher one shows
  (`Program.notices_report_of_le`). As it is all of standard error that is filtered, the excerpt
  keeps its place among the records.

What is compared are listings and notices, and in the end it is texts that are written. They are
given in full: on standard output one line for each token that is listed
(`Program.outputText_report`), on standard error a line for each record that is let through, and the
excerpt in its place (`Program.errorText_report_eq`).
-/

namespace ScriptLexer

namespace Notice

variable {notice : Notice} {m n : Nat}

/-- The excerpt, if the notice is one. -/
def excerpt? : Notice → Option Excerpt
  | excerpt x => some x
  | record _ | refusal _ => none

/-- Whether a notice is a record of the log. -/
def isRecord : Notice → Bool
  | record _ => true
  | excerpt _ | refusal _ => false

/-- Whether a verbosity admits a notice. Records alone can be held back. -/
def isAdmittedAt (verbosity : Nat) : Notice → Bool
  | record r => r.isShownAt verbosity
  | excerpt _ | refusal _ => true

/-- A higher verbosity admits no less. -/
theorem isAdmittedAt_of_le (h : m ≤ n) (hm : notice.isAdmittedAt m = true) :
    notice.isAdmittedAt n = true := by
  cases notice with
  | record r =>
    have hlevel : r.level.verbosity ≤ m := of_decide_eq_true hm
    exact decide_eq_true (hlevel.trans h)
  | excerpt x | refusal text => rfl

end Notice

/-- The excerpts that are written, in their order. -/
def Report.excerpts (r : Report) : List Excerpt :=
  r.notices.filterMap Notice.excerpt?

namespace Program

variable {o o' : Options} {source : String} {arguments : List String} {s : Surroundings}

/-! ### What is let through -/

theorem isShown_of_quiet_eq_false (h : o.quiet = false) (notice : Notice) :
    isShown o notice = notice.isAdmittedAt o.logVerbosity := by
  cases notice <;> simp [isShown, Notice.isAdmittedAt, h]

theorem isShown_of_quiet (h : o.quiet = true) (notice : Notice) :
    isShown o notice = !notice.isRecord := by
  cases notice <;> simp [isShown, Notice.isRecord, h]

/-- Whatever is no record is let through. -/
theorem isShown_of_isRecord_eq_false (o : Options) {notice : Notice}
    (h : notice.isRecord = false) : isShown o notice = true := by
  cases notice with
  | record r => cases h
  | excerpt x | refusal text => rfl

/-- **The lower of two verbosities** shows what it admits of what the higher one shows. -/
theorem notices_report_of_le (h : o.quiet = false) (h' : o'.quiet = false)
    (hle : o.logVerbosity ≤ o'.logVerbosity) (source : String) :
    (report o source).notices =
      (report o' source).notices.filter (Notice.isAdmittedAt o.logVerbosity) := by
  show (notices source).filter (isShown o) =
    ((notices source).filter (isShown o')).filter (Notice.isAdmittedAt o.logVerbosity)
  rw [List.filter_filter]
  refine List.filter_congr fun notice _ ↦ ?_
  rw [isShown_of_quiet_eq_false h, isShown_of_quiet_eq_false h', Bool.eq_iff_iff, Bool.and_eq_true]
  exact ⟨fun hadmitted ↦ ⟨hadmitted, Notice.isAdmittedAt_of_le hle hadmitted⟩, And.left⟩

/-- **A silenced log** leaves everything but the records. -/
theorem notices_report_of_quiet (h : o.quiet = true) (o' : Options) (source : String) :
    (report o source).notices =
      (report o' source).notices.filter fun notice ↦ !notice.isRecord := by
  show (notices source).filter (isShown o) =
    ((notices source).filter (isShown o')).filter fun notice ↦ !notice.isRecord
  rw [List.filter_filter]
  refine List.filter_congr fun notice _ ↦ ?_
  rw [isShown_of_quiet h]
  cases hrecord : notice.isRecord with
  | false => rw [isShown_of_isRecord_eq_false o' hrecord]; rfl
  | true => rfl

/-! ### Excerpts -/

/-- **An error has its excerpt**, whatever the options, and nothing else has one. -/
theorem excerpts_report (o : Options) (source : String) :
    (report o source).excerpts =
      match tokenize source with
      | .failed e => [.ofError source e]
      | .accepted _ | .misplaced => [] := by
  have hshown : (report o source).excerpts = (notices source).filterMap Notice.excerpt? := by
    show ((notices source).filter (isShown o)).filterMap Notice.excerpt? = _
    rw [List.filterMap_filter]
    refine List.filterMap_congr fun notice _ ↦ ?_
    cases notice with
    | record r => cases isShown o (.record r) <;> rfl
    | excerpt x | refusal text => rfl
  have hrecords : ((log source).map Notice.record).filterMap Notice.excerpt? = [] := by
    simp [Notice.excerpt?]
  rw [hshown, notices, List.filterMap_append, List.filterMap_cons_none rfl, hrecords]
  cases tokenize source <;> rfl

/-! ### Listings -/

/-- **Tokens that are listed on the way** are those that are listed at the end, if it is
reached. -/
theorem listing_report_of_accepted {tokens : List Token} (h : tokenize source = .accepted tokens)
    (o : Options) : (report o source).listing = tokens.map Token.render := by
  show (listedTokens o source).map Token.render = tokens.map Token.render
  rw [listedTokens, tokensSeen_of_accepted h, h]
  cases o.trace <;> rfl

theorem listing_report_of_failed {e : LexError} (h : tokenize source = .failed e) (o : Options) :
    (report o source).listing = if o.trace then (tokensSeen source).map Token.render else [] := by
  show (listedTokens o source).map Token.render = _
  rw [listedTokens, h]
  cases o.trace <;> rfl

/-- No other option counts for the listing. -/
theorem listing_report_congr (h : o.trace = o'.trace) (source : String) :
    (report o source).listing = (report o' source).listing := by
  show (listedTokens o source).map Token.render = (listedTokens o' source).map Token.render
  rw [listedTokens, h]
  rfl

/-! ### What is written -/

/-- A text that is written only if the log is not silenced and its verbosity is high enough. -/
def ifShown (o : Options) (least : Nat) (text : String) : String :=
  if o.quiet = false ∧ least ≤ o.logVerbosity then text else ""

/-- What is written of one notice. -/
def written (o : Options) (notice : Notice) : String :=
  if isShown o notice then notice.render else ""

theorem written_record (o : Options) (r : Record) :
    written o (.record r) =
      ifShown o r.level.verbosity (r.level.name ++ " - " ++ r.message ++ "\n") := by
  simp only [written, ifShown, isShown, Record.isShownAt, Bool.and_eq_true, Bool.not_eq_true',
    decide_eq_true_eq]
  rfl

/-- What is written of all of them, in their order. -/
theorem errorText_report (o : Options) (source : String) :
    (report o source).errorText = String.join ((notices source).map (written o)) := by
  show String.join (((notices source).filter (isShown o)).map Notice.render) = _
  induction notices source with
  | nil => rfl
  | cons notice notices ih =>
    rw [List.map_cons, String.join_cons, ← ih, written]
    cases hshown : isShown o notice with
    | true => rw [List.filter_cons_of_pos hshown, List.map_cons, String.join_cons, if_pos rfl]
    | false =>
      rw [List.filter_cons_of_neg (ne_true_of_eq_false hshown), if_neg Bool.false_ne_true,
        String.empty_append]

/-- The records of a run are about its steps, or about how it goes on. -/
theorem level_of_mem_log {r : Record} (h : r ∈ log source) :
    r.level = .trace ∨ r.level = .debug := by
  rw [log, List.mem_append, List.mem_flatMap] at h
  obtain ⟨reading, -, h⟩ | h := h
  · rw [Reading.records, List.mem_append, List.mem_map] at h
    obtain ⟨skip, -, rfl⟩ | h := h
    · exact .inr rfl
    · cases houtcome : reading.outcome with
      | accepted t => rw [houtcome, List.mem_singleton] at h; exact h ▸ .inl rfl
      | failed e => rw [houtcome, List.mem_singleton] at h; exact h ▸ .inr rfl
      | misplaced => rw [houtcome] at h; cases h
  · cases houtcome : tokenize source with
    | accepted tokens => rw [houtcome, List.mem_singleton] at h; exact h ▸ .inr rfl
    | failed e | misplaced => rw [houtcome] at h; cases h

/-- What is written of the log. -/
theorem written_of_mem_log {r : Record} (h : r ∈ log source) (o : Options) :
    written o (.record r) =
      if r.level = .trace then ifShown o 4 ("TRACE - " ++ r.message ++ "\n")
      else ifShown o 3 ("DEBUG - " ++ r.message ++ "\n") := by
  rw [written_record]
  obtain hlevel | hlevel := level_of_mem_log h <;>
    rw [hlevel] <;>
    rfl

/-- **The text on standard error**: the records of the log behind the one that begins the run, and
after an error the excerpt and one more record. -/
theorem errorText_report_eq (o : Options) (source : String) :
    (report o source).errorText =
      ifShown o 2 ("INFO - Tokenizing " ++ toString source.utf8ByteSize ++ " bytes of source\n") ++
        String.join ((log source).map fun r ↦
          if r.level = .trace then ifShown o 4 ("TRACE - " ++ r.message ++ "\n")
          else ifShown o 3 ("DEBUG - " ++ r.message ++ "\n")) ++
        match tokenize source with
        | .failed e => (Excerpt.ofError source e).render ++
            ifShown o 0 ("ERROR - Lexer error at " ++ toString e.position.line ++ ":" ++
              toString e.position.column ++ " (" ++ e.cause.message ++ ")\n")
        | .accepted _ | .misplaced => "" := by
  have hstart : written o (.record (startRecord source)) = ifShown o 2
      ("INFO - Tokenizing " ++ toString source.utf8ByteSize ++ " bytes of source\n") := by
    rw [written_record]
    exact congrArg (ifShown o 2) (String.toList_injective (by simp [startRecord, Level.name]))
  have herror (e : LexError) : written o (.record (errorRecord e)) =
      ifShown o 0 ("ERROR - Lexer error at " ++ toString e.position.line ++ ":" ++
        toString e.position.column ++ " (" ++ e.cause.message ++ ")\n") := by
    rw [written_record]
    exact congrArg (ifShown o 0)
      (String.toList_injective (by simp [errorRecord, Level.name, Position.render]))
  have hlog : ((log source).map Notice.record).map (written o) =
      (log source).map fun r ↦
        if r.level = .trace then ifShown o 4 ("TRACE - " ++ r.message ++ "\n")
        else ifShown o 3 ("DEBUG - " ++ r.message ++ "\n") := by
    rw [List.map_map]
    exact List.map_congr_left fun r hr ↦ written_of_mem_log hr o
  rw [errorText_report, notices, List.map_append, List.map_cons, hstart, hlog, String.join_append,
    String.join_cons]
  cases tokenize source with
  | failed e =>
    show _ ++ String.join
      [(Excerpt.ofError source e).render, written o (.record (errorRecord e))] = _
    rw [herror, String.join_cons, String.join_cons, String.join_nil, String.append_empty]
  | accepted _ | misplaced => rfl

theorem outputText_report (o : Options) (source : String) :
    (report o source).outputText =
      match tokenize source with
      | .accepted tokens => String.join (tokens.map fun t ↦ t.render ++ "\n")
      | .failed _ | .misplaced =>
        if o.trace then String.join ((tokensSeen source).map fun t ↦ t.render ++ "\n") else "" := by
  rw [Report.outputText]
  cases houtcome : tokenize source with
  | accepted tokens =>
    rw [listing_report_of_accepted houtcome, List.map_map]
    rfl
  | failed e =>
    rw [listing_report_of_failed houtcome]
    split
    · rw [List.map_map]
      rfl
    · rfl
  | misplaced => exact absurd houtcome (WrittenToken.tokenize_ne_misplaced source)

/-! ### Two runs -/

/-- A command that gets to its work: its arguments stand for options, and it can read a source. -/
structure Reads (arguments : List String) (s : Surroundings) (o : Options) (source : String) :
    Prop where
  /-- The arguments are accepted. -/
  parse_eq : Options.parse arguments = .ok o
  /-- The source is there, and it is a text. -/
  read_eq : s.read o.input = .ok source

theorem Reads.run_eq (h : Reads arguments s o source) : run arguments s = report o source := by
  rw [run, h.parse_eq]
  show reportRead o (s.read o.input) = report o source
  rw [h.read_eq]
  rfl

/-- **Two commands that read the same source.** They have the same exit status and the same excerpt;
their listings differ by `-t` only, and only after an error; and what the less verbose of them
writes to standard error is what its verbosity admits of what the other one writes. What one of them
writes is a text that its own options and the source determine. -/
theorem run_noninterference {arguments' : List String} {s' : Surroundings}
    (h : Reads arguments s o source) (h' : Reads arguments' s' o' source) :
    (run arguments s).status = (run arguments' s').status ∧
    ((run arguments s).status = 0 ↔ ∃ tokens, tokenize source = .accepted tokens) ∧
    (o.trace = o'.trace → (run arguments s).outputText = (run arguments' s').outputText) ∧
    (run arguments s).outputText =
      (match tokenize source with
      | .accepted tokens => String.join (tokens.map fun t ↦ t.render ++ "\n")
      | .failed _ | .misplaced =>
        if o.trace then String.join ((tokensSeen source).map fun t ↦ t.render ++ "\n") else "") ∧
    (run arguments s).errorText =
      ifShown o 2 ("INFO - Tokenizing " ++ toString source.utf8ByteSize ++ " bytes of source\n") ++
        String.join ((log source).map fun r ↦
          if r.level = .trace then ifShown o 4 ("TRACE - " ++ r.message ++ "\n")
          else ifShown o 3 ("DEBUG - " ++ r.message ++ "\n")) ++
        (match tokenize source with
        | .failed e => (Excerpt.ofError source e).render ++
            ifShown o 0 ("ERROR - Lexer error at " ++ toString e.position.line ++ ":" ++
              toString e.position.column ++ " (" ++ e.cause.message ++ ")\n")
        | .accepted _ | .misplaced => "") ∧
    (run arguments s).excerpts = (run arguments' s').excerpts ∧
    ((∃ tokens, tokenize source = .accepted tokens ∧
        tokens.getLast? = some (endMark source.toList) ∧
        (run arguments s).listing = tokens.map Token.render ∧
        (run arguments' s').listing = tokens.map Token.render ∧
        (run arguments s).excerpts = []) ∨
      ∃ e, tokenize source = .failed e ∧
        (run arguments s).listing =
          (if o.trace then (tokensSeen source).map Token.render else []) ∧
        (run arguments s).excerpts = [.ofError source e]) ∧
    (o.quiet = false → o'.quiet = false → o.logVerbosity ≤ o'.logVerbosity →
      (run arguments s).notices =
        (run arguments' s').notices.filter (Notice.isAdmittedAt o.logVerbosity)) ∧
    (o.quiet = true → (run arguments s).notices =
      (run arguments' s').notices.filter fun notice ↦ !notice.isRecord) := by
  rw [h.run_eq, h'.run_eq]
  refine ⟨rfl, ?_, ?_, outputText_report o source, errorText_report_eq o source, ?_, ?_,
    fun hq hq' hle ↦ notices_report_of_le hq hq' hle source,
    fun hq ↦ notices_report_of_quiet hq o' source⟩
  · show (if (tokenize source).isAccepted then 0 else 1) = 0 ↔ _
    cases tokenize source <;> simp [Outcome.isAccepted]
  · intro htrace
    rw [Report.outputText, listing_report_congr htrace]
    rfl
  · rw [excerpts_report, excerpts_report]
  · cases houtcome : tokenize source with
    | accepted tokens =>
      obtain ⟨ws, _, -, -, -, htokens⟩ := WrittenToken.tokenize_eq_accepted_iff.1 houtcome
      refine .inl ⟨tokens, rfl, ?_, listing_report_of_accepted houtcome o,
        listing_report_of_accepted houtcome o', ?_⟩
      · rw [htokens]
        exact List.getLast?_concat
      · rw [excerpts_report, houtcome]
    | failed e =>
      refine .inr ⟨e, rfl, listing_report_of_failed houtcome o, ?_⟩
      rw [excerpts_report, houtcome]
    | misplaced => exact absurd houtcome (WrittenToken.tokenize_ne_misplaced source)

/-- A token and an error: one command lists the token and logs little, the other lists nothing and
logs everything. -/
theorem run_noninterference_error :
    ∃ s : Surroundings, Reads ["-tv"] s { trace := true, verbose := 1 } "a 1." ∧
      Reads ["-vvv", "-"] s { file := some "-", verbose := 3 } "a 1." ∧
      (run ["-tv"] s).status = (run ["-vvv", "-"] s).status ∧
      (run ["-tv"] s).listing = ["[1:1] ID 'a'"] ∧
      (run ["-tv"] s).outputText = "[1:1] ID 'a'\n" ∧
      (run ["-tv"] s).errorText = "INFO - Tokenizing 4 bytes of source\n" ++
        "1| a 1.\n |   ^--- Malformed number\n" ++
        "ERROR - Lexer error at 1:3 (Malformed number)\n" ∧
      (run ["-tv"] s).excerpts = [⟨⟨1, ['a', ' ', '1', '.']⟩, 3, "Malformed number"⟩] ∧
      (run ["-tv"] s).notices = (run ["-vvv", "-"] s).notices.filter (Notice.isAdmittedAt 2) := by
  have hreads : Reads ["-tv"] ⟨"a 1.".toUTF8, ⟨[]⟩⟩ { trace := true, verbose := 1 } "a 1." :=
    ⟨rfl, rfl⟩
  have hreads' : Reads ["-vvv", "-"] ⟨"a 1.".toUTF8, ⟨[]⟩⟩ { file := some "-", verbose := 3 }
      "a 1." := ⟨rfl, rfl⟩
  have hfailed : tokenize "a 1." = .failed ⟨.malformedNumber, ⟨1, 3⟩⟩ := by decide +kernel
  have hseen : (tokensSeen "a 1.").map Token.render = ["[1:1] ID 'a'"] := by decide +kernel
  have hexcerpt : Excerpt.ofError "a 1." ⟨.malformedNumber, ⟨1, 3⟩⟩ =
      ⟨⟨1, ['a', ' ', '1', '.']⟩, 3, "Malformed number"⟩ := by
    decide +kernel
  obtain ⟨hstatus, -, -, houtput, herrors, -, hcases, hverbosity, -⟩ :=
    run_noninterference hreads hreads'
  obtain ⟨tokens, haccepted, -⟩ | ⟨e, he, hlisting, hexcerpts⟩ := hcases
  · exact absurd (hfailed.symm.trans haccepted) (by simp)
  · obtain rfl := Outcome.failed.inj (hfailed.symm.trans he)
    exact ⟨_, hreads, hreads', hstatus, hlisting.trans hseen, houtput.trans (by decide +kernel),
      herrors.trans (by decide +kernel), hexcerpts.trans (by rw [hexcerpt]),
      hverbosity rfl rfl (by decide)⟩

end Program

end ScriptLexer
