import ScriptLexer.Cursor

/-!
# Machines

A **machine** reads a token by moving a cursor. Its state and the next character decide about its
next move: it takes the character, or it stops in front of it. It knows nothing of the characters it
has taken. What it keeps instead are two **marks**, the byte offsets between which the lexeme is cut
out of the source in the end. Both marks stand at the first character until a move resets one.

A `Recognizer` tells of a text what a machine finds at its head (`Machine.scan`). Cutting is what
only the machine does, and it can go wrong: there is no outcome if the marks mark no slice. In
a source that never happens (`TokenClass.run_eq`).
-/

namespace ScriptLexer

/-- The byte offsets between which a lexeme lies. -/
structure Marks where
  /-- Where it begins. -/
  opening : Nat
  /-- Where it ends. -/
  closing : Nat
deriving DecidableEq, Repr

/-- How a machine stops. -/
inductive Ending where
  /-- The token and its lexeme end here. -/
  | accept
  /-- The token is faulty. -/
  | reject (cause : Cause)
  /-- The machine was started where no token of its class can begin. -/
  | misplaced
deriving DecidableEq, Repr

/-- What a machine does about the next character. -/
inductive Move (σ : Type) where
  /-- It takes the character. -/
  | take (state : σ)
  /-- It takes the character, and the lexeme begins behind it. -/
  | opening (state : σ)
  /-- It takes the character, and the lexeme ends in front of it unless this comes again. -/
  | closing (state : σ)
  /-- It leaves the character and stops. -/
  | stop (ending : Ending)
deriving DecidableEq, Repr

namespace Move

variable {σ : Type}

/-- Whether a move resets no mark. -/
def keepsMarks : Move σ → Bool
  | take _ | stop _ => true
  | opening _ | closing _ => false

@[simp] theorem keepsMarks_take (state : σ) : (take state).keepsMarks = true := rfl

@[simp] theorem keepsMarks_stop (ending : Ending) : (stop ending : Move σ).keepsMarks = true := rfl

@[simp] theorem keepsMarks_ite (p : Prop) [Decidable p] (m m' : Move σ) :
    (if p then m else m').keepsMarks = if p then m.keepsMarks else m'.keepsMarks :=
  apply_ite keepsMarks p m m'

end Move

/-- A machine for the tokens of one class. -/
structure Machine (σ : Type) where
  /-- The state at the first character. -/
  initial : σ
  /-- Whether the token is complete, whatever comes next. -/
  isComplete : σ → Bool
  /-- The move at a character. -/
  move : σ → Char → Move σ
  /-- How the machine stops at the end of the text. -/
  atEnd : σ → Ending
  /-- The kind of a token, from its lexeme. -/
  kind : String → TokenKind

theorem Cursor.length_rest_next_lt {c : Cursor} {next : Char} (h : c.peek? = some next) :
    c.next.2.rest.length < c.rest.length := by
  obtain ⟨rest, hrest⟩ := List.head?_eq_some_iff.1 h
  simp [Cursor.next, Cursor.advance, hrest]

namespace Machine

variable {σ : Type}

/-- The token that begins at `start`, cut out between two marks. -/
def cut (m : Machine σ) (start : Position) (marks : Marks) (c : Cursor) :
    Option (Outcome Token) :=
  (c.slice? marks.opening marks.closing).map fun lexeme ↦ .accepted ⟨m.kind lexeme, lexeme, start⟩

/-- What comes of stopping at a cursor. -/
def conclude (m : Machine σ) (start : Position) (marks : Marks) (c : Cursor) :
    Ending → Option (Outcome Token)
  | .accept => m.cut start { marks with closing := c.offset } c
  | .reject cause => some (.failed ⟨cause, start⟩)
  | .misplaced => some .misplaced

/-- The rest of a run that began at `start`, from a state and a cursor on. -/
def runFrom (m : Machine σ) (start : Position) (state : σ) (marks : Marks) (c : Cursor) :
    Option (Outcome Token) × Cursor :=
  if m.isComplete state then (m.cut start marks c, c)
  else
    match _h : c.peek? with
    | none => (m.conclude start marks c (m.atEnd state), c)
    | some next =>
      match m.move state next with
      | .take state => m.runFrom start state marks c.next.2
      | .opening state =>
        m.runFrom start state { marks with opening := c.next.2.offset } c.next.2
      | .closing state => m.runFrom start state { marks with closing := c.offset } c.next.2
      | .stop ending => (m.conclude start marks c ending, c)
termination_by c.rest.length
decreasing_by all_goals exact Cursor.length_rest_next_lt _h

/-- The outcome of a machine that is started at a cursor, and the cursor after it. -/
def run (m : Machine σ) (c : Cursor) : Option (Outcome Token) × Cursor :=
  m.runFrom c.position m.initial ⟨c.offset, c.offset⟩ c

/-! ### One move -/

section Move

variable {m : Machine σ} {start : Position} {state state' : σ} {marks : Marks} {c : Cursor}
  {next : Char} {rest : List Char}

theorem runFrom_of_isComplete (h : m.isComplete state = true) :
    m.runFrom start state marks c = (m.cut start marks c, c) := by
  rw [runFrom, if_pos h]

theorem runFrom_nil (hstate : m.isComplete state = false) (hrest : c.rest = []) :
    m.runFrom start state marks c = (m.conclude start marks c (m.atEnd state), c) := by
  have hpeek : c.peek? = none := by rw [Cursor.peek?, hrest]; rfl
  rw [runFrom, if_neg (ne_true_of_eq_false hstate)]
  split <;> simp_all

theorem runFrom_cons (hstate : m.isComplete state = false) (hrest : c.rest = next :: rest) :
    m.runFrom start state marks c =
      match m.move state next with
      | .take state => m.runFrom start state marks (c.advance [next])
      | .opening state => m.runFrom start state
          { marks with opening := (c.advance [next]).offset } (c.advance [next])
      | .closing state => m.runFrom start state
          { marks with closing := c.offset } (c.advance [next])
      | .stop ending => (m.conclude start marks c ending, c) := by
  have hpeek : c.peek? = some next := by rw [Cursor.peek?, hrest]; rfl
  have hnext : c.next.2 = c.advance [next] := by simp [Cursor.next, hrest]
  rw [runFrom, if_neg (ne_true_of_eq_false hstate), hnext]
  split <;> simp_all

theorem runFrom_of_take (hstate : m.isComplete state = false) (hrest : c.rest = next :: rest)
    (h : m.move state next = .take state') :
    m.runFrom start state marks c = m.runFrom start state' marks (c.advance [next]) := by
  rw [runFrom_cons hstate hrest, h]

theorem runFrom_of_opening (hstate : m.isComplete state = false) (hrest : c.rest = next :: rest)
    (h : m.move state next = .opening state') :
    m.runFrom start state marks c =
      m.runFrom start state' { marks with opening := (c.advance [next]).offset }
        (c.advance [next]) := by
  rw [runFrom_cons hstate hrest, h]

theorem runFrom_of_closing (hstate : m.isComplete state = false) (hrest : c.rest = next :: rest)
    (h : m.move state next = .closing state') :
    m.runFrom start state marks c =
      m.runFrom start state' { marks with closing := c.offset } (c.advance [next]) := by
  rw [runFrom_cons hstate hrest, h]

theorem runFrom_of_stop (hstate : m.isComplete state = false) (hrest : c.rest = next :: rest)
    {ending : Ending} (h : m.move state next = .stop ending) :
    m.runFrom start state marks c = (m.conclude start marks c ending, c) := by
  rw [runFrom_cons hstate hrest, h]

/-- **Machines go forward**: wherever one is started, it has moved over a text at the head. -/
theorem exists_taken_runFrom (m : Machine σ) (start : Position) (state : σ) (marks : Marks)
    (c : Cursor) :
    ∃ taken, taken <+: c.rest ∧ (m.runFrom start state marks c).2 = c.advance taken := by
  induction hrest : c.rest generalizing state marks c with
  | nil =>
    refine ⟨[], List.nil_prefix, ?_⟩
    cases hstate : m.isComplete state with
    | true => rw [runFrom_of_isComplete hstate]; rfl
    | false => rw [runFrom_nil hstate hrest]; rfl
  | cons next rest ih =>
    have hstop : ∃ taken, taken <+: next :: rest ∧ c = c.advance taken :=
      ⟨[], List.nil_prefix, rfl⟩
    cases hstate : m.isComplete state with
    | true => rwa [runFrom_of_isComplete hstate]
    | false =>
      have hbehind (state : σ) (marks : Marks) : ∃ taken, taken <+: next :: rest ∧
          (m.runFrom start state marks (c.advance [next])).2 = c.advance taken := by
        obtain ⟨taken, htaken, hmove⟩ := ih state marks _ (Cursor.rest_advance_singleton hrest)
        exact ⟨next :: taken, List.cons_prefix_cons.2 ⟨rfl, htaken⟩,
          hmove.trans (Cursor.advance_append c [next] taken).symm⟩
      rw [runFrom_cons hstate hrest]
      match m.move state next with
      | .take state => exact hbehind state marks
      | .opening state => exact hbehind state _
      | .closing state => exact hbehind state _
      | .stop ending => exact hstop

end Move

/-! ### Machines that keep their marks -/

/-- What a machine takes of a text, and how it stops, if no token is complete before that. -/
def trace (m : Machine σ) (state : σ) : List Char → List Char × Ending
  | [] => ([], m.atEnd state)
  | c :: rest =>
    match m.move state c with
    | .take state | .opening state | .closing state =>
      let (taken, ending) := m.trace state rest
      (c :: taken, ending)
    | .stop ending => ([], ending)

/-- The scan of a machine that has taken a text and kept its marks. -/
def scanOf (m : Machine σ) (taken : List Char) : Ending → Scan
  | .accept => .verbatim (m.kind (String.ofList taken)) taken
  | .reject cause => ⟨taken, .reject cause⟩
  | .misplaced => ⟨taken, .misplaced⟩

/-- What a machine that keeps its marks finds at the head of a text. -/
def scan (m : Machine σ) : Recognizer := fun text ↦
  let (taken, ending) := m.trace m.initial text
  m.scanOf taken ending

/-- The lexemes of a machine are all that it takes. -/
structure IsVerbatim (m : Machine σ) : Prop where
  /-- No token is complete before the machine stops. -/
  isComplete_eq : ∀ state, m.isComplete state = false
  /-- No character is a delimiter. -/
  keepsMarks_move : ∀ state c, (m.move state c).keepsMarks = true

section Trace

variable {m : Machine σ} {state state' : σ} {c : Char} {rest text : List Char} {ending : Ending}

theorem trace_of_take (h : m.move state c = .take state') :
    m.trace state (c :: rest) = (c :: (m.trace state' rest).1, (m.trace state' rest).2) := by
  rw [trace, h]

theorem trace_of_stop (h : m.move state c = .stop ending) :
    m.trace state (c :: rest) = ([], ending) := by
  rw [trace, h]

theorem scan_eq {taken : List Char} (h : m.trace m.initial text = (taken, ending)) :
    m.scan text = m.scanOf taken ending := by
  rw [scan, h]

theorem trace_isPrefix (m : Machine σ) (state : σ) (text : List Char) :
    (m.trace state text).1 <+: text := by
  fun_induction trace m state text with
  | case1 | case5 => exact List.nil_prefix
  | case2 state c rest _ _ _ _ htrace ih | case3 state c rest _ _ _ _ htrace ih
  | case4 state c rest _ _ _ _ htrace ih =>
    rw [htrace] at ih
    exact List.cons_prefix_cons.2 ⟨rfl, ih⟩

/-- A state in which a machine stays takes a whole run. -/
theorem trace_takeWhile {p : Char → Bool} (h : ∀ c, p c = true → m.move state c = .take state)
    (text : List Char) :
    m.trace state text = (text.takeWhile p ++ (m.trace state (text.dropWhile p)).1,
      (m.trace state (text.dropWhile p)).2) := by
  induction text with
  | nil => rfl
  | cons c rest ih =>
    cases hc : p c with
    | true => simp [trace_of_take (h c hc), ih, hc]
    | false => simp [hc]

/-- **A run and its trace.** -/
theorem IsVerbatim.runFrom_eq (h : m.IsVerbatim) (start : Position) (state : σ) (marks : Marks)
    (c : Cursor) :
    m.runFrom start state marks c =
      (m.conclude start marks (c.advance (m.trace state c.rest).1) (m.trace state c.rest).2,
        c.advance (m.trace state c.rest).1) := by
  induction hrest : c.rest generalizing state c with
  | nil => exact runFrom_nil (h.isComplete_eq state) hrest
  | cons next rest ih =>
    have hkeeps := h.keepsMarks_move state next
    match hmove : m.move state next with
    | .take state' =>
      rw [runFrom_of_take (h.isComplete_eq state) hrest hmove,
        ih state' _ (Cursor.rest_advance_singleton hrest), ← Cursor.advance_append,
        List.singleton_append, trace_of_take hmove]
    | .stop ending =>
      rw [runFrom_of_stop (h.isComplete_eq state) hrest hmove, trace_of_stop hmove]
      rfl
    | .opening _ | .closing _ =>
      rw [hmove] at hkeeps
      cases hkeeps

end Trace

end Machine

end ScriptLexer
