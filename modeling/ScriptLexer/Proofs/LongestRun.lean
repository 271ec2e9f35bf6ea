import Mathlib.Data.List.TakeWhile

/-!
# Longest runs

A run of characters of one class is the longest at its place when the text after it does not go on
with that class. `takeWhile` and `dropWhile` cut a text exactly there. The condition on what follows
looks at one character at most, which is the reason why no token depends on more than the character
after it.
-/

namespace ScriptLexer

variable {p : Char → Bool} {run rest : List Char}

/-- Neither function moves into a text that does not begin with the class. -/
theorem takeWhile_dropWhile_of_head? (hrest : ∀ c ∈ rest.head?, p c = false) :
    rest.takeWhile p = [] ∧ rest.dropWhile p = rest := by
  match rest with
  | [] => exact ⟨rfl, rfl⟩
  | c :: rest =>
    have hc : p c = false := hrest c rfl
    simp [hc]

theorem takeWhile_run (hrun : ∀ c ∈ run, p c = true) (hrest : ∀ c ∈ rest.head?, p c = false) :
    (run ++ rest).takeWhile p = run := by
  rw [List.takeWhile_append_of_pos hrun, (takeWhile_dropWhile_of_head? hrest).1, List.append_nil]

theorem dropWhile_run (hrun : ∀ c ∈ run, p c = true) (hrest : ∀ c ∈ rest.head?, p c = false) :
    (run ++ rest).dropWhile p = rest := by
  rw [List.dropWhile_append_of_pos hrun, (takeWhile_dropWhile_of_head? hrest).2]

/-- What is left after a longest run does not go on with its class. -/
theorem eq_false_of_mem_head?_dropWhile {text : List Char} :
    ∀ c ∈ (text.dropWhile p).head?, p c = false := by
  intro c hc
  have h := List.head?_dropWhile_not p text
  rw [Option.mem_def.1 hc] at h
  exact h

/-- Two cuts of one text after longest runs of one class are the same cut. -/
theorem run_unique {run' rest' : List Char} (hrun : ∀ c ∈ run, p c = true)
    (hrest : ∀ c ∈ rest.head?, p c = false) (hrun' : ∀ c ∈ run', p c = true)
    (hrest' : ∀ c ∈ rest'.head?, p c = false) (h : run ++ rest = run' ++ rest') :
    run = run' ∧ rest = rest' := by
  have htake : run = run' := by
    rw [← takeWhile_run hrun hrest, h, takeWhile_run hrun' hrest']
  exact ⟨htake, List.append_cancel_left (htake ▸ h)⟩

end ScriptLexer
