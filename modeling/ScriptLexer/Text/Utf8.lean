/-!
# Byte offsets

Texts are lists of characters; an offset into one counts the bytes of its UTF-8 form. Not every
offset is a place in the text: one that falls inside a character or past the end is none, and the
functions that take offsets answer `none` for it.

The main facts are `slice?_eq_some_iff`, that a slice of a text is what stands between two places in
it, and `slice?_eq_none_iff`, which offsets mark no slice.
-/

namespace ScriptLexer

/-- The number of bytes in the UTF-8 form of a text. -/
def utf8Length (text : List Char) : Nat :=
  text.foldr (fun c total ↦ c.utf8Size + total) 0

@[simp] theorem utf8Length_nil : utf8Length [] = 0 := rfl

@[simp] theorem utf8Length_cons (c : Char) (text : List Char) :
    utf8Length (c :: text) = c.utf8Size + utf8Length text := rfl

@[simp] theorem utf8Length_append (before after : List Char) :
    utf8Length (before ++ after) = utf8Length before + utf8Length after := by
  induction before with
  | nil => simp
  | cons c before ih => simp [ih, Nat.add_assoc]

/-- The two parts of a text at a byte offset. -/
def splitAtByte? : Nat → List Char → Option (List Char × List Char)
  | 0, text => some ([], text)
  | _ + 1, [] => none
  | n + 1, c :: rest =>
    if c.utf8Size ≤ n + 1 then
      (splitAtByte? (n + 1 - c.utf8Size) rest).map fun parts ↦ (c :: parts.1, parts.2)
    else none

/-- The part of a text between two byte offsets. -/
def slice? (text : List Char) (start stop : Nat) : Option (List Char) :=
  if start ≤ stop then do
    let (_, rest) ← splitAtByte? start text
    let (middle, _) ← splitAtByte? (stop - start) rest
    return middle
  else none

/-- Splitting behind a first part is splitting the second. -/
theorem splitAtByte?_add (before text : List Char) (n : Nat) :
    splitAtByte? (utf8Length before + n) (before ++ text) =
      (splitAtByte? n text).map fun parts ↦ (before ++ parts.1, parts.2) := by
  induction before with
  | nil => simp
  | cons c rest ih =>
    obtain ⟨m, hm⟩ : ∃ m, c.utf8Size + utf8Length rest + n = m + 1 :=
      ⟨_, (Nat.sub_add_cancel (by have := c.utf8Size_pos; omega)).symm⟩
    have hle : c.utf8Size ≤ m + 1 := by omega
    have hsub : m + 1 - c.utf8Size = utf8Length rest + n := by omega
    simp [hm, splitAtByte?, hle, hsub, ih, Function.comp_def]

theorem splitAtByte?_append (before after : List Char) :
    splitAtByte? (utf8Length before) (before ++ after) = some (before, after) := by
  have h := splitAtByte?_add before after 0
  simpa [splitAtByte?] using h

/-- A text splits at an offset exactly into parts of which the first has that many bytes. -/
theorem splitAtByte?_eq_some_iff {n : Nat} {text before after : List Char} :
    splitAtByte? n text = some (before, after) ↔
      text = before ++ after ∧ utf8Length before = n := by
  refine ⟨fun h ↦ ?_, fun ⟨htext, hn⟩ ↦ hn ▸ htext ▸ splitAtByte?_append before after⟩
  fun_induction splitAtByte? n text generalizing before with
  | case1 text => simp_all
  | case2 => simp at h
  | case3 n c rest hle ih =>
    obtain ⟨⟨b, a⟩, hparts, heq⟩ := Option.map_eq_some_iff.1 h
    obtain ⟨rfl, rfl⟩ := Prod.mk.inj heq
    obtain ⟨rfl, hb⟩ := ih hparts
    exact ⟨rfl, by rw [utf8Length_cons, hb]; omega⟩
  | case4 => simp at h

/-- An offset falls inside a character of a text. -/
def IsInsideChar (n : Nat) (text : List Char) : Prop :=
  ∃ before c after, text = before ++ c :: after ∧ utf8Length before < n ∧
    n < utf8Length before + c.utf8Size

theorem isInsideChar_cons {n : Nat} {c : Char} {rest : List Char} :
    IsInsideChar n (c :: rest) ↔
      (0 < n ∧ n < c.utf8Size) ∨ c.utf8Size ≤ n ∧ IsInsideChar (n - c.utf8Size) rest := by
  constructor
  · rintro ⟨before, d, after, htext, hlt, hgt⟩
    match before with
    | [] =>
      obtain ⟨rfl, rfl⟩ := List.cons.inj htext
      exact .inl ⟨hlt, by simpa using hgt⟩
    | _ :: before =>
      obtain ⟨rfl, rfl⟩ := List.cons.inj htext
      rw [utf8Length_cons] at hlt hgt
      exact .inr ⟨by omega, before, d, after, rfl, by omega, by omega⟩
  · rintro (⟨hpos, hlt⟩ | ⟨hle, before, d, after, rfl, hlt, hgt⟩)
    · exact ⟨[], c, rest, rfl, hpos, by simpa using hlt⟩
    · refine ⟨c :: before, d, after, rfl, ?_, ?_⟩
      · rw [utf8Length_cons]
        omega
      · rw [utf8Length_cons]
        omega

/-- **What is no place**: a text does not split at the offsets past its end, nor at those inside its
characters. -/
theorem splitAtByte?_eq_none_iff {n : Nat} {text : List Char} :
    splitAtByte? n text = none ↔ utf8Length text < n ∨ IsInsideChar n text := by
  fun_induction splitAtByte? n text with
  | case1 text => simp [IsInsideChar]
  | case2 n => simp
  | case3 n c rest hle ih =>
    have hpast : utf8Length (c :: rest) < n + 1 ↔ utf8Length rest < n + 1 - c.utf8Size := by
      rw [utf8Length_cons]
      omega
    have hinside : IsInsideChar (n + 1) (c :: rest) ↔
        IsInsideChar (n + 1 - c.utf8Size) rest := by
      rw [isInsideChar_cons, or_iff_right (by omega), and_iff_right hle]
    rw [Option.map_eq_none_iff, ih, hpast, hinside]
  | case4 n c rest hle =>
    have hinside : IsInsideChar (n + 1) (c :: rest) :=
      isInsideChar_cons.2 (.inl ⟨by omega, by omega⟩)
    simp [hinside]

/-- **What slices are.** -/
theorem slice?_eq_some_iff {text middle : List Char} {start stop : Nat} :
    slice? text start stop = some middle ↔
      ∃ before after, text = before ++ (middle ++ after) ∧ utf8Length before = start ∧
        start + utf8Length middle = stop := by
  rw [slice?]
  split
  · next hle =>
    simp only [Option.bind_eq_bind, Option.bind_eq_some_iff, Prod.exists, splitAtByte?_eq_some_iff,
      Option.pure_def, Option.some.injEq]
    constructor
    · rintro ⟨before, _, ⟨rfl, rfl⟩, _, after, ⟨rfl, hlen⟩, rfl⟩
      exact ⟨before, after, rfl, rfl, by omega⟩
    · rintro ⟨before, after, rfl, rfl, rfl⟩
      exact ⟨before, _, ⟨rfl, rfl⟩, middle, after, ⟨rfl, by omega⟩, rfl⟩
  · next hlt =>
    simp only [reduceCtorEq, false_iff, not_exists, not_and]
    rintro before after - - hstop
    omega

/-- Two offsets mark no slice of a text: they are the wrong way round, or one of them lies past the
end or inside a character. -/
def IsBadRange (text : List Char) (start stop : Nat) : Prop :=
  stop < start ∨ ∃ n ∈ [start, stop], utf8Length text < n ∨ IsInsideChar n text

/-- **What is no slice.** -/
theorem slice?_eq_none_iff {text : List Char} {start stop : Nat} :
    slice? text start stop = none ↔ IsBadRange text start stop := by
  simp only [IsBadRange, ← splitAtByte?_eq_none_iff, List.mem_cons, List.not_mem_nil, or_false,
    exists_eq_or_imp, exists_eq_left]
  rw [slice?]
  split
  · next hle =>
    rw [or_iff_right (Nat.not_lt.2 hle)]
    match hstart : splitAtByte? start text with
    | none => simp
    | some (before, rest) =>
      obtain ⟨rfl, rfl⟩ := splitAtByte?_eq_some_iff.1 hstart
      have hstop := splitAtByte?_add before rest (stop - utf8Length before)
      rw [Nat.add_sub_cancel' hle] at hstop
      match hrest : splitAtByte? (stop - utf8Length before) rest with
      | none | some _ => simp [hstop, hrest]
  · next hlt => simp [Nat.lt_of_not_le hlt]

end ScriptLexer
