import Mathlib.Data.List.Induction
import ScriptLexer.Options

/-!
# Items taken in turn

The items of a command line are taken from left to right, each by the options that the items before
it have led to, and the first that cannot be taken decides that the command is refused. All the same
it does not matter in which order they come. Whether items can be taken depends on what they are and
how often (`Item.AreTakeable`), and so do the options that they lead to (`Options.ofItems`).

The induction is on the last item, since `take` adds one item to those before it
(`Options.foldlM_take_eq_ok_iff`). Whether it may follow them is a matter of all of them
(`Item.MayFollow`). There is one exception, a file with an empty name: it is taken although it may
not follow, but nothing can be taken after it (`Options.exists_take_eq_error`), and at the end it is
refused after all.
-/

namespace ScriptLexer

/-! ### What items need of each other -/

namespace Item

/-- Whether an item can be accepted at all: a flag or a file. -/
def isPlain : Item → Bool
  | flag _ | file _ => true
  | help | attachedValue | unknown => false

/-- The name of the file that an item is. -/
def path? : Item → Option String
  | file path => some path
  | flag _ | help | attachedValue | unknown => none

/-- The names of the files among items. -/
def files (items : List Item) : List String :=
  items.filterMap path?

variable {items : List Item} {item : Item}

/-- Items that can be taken: flags and files, with one file at most, which has a name, and no flag
but `verbose` more than once. -/
structure AreTakeable (items : List Item) : Prop where
  /-- There are flags and files only. -/
  isPlain : ∀ item ∈ items, item.isPlain = true
  /-- There is no second file. -/
  length_files_le : (files items).length ≤ 1
  /-- The file has a name. -/
  empty_notMem_files : "" ∉ files items
  /-- Only one flag may be repeated. -/
  count_le : ∀ f, f ≠ .verbose → items.count (.flag f) ≤ 1

/-- What an item needs of those before it. -/
def MayFollow (items : List Item) : Item → Prop
  | flag f => f = .verbose ∨ .flag f ∉ items
  | file path => files items = [] ∧ path ≠ ""
  | help | attachedValue | unknown => False

theorem files_append (items more : List Item) : files (items ++ more) = files items ++ files more :=
  List.filterMap_append

theorem files_concat (items : List Item) (item : Item) :
    files (items ++ [item]) = files items ++ item.path?.toList := by
  rw [files_append]
  cases item <;> rfl

theorem AreTakeable.of_concat (h : AreTakeable (items ++ [item])) :
    AreTakeable items ∧ item.MayFollow items := by
  obtain ⟨hplain, hlength, hempty, hcount⟩ := h
  rw [files_concat] at hlength hempty
  obtain ⟨hplain, hitem⟩ := List.forall_mem_append.1 hplain
  refine ⟨⟨hplain, ?_, fun h ↦ hempty (List.mem_append_left _ h), fun f hf ↦ ?_⟩, ?_⟩
  · rw [List.length_append] at hlength
    omega
  · have hle := hcount f hf
    rw [List.count_append] at hle
    omega
  · cases item with
    | flag f =>
      by_cases hf : f = .verbose
      · exact .inl hf
      · have hle := hcount f hf
        rw [List.count_append, List.count_singleton_self] at hle
        exact .inr (List.count_eq_zero.1 (by omega))
    | file path =>
      rw [path?, Option.toList_some, List.length_append, List.length_singleton] at hlength
      exact ⟨List.length_eq_zero_iff.1 (by omega), fun h ↦ hempty (by simp [path?, h])⟩
    | help | attachedValue | unknown => simp [Item.isPlain] at hitem

theorem AreTakeable.concat (h : AreTakeable items) (hitem : item.MayFollow items) :
    AreTakeable (items ++ [item]) := by
  obtain ⟨hplain, hlength, hempty, hcount⟩ := h
  cases item with
  | flag f =>
    have hfiles : files (items ++ [.flag f]) = files items := by simp [files_concat, path?]
    refine ⟨List.forall_mem_append.2 ⟨hplain, by simp [Item.isPlain]⟩, hfiles ▸ hlength,
      hfiles ▸ hempty, fun g hg ↦ ?_⟩
    rw [List.count_append, List.count_singleton]
    split
    · next heq =>
      obtain rfl : f = g := by simpa using heq
      simp [List.count_eq_zero.2 (hitem.resolve_left hg)]
    · exact hcount g hg
  | file path =>
    obtain ⟨hnone, hpath⟩ := hitem
    have hfiles : files (items ++ [.file path]) = [path] := by simp [files_concat, hnone, path?]
    refine ⟨List.forall_mem_append.2 ⟨hplain, by simp [Item.isPlain]⟩, by simp [hfiles],
      by simpa [hfiles] using hpath.symm, fun g hg ↦ ?_⟩
    rw [List.count_append]
    simpa using hcount g hg
  | help | attachedValue | unknown => exact hitem.elim

end Item

/-! ### What items lead to -/

namespace Options

open Item

variable {items : List Item} {item : Item} {o : Options}

/-- The options that items stand for, whatever their order. -/
def ofItems (items : List Item) : Options where
  file := (files items).head?
  demo := decide (.flag .demo ∈ items)
  trace := decide (.flag .trace ∈ items)
  verbose := min 255 (items.count (.flag .verbose))
  quiet := decide (.flag .quiet ∈ items)

/-- Nothing can be taken after an empty file name. -/
theorem exists_take_eq_error (h : o.hasEmptyFile = true) (item : Item) :
    ∃ e, o.take item = .error e := by
  have hfile : o.file.isSome = true := by
    rw [hasEmptyFile, beq_iff_eq] at h
    rw [h]
    rfl
  cases item <;> simp [take, h, hfile]

theorem hasEmptyFile_ofItems (h : AreTakeable items) : (ofItems items).hasEmptyFile = false := by
  rw [hasEmptyFile, beq_eq_false_iff_ne]
  exact fun hhead ↦ h.empty_notMem_files (List.mem_of_head? hhead)

theorem takeFlag_ofItems (items : List Item) (f : Flag) :
    (ofItems items).takeFlag f =
      if f = .verbose ∨ .flag f ∉ items then .ok (ofItems (items ++ [.flag f]))
      else .error .repeatedFlag := by
  have hfiles : files (items ++ [.flag f]) = files items := by simp [files_concat, path?]
  cases f with
  | verbose =>
    have hcount : min 255 (min 255 (items.count (.flag .verbose)) + 1) =
        min 255 (items.count (.flag .verbose) + 1) := by omega
    simp [takeFlag, ofItems, hfiles, List.count_append, hcount]
  | demo | trace | quiet => simp [takeFlag, ofItems, hfiles, List.count_append]

/-- An item that may follow is taken. -/
theorem take_of_mayFollow (h : AreTakeable items) (hitem : item.MayFollow items) :
    (ofItems items).take item = .ok (ofItems (items ++ [item])) := by
  cases item with
  | flag f =>
    have hempty := hasEmptyFile_ofItems h
    rw [MayFollow] at hitem
    rw [take, if_neg (ne_true_of_eq_false hempty), takeFlag_ofItems, if_pos hitem]
    rfl
  | file path => simp [take, ofItems, files_concat, hitem.1, path?]
  | help | attachedValue | unknown => exact hitem.elim

/-- An item that may not follow is refused, unless it is a file with an empty name. -/
theorem hasEmptyFile_of_take_eq_ok (h : AreTakeable items) (hitem : ¬ item.MayFollow items)
    (hok : (ofItems items).take item = .ok o) : o.hasEmptyFile = true := by
  have hempty := hasEmptyFile_ofItems h
  cases item with
  | flag f =>
    rw [MayFollow] at hitem
    rw [take, if_neg (ne_true_of_eq_false hempty), takeFlag_ofItems, if_neg hitem] at hok
    cases hok
  | file path =>
    rw [take] at hok
    split at hok
    · cases hok
    · next hnone =>
      have hfiles : files items = [] := by simpa [ofItems] using hnone
      obtain rfl : path = "" := by_contra fun hpath ↦ hitem ⟨hfiles, hpath⟩
      obtain rfl := Except.ok.inj hok
      rfl
  | help =>
    rw [take, if_neg (ne_true_of_eq_false hempty)] at hok
    cases hok
  | attachedValue | unknown => cases hok

/-- **Taking items in turn** is taking all of them at once, as far as no file has an empty name. -/
theorem foldlM_take_eq_ok_iff :
    items.foldlM take {} = .ok o ∧ o.hasEmptyFile = false ↔
      AreTakeable items ∧ o = ofItems items := by
  induction items using List.reverseRecOn generalizing o with
  | nil =>
    have htakeable : AreTakeable [] := ⟨by simp, by simp [files], by simp [files], by simp⟩
    constructor
    · rintro ⟨hok, -⟩
      exact ⟨htakeable, (Except.ok.inj hok).symm⟩
    · rintro ⟨-, rfl⟩
      exact ⟨rfl, rfl⟩
  | append_singleton items item ih =>
    rw [List.foldlM_append]
    constructor
    · rintro ⟨hok, hname⟩
      cases hbefore : items.foldlM take ({} : Options) with
      | error e =>
        rw [hbefore] at hok
        cases hok
      | ok before =>
        have htake : before.take item = .ok o := by
          rw [hbefore] at hok
          simp only [List.foldlM_cons, List.foldlM_nil, bind_pure] at hok
          exact hok
        have hname' : before.hasEmptyFile = false := by
          by_contra hne
          obtain ⟨e, herror⟩ := exists_take_eq_error (eq_true_of_ne_false hne) item
          exact absurd (herror.symm.trans htake) (by simp)
        obtain ⟨hitems, rfl⟩ := ih.1 ⟨hbefore, hname'⟩
        by_cases hmay : item.MayFollow items
        · rw [take_of_mayFollow hitems hmay] at htake
          exact ⟨hitems.concat hmay, (Except.ok.inj htake).symm⟩
        · exact absurd (hasEmptyFile_of_take_eq_ok hitems hmay htake) (ne_true_of_eq_false hname)
    · rintro ⟨htakeable, rfl⟩
      obtain ⟨hitems, hmay⟩ := htakeable.of_concat
      refine ⟨?_, hasEmptyFile_ofItems htakeable⟩
      rw [(ih.2 ⟨hitems, rfl⟩).1]
      show List.foldlM take _ [item] = _
      rw [List.foldlM_cons, take_of_mayFollow hitems hmay]
      rfl

theorem finish_eq_ok_iff {o' : Options} :
    o'.finish = .ok o ↔ o'.hasEmptyFile = false ∧ (o'.demo = true → o'.file = none) ∧ o = o' := by
  rw [finish]
  cases o'.hasEmptyFile <;> cases o'.demo <;> cases o'.file <;> simp [eq_comm]

/-- **What is accepted**, item by item. -/
theorem parse_eq_ok_iff_items {arguments : List String} :
    parse arguments = .ok o ↔ AreTakeable (ofArguments arguments) ∧
      (.flag .demo ∈ ofArguments arguments → files (ofArguments arguments) = []) ∧
      o = ofItems (ofArguments arguments) := by
  have hbeside : ((ofItems (ofArguments arguments)).demo = true →
      (ofItems (ofArguments arguments)).file = none) ↔
        (.flag .demo ∈ ofArguments arguments → files (ofArguments arguments) = []) := by
    simp [ofItems]
  have hparse : parse arguments = (ofArguments arguments).foldlM take {} >>= finish := rfl
  constructor
  · intro h
    cases hfold : (ofArguments arguments).foldlM take ({} : Options) with
    | error e =>
      rw [hparse, hfold] at h
      cases h
    | ok o' =>
      have hfinish : o'.finish = .ok o := by
        rw [hparse, hfold] at h
        exact h
      obtain ⟨hname, hdemo, rfl⟩ := finish_eq_ok_iff.1 hfinish
      obtain ⟨htakeable, rfl⟩ := foldlM_take_eq_ok_iff.1 ⟨hfold, hname⟩
      exact ⟨htakeable, hbeside.1 hdemo, rfl⟩
  · rintro ⟨htakeable, hdemo, rfl⟩
    obtain ⟨hfold, hname⟩ := foldlM_take_eq_ok_iff.2 ⟨htakeable, rfl⟩
    rw [hparse, hfold]
    exact finish_eq_ok_iff.2 ⟨hname, hbeside.2 hdemo, rfl⟩

end Options

end ScriptLexer
