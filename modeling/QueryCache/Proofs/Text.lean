/-
QueryCache.Proofs.Text — cuts undo joins.

A text without the separator is one part, so parts without the separator
come back when they were joined by it (`splitOn_join`).  The other cuts of
names and paths are described the same way, by the characters that a part
does not hold.
-/
import Mathlib.Data.List.Pairwise
import Mathlib.Data.List.TakeWhile
import QueryCache.Select.Segment

namespace QueryCache

namespace Text

/-! ## 1. Cutting at a separator -/

theorem splitOn_append {sep : Char} {part : Text} (h : sep ∉ part) (rest : Text) :
    splitOn sep (part ++ sep :: rest) = part :: splitOn sep rest := by
  induction part with
  | nil => simp [splitOn]
  | cons c cs ih =>
    simp only [List.mem_cons, not_or] at h
    have hc : c ≠ sep := fun heq => h.1 heq.symm
    rw [List.cons_append, splitOn, if_neg hc, ih h.2]

theorem splitOn_of_not_mem {sep : Char} {text : Text} (h : sep ∉ text) :
    splitOn sep text = [text] := by
  induction text with
  | nil => rfl
  | cons c cs ih =>
    simp only [List.mem_cons, not_or] at h
    have hc : c ≠ sep := fun heq => h.1 heq.symm
    rw [splitOn, if_neg hc, ih h.2]

/-- Parts without the separator come back from their join. -/
theorem splitOn_join {sep : Char} {parts : List Text} (hne : parts ≠ [])
    (h : ∀ part ∈ parts, sep ∉ part) : splitOn sep (join sep parts) = parts := by
  induction parts with
  | nil => exact absurd rfl hne
  | cons part rest ih =>
    have hpart := h part List.mem_cons_self
    rcases rest with _ | ⟨next, rest⟩
    · exact splitOn_of_not_mem hpart
    · rw [join_cons (by simp), splitOn_append hpart,
        ih (by simp) fun other hmem => h other (List.mem_cons_of_mem _ hmem)]

/-- A separator cuts a text into what it cuts both sides into. -/
theorem splitOn_append_sep (sep : Char) (text rest : Text) :
    splitOn sep (text ++ sep :: rest) = splitOn sep text ++ splitOn sep rest := by
  induction text with
  | nil => simp [splitOn]
  | cons c cs ih =>
    obtain ⟨part, parts, hparts⟩ := List.exists_cons_of_ne_nil (splitOn_ne_nil sep cs)
    rw [List.cons_append, splitOn, splitOn, ih, hparts]
    split <;> rfl

/-- The parts of a join are those of its parts. -/
theorem splitOn_join_eq_flatMap {sep : Char} {parts : List Text} (hne : parts ≠ []) :
    splitOn sep (join sep parts) = parts.flatMap (splitOn sep) := by
  induction parts with
  | nil => exact absurd rfl hne
  | cons part rest ih =>
    rcases rest with _ | ⟨next, rest⟩
    · rw [join, List.flatMap_singleton]
    · rw [join_cons (by simp), splitOn_append_sep, ih (by simp), ← List.flatMap_cons]

/-- A text is cut the same way at a separator with as many others before it. -/
theorem append_sep_inj {sep : Char} {before other after rest : Text}
    (h : before ++ sep :: after = other ++ sep :: rest)
    (hcount : before.count sep = other.count sep) : before = other ∧ after = rest := by
  induction before generalizing other with
  | nil =>
    rcases other with _ | ⟨c, cs⟩
    · exact ⟨rfl, List.tail_eq_of_cons_eq h⟩
    · rw [List.nil_append, List.cons_append, List.cons.injEq] at h
      simp [← h.1] at hcount
  | cons c cs ih =>
    rcases other with _ | ⟨d, ds⟩
    · rw [List.nil_append, List.cons_append, List.cons.injEq] at h
      simp [h.1] at hcount
    · rw [List.cons_append, List.cons_append, List.cons.injEq] at h
      obtain ⟨rfl, h⟩ := h
      rw [List.count_cons, List.count_cons, Nat.add_right_cancel_iff] at hcount
      obtain ⟨rfl, hafter⟩ := ih h hcount
      exact ⟨rfl, hafter⟩

/-- A separator of one character cuts as the character does. -/
theorem splitOnText_singleton (sep : Char) (text : Text) :
    splitOnText [sep] text = splitOn sep text := by
  have hgo : ∀ part : Text, splitOnText.go [sep] 0 part text =
      (splitOn sep text).modifyHead (part.reverse ++ ·) := by
    induction text with
    | nil => simp [splitOnText.go, splitOn]
    | cons c cs ih =>
      intro part
      obtain ⟨first, parts, hparts⟩ := List.exists_cons_of_ne_nil (splitOn_ne_nil sep cs)
      by_cases hc : c = sep
      · subst hc
        simp [splitOnText.go, splitOn, ih, hparts]
      · have hne : sep ≠ c := fun heq => hc heq.symm
        simp [splitOnText.go, splitOn, ih, hparts, hc, hne]
  rw [splitOnText, hgo]
  obtain ⟨first, parts, hparts⟩ := List.exists_cons_of_ne_nil (splitOn_ne_nil sep text)
  rw [hparts]
  rfl

/-- A separator of one character joins as the character does. -/
theorem joinText_singleton (sep : Char) (parts : List Text) :
    joinText [sep] parts = join sep parts := by
  induction parts with
  | nil => rfl
  | cons part rest ih =>
    rcases rest with _ | ⟨next, rest⟩
    · simp [joinText, join]
    · rw [join_cons (by simp), ← ih]
      simp [joinText]

/-- No part holds the separator. -/
theorem not_mem_of_mem_splitOn {sep : Char} {text part : Text} (h : part ∈ splitOn sep text) :
    sep ∉ part := by
  induction text generalizing part with
  | nil => simp_all [splitOn]
  | cons c cs ih =>
    rw [splitOn] at h
    split at h
    · rcases List.mem_cons.1 h with rfl | h
      · exact List.not_mem_nil
      · exact ih h
    · rename_i hne
      split at h
      · rename_i hparts
        exact absurd hparts (splitOn_ne_nil sep cs)
      · rename_i first parts hparts
        rcases List.mem_cons.1 h with rfl | h
        · have hfirst := @ih first (hparts ▸ List.mem_cons_self)
          simp [hfirst, Ne.symm hne]
        · exact @ih part (hparts ▸ List.mem_cons_of_mem _ h)

/-- A text is the join of its parts, of which there is at least one. -/
theorem exists_parts (sep : Char) (text : Text) :
    ∃ part parts, splitOn sep text = part :: parts ∧ join sep (part :: parts) = text := by
  obtain ⟨part, parts, hparts⟩ := List.exists_cons_of_ne_nil (splitOn_ne_nil sep text)
  exact ⟨part, parts, hparts, hparts ▸ join_splitOn sep text⟩

/-- The characters of a join are those of its parts, and the separator. -/
theorem mem_join {sep c : Char} {parts : List Text} (h : c ∈ join sep parts) :
    c = sep ∨ ∃ part ∈ parts, c ∈ part := by
  induction parts with
  | nil => simp [join] at h
  | cons part rest ih =>
    rcases rest with _ | ⟨next, rest⟩
    · exact Or.inr ⟨part, List.mem_cons_self, h⟩
    · rw [join_cons (by simp), List.mem_append, List.mem_cons] at h
      rcases h with h | h | h
      · exact Or.inr ⟨part, List.mem_cons_self, h⟩
      · exact Or.inl h
      · rcases ih h with h | ⟨other, hmem, hc⟩
        · exact Or.inl h
        · exact Or.inr ⟨other, List.mem_cons_of_mem _ hmem, hc⟩

theorem mem_join_of_mem {sep c : Char} {part : Text} {parts : List Text} (h : part ∈ parts)
    (hc : c ∈ part) : c ∈ join sep parts := by
  induction parts with
  | nil => exact absurd h List.not_mem_nil
  | cons first rest ih =>
    rcases rest with _ | ⟨next, rest⟩
    · exact List.mem_singleton.1 h ▸ hc
    · rw [join_cons (by simp), List.mem_append, List.mem_cons]
      rcases List.mem_cons.1 h with rfl | h
      · exact Or.inl hc
      · exact Or.inr (Or.inr (ih h))

theorem join_ne_nil {sep : Char} {part : Text} (h : part ≠ []) (rest : List Text) :
    join sep (part :: rest) ≠ [] := by
  cases rest with
  | nil => exact h
  | cons next rest => simp [join]

/-- A part is no longer than the join. -/
theorem length_le_length_join {sep : Char} {part : Text} {parts : List Text} (h : part ∈ parts) :
    part.length ≤ (join sep parts).length := by
  induction parts with
  | nil => exact absurd h List.not_mem_nil
  | cons first rest ih =>
    rcases rest with _ | ⟨next, rest⟩
    · rw [List.mem_singleton.1 h, join]
    · rw [join_cons (by simp), List.length_append, List.length_cons]
      rcases List.mem_cons.1 h with rfl | h
      · omega
      · have := ih h
        omega

/-! ## 2. Other cuts -/

theorem splitOnce_append {sep : Char} {before : Text} (h : sep ∉ before) (after : Text) :
    splitOnce sep (before ++ sep :: after) = some (before, after) := by
  induction before with
  | nil => simp [splitOnce]
  | cons c cs ih =>
    rw [List.mem_cons, not_or] at h
    rw [List.cons_append, splitOnce, if_neg (Ne.symm h.1), ih h.2]
    rfl

theorem upTo_append {sep : Char} {part : Text} (h : sep ∉ part) (rest : Text) :
    upTo sep (part ++ sep :: rest) = part := by
  unfold upTo
  rw [List.takeWhile_append_of_pos, List.takeWhile_cons_of_neg (by simp), List.append_nil]
  intro c hc
  simp only [decide_eq_true_eq]
  rintro rfl
  exact h hc

theorem not_mem_upTo (sep : Char) (text : Text) : sep ∉ upTo sep text := by
  intro hmem
  simpa using List.all_eq_true.1 List.all_takeWhile sep hmem

theorem upTo_of_not_mem {sep : Char} {text : Text} (h : sep ∉ text) : upTo sep text = text := by
  unfold upTo
  induction text with
  | nil => rfl
  | cons c cs ih =>
    simp only [List.mem_cons, not_or] at h
    have hc : c ≠ sep := fun heq => h.1 heq.symm
    rw [List.takeWhile_cons_of_pos (by simp [hc]), ih h.2]

/-- The first part is what stands before the first separator. -/
theorem splitOn_eq_cons (sep : Char) (text : Text) :
    ∃ rest, splitOn sep text = upTo sep text :: rest := by
  induction text with
  | nil => exact ⟨[], rfl⟩
  | cons c cs ih =>
    obtain ⟨rest, hrest⟩ := ih
    rw [splitOn, upTo]
    by_cases hc : c = sep
    · exact ⟨splitOn sep cs, by simp [hc]⟩
    · rw [if_neg hc, hrest, List.takeWhile_cons_of_pos (by simpa using hc)]
      exact ⟨rest, rfl⟩

theorem upToCast_of_not_mem {text : Text} (h : ':' ∉ text) : upToCast text = text := by
  induction text with
  | nil => rfl
  | cons c cs ih =>
    simp only [List.mem_cons, not_or] at h
    unfold upToCast
    split
    · rename_i heq
      simp only [List.cons.injEq] at heq
      exact absurd heq.1.symm h.1
    · contradiction
    · rename_i heq
      rw [List.cons.injEq] at heq
      rw [← heq.1, ← heq.2, ih h.2]

theorem upToCast_cast {name : Text} (h : ':' ∉ name) (rest : Text) :
    upToCast (name ++ ':' :: ':' :: rest) = name := by
  induction name with
  | nil => rfl
  | cons c cs ih =>
    simp only [List.mem_cons, not_or] at h
    rw [List.cons_append, upToCast, ih h.2]
    exact fun others heq => absurd heq.symm h.1

/-- What precedes a cast is the whole text, or a cast follows it. -/
theorem upToCast_eq_self_or (text : Text) :
    upToCast text = text ∨ ∃ type, text = upToCast text ++ ':' :: ':' :: type := by
  induction text using upToCast.induct with
  | case1 rest => exact Or.inr ⟨rest, rfl⟩
  | case2 => exact Or.inl rfl
  | case3 first rest hcast ih =>
    rw [upToCast]
    · rcases ih with heq | ⟨type, heq⟩
      · exact Or.inl (by rw [heq])
      · exact Or.inr ⟨type, congrArg (first :: ·) heq⟩
    · exact hcast

theorem mem_of_mem_upToCast {c : Char} {text : Text} (h : c ∈ upToCast text) : c ∈ text := by
  induction text using upToCast.induct with
  | case1 rest => simp [upToCast] at h
  | case2 => simp [upToCast] at h
  | case3 first rest hcast ih =>
    rw [upToCast] at h
    · rcases List.mem_cons.1 h with rfl | h
      · exact List.mem_cons_self
      · exact List.mem_cons_of_mem _ (ih h)
    · exact hcast

/-- A start is stripped from exactly the texts that have it. -/
theorem stripStart_eq_some_iff {start text rest : Text} :
    stripStart start text = some rest ↔ text = start ++ rest := by
  rw [stripStart, List.isPrefixOf?_eq_some_iff_append_eq, eq_comm]

theorem stripStart_append (start rest : Text) : stripStart start (start ++ rest) = some rest :=
  stripStart_eq_some_iff.2 rfl

/-- The text is white space. -/
def IsBlank (text : Text) : Prop :=
  ∀ c ∈ text, Unicode.isBlank c = true

theorem isBlank_takeWhile (text : Text) : IsBlank (text.takeWhile Unicode.isBlank) := fun c hc =>
  List.all_eq_true.1 List.all_takeWhile c hc

/-- Trimming takes white space off both ends. -/
theorem exists_trim (text : Text) :
    ∃ before after, IsBlank before ∧ IsBlank after ∧ text = before ++ trim text ++ after := by
  refine ⟨text.takeWhile Unicode.isBlank,
    ((text.dropWhile Unicode.isBlank).reverse.takeWhile Unicode.isBlank).reverse,
    isBlank_takeWhile text, fun c hc => isBlank_takeWhile _ c (List.mem_reverse.1 hc), ?_⟩
  rw [trim, List.append_assoc, ← List.reverse_append, List.takeWhile_append_dropWhile,
    List.reverse_reverse, List.takeWhile_append_dropWhile]

/-- Of a text that begins and ends with something else nothing but the
blanks behind it is taken. -/
theorem trim_append_blank {text after : Text} (hne : text ≠ [])
    (hfirst : ∀ c ∈ text.head?, Unicode.isBlank c = false)
    (hlast : ∀ c ∈ text.getLast?, Unicode.isBlank c = false) (hafter : IsBlank after) :
    trim (text ++ after) = text := by
  have hkeep : ∀ l : Text, l ≠ [] → (∀ c ∈ l.head?, Unicode.isBlank c = false) →
      ∀ behind : Text, (l ++ behind).dropWhile Unicode.isBlank = l ++ behind := by
    intro l hl hhead behind
    obtain ⟨c, cs, rfl⟩ := List.exists_cons_of_ne_nil hl
    have hc := hhead c rfl
    rw [List.cons_append, List.dropWhile_cons_of_neg (by simp [hc])]
  have hback := hkeep text.reverse (by simpa using hne) (by simpa using hlast) []
  rw [List.append_nil] at hback
  rw [trim, hkeep text hne hfirst after, List.reverse_append,
    List.dropWhile_append_of_pos fun c hc => hafter c (List.mem_reverse.1 hc), hback,
    List.reverse_reverse]

theorem isEmpty_trim_iff {text : Text} : (trim text).isEmpty = true ↔ IsBlank text := by
  constructor
  · intro hempty
    obtain ⟨before, after, hbefore, hafter, htext⟩ := exists_trim text
    rw [List.isEmpty_iff.1 hempty, List.append_nil] at htext
    intro c hc
    rw [htext] at hc
    exact (List.mem_append.1 hc).elim (hbefore c) (hafter c)
  · intro hblank
    rw [trim, List.dropWhile_eq_nil_iff.2 hblank]
    rfl

/-- A text with something in it is not blank. -/
theorem trim_ne_nil {text : Text} {c : Char} (hmem : c ∈ text) (hc : Unicode.isBlank c = false) :
    trim text ≠ [] := by
  intro hnil
  have hblank := isEmpty_trim_iff.1 (List.isEmpty_iff.2 hnil) c hmem
  rw [hc] at hblank
  contradiction

end Text

namespace Segment

/-! ## 3. Aliases -/

theorem splitAtLoneColon_of_not_mem {segment : Text} (h : ':' ∉ segment) (b : Bool) :
    splitAtLoneColon b segment = none := by
  induction segment generalizing b with
  | nil => rfl
  | cons c rest ih =>
    simp only [List.mem_cons, not_or] at h
    have hc : c ≠ ':' := fun heq => h.1 heq.symm
    simp [splitAtLoneColon, hc, ih h.2]

theorem splitAtLoneColon_append {aliasName rest : Text} (halias : ':' ∉ aliasName)
    (hrest : rest.head? ≠ some ':') :
    splitAtLoneColon false (aliasName ++ ':' :: rest) = some (aliasName, rest) := by
  induction aliasName with
  | nil => simp [splitAtLoneColon, hrest]
  | cons c cs ih =>
    simp only [List.mem_cons, not_or] at halias
    have hc : c ≠ ':' := fun heq => halias.1 heq.symm
    simp [splitAtLoneColon, hc, ih halias.2]

/-- The colons of a cast separate no alias. -/
theorem splitAtLoneColon_cast {name rest : Text} (hname : ':' ∉ name) (hrest : ':' ∉ rest) :
    splitAtLoneColon false (name ++ ':' :: ':' :: rest) = none := by
  induction name with
  | nil => simp [splitAtLoneColon, splitAtLoneColon_of_not_mem hrest]
  | cons c cs ih =>
    simp only [List.mem_cons, not_or] at hname
    have hc : c ≠ ':' := fun heq => hname.1 heq.symm
    simp [splitAtLoneColon, hc, ih hname.2]

/-- A segment that declares no alias is left as it is. -/
theorem splitAlias_of_none {segment : Text} (h : (splitAlias segment).1 = none) :
    splitAlias segment = (none, segment) := by
  rw [splitAlias] at h ⊢
  split at h
  · contradiction
  · rfl

theorem splitAlias_of_not_mem {segment : Text} (h : ':' ∉ segment) :
    splitAlias segment = (none, segment) := by
  rw [splitAlias, splitAtLoneColon_of_not_mem h]

end Segment
end QueryCache
