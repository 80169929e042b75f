/-
QueryCache.Proofs.SortKinds — the kinds of values that sorting tells apart.

A text is compared with a number by the number it writes, with another
text by time when both write points in time, else by its characters.  No
text writes both (`numberForm?_eq_none_of_read`): a point in time begins
with the digits of a year and a minus behind them, a number does not.  So
every value is of one kind (`Json.sortKind`), and kinds that are compared
by one rule among each other are `Unmixed`.
-/
import Mathlib.Data.List.TakeWhile
import Mathlib.Data.Option.Basic
import QueryCache.Comparison

namespace QueryCache

/-! ## 1. Texts that begin with a year -/

/-- Digits, and a minus behind them. -/
def BeginsWithYear (text : Text) : Prop :=
  text.takeWhile Text.isDigit ≠ [] ∧ ∃ rest, text.dropWhile Text.isDigit = '-' :: rest

/-- A number that ends at a minus takes all the digits before it. -/
theorem beginsWithYear_of_number {least : Nat} {most : Option Nat} {text rest : Text} {n : Nat}
    (hleast : 0 < least) (h : Timestamp.number least most text = some (n, '-' :: rest)) :
    BeginsWithYear text := by
  have hsplit := List.takeWhile_append_dropWhile (p := Text.isDigit) (l := text)
  obtain ⟨k, hk, hdrop⟩ : ∃ k, least ≤ ((text.takeWhile Text.isDigit).take k).length ∧
      (text.takeWhile Text.isDigit ++ text.dropWhile Text.isDigit).drop
        ((text.takeWhile Text.isDigit).take k).length = '-' :: rest := by
    rw [hsplit]
    unfold Timestamp.number at h
    cases most with
    | none =>
      simp only [Option.ite_none_left_eq_some, Option.some.injEq, Prod.mk.injEq] at h
      exact ⟨(text.takeWhile Text.isDigit).length, by simpa using h.1, by simpa using h.2.2⟩
    | some most =>
      simp only [Option.ite_none_left_eq_some, Option.some.injEq, Prod.mk.injEq] at h
      exact ⟨most, Nat.not_lt.1 h.1, h.2.2⟩
  rw [List.length_take] at hk
  refine ⟨List.ne_nil_of_length_pos (by omega), ?_⟩
  by_cases hall : (text.takeWhile Text.isDigit).length ≤ k
  · rw [List.take_of_length_le hall, List.drop_left] at hdrop
    exact ⟨rest, hdrop⟩
  · -- A digit would stand where the minus is.
    have hlt : k < (text.takeWhile Text.isDigit).length := by omega
    rw [List.length_take_of_le (by omega), List.drop_append_of_le_length (by omega),
      List.drop_eq_getElem_cons hlt, List.cons_append, List.cons.injEq] at hdrop
    have hdigit := List.mem_takeWhile_imp (List.getElem_mem hlt)
    rw [hdrop.1] at hdigit
    contradiction

theorem mark_eq_some {c : Char} {text rest : Text} (h : Timestamp.mark c text = some rest) :
    text = c :: rest := by
  cases text with
  | nil => simp [Timestamp.mark] at h
  | cons x text =>
    simp only [Timestamp.mark, Option.ite_none_right_eq_some, Option.some.injEq] at h
    rw [h.1, h.2]

/-- What writes a date begins with a year, behind blanks and a sign perhaps. -/
theorem beginsWithYear_of_readDate {text rest : Text} {day : Int}
    (h : Timestamp.readDate text = some (day, rest)) :
    ∃ sign year, text.dropWhile Unicode.isBlank = sign ++ year ∧
      (sign = [] ∨ sign = ['-'] ∨ sign = ['+']) ∧ BeginsWithYear year := by
  unfold Timestamp.readDate at h
  obtain ⟨⟨year, afterYear⟩, hyear, h⟩ := Option.bind_eq_some_iff.1 h
  obtain ⟨afterMark, hmark, -⟩ := Option.bind_eq_some_iff.1 h
  obtain rfl := mark_eq_some hmark
  unfold Timestamp.yearField at hyear
  split at hyear
  all_goals
    obtain ⟨⟨n, rest⟩, hnumber, heq⟩ := Option.map_eq_some_iff.1 hyear
    obtain ⟨-, rfl⟩ := Prod.mk.inj heq
    have hyear := beginsWithYear_of_number Nat.one_pos hnumber
  · exact ⟨['-'], _, ‹_›, by simp, hyear⟩
  · exact ⟨['+'], _, ‹_›, by simp, hyear⟩
  · exact ⟨[], _, rfl, by simp, hyear⟩

theorem beginsWithYear_of_readFull {text : Text} {time : Timestamp}
    (h : Timestamp.readFull text = some time) : BeginsWithYear text := by
  unfold Timestamp.readFull at h
  obtain ⟨⟨year, afterYear⟩, hyear, h⟩ := Option.bind_eq_some_iff.1 h
  obtain ⟨afterMark, hmark, -⟩ := Option.bind_eq_some_iff.1 h
  obtain rfl := mark_eq_some hmark
  exact beginsWithYear_of_number (by decide) hyear

/-- What writes a point in time begins with a year, behind blanks and a sign
perhaps. -/
theorem beginsWithYear_of_read {text : Text} {time : Timestamp}
    (h : Timestamp.read text = some time) :
    BeginsWithYear text ∨ ∃ sign year, text.dropWhile Unicode.isBlank = sign ++ year ∧
      (sign = [] ∨ sign = ['-'] ∨ sign = ['+']) ∧ BeginsWithYear year := by
  simp only [Timestamp.read, Option.orElse_eq_or, Option.or_eq_some_iff] at h
  rcases h with h | ⟨-, h | ⟨-, h | ⟨-, h⟩⟩⟩
  · exact Or.inl (beginsWithYear_of_readFull h)
  · obtain ⟨⟨day, rest⟩, hdate, -⟩ := Option.bind_eq_some_iff.1 h
    exact Or.inr (beginsWithYear_of_readDate hdate)
  · obtain ⟨⟨day, rest⟩, hdate, -⟩ := Option.bind_eq_some_iff.1 h
    exact Or.inr (beginsWithYear_of_readDate hdate)
  · obtain ⟨⟨day, rest⟩, hdate, -⟩ := Option.bind_eq_some_iff.1 h
    exact Or.inr (beginsWithYear_of_readDate hdate)

/-! ## 2. Texts that write numbers -/

/-- A number begins with digits, perhaps behind a minus, and no minus stands
behind these. -/
theorem not_beginsWithYear_of_numberForm? {text : Text} {form : NumberForm}
    (h : numberForm? text = some form) :
    ∃ minus number, text = minus ++ number ∧ (minus = [] ∨ minus = ['-']) ∧
      number.takeWhile Text.isDigit ≠ [] ∧ ¬ BeginsWithYear number := by
  obtain ⟨form, hread⟩ : ∃ form, Form.readNumber text = some (form, []) := by
    unfold numberForm? at h
    split at h
    · exact ⟨_, ‹_›⟩
    · contradiction
  unfold Form.readNumber at hread
  split at hread
  rename_i negative number hcut
  have htext : text = number ∨ text = '-' :: number := by
    split at hcut
    · exact Or.inr (by rw [(Prod.mk.inj hcut).2])
    · exact Or.inl (Prod.mk.inj hcut).2
  simp only [Option.bind_eq_bind, Option.bind_eq_some_iff, Option.guard_eq_some'] at hread
  obtain ⟨_, hdigits, hread⟩ := hread
  have hne : number.takeWhile Text.isDigit ≠ [] := by
    intro hnil
    simp [hnil] at hdigits
  have hyear : ¬ BeginsWithYear number := by
    rintro ⟨-, rest, hrest⟩
    simp [hrest] at hread
  rcases htext with htext | htext
  · exact ⟨[], number, htext, Or.inl rfl, hne, hyear⟩
  · exact ⟨['-'], number, htext, Or.inr rfl, hne, hyear⟩

/-! ## 3. No text is both -/

/-- What begins with a year, behind a sign perhaps, writes no number. -/
theorem numberForm?_eq_none_of_beginsWithYear {sign year : Text}
    (hsign : sign = [] ∨ sign = ['-'] ∨ sign = ['+']) (hyear : BeginsWithYear year) :
    numberForm? (sign ++ year) = none := by
  rcases hform : numberForm? (sign ++ year) with _ | form
  · rfl
  · obtain ⟨minus, number, htext, hminus, hdigits, hnumber⟩ :=
      not_beginsWithYear_of_numberForm? hform
    -- Both begin with a digit, so the signs are the same.
    have hplus : Text.isDigit '+' = false := by decide
    have hdash : Text.isDigit '-' = false := by decide
    have hsame : year = number := by
      rcases hsign with rfl | rfl | rfl <;> rcases hminus with rfl | rfl <;>
        simp only [List.nil_append, List.cons_append, List.cons.injEq] at htext
      · exact htext
      · exact absurd (by simp [htext, hdash]) hyear.1
      · exact absurd (by simp [← htext, hdash]) hdigits
      · exact htext.2
      · exact absurd (by simp [← htext, hplus]) hdigits
      · exact absurd htext.1 (by decide)
    exact absurd (hsame ▸ hyear) hnumber

theorem not_isBlank_of_isDigit {c : Char} (h : Text.isDigit c = true) :
    Unicode.isBlank c = false := by
  have hcode : 48 ≤ c.toNat ∧ c.toNat ≤ 57 := by
    simpa [Text.isDigit, Char.le_def, UInt32.le_iff_toNat_le] using h
  rcases hblank : Unicode.isBlank c with _ | _
  · rfl
  · obtain ⟨range, hrange, hlow, hhigh⟩ := Unicode.Ranges.exists_of_containsCode hblank
    have hapart : ∀ range ∈ Unicode.blankRanges, range.2 < 48 ∨ 57 < range.1 := by decide
    have := hapart range hrange
    omega

/-- A text that writes a point in time writes no number. -/
theorem numberForm?_eq_none_of_read {text : Text} {time : Timestamp}
    (h : Timestamp.read text = some time) : numberForm? text = none := by
  rcases hform : numberForm? text with _ | form
  · rfl
  · rw [← hform]
    rcases beginsWithYear_of_read h with hyear | ⟨sign, year, htext, hsign, hyear⟩
    · exact numberForm?_eq_none_of_beginsWithYear (Or.inl rfl) hyear
    · -- A number does not begin with a blank.
      obtain ⟨minus, number, rfl, hminus, hdigits, -⟩ := not_beginsWithYear_of_numberForm? hform
      have hblank : (minus ++ number).dropWhile Unicode.isBlank = minus ++ number := by
        rcases hminus with rfl | rfl
        · cases number with
          | nil => rfl
          | cons c number =>
            have hdigit : Text.isDigit c = true := by
              by_contra hnot
              simp [hnot] at hdigits
            simp [not_isBlank_of_isDigit hdigit]
        · rfl
      rw [hblank] at htext
      rw [htext]
      exact numberForm?_eq_none_of_beginsWithYear hsign hyear

/-! ## 4. Kinds -/

/-- The kinds of values that sorting tells apart: texts by what they write. -/
inductive SortKind where
  | null | boolean | number | numeral | time | text | list | record
deriving DecidableEq

namespace SortKind

/-- The kind of a text: it writes a number, or a point in time, or neither. -/
def ofText (text : Text) : SortKind :=
  if (numberForm? text).isSome then numeral
  else if (Timestamp.read text).isSome then time
  else .text

theorem ofText_of_read {text : Text} {time : Timestamp}
    (h : Timestamp.read text = some time) : ofText text = .time := by
  simp [ofText, numberForm?_eq_none_of_read h, h]

theorem ofText_of_not_read {text : Text} (h : Timestamp.read text = none) :
    ofText text = .numeral ∨ ofText text = .text := by
  rcases hnumber : numberForm? text with _ | form
  · exact Or.inr (by simp [ofText, hnumber, h])
  · exact Or.inl (by simp [ofText, hnumber])

theorem numberForm?_of_ofText_ne {text : Text} (h : ofText text ≠ .numeral) :
    numberForm? text = none := by
  rcases hnumber : numberForm? text with _ | form
  · rfl
  · exact absurd (by simp [ofText, hnumber]) h

/-- No numbers beside texts that write numbers, and no points in time beside
other texts. -/
structure Unmixed (kinds : SortKind → Prop) : Prop where
  numbers : kinds .number → ¬ kinds .numeral
  times : kinds .time → ¬ kinds .numeral ∧ ¬ kinds .text

end SortKind

/-- The kind of a value. -/
def Json.sortKind : Json → SortKind
  | null => .null
  | bool _ => .boolean
  | num _ => .number
  | str text => .ofText text
  | arr _ => .list
  | obj _ => .record

end QueryCache
