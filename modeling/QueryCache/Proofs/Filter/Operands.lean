/-
QueryCache.Proofs.Filter.Operands — operands that stand for one value.

The digits of an integer are read as that integer (`typedValue_writeInt`),
and a text between double quotes as that text (`typedValue_quoted`),
whatever else it could be taken for without them.
-/
import Mathlib.Tactic.IntervalCases
import QueryCache.Proofs.SortKinds
import QueryCache.Proofs.Text

namespace QueryCache

/-! ## 1. Blanks and quotes around a text -/

namespace Text

/-- A text that begins and ends with something else than a blank. -/
theorem trim_eq_self {text : Text} (hfirst : ∀ c ∈ text.head?, Unicode.isBlank c = false)
    (hlast : ∀ c ∈ text.getLast?, Unicode.isBlank c = false) : trim text = text := by
  rcases eq_or_ne text [] with rfl | hne
  · rfl
  · have hafter : IsBlank [] := fun c hc => by simp at hc
    have h := trim_append_blank hne hfirst hlast hafter
    rwa [List.append_nil] at h

/-- No blanks stand around a text between two marks. -/
theorem ends_enclosed {opening closing : Char} (hopening : Unicode.isBlank opening = false)
    (hclosing : Unicode.isBlank closing = false) (inner : Text) :
    (∀ c ∈ (opening :: (inner ++ [closing])).head?, Unicode.isBlank c = false) ∧
      ∀ c ∈ (opening :: (inner ++ [closing])).getLast?, Unicode.isBlank c = false := by
  constructor
  · rintro c ⟨rfl⟩
    exact hopening
  · rw [← List.cons_append, List.getLast?_concat]
    rintro c ⟨rfl⟩
    exact hclosing

theorem between_append (opening closing : Char) (inner : Text) :
    between opening closing (opening :: (inner ++ [closing])) = some inner := by
  have hstart :
      stripStart [opening] (opening :: (inner ++ [closing])) = some (inner ++ [closing]) :=
    stripStart_append [opening] _
  have hend : stripEnd [closing] (inner ++ [closing]) = some inner := by
    simp [stripEnd, List.isSuffixOf?, List.reverse_append, List.isPrefixOf?]
  rw [between, hstart, Option.bind_some, hend]

theorem between_eq_none {opening closing : Char} {text : Text} (h : text.head? ≠ some opening) :
    between opening closing text = none := by
  rw [between]
  rcases hstart : stripStart [opening] text with _ | rest
  · rfl
  · rw [stripStart_eq_some_iff.1 hstart] at h
    exact absurd rfl h

/-! ## 2. The digits of a number -/

theorem isDigit_of_char {c : Char} (h : c.isDigit = true) : isDigit c = true := by
  simpa [Char.isDigit, isDigit, Char.le_def] using h

theorem isDigit_ofNat {n : Nat} {c : Char} (h : c ∈ ofNat n) : isDigit c = true :=
  isDigit_of_char (Nat.isDigit_of_mem_toDigits (by decide) (by decide) h)

theorem digitsValue_ofNat (n : Nat) : digitsValue (ofNat n) = n :=
  Nat.ofDigitChars_toDigits (by decide) (by decide)

theorem ofNat_ne_nil (n : Nat) : ofNat n ≠ [] :=
  Nat.toDigits_ne_nil

/-- Only zero is written with a zero in front. -/
theorem head?_ofNat {n : Nat} (h : 0 < n) : (ofNat n).head? ≠ some '0' := by
  induction n using Nat.strongRecOn with
  | ind n ih =>
    rw [ofNat, Nat.toDigits_eq_if (by decide)]
    split
    · rename_i hlt
      interval_cases n <;> decide
    · obtain ⟨first, digits, hdigits⟩ := List.exists_cons_of_ne_nil (ofNat_ne_nil (n / 10))
      have hhead := ih (n / 10) (by omega) (by omega)
      rw [← ofNat, hdigits]
      rwa [hdigits] at hhead

end Text

/-- Digits, perhaps behind a minus, are read as the number they write. -/
theorem numberForm?_digits (negative : Bool) {digits : Text} (hne : digits ≠ [])
    (hdigits : ∀ c ∈ digits, Text.isDigit c = true)
    (hlead : digits.length = 1 ∨ digits.head? ≠ some '0') :
    numberForm? ((if negative then ['-'] else []) ++ digits) =
      some ⟨negative, digits, [], none⟩ := by
  have htake : digits.takeWhile Text.isDigit = digits := List.takeWhile_eq_self_iff.2 hdigits
  have hdrop : digits.dropWhile Text.isDigit = [] := List.dropWhile_eq_nil_iff.2 hdigits
  have hwhole : (!digits.isEmpty && (digits.length = 1 || digits.head? != some '0')) = true := by
    simpa [hne] using hlead
  have hread : Form.readNumber ((if negative then ['-'] else []) ++ digits) =
      some (⟨negative, digits, [], none⟩, []) := by
    unfold Form.readNumber
    split
    rename_i minus number hcut
    have hcut : minus = negative ∧ number = digits := by
      split at hcut
      · rename_i rest htext
        -- The minus stands in front of the digits, as none of them is a minus.
        cases negative with
        | true => simp_all
        | false => exact absurd (hdigits '-' (by simp_all)) (by decide)
      · cases negative with
        | true => simp_all
        | false => simp_all
    obtain ⟨rfl, rfl⟩ := hcut
    simp only [htake, hdrop, hwhole]
    rfl
  rw [numberForm?, hread]

/-! ## 3. Integers and quoted texts -/

/-- The integers of 64 bits. -/
def IsSigned (n : Int) : Prop :=
  -(signedLimit : Int) ≤ n ∧ n < signedLimit

instance : DecidablePred IsSigned := fun n =>
  inferInstanceAs (Decidable (-(signedLimit : Int) ≤ n ∧ n < signedLimit))

theorem char_of_mem_writeInt {n : Int} {c : Char} (h : c ∈ writeInt n) :
    c = '-' ∨ Text.isDigit c = true := by
  cases n with
  | ofNat n => exact Or.inr (Text.isDigit_ofNat h)
  | negSucc n =>
    rcases List.mem_cons.1 h with rfl | h
    · exact Or.inl rfl
    · exact Or.inr (Text.isDigit_ofNat h)

theorem writeInt_ne_nil (n : Int) : writeInt n ≠ [] := by
  cases n with
  | ofNat n => exact Text.ofNat_ne_nil n
  | negSucc n => exact List.cons_ne_nil _ _

theorem not_isBlank_writeInt {n : Int} {c : Char} (h : c ∈ writeInt n) :
    Unicode.isBlank c = false := by
  rcases char_of_mem_writeInt h with rfl | hdigit
  · decide
  · exact not_isBlank_of_isDigit hdigit

/-- The written form of an integer is a number without fraction. -/
theorem exists_numberForm?_writeInt {n : Int} (h : IsSigned n) :
    ∃ form, numberForm? (writeInt n) = some form ∧ form.signedInt? = some n := by
  have hlead : ∀ n : Nat, (Text.ofNat n).length = 1 ∨ (Text.ofNat n).head? ≠ some '0' := by
    intro n
    rcases n.eq_zero_or_pos with rfl | hpos
    · exact Or.inl rfl
    · exact Or.inr (Text.head?_ofNat hpos)
  obtain ⟨hlow, hhigh⟩ := h
  cases n with
  | ofNat n =>
    refine ⟨⟨false, Text.ofNat n, [], none⟩, numberForm?_digits false (Text.ofNat_ne_nil n)
      (fun _ => Text.isDigit_ofNat) (hlead n), ?_⟩
    have hlt : n < signedLimit := Int.ofNat_lt.1 hhigh
    simp only [NumberForm.signedInt?, Text.digitsValue_ofNat]
    simp [hlt]
  | negSucc n =>
    refine ⟨⟨true, Text.ofNat (n + 1), [], none⟩, numberForm?_digits true
      (Text.ofNat_ne_nil (n + 1)) (fun _ => Text.isDigit_ofNat) (hlead (n + 1)), ?_⟩
    have hle : n + 1 ≤ signedLimit := by omega
    simp only [NumberForm.signedInt?, Text.digitsValue_ofNat]
    simp [hle, Int.negSucc_eq]

/-- The digits of an integer stand for the integer. -/
theorem typedValue_writeInt {n : Int} (h : IsSigned n) :
    typedValue (writeInt n) = .num (.int n) := by
  have hword : ∀ word : Text, (∃ c ∈ word, c ≠ '-' ∧ Text.isDigit c = false) →
      writeInt n ≠ word := by
    rintro word ⟨c, hc, hminus, hdigit⟩ rfl
    rcases char_of_mem_writeInt hc with rfl | h
    · exact hminus rfl
    · rw [hdigit] at h
      contradiction
  have htrim : Text.trim (writeInt n) = writeInt n :=
    Text.trim_eq_self (fun c hc => not_isBlank_writeInt (List.mem_of_head? hc))
      fun c hc => not_isBlank_writeInt (List.mem_of_getLast? hc)
  have hquote : (writeInt n).head? ≠ some '"' := by
    intro hhead
    rcases char_of_mem_writeInt (List.mem_of_head? hhead) with h | h <;>
      exact absurd h (by decide)
  obtain ⟨form, hform, hint⟩ := exists_numberForm?_writeInt h
  have hnull : writeInt n ≠ "null".toList := hword _ ⟨'n', by decide, by decide, by decide⟩
  have htrue : writeInt n ≠ "true".toList := hword _ ⟨'t', by decide, by decide, by decide⟩
  have hfalse : writeInt n ≠ "false".toList := hword _ ⟨'f', by decide, by decide, by decide⟩
  simp only [typedValue, htrim, Text.between_eq_none hquote, if_neg hnull, if_neg htrue,
    if_neg hfalse, hform, hint]

/-- A text between double quotes stands for the text. -/
theorem typedValue_quoted (text : Text) : typedValue ('"' :: (text ++ ['"'])) = .str text := by
  have hends := @Text.ends_enclosed '"' '"' (by decide) (by decide) text
  have htrim := Text.trim_eq_self hends.1 hends.2
  rw [typedValue]
  simp only [htrim, Text.between_append]

end QueryCache
