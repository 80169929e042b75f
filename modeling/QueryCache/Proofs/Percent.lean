/-
QueryCache.Proofs.Percent — texts that write themselves.

The bytes of a character are read as that character (`decodeFrom_encodeChar`),
so a text is read back from its bytes.  A text without percent and plus
signs writes nothing but its own bytes, and is therefore what it stands for
in a query string (`decode_of_isVerbatim`).
-/
import Mathlib.Tactic.Common
import QueryCache.Proofs.Text
import QueryCache.Text.Percent

namespace QueryCache

/-! ## 1. Bytes of characters -/

namespace Utf8

/-- A character is a code point below the surrogates or above them. -/
theorem toNat_of_char (c : Char) : c.toNat < 0xD800 ∨ 0xDFFF < c.toNat ∧ c.toNat < 0x110000 :=
  c.valid

/-- A continuation byte within the bounds adds six bits. -/
theorem decodeFrom_continuation {pending : Pending} {byte : Nat} (rest : List Nat)
    (howed : 1 < pending.owed) (hlow : pending.low ≤ byte) (hhigh : byte ≤ pending.high) :
    decodeFrom (some pending) (byte :: rest) =
      decodeFrom (some ⟨pending.bits * 0x40 + (byte - 0x80), pending.owed - 1, 0x80, 0xBF⟩)
        rest := by
  rw [decodeFrom, if_pos ⟨hlow, hhigh⟩, if_neg (by omega)]

/-- The last continuation byte ends the character. -/
theorem decodeFrom_last {pending : Pending} {byte : Nat} (rest : List Nat)
    (howed : pending.owed = 1) (hlow : pending.low ≤ byte) (hhigh : byte ≤ pending.high) :
    decodeFrom (some pending) (byte :: rest) =
      (decodeFrom none rest).map (Char.ofNat (pending.bits * 0x40 + (byte - 0x80)) :: ·) := by
  rw [decodeFrom, if_pos ⟨hlow, hhigh⟩, if_pos (by omega)]

/-- A byte that begins a longer character. -/
theorem decodeFrom_first {byte : Nat} {pending : Pending} (rest : List Nat)
    (hbyte : 0x80 ≤ byte) (hfirst : Pending.ofFirst? byte = some pending) :
    decodeFrom none (byte :: rest) = decodeFrom (some pending) rest := by
  rw [decodeFrom, if_neg (by omega), hfirst]

/-- What the first byte of a character of two bytes begins. -/
theorem ofFirst?_two {byte : Nat} (hlow : 0xC2 ≤ byte) (hhigh : byte ≤ 0xDF) :
    Pending.ofFirst? byte = some ⟨byte - 0xC0, 1, 0x80, 0xBF⟩ := by
  rw [Pending.ofFirst?, if_pos ⟨hlow, hhigh⟩]

/-- The bits that the first byte of a character of three bytes holds; its
bounds leave out overlong forms and surrogates. -/
theorem exists_ofFirst?_three {n : Nat} (hlow : 0x800 ≤ n) (hhigh : n < 0x10000)
    (hvalid : n < 0xD800 ∨ 0xDFFF < n) :
    ∃ low high, Pending.ofFirst? (0xE0 + n / 0x1000) = some ⟨n / 0x1000, 2, low, high⟩ ∧
      low ≤ 0x80 + n / 0x40 % 0x40 ∧ 0x80 + n / 0x40 % 0x40 ≤ high := by
  unfold Pending.ofFirst?
  split
  · omega
  split
  · exact ⟨0xA0, 0xBF, by simp; omega, by omega, by omega⟩
  split
  · exact ⟨0x80, 0x9F, by simp; omega, by omega, by omega⟩
  split
  · exact ⟨0x80, 0xBF, by simp, by omega, by omega⟩
  · omega

/-- The same for a character of four bytes; its bounds leave out overlong
forms and what lies beyond the last code point. -/
theorem exists_ofFirst?_four {n : Nat} (hlow : 0x10000 ≤ n) (hhigh : n < 0x110000) :
    ∃ low high, Pending.ofFirst? (0xF0 + n / 0x40000) = some ⟨n / 0x40000, 3, low, high⟩ ∧
      low ≤ 0x80 + n / 0x1000 % 0x40 ∧ 0x80 + n / 0x1000 % 0x40 ≤ high := by
  unfold Pending.ofFirst?
  split
  · omega
  split
  · omega
  split
  · omega
  split
  · omega
  split
  · exact ⟨0x90, 0xBF, by simp; omega, by omega, by omega⟩
  split
  · exact ⟨0x80, 0xBF, by simp, by omega, by omega⟩
  split
  · exact ⟨0x80, 0x8F, by simp; omega, by omega, by omega⟩
  · omega

/-- The bytes of a character are read as that character. -/
theorem decodeFrom_encodeChar (c : Char) (rest : List Nat) :
    decodeFrom none (encodeChar c ++ rest) = (decodeFrom none rest).map (c :: ·) := by
  have hvalid := toNat_of_char c
  have hchar : ∀ {n : Nat}, n = c.toNat → Char.ofNat n = c := by
    rintro _ rfl
    exact Char.ofNat_toNat c
  unfold encodeChar
  extract_lets n
  split
  · rename_i hone
    rw [List.singleton_append, decodeFrom, if_pos hone, hchar rfl]
  split
  · rename_i hone htwo
    rw [List.cons_append, List.singleton_append,
      decodeFrom_first _ (by omega) (ofFirst?_two (by omega) (by omega)),
      decodeFrom_last _ rfl (by simp) (by simp; omega), hchar (by simp only; omega)]
  split
  · rename_i hone htwo hthree
    obtain ⟨low, high, hfirst, hlow, hhigh⟩ :=
      exists_ofFirst?_three (n := n) (by omega) hthree (by omega)
    rw [List.cons_append, List.cons_append, List.singleton_append,
      decodeFrom_first _ (by omega) hfirst, decodeFrom_continuation _ (by simp) hlow hhigh,
      decodeFrom_last _ rfl (by simp) (by simp; omega), hchar (by simp only; omega)]
  · rename_i hone htwo hthree
    obtain ⟨low, high, hfirst, hlow, hhigh⟩ :=
      exists_ofFirst?_four (n := n) (by omega) (by omega)
    rw [List.cons_append, List.cons_append, List.cons_append, List.singleton_append,
      decodeFrom_first _ (by omega) hfirst, decodeFrom_continuation _ (by simp) hlow hhigh,
      decodeFrom_continuation _ (by simp) (by simp) (by simp; omega),
      decodeFrom_last _ rfl (by simp) (by simp; omega), hchar (by simp only; omega)]

/-- A text is read back from its bytes. -/
theorem decode_encodeText (text : Text) : decode (encode text) = some text := by
  induction text with
  | nil => rfl
  | cons c rest ih =>
    rw [decode, encode, List.flatMap_cons, decodeFrom_encodeChar, ← encode, ← decode, ih]
    rfl

end Utf8

/-! ## 2. Texts that stand for themselves -/

namespace Percent

/-- A text that stands for itself in a parameter: nothing in it is decoded
and nothing ends the parameter. -/
def IsVerbatim (text : Text) : Prop :=
  ∀ c ∈ text, c ≠ '%' ∧ c ≠ '+' ∧ c ≠ '&'

instance : DecidablePred IsVerbatim :=
  List.decidableBAll _

@[simp] theorem isVerbatim_append {front back : Text} :
    IsVerbatim (front ++ back) ↔ IsVerbatim front ∧ IsVerbatim back :=
  List.forall_mem_append

@[simp] theorem isVerbatim_cons {c : Char} {rest : Text} :
    IsVerbatim (c :: rest) ↔ (c ≠ '%' ∧ c ≠ '+' ∧ c ≠ '&') ∧ IsVerbatim rest :=
  List.forall_mem_cons

theorem isVerbatim_join {sep : Char} {parts : List Text} (hsep : IsVerbatim [sep])
    (h : ∀ part ∈ parts, IsVerbatim part) : IsVerbatim (Text.join sep parts) := by
  intro c hc
  rcases Text.mem_join hc with rfl | ⟨part, hmem, hc⟩
  · exact hsep c List.mem_cons_self
  · exact h part hmem c hc

theorem plusAsSpace_of_not_mem {text : Text} (h : '+' ∉ text) : plusAsSpace text = text := by
  refine (List.map_congr_left fun c hc => ?_).trans (List.map_id text)
  exact if_neg (ne_of_mem_of_not_mem hc h)

/-- Without a percent sign every character is written by itself. -/
theorem bytes_of_not_mem {text : Text} (h : '%' ∉ text) : bytes text = Utf8.encode text := by
  induction text with
  | nil => rfl
  | cons c rest ih =>
    simp only [List.mem_cons, not_or] at h
    rw [bytes, ih h.2, Utf8.encode, Utf8.encode, List.flatMap_cons]
    exact fun a b more hpercent _ => h.1 hpercent.symm

theorem decode_of_isVerbatim {text : Text} (h : IsVerbatim text) : decode text = some text := by
  have hplus : '+' ∉ text := fun hmem => (h _ hmem).2.1 rfl
  have hpercent : '%' ∉ text := fun hmem => (h _ hmem).1 rfl
  rw [decode, plusAsSpace_of_not_mem hplus, bytes_of_not_mem hpercent, Utf8.decode_encodeText]

end Percent
end QueryCache
