/-
QueryCache.Proofs.Select.Reading — the equations of the clause reader.

`Field.parse` and `Field.parseList` are read off a recursion that carries
the proof of its own progress.  Their equations (`parse_eq`,
`parseList_eq`) say the same without it, and the cursor is described by
what is left to read.  A successful read takes one of two steps for a
field and one of two for a list, so a fact about such reads is proved step
by step (`parseList_induction`).
-/
import QueryCache.Select.Field

namespace QueryCache

/-! ## 1. The cursor by what is left -/

namespace Cursor

theorem rest_forward (c : Cursor) (count : Nat) : (c.forward count).rest = c.rest.drop count := by
  simp [rest, forward, List.drop_drop]

/-- What is left behind a text that was read. -/
theorem rest_forward_append {c : Cursor} {text tail : Text} (h : c.rest = text ++ tail) :
    (c.forward text.length).rest = tail := by
  rw [rest_forward, h, List.drop_left]

theorem forward_zero (c : Cursor) : c.forward 0 = c := rfl

theorem forward_forward (c : Cursor) (m n : Nat) :
    (c.forward m).forward n = c.forward (m + n) := by
  simp [forward, Nat.add_assoc]

@[simp] theorem depth_forward (c : Cursor) (count : Nat) : (c.forward count).depth = c.depth := rfl

theorem current_eq (c : Cursor) : c.current = c.rest.head?.getD '\x00' := by
  simp [current, rest, List.head?_drop]

theorem atEnd_eq (c : Cursor) : c.atEnd = c.rest.isEmpty := by
  rw [Bool.eq_iff_iff]
  simp [atEnd, rest]

theorem range_ahead (c : Cursor) (count : Nat) :
    c.range c.position (c.position + count) = c.rest.take count := by
  simp [range, rest, List.drop_take]

/-- The text that was just read. -/
theorem since_forward (c : Cursor) (count : Nat) :
    (c.forward count).since c.position = c.rest.take count :=
  c.range_ahead count

/-- Nothing is skipped in front of a character that is not to be skipped. -/
theorem skipWhile_of_head {p : Char → Bool} {c : Cursor} (h : ∀ x ∈ c.rest.head?, p x = false) :
    c.skipWhile p = c := by
  have hnil : c.rest.takeWhile p = [] := by
    rcases hrest : c.rest with _ | ⟨x, rest⟩
    · rfl
    · rw [List.takeWhile_cons_of_neg (by simpa [hrest] using h x (by simp [hrest]))]
  simp [skipWhile, hnil, forward_zero]

/-- Characters to be skipped, up to one that is not, are skipped. -/
theorem skipWhile_append {p : Char → Bool} {c : Cursor} {front rest : Text}
    (hc : c.rest = front ++ rest) (hfront : ∀ x ∈ front, p x = true)
    (hrest : ∀ x ∈ rest.head?, p x = false) : c.skipWhile p = c.forward front.length := by
  have htake : (front ++ rest).takeWhile p = front := by
    rw [List.takeWhile_append_of_pos hfront]
    rcases rest with _ | ⟨x, rest⟩
    · simp
    · rw [List.takeWhile_cons_of_neg (by simpa using hrest x (by simp)), List.append_nil]
  simp [skipWhile, hc, htake]

end Cursor

/-! ## 2. The reader without its proofs -/

namespace Field

theorem parse_eq (c : Cursor) :
    parse c =
      match Head.parse c with
      | (.error error, c') => (.error error, c')
      | (.ok head, c') =>
        if c'.current = '(' then
          match parseList c'.enter with
          | (.error error, c'') => (.error error, c'')
          | (.ok children, c'') => (.ok (mk head children), c''.leave)
        else (.ok (mk head []), c') := by
  unfold parse
  rw [reading]
  split
  · rename_i error c' hp
    simp [hp, Reading.refuse]
  · rename_i head c' hp
    simp only [hp]
    split
    · rename_i hopen
      simp only [parseList]
      split <;> rename_i hlist <;> simp [hlist, Reading.refuse]
    · rfl

theorem parseList_eq (c : Cursor) :
    parseList c =
      match parse c with
      | (.error error, c') => (.error error, c')
      | (.ok field, c') =>
        if c'.skipBlanks.atEnd then
          if 0 < c'.skipBlanks.depth then
            (.error (c'.skipBlanks.error .missingClosingParenthesis c'.skipBlanks.position),
              c'.skipBlanks)
          else (.ok [field], c'.skipBlanks)
        else if c'.skipBlanks.current = ',' then
          match parseList c'.skipBlanks.next with
          | (.error error, c'') => (.error error, c'')
          | (.ok fields, c'') => (.ok (field :: fields), c'')
        else if c'.skipBlanks.current = ')' then
          if 0 < c'.skipBlanks.depth then (.ok [field], c'.skipBlanks)
          else
            (.error (c'.skipBlanks.error .unbalancedParentheses c'.skipBlanks.position),
              c'.skipBlanks)
        else
          (.error (c'.skipBlanks.error .invalidField c'.skipBlanks.position), c'.skipBlanks) := by
  unfold parse
  conv => lhs; rw [parseList, readingList]
  split
  · rename_i error c' _ hp
    simp [hp, Reading.refuse]
  · rename_i field c' _ hp
    simp only [hp]
    split
    · split <;> simp [Reading.refuse]
    · split
      · simp only [parseList]
        split <;> rename_i hlist <;> simp [hlist, Reading.refuse]
      · split
        · split <;> simp [Reading.refuse]
        · simp [Reading.refuse]

/-! ## 3. What follows a field -/

/-- What may follow a field. -/
def Ends (tail : Text) : Prop :=
  ∀ x ∈ tail.head?, x = ',' ∨ x = ')'

theorem Ends.not_isHeadChar {tail : Text} (h : Ends tail) :
    ∀ x ∈ tail.head?, Head.isHeadChar x = false := by
  intro x hx
  rcases h x hx with rfl | rfl <;> decide

theorem Ends.not_isBlank {tail : Text} (h : Ends tail) :
    ∀ x ∈ tail.head?, Unicode.isBlank x = false := by
  intro x hx
  rcases h x hx with rfl | rfl <;> decide

theorem Ends.skipBlanks_eq {c : Cursor} (h : Ends c.rest) : c.skipBlanks = c :=
  Cursor.skipWhile_of_head h.not_isBlank

/-- What follows a field opens no parenthesis. -/
theorem Ends.head_ne {tail : Text} (h : Ends tail) : tail.head?.getD '\x00' ≠ '(' := by
  rcases tail with _ | ⟨x, tail⟩
  · decide
  · rcases h x rfl with rfl | rfl <;> simp

/-- What may follow the last field of a level: nothing at the top, and
below it the parenthesis that closes the level. -/
def EndsLevel (depth : Nat) (tail : Text) : Prop :=
  (tail = [] ∧ depth = 0) ∨ (tail.head? = some ')' ∧ 0 < depth)

theorem EndsLevel.ends {depth : Nat} {tail : Text} (h : EndsLevel depth tail) : Ends tail := by
  intro x hx
  rcases h with ⟨rfl, -⟩ | ⟨h, -⟩
  · simp at hx
  · rw [h] at hx
    exact Or.inr (Option.some.inj hx).symm

/-! ## 4. Successful reads -/

theorem parse_leaf {c c' : Cursor} {head : Head} (hhead : Head.parse c = (.ok head, c'))
    (hopen : c'.current ≠ '(') : parse c = (.ok (mk head []), c') := by
  simp only [parse_eq, hhead, hopen, if_false]

theorem parse_relation {c c' c'' : Cursor} {head : Head} {children : List Field}
    (hhead : Head.parse c = (.ok head, c')) (hopen : c'.current = '(')
    (hlist : parseList c'.enter = (.ok children, c'')) :
    parse c = (.ok (mk head children), c''.leave) := by
  simp only [parse_eq, hhead, hopen, if_true, hlist]

theorem parseList_last {c c' : Cursor} {field : Field} (hfield : parse c = (.ok field, c'))
    (hends : EndsLevel c'.skipBlanks.depth c'.skipBlanks.rest) :
    parseList c = (.ok [field], c'.skipBlanks) := by
  rw [parseList_eq, hfield]
  simp only [Cursor.atEnd_eq, Cursor.current_eq]
  rcases hends with ⟨hnil, hdepth⟩ | ⟨hclose, hdepth⟩
  · simp [hnil, hdepth]
  · obtain ⟨rest, hrest⟩ := List.head?_eq_some_iff.1 hclose
    simp [hrest, hdepth]

theorem parseList_next {c c' c'' : Cursor} {field : Field} {others : List Field}
    (hfield : parse c = (.ok field, c')) (hcomma : c'.skipBlanks.rest.head? = some ',')
    (hothers : parseList c'.skipBlanks.next = (.ok others, c'')) :
    parseList c = (.ok (field :: others), c'') := by
  obtain ⟨rest, hrest⟩ := List.head?_eq_some_iff.1 hcomma
  rw [parseList_eq, hfield]
  simp [Cursor.atEnd_eq, Cursor.current_eq, hrest, hothers]

/-- A field is read as a head alone, or as a head and the clause nested
behind it. -/
theorem parse_eq_ok {c c' : Cursor} {field : Field} (h : parse c = (.ok field, c')) :
    ∃ head c₁, Head.parse c = (.ok head, c₁) ∧
      (c₁.current ≠ '(' ∧ field = mk head [] ∧ c' = c₁ ∨
        ∃ children c₂, c₁.current = '(' ∧ parseList c₁.enter = (.ok children, c₂) ∧
          field = mk head children ∧ c' = c₂.leave) := by
  rw [parse_eq] at h
  split at h
  · simp at h
  · rename_i head c₁ hhead
    refine ⟨head, c₁, hhead, ?_⟩
    split at h
    · rename_i hopen
      split at h
      · simp at h
      · rename_i children c₂ hlist
        obtain ⟨hfield, hcursor⟩ := Prod.mk.inj h
        exact Or.inr ⟨children, c₂, hopen, hlist, (Except.ok.inj hfield).symm, hcursor.symm⟩
    · rename_i hopen
      obtain ⟨hfield, hcursor⟩ := Prod.mk.inj h
      exact Or.inl ⟨hopen, (Except.ok.inj hfield).symm, hcursor.symm⟩

/-- A list of fields is read as a field that ends it, or as a field, a comma
and the other fields. -/
theorem parseList_eq_ok {c c' : Cursor} {fields : List Field}
    (h : parseList c = (.ok fields, c')) :
    ∃ field c₁, parse c = (.ok field, c₁) ∧
      (EndsLevel c₁.skipBlanks.depth c₁.skipBlanks.rest ∧ fields = [field] ∧ c' = c₁.skipBlanks ∨
        ∃ others, c₁.skipBlanks.rest.head? = some ',' ∧
          parseList c₁.skipBlanks.next = (.ok others, c') ∧ fields = field :: others) := by
  rw [parseList_eq] at h
  split at h
  · simp at h
  · rename_i field c₁ hfield
    refine ⟨field, c₁, hfield, ?_⟩
    simp only [Cursor.atEnd_eq, Cursor.current_eq] at h
    have hone : ((.ok [field], c₁.skipBlanks) : Except ParseError (List Field) × Cursor) =
        (.ok fields, c') → fields = [field] ∧ c' = c₁.skipBlanks := by
      intro heq
      obtain ⟨hfields, hcursor⟩ := Prod.mk.inj heq
      exact ⟨(Except.ok.inj hfields).symm, hcursor.symm⟩
    split at h
    · rename_i hnil
      split at h
      · simp at h
      · rename_i hdepth
        exact Or.inl ⟨Or.inl ⟨List.isEmpty_iff.1 hnil, Nat.eq_zero_of_not_pos hdepth⟩, hone h⟩
    · rename_i hnil
      obtain ⟨x, rest, hrest⟩ :=
        List.exists_cons_of_ne_nil fun heq => hnil (List.isEmpty_iff.2 heq)
      simp only [hrest, List.head?_cons, Option.getD_some] at h ⊢
      by_cases hcomma : x = ','
      · rw [if_pos hcomma] at h
        split at h
        · simp at h
        · rename_i others c₂ hothers
          obtain ⟨hfields, hcursor⟩ := Prod.mk.inj h
          exact Or.inr ⟨others, congrArg some hcomma, hcursor ▸ hothers,
            (Except.ok.inj hfields).symm⟩
      · rw [if_neg hcomma] at h
        split at h
        · rename_i hclose
          split at h
          · rename_i hdepth
            exact Or.inl ⟨Or.inr ⟨congrArg some hclose, hdepth⟩, hone h⟩
          · simp at h
        · simp at h

section

variable {P : Cursor → Field → Cursor → Prop} {Q : Cursor → List Field → Cursor → Prop}
  (leaf : ∀ {c c' head}, Head.parse c = (.ok head, c') → c'.current ≠ '(' → P c (mk head []) c')
  (relation : ∀ {c c' c'' head children}, Head.parse c = (.ok head, c') → c'.current = '(' →
    Q c'.enter children c'' → P c (mk head children) c''.leave)
  (last : ∀ {c c' field}, P c field c' → EndsLevel c'.skipBlanks.depth c'.skipBlanks.rest →
    Q c [field] c'.skipBlanks)
  (next : ∀ {c c' c'' field others}, P c field c' → c'.skipBlanks.rest.head? = some ',' →
    Q c'.skipBlanks.next others c'' → Q c (field :: others) c'')
include leaf relation last next

/-- What every step of the reader brings about holds of every list that was
read. -/
theorem parseList_induction {c c' : Cursor} {fields : List Field}
    (h : parseList c = (.ok fields, c')) : Q c fields c' := by
  -- A field and the list that begins with it are read from one place, so
  -- the induction is on what remains for the list.
  suffices ∀ n, ∀ c : Cursor, c.remaining < n → ∀ fields c', parseList c = (.ok fields, c') →
      Q c fields c' from this (c.remaining + 1) c (Nat.lt_succ_self _) fields c' h
  intro n
  induction n with
  | zero => exact fun c hc => absurd hc (Nat.not_lt_zero _)
  | succ n ih =>
    intro c hc fields c' h
    obtain ⟨field, c₁, hfield, hlist⟩ := parseList_eq_ok h
    have hless : c₁.skipBlanks.remaining < c.remaining := by
      have hless := @remaining_parse_lt c field (by rw [hfield])
      rw [hfield] at hless
      exact Nat.lt_of_le_of_lt (Cursor.remaining_skipBlanks_le c₁) hless
    have hfirst : P c field c₁ := by
      obtain ⟨head, c₂, hhead, ⟨hopen, rfl, rfl⟩ | ⟨children, c₃, hopen, hchildren, rfl, rfl⟩⟩ :=
        parse_eq_ok hfield
      · exact leaf hhead hopen
      · refine relation hhead hopen (ih _ ?_ children c₃ hchildren)
        have hless := @Head.remaining_parse_lt c head (by rw [hhead])
        rw [hhead] at hless
        dsimp only at hless
        rw [Cursor.remaining_enter]
        omega
    rcases hlist with ⟨hends, rfl, rfl⟩ | ⟨others, hcomma, hothers, rfl⟩
    · exact last hfirst hends
    · refine next hfirst hcomma (ih _ ?_ others c' hothers)
      rw [Cursor.remaining_next]
      omega

end

end Field
end QueryCache
