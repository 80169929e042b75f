/-
QueryCache.Proofs.Select.Refused — one bad text refuses a statement.

A stretch of characters of a head is read as a head or refused, whatever
follows it (`Head.isRefused_of_chars`).  The reader takes the entries of a
statement one after the other and stops at the first text that it refuses.
So when a condition tells which entries have texts that read back, and the
texts of all others are refused, a statement is read exactly when every
entry meets the condition (`selectFields_statement_iff`).
-/
import QueryCache.Proofs.Select.Written

namespace QueryCache

/-! ## 1. Refused texts -/

namespace Head

/-- The text is refused in front of a character that ends it, and begins
with a character of a head. -/
structure IsRefused (written : Text) : Prop where
  parse_error : ∀ (c : Cursor) (tail : Text), c.rest = written ++ tail →
    (∀ x ∈ tail.head?, isHeadChar x = false) → ∃ error c', parse c = (.error error, c')
  first : ∃ x rest, written = x :: rest ∧ isHeadChar x = true ∧ Unicode.isBlank x = false

theorem isRefused_of_chars {written : Text} (hne : written ≠ [])
    (hchars : ∀ x ∈ written, isHeadChar x = true ∧ Unicode.isBlank x = false)
    (hinvalid : (ofWritten written).isValid = false) : IsRefused written where
  parse_error c tail hrest htail := by
    have hnone : Text.IsBlank [] := by simp [Text.IsBlank]
    have hparse := parse_stretch (c := c) hne hchars hnone hnone (by simpa using hrest) htail
    rw [hinvalid, Bool.not_false, if_pos rfl] at hparse
    exact ⟨_, _, hparse⟩
  first := exists_first_of_chars hne hchars

end Head

namespace Field

theorem parse_error_of_head {c c' : Cursor} {error : ParseError}
    (h : Head.parse c = (.error error, c')) : parse c = (.error error, c') := by
  simp only [parse_eq, h]

theorem parse_error_of_list {c c' c'' : Cursor} {head : Head} {error : ParseError}
    (hhead : Head.parse c = (.ok head, c')) (hopen : c'.current = '(')
    (hlist : parseList c'.enter = (.error error, c'')) : parse c = (.error error, c'') := by
  simp only [parse_eq, hhead, hopen, if_true, hlist]

theorem parseList_error_of_first {c c' : Cursor} {error : ParseError}
    (h : parse c = (.error error, c')) : parseList c = (.error error, c') := by
  rw [parseList_eq, h]

theorem parseList_error_of_next {c c' c'' : Cursor} {field : Field} {error : ParseError}
    (hfield : parse c = (.ok field, c')) (hcomma : c'.skipBlanks.rest.head? = some ',')
    (hothers : parseList c'.skipBlanks.next = (.error error, c'')) :
    parseList c = (.error error, c'') := by
  obtain ⟨rest, hrest⟩ := List.head?_eq_some_iff.1 hcomma
  rw [parseList_eq, hfield]
  simp [Cursor.atEnd_eq, Cursor.current_eq, hrest, hothers]

end Field

namespace GroupedPath

/-! ## 2. Entries that a condition tells -/

mutual

/-- The entry and all below it have the property. -/
def Every (p : Entry → Prop) : GroupedPath → Prop
  | leaf entry => p entry
  | nested entry paths => p entry ∧ EveryOf p paths

/-- All entries of a statement have the property. -/
def EveryOf (p : Entry → Prop) : List GroupedPath → Prop
  | [] => True
  | grouped :: rest => Every p grouped ∧ EveryOf p rest

end

section

variable (p : Entry → Prop) [DecidablePred p]

mutual

def decidableEvery : (grouped : GroupedPath) → Decidable (grouped.Every p)
  | leaf entry => inferInstanceAs (Decidable (p entry))
  | nested entry paths =>
    @instDecidableAnd _ _ (inferInstanceAs (Decidable (p entry))) (decidableEveryOf paths)

def decidableEveryOf : (paths : List GroupedPath) → Decidable (EveryOf p paths)
  | [] => isTrue trivial
  | grouped :: rest => @instDecidableAnd _ _ (decidableEvery grouped) (decidableEveryOf rest)

end

instance : DecidablePred (EveryOf p) := decidableEveryOf p

end

/-- The text of an entry reads back if the entry has the property, and is
refused if not. -/
def Tells (p : Entry → Prop) (entry : Entry) : Prop :=
  p entry ∧ Head.ReadsBack entry.declaration ∨ ¬ p entry ∧ Head.IsRefused entry.declaration

mutual

/-- The property tells the texts of the entry and of all below it; no
relation is empty. -/
def IsToldBy (p : Entry → Prop) : GroupedPath → Prop
  | leaf entry => Tells p entry
  | nested entry paths => Tells p entry ∧ paths ≠ [] ∧ AreToldBy p paths

def AreToldBy (p : Entry → Prop) : List GroupedPath → Prop
  | [] => True
  | grouped :: rest => IsToldBy p grouped ∧ AreToldBy p rest

end

variable {p : Entry → Prop}

theorem areToldBy_append {front back : List GroupedPath} (hfront : AreToldBy p front)
    (hback : AreToldBy p back) : AreToldBy p (front ++ back) := by
  induction front with
  | nil => exact hback
  | cons grouped rest ih =>
    rw [AreToldBy] at hfront
    rw [List.cons_append, AreToldBy]
    exact ⟨hfront.1, ih hfront.2⟩

theorem Tells.readsBack {entry : Entry} (h : Tells p entry) (hentry : p entry) :
    Head.ReadsBack entry.declaration := by
  rcases h with ⟨-, hreads⟩ | ⟨hnot, -⟩
  · exact hreads
  · exact absurd hentry hnot

theorem Tells.isRefused {entry : Entry} (h : Tells p entry) (hentry : ¬ p entry) :
    Head.IsRefused entry.declaration := by
  rcases h with ⟨hp, -⟩ | ⟨-, hrefused⟩
  · exact absurd hp hentry
  · exact hrefused

theorem Tells.first {entry : Entry} (h : Tells p entry) :
    ∃ x rest, entry.declaration = x :: rest ∧ Head.isHeadChar x = true ∧
      Unicode.isBlank x = false := by
  rcases h with ⟨-, hreads⟩ | ⟨-, hrefused⟩
  · exact hreads.first
  · exact hrefused.first

mutual

theorem readsBack_of_every : (grouped : GroupedPath) → grouped.IsToldBy p → grouped.Every p →
    grouped.ReadsBack
  | leaf entry, htold, h => by
    rw [IsToldBy] at htold
    rw [Every] at h
    rw [ReadsBack]
    exact htold.readsBack h
  | nested entry paths, htold, h => by
    rw [IsToldBy] at htold
    rw [Every] at h
    rw [ReadsBack]
    exact ⟨htold.1.readsBack h.1, htold.2.1, allReadBack_of_everyOf paths htold.2.2 h.2⟩

theorem allReadBack_of_everyOf : (paths : List GroupedPath) → AreToldBy p paths →
    EveryOf p paths → AllReadBack paths
  | [], _, _ => by rw [AllReadBack]; trivial
  | grouped :: rest, htold, h => by
    rw [AreToldBy] at htold
    rw [EveryOf] at h
    rw [AllReadBack]
    exact ⟨readsBack_of_every grouped htold.1 h.1, allReadBack_of_everyOf rest htold.2 h.2⟩

end

theorem first_of_isToldBy {grouped : GroupedPath} (h : grouped.IsToldBy p) :
    ∃ x rest, statementOf grouped = x :: rest ∧ Head.isHeadChar x = true ∧
      Unicode.isBlank x = false := by
  cases grouped with
  | leaf entry =>
    rw [IsToldBy] at h
    obtain ⟨x, rest, heq, hx⟩ := h.first
    exact ⟨x, rest, by rw [statementOf, heq], hx⟩
  | nested entry paths =>
    rw [IsToldBy] at h
    obtain ⟨x, rest, heq, hx⟩ := h.1.first
    exact ⟨x, _, by rw [statementOf_nested, heq, List.cons_append], hx⟩

theorem first_of_areToldBy {paths : List GroupedPath} (hne : paths ≠ []) (h : AreToldBy p paths) :
    ∃ x rest, statement paths = x :: rest ∧ Head.isHeadChar x = true ∧
      Unicode.isBlank x = false := by
  obtain ⟨grouped, others, rfl⟩ := List.exists_cons_of_ne_nil hne
  rw [AreToldBy] at h
  obtain ⟨x, rest, heq, hx⟩ := first_of_isToldBy h.1
  by_cases hothers : others = []
  · subst hothers
    exact ⟨x, rest, heq, hx⟩
  · exact ⟨x, _, by rw [statement_cons grouped hothers, heq, List.cons_append], hx⟩

/-! ## 3. The first refusal -/

mutual

/-- An entry is refused for its own text or for one below it. -/
theorem parse_refused : (grouped : GroupedPath) → grouped.IsToldBy p → ¬ grouped.Every p →
    (c : Cursor) → (tail : Text) → c.rest = statementOf grouped ++ tail → Field.Ends tail →
    ∃ error c', Field.parse c = (.error error, c')
  | leaf entry, htold, h, c, tail, hrest, htail => by
    rw [IsToldBy] at htold
    rw [Every] at h
    rw [statementOf] at hrest
    obtain ⟨error, c', hhead⟩ :=
      (htold.isRefused h).parse_error c tail hrest htail.not_isHeadChar
    exact ⟨error, c', Field.parse_error_of_head hhead⟩
  | nested entry paths, htold, h, c, tail, hrest, htail => by
    rw [IsToldBy] at htold
    obtain ⟨hentry, hne, hpaths⟩ := htold
    rw [Every] at h
    rw [statementOf_nested] at hrest
    have hrest' : c.rest = entry.declaration ++ '(' :: (statement paths ++ ')' :: tail) := by
      rw [hrest]
      simp
    by_cases hp : p entry
    · have hcall : ('(' :: (statement paths ++ ')' :: tail)).take 2 ≠ "()".toList := by
        obtain ⟨x, rest, hstatement, hx, -⟩ := first_of_areToldBy hne hpaths
        rw [hstatement]
        intro hcall
        have hx' : x = ')' := (List.cons.inj (List.cons.inj hcall).2).1
        rw [hx'] at hx
        contradiction
      have hhead := (hentry.readsBack hp).parse_eq c _ hrest' (by simp [Head.isHeadChar]) hcall
      have hleft := Cursor.rest_forward_append hrest'
      obtain ⟨error, c', hlist⟩ := parseList_refused paths hne hpaths (fun hall => h ⟨hp, hall⟩)
        (c.forward entry.declaration.length).enter (')' :: tail)
        (by
          show ((c.forward entry.declaration.length).forward 1).rest = _
          rw [Cursor.rest_forward, hleft]
          rfl)
        (by rintro x ⟨⟩; exact Or.inr rfl)
      refine ⟨error, c', Field.parse_error_of_list hhead ?_ hlist⟩
      rw [Cursor.current_eq, hleft]
      rfl
    · obtain ⟨error, c', hhead⟩ :=
        (hentry.isRefused hp).parse_error c _ hrest' (by simp [Head.isHeadChar])
      exact ⟨error, c', Field.parse_error_of_head hhead⟩

/-- A level is refused at the first entry that is. -/
theorem parseList_refused : (paths : List GroupedPath) → paths ≠ [] → AreToldBy p paths →
    ¬ EveryOf p paths → (c : Cursor) → (tail : Text) → c.rest = statement paths ++ tail →
    Field.Ends tail → ∃ error c', Field.parseList c = (.error error, c')
  | [], hne, _, _, _, _, _, _ => absurd rfl hne
  | [grouped], _, htold, h, c, tail, hrest, htail => by
    rw [AreToldBy] at htold
    rw [EveryOf] at h
    rw [statement_singleton] at hrest
    obtain ⟨error, c', hfield⟩ :=
      parse_refused grouped htold.1 (fun hall => h ⟨hall, trivial⟩) c tail hrest htail
    exact ⟨error, c', Field.parseList_error_of_first hfield⟩
  | grouped :: next :: rest, _, htold, h, c, tail, hrest, htail => by
    rw [AreToldBy] at htold
    rw [EveryOf] at h
    rw [statement_cons grouped (by simp)] at hrest
    have hrest' : c.rest = statementOf grouped ++ ',' :: (statement (next :: rest) ++ tail) := by
      rw [hrest]
      simp
    have hends : Field.Ends (',' :: (statement (next :: rest) ++ tail)) := by
      rintro x ⟨⟩
      exact Or.inl rfl
    by_cases hall : grouped.Every p
    · have hfield := parse_statementOf grouped (readsBack_of_every grouped htold.1 hall) c _
        hrest' hends
      have hleft := Cursor.rest_forward_append hrest'
      have hskip := @Field.Ends.skipBlanks_eq (c.forward (statementOf grouped).length)
        (hleft.symm ▸ hends)
      obtain ⟨error, c', hothers⟩ := parseList_refused (next :: rest) (by simp) htold.2
        (fun hrest => h ⟨hall, hrest⟩) (c.forward (statementOf grouped).length).next tail
        (by rw [Cursor.next, Cursor.rest_forward, hleft]; rfl) htail
      refine ⟨error, c', Field.parseList_error_of_next hfield ?_ ?_⟩
      · rw [hskip, hleft]
        rfl
      · rw [hskip]
        exact hothers
    · obtain ⟨error, c', hfield⟩ := parse_refused grouped htold.1 hall c _ hrest' hends
      exact ⟨error, c', Field.parseList_error_of_first hfield⟩

end

/-- A statement is read exactly when every entry has the property, and then
as the fields that its entries spell. -/
theorem selectFields_statement_iff {paths : List GroupedPath} (h : AreToldBy p paths)
    {fields : List Field} :
    selectFields (statement paths) = .ok fields ↔ EveryOf p paths ∧ fields = toFields paths := by
  rcases hempty : paths with _ | ⟨first, rest⟩
  · rw [EveryOf, toFields, true_and]
    exact ⟨fun hread => (Except.ok.inj hread).symm, fun hread => hread ▸ rfl⟩
  · rw [hempty] at h
    have hne : first :: rest ≠ [] := List.cons_ne_nil _ _
    by_cases hall : EveryOf p (first :: rest)
    · rw [selectFields_readBack hne (allReadBack_of_everyOf _ h hall), Except.ok.injEq]
      exact ⟨fun heq => ⟨hall, heq.symm⟩, fun heq => heq.2.symm⟩
    · refine iff_of_false (fun hread => ?_) fun heq => hall heq.1
      obtain ⟨x, others, hstatement, -, hx⟩ := first_of_areToldBy hne h
      have htrim : (Text.trim (statement (first :: rest))).isEmpty = false := by
        simpa using Text.trim_ne_nil (hstatement ▸ List.mem_cons_self) hx
      obtain ⟨error, c', hlist⟩ := parseList_refused _ hne h hall
        { text := statement (first :: rest) } [] (by simp [Cursor.rest]) (by simp [Field.Ends])
      rw [selectFields, htrim, hlist] at hread
      contradiction

end GroupedPath
end QueryCache
