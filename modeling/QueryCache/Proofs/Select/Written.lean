/-
QueryCache.Proofs.Select.Written — a printed statement is read back.

A text reads back when it is read as the head that it spells, in front of
whatever ends it (`Head.ReadsBack`).  The texts of named heads do
(`Head.readsBack_named`).  A statement of texts that read back reads as
the fields that its entries spell (`selectFields_readBack`).  What ends an
entry is a comma, a closing parenthesis or the end of the clause:
`Field.Ends` is that condition, and each lemma says where the cursor stands afterwards.
-/
import QueryCache.Proofs.Select.Parsed
import QueryCache.Statement.Grouped

namespace QueryCache

/-! ## 1. Heads -/

namespace Head

/-- The text is read as the head that it spells, in front of a character
that ends it, and begins with a character of a head. -/
structure ReadsBack (written : Text) : Prop where
  parse_eq : ∀ (c : Cursor) (tail : Text), c.rest = written ++ tail →
    (∀ x ∈ tail.head?, isHeadChar x = false) → tail.take 2 ≠ "()".toList →
    parse c = (.ok (ofWritten written), c.forward written.length)
  first : ∃ x rest, written = x :: rest ∧ isHeadChar x = true ∧ Unicode.isBlank x = false

section

variable {written : Text} (hne : written ≠ [])
  (hchars : ∀ x ∈ written, isHeadChar x = true ∧ Unicode.isBlank x = false)
  (hvalid : (ofWritten written).isValid = true)
include hne hchars

theorem exists_first_of_chars :
    ∃ x rest, written = x :: rest ∧ isHeadChar x = true ∧ Unicode.isBlank x = false := by
  obtain ⟨x, rest, rfl⟩ := List.exists_cons_of_ne_nil hne
  exact ⟨x, rest, rfl, hchars x List.mem_cons_self⟩

/-- A stretch of characters of a head is taken as a whole, and the blanks
around it are left out; it is refused if it is not valid, and it may end in
`()`. -/
theorem parse_stretch {c : Cursor} {before after tail : Text} (hbefore : Text.IsBlank before)
    (hafter : Text.IsBlank after) (hrest : c.rest = before ++ (written ++ after) ++ tail)
    (htail : ∀ x ∈ tail.head?, isHeadChar x = false) :
    parse c = if !(ofWritten written).isValid then
        (.error ((c.forward (before ++ (written ++ after)).length).error .invalidField
          (c.forward before.length).position), c.forward (before ++ (written ++ after)).length)
      else if (ofWritten written).isCount && tail.take 2 == "()".toList then
        (.ok (ofWritten written).call, (c.forward (before ++ (written ++ after)).length).forward 2)
      else (.ok (ofWritten written), c.forward (before ++ (written ++ after)).length) := by
  have hfront : c.rest = before ++ (written ++ after ++ tail) := by
    rw [hrest, List.append_assoc]
  have hbehind : (c.forward before.length).rest = written ++ after ++ tail :=
    Cursor.rest_forward_append hfront
  have hleft : (c.forward (before ++ (written ++ after)).length).rest = tail :=
    Cursor.rest_forward_append hrest
  have hend : (c.forward before.length).forward (written ++ after).length =
      c.forward (before ++ (written ++ after)).length := by
    rw [Cursor.forward_forward, ← List.length_append]
  have hstart : c.skipBlanks = c.forward before.length := by
    refine Cursor.skipWhile_append hfront hbefore fun x hx => ?_
    obtain ⟨first, others, heq, -, hfirst⟩ := exists_first_of_chars hne hchars
    rw [heq] at hx
    obtain rfl := Option.some.inj hx
    exact hfirst
  have hstop : (c.forward before.length).skipWhile isHeadChar =
      c.forward (before ++ (written ++ after)).length := by
    rw [← hend]
    refine Cursor.skipWhile_append hbehind (fun x hx => ?_) htail
    rcases List.mem_append.1 hx with hx | hx
    · exact (hchars x hx).1
    · exact isHeadChar_of_isBlank (hafter x hx)
  have hsince : (c.forward (before ++ (written ++ after)).length).since
      (c.forward before.length).position = written ++ after := by
    rw [← hend, Cursor.since_forward, hbehind, List.take_left]
  have htrim : Text.trim (written ++ after) = written :=
    Text.trim_append_blank hne (fun x hx => (hchars x (List.mem_of_mem_head? hx)).2)
      (fun x hx => (hchars x (List.mem_of_getLast? hx)).2) hafter
  have hempty : written.isEmpty = false := by simpa using hne
  simp only [parse, hstart, hstop, hsince, htrim, hempty, Cursor.range_ahead, hleft,
    Bool.false_eq_true, if_false]

include hvalid

/-- A valid stretch is read as the head that it spells. -/
theorem parse_of_chars {c : Cursor} {before after tail : Text} (hbefore : Text.IsBlank before)
    (hafter : Text.IsBlank after) (hrest : c.rest = before ++ (written ++ after) ++ tail)
    (htail : ∀ x ∈ tail.head?, isHeadChar x = false) :
    parse c = if (ofWritten written).isCount && tail.take 2 == "()".toList then
        (.ok (ofWritten written).call, (c.forward (before ++ (written ++ after)).length).forward 2)
      else (.ok (ofWritten written), c.forward (before ++ (written ++ after)).length) := by
  rw [parse_stretch hne hchars hbefore hafter hrest htail, hvalid, Bool.not_true,
    if_neg Bool.false_ne_true]

/-- So it is without blanks. -/
theorem parse_of_rest {c : Cursor} {tail : Text} (hrest : c.rest = written ++ tail)
    (htail : ∀ x ∈ tail.head?, isHeadChar x = false) :
    parse c = if (ofWritten written).isCount && tail.take 2 == "()".toList then
        (.ok (ofWritten written).call, (c.forward written.length).forward 2)
      else (.ok (ofWritten written), c.forward written.length) := by
  have hnone : Text.IsBlank [] := by simp [Text.IsBlank]
  simpa only [List.nil_append, List.append_nil] using
    parse_of_chars hne hchars hvalid hnone hnone (by simpa using hrest) htail

theorem readsBack_of_chars : ReadsBack written where
  parse_eq c tail hrest htail hcall := by
    have hcall' : (tail.take 2 == "()".toList) = false := beq_false_of_ne hcall
    rw [parse_of_rest hne hchars hvalid hrest htail, hcall', Bool.and_false, if_neg (by simp)]
  first := exists_first_of_chars hne hchars

/-- A count reads back with its `()`. -/
theorem readsBack_call (hcount : (ofWritten written).isCount = true)
    (hcall : ofWritten (written ++ "()".toList) = (ofWritten written).call) :
    ReadsBack (written ++ "()".toList) where
  parse_eq c tail hrest _ _ := by
    rw [List.append_assoc] at hrest
    have htail : ∀ x ∈ ("()".toList ++ tail).head?, isHeadChar x = false := by
      intro x hx
      obtain rfl := Option.some.inj hx
      decide
    rw [parse_of_rest hne hchars hvalid hrest htail, hcount, hcall, List.length_append,
      ← Cursor.forward_forward]
    rfl
  first := by
    obtain ⟨x, rest, rfl, hx⟩ := exists_first_of_chars hne hchars
    exact ⟨x, _, rfl, hx⟩

end

/-- A count is a column up to its `()`. -/
theorem IsNamed.readsBack_of_count {head : Head} (h : head.IsNamed) (hhints : head.hints = [])
    (hname : head.name = "count()".toList) : ReadsBack head.spelled := by
  let count : Head := { head with name := "count".toList }
  have hcolumn : IsColumnName "count".toList := .plain (by decide)
  have hnamed : count.IsNamed := ⟨h.aliasName, Or.inl hcolumn, h.hints⟩
  have hspelled : head.spelled = count.spelled ++ "()".toList := by
    have hsegment : head.segment = count.segment ++ "()".toList := by
      simp only [count, segment, hhints, hname, Text.join]
      rfl
    rw [spelled, spelled, hsegment]
    rcases head.aliasName with _ | text
    · rfl
    · exact (List.append_assoc text (':' :: count.segment) _).symm
  have hread : ofWritten (count.spelled ++ "()".toList) = (ofWritten count.spelled).call := by
    rw [← hspelled, ofWritten_named h, ofWritten_named hnamed, call, hspelled]
    simp only [count, hname]
    rfl
  have hvalid : (ofWritten count.spelled).isValid = true := by
    have hvalid : count.isValid = true := hnamed.isValid hcolumn.isName
    rw [ofWritten_named hnamed]
    exact hvalid
  have hcount : (ofWritten count.spelled).isCount = true := by
    rw [ofWritten_named hnamed, isCount]
    simp only [count, hhints]
    decide
  rw [hspelled]
  exact readsBack_call hnamed.spelled_ne_nil
    (hnamed.headChar_of_mem_spelled fun _ => hcolumn.headChar) hvalid hcount hread

/-- The text of a named head reads back. -/
theorem readsBack_named {head : Head} (h : head.IsNamed) : ReadsBack head.spelled := by
  have hone : isName head.name = true →
      (∀ c ∈ head.name, isHeadChar c = true ∧ Unicode.isBlank c = false) →
      ReadsBack head.spelled := by
    intro hname hchars
    have hvalid : head.isValid = true := h.isValid hname
    refine readsBack_of_chars h.spelled_ne_nil (h.headChar_of_mem_spelled hchars) ?_
    rw [ofWritten_named h]
    exact hvalid
  rcases h.name with hname | ⟨hhints, hname | hname⟩
  · exact hone hname.isName fun _ => hname.headChar
  · refine hone (by rw [hname]; decide) fun c hc => ?_
    rw [hname, List.mem_singleton] at hc
    rw [hc]
    decide
  · exact h.readsBack_of_count hhints hname

end Head

/-! ## 2. What entries spell -/

namespace GroupedPath

mutual

/-- The field that an entry spells. -/
def toField : GroupedPath → Field
  | leaf entry => .mk (Head.ofWritten entry.declaration) []
  | nested entry paths => .mk (Head.ofWritten entry.declaration) (toFields paths)

/-- The fields that the entries of a level spell. -/
def toFields : List GroupedPath → List Field
  | [] => []
  | grouped :: rest => toField grouped :: toFields rest

end

/-- The entry declares a plain head. -/
def IsPlainEntry (entry : Entry) : Prop :=
  ∃ head : Head, head.IsPlain ∧ head.IsSpelled ∧ entry.declaration = head.written

theorem isPlain_ofWritten {entry : Entry} (h : IsPlainEntry entry) :
    (Head.ofWritten entry.declaration).IsPlain := by
  obtain ⟨head, hhead, hwritten, heq⟩ := h
  rw [heq, hwritten, Head.ofWritten_named hhead.isNamed]
  exact ⟨hhead.aliasName, hhead.name, hhead.hints⟩

/-- A plain segment declares a plain head. -/
theorem isPlainEntry_segment {entry : Entry} (h : Segment.isPlain entry.declaration = true) :
    IsPlainEntry entry := by
  have hjoin := Text.join_splitOn '!' entry.declaration
  rw [Segment.isPlain] at h
  rcases hparts : Text.splitOn '!' entry.declaration with _ | ⟨name, hints⟩
  · exact absurd hparts (Text.splitOn_ne_nil _ _)
  · rw [hparts] at hjoin h
    rw [List.all_cons, Bool.and_eq_true, List.all_eq_true] at h
    exact ⟨⟨entry.declaration, none, name, hints⟩, ⟨by simp, h.1, h.2⟩, hjoin.symm, rfl⟩

/-- So does an alias in front of one. -/
theorem isPlainEntry_alias {entry : Entry} {aliasName segment : Text}
    (halias : Head.isIdentifier aliasName = true) (h : Segment.isPlain segment = true)
    (hentry : entry.declaration = aliasName ++ ':' :: segment) : IsPlainEntry entry := by
  have hjoin := Text.join_splitOn '!' segment
  rw [Segment.isPlain] at h
  rcases hparts : Text.splitOn '!' segment with _ | ⟨name, hints⟩
  · exact absurd hparts (Text.splitOn_ne_nil _ _)
  · rw [hparts] at hjoin h
    rw [List.all_cons, Bool.and_eq_true, List.all_eq_true] at h
    refine ⟨⟨entry.declaration, some aliasName, name, hints⟩, ⟨?_, h.1, h.2⟩, ?_, rfl⟩
    · rintro text ⟨⟩
      exact halias
    · exact hentry.trans (congrArg (aliasName ++ ':' :: ·) hjoin.symm)

mutual

/-- The entry and all below it are plain, and no relation is empty. -/
def IsPlain : GroupedPath → Prop
  | leaf entry => IsPlainEntry entry
  | nested entry paths => IsPlainEntry entry ∧ paths ≠ [] ∧ ArePlain paths

def ArePlain : List GroupedPath → Prop
  | [] => True
  | grouped :: rest => IsPlain grouped ∧ ArePlain rest

end

mutual

/-- The texts of the entry and of all below it read back, and no relation
is empty. -/
def ReadsBack : GroupedPath → Prop
  | leaf entry => Head.ReadsBack entry.declaration
  | nested entry paths => Head.ReadsBack entry.declaration ∧ paths ≠ [] ∧ AllReadBack paths

def AllReadBack : List GroupedPath → Prop
  | [] => True
  | grouped :: rest => ReadsBack grouped ∧ AllReadBack rest

end

theorem readsBack_of_isPlainEntry {entry : Entry} (h : IsPlainEntry entry) :
    Head.ReadsBack entry.declaration := by
  obtain ⟨head, hhead, hwritten, heq⟩ := h
  rw [heq, hwritten]
  exact Head.readsBack_named hhead.isNamed

mutual

/-- What is plain reads back. -/
theorem readsBack_of_isPlain : (grouped : GroupedPath) → grouped.IsPlain → grouped.ReadsBack
  | leaf entry, h => by
    rw [IsPlain] at h
    rw [ReadsBack]
    exact readsBack_of_isPlainEntry h
  | nested entry paths, h => by
    rw [IsPlain] at h
    rw [ReadsBack]
    exact ⟨readsBack_of_isPlainEntry h.1, h.2.1, allReadBack_of_arePlain paths h.2.2⟩

theorem allReadBack_of_arePlain : (paths : List GroupedPath) → ArePlain paths →
    AllReadBack paths
  | [], _ => by rw [AllReadBack]; trivial
  | grouped :: rest, h => by
    rw [ArePlain] at h
    rw [AllReadBack]
    exact ⟨readsBack_of_isPlain grouped h.1, allReadBack_of_arePlain rest h.2⟩

end

theorem toFields_eq_map (paths : List GroupedPath) : toFields paths = paths.map toField := by
  induction paths with
  | nil => rfl
  | cons grouped rest ih => rw [toFields, ih, List.map_cons]

mutual

/-- A plain entry spells a plain field. -/
theorem all_toField : (grouped : GroupedPath) → grouped.IsPlain →
    grouped.toField.All Head.IsPlain
  | leaf entry, h => by
    rw [IsPlain] at h
    rw [toField, Field.All]
    exact ⟨isPlain_ofWritten h, trivial⟩
  | nested entry paths, h => by
    rw [IsPlain] at h
    rw [toField, Field.All]
    exact ⟨isPlain_ofWritten h.1, allOf_toFields paths h.2.2⟩

theorem allOf_toFields : (paths : List GroupedPath) → ArePlain paths →
    Field.AllOf Head.IsPlain (toFields paths)
  | [], _ => by rw [toFields]; trivial
  | grouped :: rest, h => by
    rw [ArePlain] at h
    rw [toFields, Field.AllOf]
    exact ⟨all_toField grouped h.1, allOf_toFields rest h.2⟩

end

/-- The text of a level begins with the text of its first entry. -/
theorem statement_cons (grouped : GroupedPath) {rest : List GroupedPath} (h : rest ≠ []) :
    statement (grouped :: rest) = statementOf grouped ++ ',' :: statement rest := by
  obtain ⟨next, rest, rfl⟩ := List.exists_cons_of_ne_nil h
  rfl

theorem statement_singleton (grouped : GroupedPath) :
    statement [grouped] = statementOf grouped := rfl

theorem statementOf_nested (entry : Entry) (paths : List GroupedPath) :
    statementOf (nested entry paths) = entry.declaration ++ '(' :: (statement paths ++ [')']) := by
  rw [statementOf]
  rfl

/-- A level of entries that declare something has a text. -/
theorem statement_ne_nil {paths : List GroupedPath} (hne : paths ≠ [])
    (h : ∀ grouped ∈ paths, grouped.entry.declaration ≠ []) : statement paths ≠ [] := by
  obtain ⟨first, rest, rfl⟩ := List.exists_cons_of_ne_nil hne
  refine Text.join_ne_nil ?_ _
  have hfirst := h first List.mem_cons_self
  cases first with
  | leaf entry => exact hfirst
  | nested entry paths =>
    rw [statementOf_nested]
    simp

/-! ## 3. Reading them -/

/-- The first character of an entry that reads back is neither blank nor one
that ends a head. -/
theorem head?_statementOf {grouped : GroupedPath} (h : grouped.ReadsBack) :
    ∃ x rest, statementOf grouped = x :: rest ∧ Head.isHeadChar x = true ∧
      Unicode.isBlank x = false := by
  cases grouped with
  | leaf entry =>
    rw [ReadsBack] at h
    obtain ⟨x, rest, heq, hx⟩ := h.first
    exact ⟨x, rest, by rw [statementOf, heq], hx⟩
  | nested entry paths =>
    rw [ReadsBack] at h
    obtain ⟨x, rest, heq, hx⟩ := h.1.first
    exact ⟨x, _, by rw [statementOf_nested, heq, List.cons_append], hx⟩

/-- So is that of a level. -/
theorem head?_statement {paths : List GroupedPath} (hne : paths ≠ []) (h : AllReadBack paths) :
    ∃ x rest, statement paths = x :: rest ∧ Head.isHeadChar x = true ∧
      Unicode.isBlank x = false := by
  obtain ⟨grouped, others, rfl⟩ := List.exists_cons_of_ne_nil hne
  rw [AllReadBack] at h
  obtain ⟨x, rest, heq, hx⟩ := head?_statementOf h.1
  by_cases hothers : others = []
  · subst hothers
    exact ⟨x, rest, heq, hx⟩
  · exact ⟨x, _, by rw [statement_cons grouped hothers, heq, List.cons_append], hx⟩

mutual

/-- An entry is read as the field that it spells. -/
theorem parse_statementOf : (grouped : GroupedPath) → grouped.ReadsBack → (c : Cursor) →
    (tail : Text) → c.rest = statementOf grouped ++ tail → Field.Ends tail →
    Field.parse c = (.ok grouped.toField, c.forward (statementOf grouped).length)
  | leaf entry, h, c, tail, hrest, htail => by
    rw [ReadsBack] at h
    rw [statementOf] at hrest ⊢
    have hcurrent : (c.forward entry.declaration.length).current ≠ '(' := by
      rw [Cursor.current_eq, Cursor.rest_forward_append hrest]
      exact htail.head_ne
    have hcall : tail.take 2 ≠ "()".toList := by
      intro hcall
      rcases tail with _ | ⟨x, tail⟩
      · simp at hcall
      · exact htail.head_ne (List.cons.inj hcall).1
    rw [toField]
    exact Field.parse_leaf (h.parse_eq c tail hrest htail.not_isHeadChar hcall) hcurrent
  | nested entry paths, h, c, tail, hrest, htail => by
    rw [ReadsBack] at h
    obtain ⟨hentry, hne, hpaths⟩ := h
    rw [statementOf_nested] at hrest ⊢
    have hrest' : c.rest = entry.declaration ++ '(' :: (statement paths ++ ')' :: tail) := by
      rw [hrest]
      simp
    have hcall : ('(' :: (statement paths ++ ')' :: tail)).take 2 ≠ "()".toList := by
      obtain ⟨x, rest, hstatement, hx, -⟩ := head?_statement hne hpaths
      rw [hstatement]
      intro hcall
      have hx' : x = ')' := (List.cons.inj (List.cons.inj hcall).2).1
      rw [hx'] at hx
      contradiction
    have hcurrent : (c.forward entry.declaration.length).current = '(' := by
      rw [Cursor.current_eq, Cursor.rest_forward_append hrest']
      rfl
    have hinner : (c.forward entry.declaration.length).enter.rest =
        statement paths ++ ')' :: tail := by
      show ((c.forward entry.declaration.length).forward 1).rest = _
      rw [Cursor.rest_forward, Cursor.rest_forward_append hrest']
      rfl
    have hlist := parseList_entries paths hne hpaths (c.forward entry.declaration.length).enter _
      hinner (Or.inr ⟨rfl, Nat.succ_pos _⟩)
    have hhead := hentry.parse_eq c _ hrest' (by simp [Head.isHeadChar]) hcall
    rw [toField, Field.parse_relation hhead hcurrent hlist]
    refine Prod.ext rfl ?_
    simp only [Cursor.enter, Cursor.leave, Cursor.forward, List.length_append, List.length_cons,
      List.length_nil, Nat.add_sub_cancel]
    congr 1
    omega

/-- The entries of a level are read one after the other. -/
theorem parseList_entries : (paths : List GroupedPath) → paths ≠ [] → AllReadBack paths →
    (c : Cursor) → (tail : Text) → c.rest = statement paths ++ tail → Field.EndsLevel c.depth tail →
    Field.parseList c = (.ok (toFields paths), c.forward (statement paths).length)
  | [], hne, _, _, _, _, _ => absurd rfl hne
  | [grouped], _, h, c, tail, hrest, htail => by
    rw [AllReadBack] at h
    rw [statement_singleton] at hrest ⊢
    have hfield := parse_statementOf grouped h.1 c tail hrest htail.ends
    have hleft := Cursor.rest_forward_append hrest
    have hskip := @Field.Ends.skipBlanks_eq (c.forward (statementOf grouped).length)
      (hleft.symm ▸ htail.ends)
    have hlast := Field.parseList_last hfield (by rw [hskip, hleft]; exact htail)
    rwa [hskip] at hlast
  | grouped :: next :: rest, _, h, c, tail, hrest, htail => by
    rw [AllReadBack] at h
    rw [statement_cons grouped (by simp)] at hrest ⊢
    have hrest' : c.rest = statementOf grouped ++ ',' :: (statement (next :: rest) ++ tail) := by
      rw [hrest]
      simp
    have hends : Field.Ends (',' :: (statement (next :: rest) ++ tail)) := by
      intro x hx
      exact Or.inl (Option.some.inj hx).symm
    have hfield := parse_statementOf grouped h.1 c _ hrest' hends
    have hleft := Cursor.rest_forward_append hrest'
    have hskip := @Field.Ends.skipBlanks_eq (c.forward (statementOf grouped).length)
      (hleft.symm ▸ hends)
    have hothers := parseList_entries (next :: rest) (by simp) h.2
      (c.forward (statementOf grouped).length).next tail
      (by rw [Cursor.next, Cursor.rest_forward, hleft]; rfl) htail
    rw [← hskip] at hothers
    rw [toFields, Field.parseList_next hfield (by rw [hskip, hleft]; rfl) hothers, hskip]
    refine Prod.ext rfl ?_
    simp only [Cursor.next, Cursor.forward_forward, List.length_append, List.length_cons]
    congr 1
    omega

end

/-- A statement is read as the fields that its entries spell. -/
theorem selectFields_readBack {paths : List GroupedPath} (hne : paths ≠ [])
    (h : AllReadBack paths) : selectFields (statement paths) = .ok (toFields paths) := by
  obtain ⟨x, rest, hstatement, -, hx⟩ := head?_statement hne h
  have hmem : x ∈ statement paths := hstatement ▸ List.mem_cons_self
  have htrim : (Text.trim (statement paths)).isEmpty = false := by
    simpa using Text.trim_ne_nil hmem hx
  have hread := parseList_entries paths hne h { text := statement paths } []
    (by simp [Cursor.rest]) (Or.inl ⟨rfl, rfl⟩)
  rw [selectFields, htrim, hread]
  rfl

/-- So is a plain one. -/
theorem selectFields_statement {paths : List GroupedPath} (hne : paths ≠ [])
    (h : ArePlain paths) : selectFields (statement paths) = .ok (toFields paths) :=
  selectFields_readBack hne (allReadBack_of_arePlain paths h)

end GroupedPath
end QueryCache
