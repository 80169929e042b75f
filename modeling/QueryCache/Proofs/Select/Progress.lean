/-
QueryCache.Proofs.Select.Progress — reading a clause goes forward.

Reading a field or a list leaves the cursor farther on in the same text and at
the same depth (`Cursor.Advances`), and never behind the end of the text.  The
one step that passes a character unseen is the one behind a nested list.  It
is safe, since a list ends only where its level does (`advances_of_parseList`):
in a nested clause, in front of a closing parenthesis (`advances_leave`).

A field calls for the list nested in it, and a list for its fields and the
list behind a comma.  Each of these calls has a smaller bound than its caller
(`Call.bound_lt`), whatever the text is, so calls within one another are
limited by the text that is left (`Call.length_le_bound`).  `parse_advances`
puts this together.
-/
import QueryCache.Proofs.Select.Grammar

namespace QueryCache

/-! ## 1. Forward in the text -/

namespace Cursor

/-- The cursor is in its text, at most behind the last character. -/
def IsInside (c : Cursor) : Prop :=
  c.position ≤ c.text.length

/-- The other cursor is farther on in the same text, in the same nested
clause, and at most behind the last character. -/
structure Advances (c c' : Cursor) : Prop where
  text : c'.text = c.text
  depth : c'.depth = c.depth
  position : c.position < c'.position
  inside : c'.IsInside

variable {c c' c'' : Cursor}

theorem isInside_forward {count : Nat} (h : c.IsInside) (hcount : count ≤ c.remaining) :
    (c.forward count).IsInside := by
  simp only [IsInside, remaining, forward] at h hcount ⊢
  omega

theorem isInside_skipWhile (h : c.IsInside) (p : Char → Bool) : (c.skipWhile p).IsInside := by
  refine isInside_forward h ?_
  rw [← length_rest]
  exact (List.takeWhile_sublist p).length_le

/-- Less is left behind a cursor that is farther on. -/
theorem advances_of_remaining_lt (htext : c'.text = c.text) (hdepth : c'.depth = c.depth)
    (hless : c'.remaining < c.remaining) (hinside : c'.IsInside) : c.Advances c' := by
  refine ⟨htext, hdepth, ?_, hinside⟩
  simp only [remaining, htext] at hless
  omega

theorem Advances.trans (h : c.Advances c') (h' : c'.Advances c'') : c.Advances c'' :=
  ⟨h'.text.trans h.text, h'.depth.trans h.depth, Nat.lt_trans h.position h'.position, h'.inside⟩

/-- Blanks may be skipped behind. -/
theorem Advances.skipBlanks (h : c.Advances c') : c.Advances c'.skipBlanks :=
  ⟨h.text, h.depth, Nat.lt_of_lt_of_le h.position (Nat.le_add_right _ _),
    isInside_skipWhile h.inside _⟩

/-- A character that is there is passed within the text. -/
theorem isInside_next {x : Char} (h : c.rest.head? = some x) : c.next.IsInside := by
  obtain ⟨rest, hrest⟩ := List.head?_eq_some_iff.1 h
  have hlength := congrArg List.length hrest
  rw [length_rest, remaining, List.length_cons] at hlength
  simp only [IsInside, next, forward]
  omega

theorem getElem?_position (c : Cursor) : c.text[c.position]? = c.rest.head? := by
  rw [rest, List.head?_drop]

end Cursor

/-! ## 2. One step of the reader -/

namespace Head

/-- Behind a head that was read the cursor is farther on. -/
theorem advances_of_parse {c c' : Cursor} {head : Head} (hc : c.IsInside)
    (h : parse c = (.ok head, c')) : c.Advances c' := by
  have hless : c'.remaining < c.remaining := by
    have hless := @remaining_parse_lt c head (by rw [h])
    rwa [h] at hless
  have hstop : (c.skipBlanks.skipWhile isHeadChar).IsInside :=
    Cursor.isInside_skipWhile (Cursor.isInside_skipWhile hc _) _
  unfold parse at h
  dsimp only at h
  split at h
  · simp at h
  · split at h
    · simp at h
    · split at h
      · rename_i hcall
        obtain ⟨-, rfl⟩ := Prod.mk.inj h
        refine Cursor.advances_of_remaining_lt rfl rfl hless (Cursor.isInside_forward hstop ?_)
        -- The `()` taken into the name is part of the text.
        rw [Bool.and_eq_true, Cursor.range_ahead, beq_iff_eq] at hcall
        have hlength : _ = 2 := congrArg List.length hcall.2
        rw [List.length_take, Cursor.length_rest] at hlength
        omega
      · obtain ⟨-, rfl⟩ := Prod.mk.inj h
        exact Cursor.advances_of_remaining_lt rfl rfl hless hstop

end Head

namespace Field

theorem EndsLevel.head?_eq {depth : Nat} {tail : Text} (h : EndsLevel depth tail)
    (hdepth : 0 < depth) : tail.head? = some ')' := by
  rcases h with ⟨-, rfl⟩ | ⟨hclose, -⟩
  · exact absurd hdepth (Nat.lt_irrefl 0)
  · exact hclose

/-- Behind a nested list the cursor passes the parenthesis that closes it. -/
theorem advances_leave {c c' : Cursor} (h : c.enter.Advances c')
    (hends : EndsLevel c'.depth c'.rest) : c.Advances c'.leave := by
  have hdepth : c'.depth = c.depth + 1 := h.depth
  have hclose := hends.head?_eq (hdepth ▸ Nat.succ_pos _)
  refine ⟨h.text, ?_, ?_, Cursor.isInside_next hclose⟩
  · show c'.depth - 1 = c.depth
    rw [hdepth, Nat.add_sub_cancel]
  · have hposition : c.position + 1 < c'.position := h.position
    show c.position < c'.position + 1
    omega

section

variable {c c' : Cursor} (hc : c.IsInside)
include hc

/-- Behind a list that was read the cursor is farther on, where the list may
end. -/
theorem advances_of_parseList {fields : List Field} (h : parseList c = (.ok fields, c')) :
    c.Advances c' ∧ EndsLevel c'.depth c'.rest := by
  refine @parseList_induction (fun c _ c' => c.IsInside → c.Advances c')
    (fun c _ c' => c.IsInside → c.Advances c' ∧ EndsLevel c'.depth c'.rest)
    ?_ ?_ ?_ ?_ _ _ _ h hc
  · intro c c' head hhead _ hc
    exact Head.advances_of_parse hc hhead
  · intro c c' c'' head children hhead hopen hchildren hc
    have hforward := Head.advances_of_parse hc hhead
    have hentered := Cursor.isInside_next (Cursor.head?_rest_of_current hopen)
    obtain ⟨hinner, hends⟩ := hchildren hentered
    exact hforward.trans (advances_leave hinner hends)
  · intro c c' field hfield hends hc
    exact ⟨(hfield hc).skipBlanks, hends⟩
  · intro c c' c'' field others hfield hcomma hothers hc
    have hforward := (hfield hc).skipBlanks
    have hpassed : c.Advances c'.skipBlanks.next :=
      ⟨hforward.text, hforward.depth, Nat.lt_succ_of_lt hforward.position,
        Cursor.isInside_next hcomma⟩
    obtain ⟨hrest, hends⟩ := hothers hpassed.inside
    exact ⟨hpassed.trans hrest, hends⟩

/-- Behind the opening parenthesis the nested list is read up to the closing
one. -/
theorem advances_of_nested {c₁ c₂ : Cursor} {head : Head} {children : List Field}
    (hhead : Head.parse c = (.ok head, c₁)) (hopen : c₁.current = '(')
    (hlist : parseList c₁.enter = (.ok children, c₂)) :
    c.Advances c₂.leave ∧ c₂.rest.head? = some ')' := by
  have hentered : c₁.enter.IsInside := Cursor.isInside_next (Cursor.head?_rest_of_current hopen)
  obtain ⟨hinner, hends⟩ := advances_of_parseList hentered hlist
  have hdepth : c₂.depth = c₁.depth + 1 := hinner.depth
  exact ⟨(Head.advances_of_parse hc hhead).trans (advances_leave hinner hends),
    hends.head?_eq (hdepth ▸ Nat.succ_pos _)⟩

/-- Behind a field that was read the cursor is farther on. -/
theorem advances_of_parse {field : Field} (h : parse c = (.ok field, c')) : c.Advances c' := by
  obtain ⟨head, c₁, hhead, ⟨-, -, rfl⟩ | ⟨children, c₂, hopen, hlist, -, rfl⟩⟩ := parse_eq_ok h
  · exact Head.advances_of_parse hc hhead
  · exact (advances_of_nested hc hhead hopen hlist).1

end

/-! ## 3. Nested calls -/

/-- What the reader is called for, and where. -/
inductive Call where
  | field (c : Cursor)
  | list (c : Cursor)

/-- On its way the one call makes the other: a list calls for its first field
and, behind a comma, for the other fields; a field calls for the list nested in
it. -/
inductive Call.Makes : Call → Call → Prop where
  | first (c : Cursor) : Makes (.list c) (.field c)
  | nested {c c' : Cursor} {head : Head} (hhead : Head.parse c = (.ok head, c'))
    (hopen : c'.current = '(') : Makes (.field c) (.list c'.enter)
  | next {c c' : Cursor} {field : Field} (hfield : parse c = (.ok field, c'))
    (hcomma : c'.skipBlanks.rest.head? = some ',') : Makes (.list c) (.list c'.skipBlanks.next)

/-- More than the number of calls that a call can lead to, one within the
other: twice the text that is left, and one more for a list. -/
def Call.bound : Call → Nat
  | field c => 2 * c.remaining
  | list c => 2 * c.remaining + 1

theorem Call.bound_lt {caller call : Call} (h : caller.Makes call) : call.bound < caller.bound := by
  cases h with
  | first c => exact Nat.lt_succ_self _
  | @nested c c' head hhead hopen =>
    have hless := @Head.remaining_parse_lt c head (by rw [hhead])
    rw [hhead] at hless
    dsimp only at hless
    simp only [bound, Cursor.remaining_enter]
    omega
  | @next c c' field hfield hcomma =>
    have hless := @remaining_parse_lt c field (by rw [hfield])
    rw [hfield] at hless
    dsimp only at hless
    have hskip := Cursor.remaining_skipBlanks_le c'
    simp only [bound, Cursor.remaining_next]
    omega

/-- Calls within one another are fewer than their bound. -/
theorem Call.length_le_bound {call : Call} {calls : List Call}
    (h : List.IsChain Makes (call :: calls)) : calls.length ≤ call.bound := by
  induction calls generalizing call with
  | nil => exact Nat.zero_le _
  | cons next rest ih =>
    obtain ⟨hmakes, hrest⟩ := List.isChain_cons_cons.1 h
    exact Nat.le_trans (Nat.succ_le_succ (ih hrest)) (Call.bound_lt hmakes)

/-! ## 4. Progress -/

/-- Reading goes forward and comes out at the depth where it went in.  A field
leaves the cursor farther on in the text, at most at its end; so does a list,
which ends in front of a closing parenthesis in a nested clause and at the end
of the text outside; a nested list is followed by a closing parenthesis, which
the field passes; and calls within one another are at most as many as twice
the characters that are left, and one. -/
theorem parse_advances (c : Cursor) (hc : c.position ≤ c.text.length) :
    (∀ field c', parse c = (.ok field, c') →
      c'.text = c.text ∧ c'.depth = c.depth ∧ c.position < c'.position ∧
        c'.position ≤ c.text.length) ∧
    (∀ fields c', parseList c = (.ok fields, c') →
      c'.text = c.text ∧ c'.depth = c.depth ∧ c.position < c'.position ∧
        (0 < c.depth → c.text[c'.position]? = some ')') ∧
        (c.depth = 0 → c'.position = c.text.length)) ∧
    (∀ head c₁ children c₂, Head.parse c = (.ok head, c₁) → c₁.current = '(' →
      parseList c₁.enter = (.ok children, c₂) →
      c.text[c₂.position]? = some ')' ∧ parse c = (.ok (mk head children), c₂.leave)) ∧
    ∀ calls, List.IsChain Call.Makes (.list c :: calls) →
      calls.length ≤ 2 * (c.text.length - c.position) + 1 := by
  refine ⟨?_, ?_, ?_, ?_⟩
  · intro field c' h
    obtain ⟨htext, hdepth, hposition, hinside⟩ := advances_of_parse hc h
    exact ⟨htext, hdepth, hposition, htext ▸ hinside⟩
  · intro fields c' h
    obtain ⟨⟨htext, hdepth, hposition, hinside⟩, hends⟩ := advances_of_parseList hc h
    rw [hdepth] at hends
    refine ⟨htext, hdepth, hposition, fun hnested => ?_, fun htop => ?_⟩
    · rw [← htext, Cursor.getElem?_position]
      exact hends.head?_eq hnested
    · rcases hends with ⟨hnil, -⟩ | ⟨-, hnested⟩
      · have hend : c'.text.length ≤ c'.position := List.drop_eq_nil_iff.1 hnil
        rw [← htext]
        exact Nat.le_antisymm hinside hend
      · exact absurd htop (Nat.ne_of_gt hnested)
  · intro head c₁ children c₂ hhead hopen hlist
    obtain ⟨hforward, hclose⟩ := advances_of_nested hc hhead hopen hlist
    have htext : c₂.text = c.text := hforward.text
    rw [← htext, Cursor.getElem?_position]
    exact ⟨hclose, parse_relation hhead hopen hlist⟩
  · intro calls hcalls
    exact Call.length_le_bound hcalls

/-- In a nested clause, behind its parenthesis. -/
def insideTag : Cursor :=
  { text := "tag(id,n:count())".toList, position := 4, depth := 1 }

theorem exists_parseList_insideTag :
    ∃ fields, parseList insideTag = (.ok fields, { insideTag with position := 16 }) := by
  have hid : parse insideTag =
      (.ok (mk ⟨"id".toList, none, "id".toList, []⟩ []), { insideTag with position := 6 }) :=
    parse_leaf (by decide) (by decide)
  have hcount : parse { insideTag with position := 7 } =
      (.ok (mk ⟨"n:count()".toList, some "n".toList, "count()".toList, []⟩ []),
        { insideTag with position := 16 }) :=
    parse_leaf (by decide) (by decide)
  exact ⟨_, parseList_next hid (by decide) (parseList_last hcount (Or.inr (by decide)))⟩

theorem parse_advances_insideTag :
    insideTag.position ≤ insideTag.text.length ∧
      ∃ fields c', parseList insideTag = (.ok fields, c') ∧ insideTag.position < c'.position ∧
        c'.depth = 1 ∧ insideTag.text[c'.position]? = some ')' := by
  have hinside : insideTag.position ≤ insideTag.text.length := by decide
  obtain ⟨fields, hread⟩ := exists_parseList_insideTag
  obtain ⟨-, hdepth, hposition, hnested, -⟩ := (parse_advances insideTag hinside).2.1 _ _ hread
  exact ⟨hinside, fields, _, hread, hposition, hdepth, hnested (by decide)⟩

end Field

end QueryCache
