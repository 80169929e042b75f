/-
QueryCache.Proofs.Filter.Written — conditions as query strings write them.

A condition is written `column.[not.]op.operand`: integers in digits, texts
between double quotes, lists in parentheses.  A written text is an item of
a list whatever the texts in it hold, and nothing in it is decoded
(`IsWritten`).  It is read back: the operator stands behind the column,
since no segment of the column but the first is taken for one
(`parseMember_text`).
-/
import Mathlib.Data.List.Basic
import QueryCache.Filter.QueryKey
import QueryCache.Proofs.Filter.Operands
import QueryCache.Proofs.Filter.TopLevel
import QueryCache.Proofs.Percent
import QueryCache.Proofs.Select.Named

namespace QueryCache

/-! ## 1. Written texts -/

/-- The characters that mean something in the parameter of a group. -/
def groupMarks : Text :=
  ['"', ',', '(', ')', '[', ']', '\x7b', '\x7d', '%', '+', '&']

/-- A character that means nothing wherever it stands in a group. -/
def isPlainChar (c : Char) : Bool :=
  decide (c ∉ groupMarks) && !Unicode.isBlank c

theorem isPlainChar_iff {c : Char} : isPlainChar c = true ↔ TopLevel.isOrdinary c = true ∧
    (c ≠ '%' ∧ c ≠ '+' ∧ c ≠ '&') ∧ Unicode.isBlank c = false := by
  simp [isPlainChar, groupMarks, TopLevel.isOrdinary, TopLevel.opens, TopLevel.closes]
  tauto

/-- Characters of a kind that leaves out the marks and white space. -/
theorem isPlainChar_of_kind {kind : Char → Bool} (hmarks : groupMarks.any kind = false)
    {c : Char} (hblank : Unicode.isBlank c = false) (h : kind c = true) : isPlainChar c = true := by
  have hmark : c ∉ groupMarks := fun hmem => List.any_eq_false.1 hmarks c hmem h
  simp [isPlainChar, hblank, hmark]

theorem isPlainChar_of_isIdentifierChar {c : Char} (h : Head.isIdentifierChar c = true) :
    isPlainChar c = true :=
  isPlainChar_of_kind (by decide) (Head.not_isBlank h) h

theorem isPlainChar_of_isDigit {c : Char} (h : Text.isDigit c = true) : isPlainChar c = true :=
  isPlainChar_of_kind (by decide) (not_isBlank_of_isDigit h) h

/-- A part of a group: it is cut nowhere, nothing in it is decoded, and no
blanks stand around it. -/
structure IsWritten (text : Text) : Prop where
  item : TopLevel.IsItem text
  verbatim : Percent.IsVerbatim text
  ne_nil : text ≠ []
  first : ∀ c ∈ text.head?, Unicode.isBlank c = false
  last : ∀ c ∈ text.getLast?, Unicode.isBlank c = false

namespace IsWritten

theorem trim {text : Text} (h : IsWritten text) : Text.trim text = text :=
  Text.trim_eq_self h.first h.last

theorem append {front back : Text} (hfront : IsWritten front) (hback : IsWritten back) :
    IsWritten (front ++ back) where
  item := hfront.item.append hback.item
  verbatim := Percent.isVerbatim_append.2 ⟨hfront.verbatim, hback.verbatim⟩
  ne_nil := List.append_ne_nil_of_left_ne_nil hfront.ne_nil back
  first := by
    rw [List.head?_append_of_ne_nil front hfront.ne_nil]
    exact hfront.first
  last := by
    rw [List.getLast?_append_of_ne_nil front hback.ne_nil]
    exact hback.last

theorem of_plain {text : Text} (hne : text ≠ []) (h : ∀ c ∈ text, isPlainChar c = true) :
    IsWritten text where
  item := TopLevel.isItem_of_ordinary fun c hc => (isPlainChar_iff.1 (h c hc)).1
  verbatim := fun c hc => (isPlainChar_iff.1 (h c hc)).2.1
  ne_nil := hne
  first := fun c hc => (isPlainChar_iff.1 (h c (List.mem_of_head? hc))).2.2
  last := fun c hc => (isPlainChar_iff.1 (h c (List.mem_of_getLast? hc))).2.2

/-- An item between two marks is written when what they enclose is not
decoded. -/
theorem enclosed {opening closing : Char} {inner : Text}
    (hitem : TopLevel.IsItem (opening :: (inner ++ [closing])))
    (hinner : Percent.IsVerbatim inner) (hverbatim : Percent.IsVerbatim [opening, closing])
    (hopening : Unicode.isBlank opening = false) (hclosing : Unicode.isBlank closing = false) :
    IsWritten (opening :: (inner ++ [closing])) where
  item := hitem
  verbatim := by
    rw [Percent.isVerbatim_cons] at hverbatim
    rw [Percent.isVerbatim_cons, Percent.isVerbatim_append]
    exact ⟨hverbatim.1, hinner, hverbatim.2⟩
  ne_nil := List.cons_ne_nil _ _
  first := (Text.ends_enclosed hopening hclosing inner).1
  last := (Text.ends_enclosed hopening hclosing inner).2

theorem quoted {text : Text} (hquote : '"' ∉ text) (hverbatim : Percent.IsVerbatim text) :
    IsWritten ('"' :: (text ++ ['"'])) :=
  enclosed (TopLevel.isItem_quoted hquote) hverbatim (by decide) (by decide) (by decide)

theorem parenthesized {items : List Text} (h : ∀ item ∈ items, IsWritten item) :
    IsWritten (parenthesized items) := by
  have hitem := TopLevel.isItem_parenthesized fun item hmem => (h item hmem).item
  have hjoin : Percent.IsVerbatim (Text.join ',' items) :=
    Percent.isVerbatim_join (by decide) fun item hmem => (h item hmem).verbatim
  exact enclosed hitem hjoin (by decide) (by decide) (by decide)

end IsWritten

theorem isWritten_word {word : Text} (hne : word ≠ []) (hplain : word.all isPlainChar = true) :
    IsWritten word :=
  IsWritten.of_plain hne (List.all_eq_true.1 hplain)

/-! ## 2. Operands -/

/-- A single operand, as an item of a list or alone: texts stand between
double quotes. -/
def itemText : Json → Text
  | .str text => '"' :: (text ++ ['"'])
  | value => value.write

/-- An operand: one value, or a list in parentheses. -/
def operandText : Json → Text
  | .arr items => parenthesized (items.map itemText)
  | value => itemText value

/-- A single operand that its text determines: an integer of 64 bits, or a
text without double quotes and without what a query string decodes. -/
def IsItemValue : Json → Prop
  | .num (.int n) => IsSigned n
  | .str text => '"' ∉ text ∧ Percent.IsVerbatim text
  | _ => False

/-- The operands of the operators that compare with single values, with the
values of a list, and with null and the truth values. -/
def FilterOperator.Takes (operator : FilterOperator) (operand : Json) : Prop :=
  match operator with
  | .eq | .neq | .gt | .gte | .lt | .lte => IsItemValue operand
  | .in_ => ∃ items, operand = .arr items ∧ ∀ item ∈ items, IsItemValue item
  | .is => operand = .null ∨ ∃ b, operand = .bool b
  | _ => False

/-- A single operand is written alone as in a list. -/
theorem operandText_eq_itemText {value : Json} (h : IsItemValue value) :
    operandText value = itemText value := by
  unfold IsItemValue at h
  split at h
  · rfl
  · rfl
  · exact h.elim

theorem isWritten_itemText {value : Json} (h : IsItemValue value) : IsWritten (itemText value) := by
  unfold IsItemValue at h
  split at h
  · rename_i n
    refine IsWritten.of_plain (writeInt_ne_nil n) fun c hc => ?_
    rcases char_of_mem_writeInt hc with rfl | hdigit
    · decide
    · exact isPlainChar_of_isDigit hdigit
  · exact IsWritten.quoted h.1 h.2
  · exact h.elim

/-- The text of a single operand is read as the operand. -/
theorem typedValue_itemText {value : Json} (h : IsItemValue value) :
    typedValue (itemText value) = value := by
  unfold IsItemValue at h
  split at h
  · exact typedValue_writeInt h
  · exact typedValue_quoted _
  · exact h.elim

theorem parseItems_join {values : List Json} (h : ∀ value ∈ values, IsItemValue value)
    (offset : Nat) : parseItems (Text.join ',' (values.map itemText)) offset = .ok values := by
  rcases eq_or_ne values [] with rfl | hne
  · rfl
  · have htexts : values.map itemText ≠ [] := by simpa using hne
    obtain ⟨pieces, hsplit, hpieces⟩ := TopLevel.exists_split_join htexts
      (List.forall_mem_map.2 fun value hmem => (isWritten_itemText (h value hmem)).item) offset
    have htrim : pieces.map (fun item => Text.trim item.2) = values.map itemText := by
      calc pieces.map (fun item => Text.trim item.2)
        _ = (pieces.map Prod.snd).map Text.trim := by rw [List.map_map]; rfl
        _ = values.map itemText := by
          rw [hpieces, List.map_map]
          exact List.map_congr_left fun value hmem => (isWritten_itemText (h value hmem)).trim
    have hfilter : (values.map itemText).filter (fun item => !item.isEmpty) =
        values.map itemText := by
      rw [List.filter_eq_self]
      exact List.forall_mem_map.2 fun value hmem => by
        simpa using (isWritten_itemText (h value hmem)).ne_nil
    have hvalues : (values.map itemText).map typedValue = values := by
      rw [List.map_map]
      exact (List.map_congr_left fun value hmem => typedValue_itemText (h value hmem)).trans
        (List.map_id values)
    simp only [parseItems, hsplit, bind, Except.bind, htrim, hfilter, hvalues]
    rfl

theorem isWritten_operandText {operator : FilterOperator} {operand : Json}
    (h : operator.Takes operand) : IsWritten (operandText operand) := by
  have hitem : IsItemValue operand → IsWritten (operandText operand) := by
    intro hvalue
    rw [operandText_eq_itemText hvalue]
    exact isWritten_itemText hvalue
  unfold FilterOperator.Takes at h
  split at h
  iterate 6 exact hitem h
  · obtain ⟨items, rfl, hitems⟩ := h
    exact IsWritten.parenthesized
      (List.forall_mem_map.2 fun item hmem => isWritten_itemText (hitems item hmem))
  · rcases h with rfl | ⟨b, rfl⟩
    · exact isWritten_word (by decide) (by decide)
    · cases b <;> exact isWritten_word (by decide) (by decide)
  · exact h.elim

/-- The text of an operand is read as the operand. -/
theorem parseOperand_operandText {operator : FilterOperator} {operand : Json}
    (h : operator.Takes operand) (offset : Nat) :
    parseOperand operator (operandText operand) offset = .ok operand := by
  have hitem : IsItemValue operand → typedValue (operandText operand) = operand := by
    intro hvalue
    rw [operandText_eq_itemText hvalue]
    exact typedValue_itemText hvalue
  unfold FilterOperator.Takes at h
  split at h
  iterate 6 exact congrArg Except.ok (hitem h)
  · obtain ⟨items, rfl, hitems⟩ := h
    simp only [parseOperand, operandText, parenthesized, Text.between_append,
      parseItems_join hitems]
    rfl
  · rcases h with rfl | ⟨b, rfl⟩
    · rfl
    · cases b <;> rfl
  · exact h.elim

/-! ## 3. Conditions -/

/-- A dotted column: identifiers, of which the first alone may be the name
of an operator or `not`. -/
def IsColumnPath (path : Text) : Prop :=
  (∀ segment ∈ Text.splitOn '.' path, Head.isIdentifier segment = true) ∧
    ∀ segment ∈ (Text.splitOn '.' path).tail, isOperator segment = false ∧ segment ≠ "not".toList

instance : DecidablePred IsColumnPath := fun path => inferInstanceAs (Decidable
  ((∀ segment ∈ Text.splitOn '.' path, Head.isIdentifier segment = true) ∧ ∀ segment ∈
    (Text.splitOn '.' path).tail, isOperator segment = false ∧ segment ≠ "not".toList))

namespace Condition

/-- What stands behind the column: `[not.]op.operand`. -/
def expression (c : Condition) : Text :=
  (if c.negated then "not.".toList else []) ++ (c.operator.name ++ '.' :: operandText c.operand)

/-- The condition as a member of a group. -/
def text (c : Condition) : Text :=
  c.path ++ '.' :: c.expression

/-- A condition that is written and read back. -/
structure IsWritable (c : Condition) : Prop where
  column : IsColumnPath c.path
  aliasChain : c.aliasChain = none
  operand : c.operator.Takes c.operand

end Condition

theorem FilterOperator.name_plain (operator : FilterOperator) :
    operator.name ≠ [] ∧ operator.name.all isPlainChar = true ∧ '.' ∉ operator.name ∧
      '(' ∉ operator.name := by
  cases operator <;> decide

/-- A `not` in front is a segment of its own. -/
theorem splitOn_not (rest : Text) :
    Text.splitOn '.' ("not.".toList ++ rest) = "not".toList :: Text.splitOn '.' rest := by
  have hdot : '.' ∉ "not".toList := by decide
  exact Text.splitOn_append hdot rest

/-- An expression with its operand as that is written: `[not.]op.operand`. -/
def FilterOperator.spell (operator : FilterOperator) (negated : Bool) (operand : Text) : Text :=
  (if negated then "not.".toList else []) ++ (operator.name ++ '.' :: operand)

/-- The operator, or the `not` in front of it, begins the expression. -/
theorem exists_splitOn_spell (operator : FilterOperator) (negated : Bool) (operand : Text) :
    ∃ first others, Text.splitOn '.' (operator.spell negated operand) = first :: others ∧
      '(' ∉ first ∧ isOperator first = !negated ∧
      splitAtOperator.go (first :: others) = some ([], first :: others) := by
  have hname := operator.name_plain
  have hoperator : isOperator operator.name = true := by
    rw [isOperator, FilterOperator.ofName?_name]
    rfl
  have hsplit := Text.splitOn_append hname.2.2.1 operand
  cases negated with
  | true =>
    have hnot : Text.splitOn '.' (operator.spell true operand) =
        "not".toList :: operator.name :: Text.splitOn '.' operand := by
      rw [FilterOperator.spell, if_pos rfl, splitOn_not, hsplit]
    refine ⟨_, _, hnot, by decide, by decide, ?_⟩
    rw [splitAtOperator.go, if_pos (by simp [hoperator])]
  | false =>
    refine ⟨_, _, hsplit, hname.2.2.2, hoperator, ?_⟩
    rw [splitAtOperator.go, if_pos (by simp [hoperator])]

/-- An expression is read as its operator and its operand. -/
theorem parseCondition_spell (column : Text) (operator : FilterOperator) (negated : Bool)
    (operand : Text) (relation : Option Text) (offset : Nat) :
    parseCondition column (operator.spell negated operand) relation offset =
      (parseOperand operator operand offset).map fun value =>
        { path := columnOf relation column, operator, negated, operand := value } := by
  have hname : Text.splitOnce '.' (operator.name ++ '.' :: operand) =
      some (operator.name, operand) :=
    Text.splitOnce_append operator.name_plain.2.2.1 _
  cases negated with
  | true =>
    have hstrip : Text.stripStart "not.".toList (operator.spell true operand) =
        some (operator.name ++ '.' :: operand) := Text.stripStart_append _ _
    simp only [parseCondition, hstrip, hname, FilterOperator.ofName?_name]
    rfl
  | false =>
    have hstrip : Text.stripStart "not.".toList (operator.spell false operand) = none := by
      cases operator <;> rfl
    have hspell : operator.spell false operand = operator.name ++ '.' :: operand := rfl
    simp only [parseCondition, hstrip]
    simp only [hspell, hname, FilterOperator.ofName?_name]
    rfl

/-- Identifiers with dots between them are written. -/
theorem isWritten_of_identifiers {path : Text}
    (h : ∀ segment ∈ Text.splitOn '.' path, Head.isIdentifier segment = true) :
    IsWritten path := by
  obtain ⟨first, others, hparts, hpath⟩ := Text.exists_parts '.' path
  rw [hparts] at h
  refine IsWritten.of_plain ?_ fun c hc => ?_
  · rw [← hpath]
    exact Text.join_ne_nil (Head.ne_nil_of_isIdentifier (h first List.mem_cons_self)) others
  · rw [← hpath] at hc
    rcases Text.mem_join hc with rfl | ⟨segment, hmem, hc⟩
    · decide
    · exact isPlainChar_of_isIdentifierChar (Head.isIdentifierChar_of_mem (h segment hmem) hc)

theorem IsColumnPath.isWritten {path : Text} (h : IsColumnPath path) : IsWritten path :=
  isWritten_of_identifiers h.1

namespace Condition

variable {c : Condition}

theorem IsWritable.isWritten_text (h : c.IsWritable) : IsWritten c.text := by
  have hdot : IsWritten ['.'] := isWritten_word (by decide) (by decide)
  have hname : IsWritten (c.operator.name ++ ['.'] ++ operandText c.operand) :=
    ((isWritten_word c.operator.name_plain.1 c.operator.name_plain.2.1).append hdot).append
      (isWritten_operandText h.operand)
  have hexpression : IsWritten c.expression := by
    rw [List.append_assoc] at hname
    rw [expression]
    split
    · exact (isWritten_word (by decide) (by decide)).append hname
    · exact hname
  have htext := (h.column.isWritten.append hdot).append hexpression
  rwa [List.append_assoc] at htext

theorem expression_eq_spell (c : Condition) :
    c.expression = c.operator.spell c.negated (operandText c.operand) :=
  rfl

/-- Nothing in front of the operator is taken for it. -/
theorem splitAtOperator_go_append {before after : List Text}
    (hbefore : ∀ segment ∈ before, isOperator segment = false ∧ segment ≠ "not".toList)
    (hafter : splitAtOperator.go after = some ([], after)) :
    splitAtOperator.go (before ++ after) = some (before, after) := by
  induction before with
  | nil => exact hafter
  | cons segment rest ih =>
    obtain ⟨hoperator, hnot⟩ := hbefore segment List.mem_cons_self
    have hword : (segment == "not".toList) = false := beq_false_of_ne hnot
    have hstays : ¬ ((isOperator segment || (segment == "not".toList &&
        (rest ++ after).head?.any isOperator)) = true) := by
      rw [hoperator, hword]
      exact Bool.false_ne_true
    rw [List.cons_append, splitAtOperator.go, if_neg hstays,
      ih fun other hmem => hbefore other (List.mem_cons_of_mem _ hmem)]
    rfl

/-- A condition is cut between its column and its expression. -/
theorem splitAtOperator_text (h : IsColumnPath c.path) :
    splitAtOperator (Text.splitOn '.' c.text) =
      some (Text.splitOn '.' c.path, Text.splitOn '.' c.expression) := by
  obtain ⟨first, others, hparts, -⟩ := Text.exists_parts '.' c.path
  obtain ⟨word, rest, hexpression, -, -, hgo⟩ :=
    exists_splitOn_spell c.operator c.negated (operandText c.operand)
  rw [← expression_eq_spell] at hexpression
  have htail : ∀ segment ∈ others, isOperator segment = false ∧ segment ≠ "not".toList := by
    simpa only [hparts, List.tail_cons] using h.2
  rw [text, Text.splitOn_append_sep, hparts, List.cons_append, splitAtOperator, hexpression,
    splitAtOperator_go_append htail hgo]
  rfl

/-- The expression of a condition is read back. -/
theorem parseCondition_expression (h : c.IsWritable) (offset : Nat) :
    parseCondition c.path c.expression none offset = .ok c := by
  rw [expression_eq_spell, parseCondition_spell, parseOperand_operandText h.operand]
  exact congrArg (fun chain => Except.ok { c with aliasChain := chain }) h.aliasChain.symm

/-- A condition is read as a member of a group. -/
theorem parseMember_text (h : c.IsWritable) (offset : Nat) :
    parseMember c.text none offset = .ok (.condition c) := by
  rw [parseMember, splitAtOperator_text h.column]
  simp only [Text.join_splitOn, parseCondition_expression h]
  rfl

end Condition

end QueryCache
