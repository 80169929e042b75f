/-
QueryCache.Proofs.Select.Parsed — what a clause that was read says.

What holds of every head that can be read holds of all heads of a clause
(`selectFields_all`).  So they are spelled by their parts
(`selectFields_spelled`), as reading drops the blanks around a head and
nothing else, their aliases and hints are identifiers (`Head.IsLegal`), and
no part of them holds a dot (`selectFields_dotless`).
`parseSelect_eq` and `paths_of_parseQueryKey` name the fields that the
selection of a query stands for.
-/
import QueryCache.Filter.QueryKey
import QueryCache.Proofs.Select.Named
import QueryCache.Proofs.Select.Reading

namespace QueryCache

/-! ## 1. Heads of a tree of fields -/

namespace Field

mutual

/-- Every head of the field satisfies `p`. -/
def All (p : Head → Prop) : Field → Prop
  | mk head children => p head ∧ AllOf p children

/-- Every head of the fields satisfies `p`. -/
def AllOf (p : Head → Prop) : List Field → Prop
  | [] => True
  | field :: rest => All p field ∧ AllOf p rest

end

theorem allOf_iff {p : Head → Prop} {fields : List Field} :
    AllOf p fields ↔ ∀ field ∈ fields, All p field := by
  induction fields with
  | nil => simp [AllOf]
  | cons field rest ih => simp [AllOf, ih]

theorem all_head_children {p : Head → Prop} {fields : List Field} (h : AllOf p fields)
    {field : Field} (hmem : field ∈ fields) : p field.head ∧ AllOf p field.children := by
  have hfield := allOf_iff.1 h field hmem
  obtain ⟨head, children⟩ := field
  rwa [All] at hfield

end Field

/-! ## 2. Heads that were read -/

namespace Head

/-- The head is written as its parts spell it. -/
def IsSpelled (head : Head) : Prop :=
  head.written = head.spelled

theorem isSpelled_ofWritten (written : Text) : (ofWritten written).IsSpelled := by
  unfold IsSpelled ofWritten Segment.splitAlias
  rcases hcolon : Segment.splitAtLoneColon false written with _ | ⟨aliasName, rest⟩
  · obtain ⟨name, hints, hparts, hjoin⟩ := Text.exists_parts '!' written
    simp only [hparts]
    exact hjoin.symm
  · obtain ⟨name, hints, hparts, hjoin⟩ := Text.exists_parts '!' rest
    simp only [hparts, spelled, segment, hjoin]
    exact Segment.append_of_splitAtLoneColon hcolon

theorem isSpelled_call {head : Head} (hspelled : head.IsSpelled) (hcount : head.isCount = true) :
    head.call.IsSpelled := by
  obtain ⟨written, aliasName, name, hints⟩ := head
  simp only [isCount, Bool.and_eq_true, List.isEmpty_iff] at hcount
  obtain ⟨-, rfl⟩ := hcount
  unfold IsSpelled at hspelled ⊢
  rcases aliasName with _ | aliasName
  · simp only [spelled, segment, Text.join] at hspelled
    simp [call, spelled, segment, Text.join, hspelled]
  · simp only [spelled, segment, Text.join] at hspelled
    simp [call, spelled, segment, Text.join, hspelled]

/-- A head that was read is valid as it was written, or it is a count
with `()` behind it. -/
theorem isValid_of_parse {c c' : Cursor} {head : Head} (h : parse c = (.ok head, c')) :
    ∃ written : Text, (ofWritten written).isValid = true ∧
      (head = ofWritten written ∨
        (ofWritten written).isCount = true ∧ head = (ofWritten written).call) := by
  unfold parse at h
  dsimp only at h
  split at h
  · simp at h
  · split at h
    · simp at h
    · rename_i hvalid
      simp only [Bool.not_eq_true', Bool.not_eq_false] at hvalid
      refine ⟨_, hvalid, ?_⟩
      split at h
      · rename_i hcall
        rw [Bool.and_eq_true] at hcall
        obtain ⟨hhead, -⟩ := Prod.mk.inj h
        exact Or.inr ⟨hcall.1, (Except.ok.inj hhead).symm⟩
      · obtain ⟨hhead, -⟩ := Prod.mk.inj h
        exact Or.inl (Except.ok.inj hhead).symm

theorem isSpelled_of_parse {c c' : Cursor} {head : Head} (h : parse c = (.ok head, c')) :
    head.IsSpelled := by
  obtain ⟨written, -, rfl | ⟨hcount, rfl⟩⟩ := isValid_of_parse h
  · exact isSpelled_ofWritten _
  · exact isSpelled_call (isSpelled_ofWritten _) hcount

/-- The characters of a name; a count has `()` behind its own. -/
def isLegalChar (c : Char) : Bool :=
  isNameChar c || ['*', '(', ')'].contains c

/-- Alias and hints are identifiers, and the name has the characters of
names alone. -/
structure IsLegal (head : Head) : Prop where
  aliasName : ∀ text ∈ head.aliasName, isIdentifier text = true
  name : ∀ c ∈ head.name, isLegalChar c = true
  hints : ∀ text ∈ head.hints, isIdentifier text = true

theorem isLegalChar_of_isName {name : Text} (h : isName name = true) :
    ∀ c ∈ name, isLegalChar c = true := by
  intro c hc
  simp only [isName, Bool.or_eq_true, beq_iff_eq, Bool.and_eq_true, List.all_eq_true] at h
  rcases h with rfl | ⟨-, hchars⟩
  · rw [List.mem_singleton.1 hc]
    decide
  · rw [isLegalChar, hchars c hc, Bool.true_or]

theorem isLegal_of_isValid {head : Head} (h : head.isValid = true) : head.IsLegal := by
  simp only [isValid, Bool.and_eq_true] at h
  obtain ⟨⟨halias, hname⟩, hhints⟩ := h
  refine ⟨fun text htext => ?_, isLegalChar_of_isName hname, List.all_eq_true.1 hhints⟩
  rwa [Option.mem_def.1 htext] at halias

theorem isLegal_of_parse {c c' : Cursor} {head : Head} (h : parse c = (.ok head, c')) :
    head.IsLegal := by
  obtain ⟨written, hvalid, rfl | ⟨-, rfl⟩⟩ := isValid_of_parse h
  · exact isLegal_of_isValid hvalid
  · obtain ⟨halias, hname, hhints⟩ := isLegal_of_isValid hvalid
    refine ⟨halias, fun c hc => ?_, hhints⟩
    rw [call, List.mem_append] at hc
    rcases hc with hc | hc
    · exact hname c hc
    · have hcall : "()".toList.all isLegalChar = true := by decide
      exact List.all_eq_true.1 hcall c hc

/-- No part of the head holds a dot. -/
structure IsDotless (head : Head) : Prop where
  aliasName : ∀ text ∈ head.aliasName, '.' ∉ text
  name : '.' ∉ head.name
  hints : ∀ text ∈ head.hints, '.' ∉ text

/-- A segment without hints is the name. -/
theorem hints_eq_nil {head : Head} (hsegment : '!' ∉ head.segment) : head.hints = [] := by
  rw [segment] at hsegment
  rcases hhints : head.hints with _ | ⟨hint, hints⟩
  · rfl
  · rw [hhints, Text.join_cons (by simp)] at hsegment
    simp at hsegment

namespace IsLegal

variable {head : Head} (h : head.IsLegal)
include h

theorem not_mem_name {c : Char} (hc : isLegalChar c = false) : c ∉ head.name := by
  intro hmem
  rw [h.name c hmem] at hc
  contradiction

theorem isDotless : head.IsDotless :=
  ⟨fun text htext => not_mem_of_isIdentifier (h.aliasName text htext) (by decide),
    h.not_mem_name (by decide),
    fun text htext => not_mem_of_isIdentifier (h.hints text htext) (by decide)⟩

theorem stripHints_segment : Segment.stripHints head.segment = head.name :=
  upTo_segment (h.not_mem_name (by decide))

/-- The head is named if its segment says so. -/
theorem isNamed_of_column (hname : IsColumnName (Segment.stripHints head.segment)) :
    head.IsNamed :=
  ⟨h.aliasName, Or.inl (h.stripHints_segment ▸ hname), h.hints⟩

/-- So is a head that selects every column or counts. -/
theorem isNamed_of_segment (hsegment : head.segment = ['*'] ∨ head.segment = "count()".toList) :
    head.IsNamed := by
  have hhints : head.hints = [] := by
    refine hints_eq_nil ?_
    rcases hsegment with hsegment | hsegment <;> rw [hsegment] <;> decide
  rw [segment, hhints, Text.join] at hsegment
  exact ⟨h.aliasName, Or.inr ⟨hhints, hsegment⟩, h.hints⟩

end IsLegal

theorem isDotless_of_isPlain {head : Head} (h : head.IsPlain) : head.IsDotless :=
  ⟨fun text htext => not_mem_of_isIdentifier (h.aliasName text htext) (by decide),
    not_mem_of_isIdentifier h.name (by decide),
    fun text htext => not_mem_of_isIdentifier (h.hints text htext) (by decide)⟩

end Head

namespace Field

/-- What holds of every head that can be read holds of the heads of fields
that were read. -/
theorem all_of_parseList {p : Head → Prop}
    (hp : ∀ c c' head, Head.parse c = (.ok head, c') → p head) {c c' : Cursor}
    {fields : List Field} (h : parseList c = (.ok fields, c')) : AllOf p fields := by
  refine @parseList_induction (fun _ field _ => field.All p) (fun _ fields _ => AllOf p fields)
    ?_ ?_ ?_ ?_ _ _ _ h
  · intro c c' head hhead _
    exact ⟨hp c c' head hhead, trivial⟩
  · intro c c' c'' head children hhead _ hchildren
    exact ⟨hp c c' head hhead, hchildren⟩
  · intro c c' field hfield _
    exact ⟨hfield, trivial⟩
  · intro c c' c'' field others hfield _ hothers
    exact ⟨hfield, hothers⟩

end Field

/-! ## 3. Clauses -/

/-- The fields of a select clause; a blank clause has none. -/
def selectFields (clause : Text) : Except ParseError (List Field) :=
  if (Text.trim clause).isEmpty then .ok [] else (Field.parseList { text := clause }).1

theorem parseSelect_eq (clause : Text) :
    parseSelect clause = (selectFields clause).map (Field.leavesOfList none) := by
  unfold parseSelect selectFields
  split <;> rfl

/-- What holds of every head that can be read holds of the heads of a
clause. -/
theorem selectFields_all {p : Head → Prop}
    (hp : ∀ c c' head, Head.parse c = (.ok head, c') → p head) {clause : Text}
    {fields : List Field} (h : selectFields clause = .ok fields) : Field.AllOf p fields := by
  unfold selectFields at h
  split at h
  · rw [← Except.ok.inj h]
    trivial
  · have hread : Field.parseList { text := clause } =
        (.ok fields, (Field.parseList { text := clause }).2) := Prod.ext h rfl
    exact Field.all_of_parseList hp hread

theorem selectFields_spelled {clause : Text} {fields : List Field}
    (h : selectFields clause = .ok fields) : Field.AllOf Head.IsSpelled fields :=
  selectFields_all (fun _ _ _ => Head.isSpelled_of_parse) h

theorem selectFields_dotless {clause : Text} {fields : List Field}
    (h : selectFields clause = .ok fields) : Field.AllOf Head.IsDotless fields :=
  selectFields_all (fun _ _ _ h => (Head.isLegal_of_parse h).isDotless) h

/-- A parameter leaves the selection of a query. -/
theorem ParsedQuery.addParam_paths {query next : ParsedQuery} {param : QueryParam}
    (h : query.addParam param = .ok next) :
    next.select = query.select ∧ next.paths = query.paths := by
  have mapped : ∀ {α : Type} {r : Except ParseError α} {f : α → ParsedQuery},
      r.map f = .ok next → (∀ a, (f a).select = query.select ∧ (f a).paths = query.paths) →
      next.select = query.select ∧ next.paths = query.paths := by
    intro α r f hr hf
    rcases r with error | a
    · simp [Except.map] at hr
    · rw [← Except.ok.inj hr]
      exact hf a
  unfold addParam at h
  split at h
  · rw [← Except.ok.inj h]
    exact ⟨rfl, rfl⟩
  · split at h
    · exact mapped h fun _ => ⟨rfl, rfl⟩
    · split at h
      · exact mapped h fun _ => ⟨rfl, rfl⟩
      · split at h
        · exact mapped h fun _ => ⟨rfl, rfl⟩
        · split at h
          · rw [← Except.ok.inj h]
            exact ⟨rfl, rfl⟩
          · exact mapped h fun _ => ⟨rfl, rfl⟩

/-- A query string is read through its selection, wherever that stands. -/
theorem parseQueryKey_of_find {text : Text} {params : List QueryParam} {selection : QueryParam}
    {paths : List Path} (hparams : QueryParam.ofText text = .ok params)
    (hselect : params.find? (fun param => param.key == "select".toList) = some selection)
    (hpaths : parseSelect selection.value = .ok paths) :
    parseQueryKey text =
      params.foldlM ParsedQuery.addParam { select := selection.value, paths } := by
  simp only [parseQueryKey, hparams, bind, Except.bind, hselect, hpaths]

/-- A query string with a selection, once that is read. -/
theorem parseQueryKey_of_params {text clause : Text} {offset : Nat} {params : List QueryParam}
    {paths : List Path}
    (hparams : QueryParam.ofText text = .ok (⟨"select".toList, clause, offset⟩ :: params))
    (hpaths : parseSelect clause = .ok paths) :
    parseQueryKey text = params.foldlM ParsedQuery.addParam { select := clause, paths } :=
  parseQueryKey_of_find hparams (List.find?_cons_of_pos BEq.rfl) hpaths

/-- A query string that holds a selection and nothing else. -/
theorem parseQueryKey_select {text clause : Text} {offset : Nat} {paths : List Path}
    (hparams : QueryParam.ofText text = .ok [⟨"select".toList, clause, offset⟩])
    (hpaths : parseSelect clause = .ok paths) :
    parseQueryKey text = .ok { select := clause, paths } :=
  parseQueryKey_of_params hparams hpaths

namespace ParsedQuery

/-- What the parameters keep holds of the query that they make up. -/
theorem foldlM_addParam_induction {P : ParsedQuery → Prop} {params : List QueryParam}
    (hstep : ∀ query next, ∀ param ∈ params, query.addParam param = .ok next → P query → P next)
    {start query : ParsedQuery} (h : params.foldlM addParam start = .ok query)
    (hstart : P start) : P query := by
  induction params generalizing start with
  | nil =>
    rw [List.foldlM_nil] at h
    exact Except.ok.inj h ▸ hstart
  | cons param rest ih =>
    rw [List.foldlM_cons] at h
    rcases hnext : start.addParam param with error | next
    · rw [hnext] at h
      contradiction
    · rw [hnext] at h
      exact ih (fun query next other hmem => hstep query next other (List.mem_cons_of_mem _ hmem)) h
        (hstep start next param List.mem_cons_self hnext hstart)

end ParsedQuery

/-- A query string is read in two steps: its selection, then its
parameters. -/
theorem parseQueryKey_eq_ok {text : Text} {query : ParsedQuery}
    (h : parseQueryKey text = .ok query) :
    ∃ params select paths, QueryParam.ofText text = .ok params ∧ parseSelect select = .ok paths ∧
      params.foldlM ParsedQuery.addParam { select, paths } = .ok query := by
  unfold parseQueryKey at h
  rcases hparams : QueryParam.ofText text with error | params
  · rw [hparams] at h
    contradiction
  · rw [hparams] at h
    simp only [bind, Except.bind] at h
    split at h
    · simp at h
    · rename_i paths hpaths
      exact ⟨params, _, paths, rfl, hpaths, h⟩

/-- The paths of a query are those that its selection names. -/
theorem paths_of_parseQueryKey {text : Text} {query : ParsedQuery}
    (h : parseQueryKey text = .ok query) : parseSelect query.select = .ok query.paths := by
  obtain ⟨params, select, paths, -, hpaths, hquery⟩ := parseQueryKey_eq_ok h
  obtain ⟨hselect, hown⟩ := ParsedQuery.foldlM_addParam_induction
    (P := fun query => query.select = select ∧ query.paths = paths)
    (fun query next param _ hnext ⟨hselect, hown⟩ =>
      (ParsedQuery.addParam_paths hnext).imp (·.trans hselect) (·.trans hown)) hquery ⟨rfl, rfl⟩
  rw [hselect, hown]
  exact hpaths

end QueryCache
