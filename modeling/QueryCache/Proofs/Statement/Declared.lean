/-
QueryCache.Proofs.Statement.Declared — chains of named segments.

A path that was read and names columns, with its aliases or without, is a
chain of segments that named heads declare
(`Path.isDeclaredChain_of_isRead`).
-/
import QueryCache.Proofs.Select.Chains
import QueryCache.Proofs.Statement.Levels

namespace QueryCache

/-! ## 1. Named segments -/

/-- A named head declares the segment; that of a relation has the name of a
column. -/
def Head.Declares (isRelation : Bool) (segment : Text) : Prop :=
  ∃ head : Head, head.IsNamed ∧ head.spelled = segment ∧
    (isRelation = true → Head.IsColumnName head.name)

namespace Path

/-- The path is a leaf of a clause, perhaps without its aliases. -/
def IsRead (path : Path) : Prop :=
  ∃ clause leaves leaf, parseSelect clause = .ok leaves ∧ leaf ∈ leaves ∧
    (path = leaf ∨ path = leaf.withoutAlias)

/-- Every name in the path is that of a column, or the last segment is `*`
or `count()`. -/
structure IsNamed (path : Path) : Prop where
  relations : ∀ segment ∈ path.segments.dropLast,
    Head.IsColumnName (Segment.stripHints segment)
  leaf : Head.IsColumnName (Segment.stripHints path.terminal) ∨ path.terminal = ['*'] ∨
    path.terminal = "count()".toList

instance : DecidablePred IsNamed := fun _ =>
  decidable_of_iff (_ ∧ _) ⟨fun h => ⟨h.1, h.2⟩, fun h => ⟨h.relations, h.leaf⟩⟩

end Path

namespace Head

/-- Without its alias a head is still named. -/
theorem IsNamed.withoutAlias {head : Head} (h : head.IsNamed) :
    IsNamed { head with aliasName := none } :=
  ⟨by simp, h.name, h.hints⟩

end Head

/-! ## 2. Paths that were read -/

namespace Path

/-- A path that was read is the leaf of a chain of heads that were read. -/
theorem IsRead.exists_chain {path : Path} (h : path.IsRead) :
    ∃ heads ≠ [], (∀ head ∈ heads, head.IsLegal ∧ head.IsSpelled) ∧
      (path = ofHeads heads ∨ path = (ofHeads heads).withoutAlias) := by
  obtain ⟨clause, leaves, leaf, hclause, hleaf, hpath⟩ := h
  rcases hfields : selectFields clause with error | fields
  · rw [parseSelect_eq, hfields] at hclause
    contradiction
  · rw [parseSelect_chains hfields, Except.ok.injEq] at hclause
    rw [← hclause] at hleaf
    obtain ⟨heads, hheads, rfl⟩ := List.mem_map.1 hleaf
    have hread := selectFields_all (p := fun head => head.IsLegal ∧ head.IsSpelled)
      (fun _ _ _ h => ⟨Head.isLegal_of_parse h, Head.isSpelled_of_parse h⟩) hfields
    exact ⟨heads, Field.chainsOf_ne_nil fields heads hheads,
      Field.all_of_mem_chainsOf fields hread heads hheads, hpath⟩

section

variable {front : List Head} {last : Head}

/-- The heads of a named path are named. -/
theorem isNamed_heads (hdotless : DotlessChain (front ++ [last]))
    (hlegal : ∀ head ∈ front ++ [last], head.IsLegal)
    (h : (ofHeads (front ++ [last])).IsNamed) :
    (∀ head ∈ front ++ [last], head.IsNamed) ∧
      ∀ head ∈ front, Head.IsColumnName head.name := by
  have hsegments := segments_ofHeads hdotless
  rw [List.map_append, List.map_singleton] at hsegments
  obtain ⟨hrelations, hleaf⟩ := h
  rw [terminal, hsegments, List.getLast?_concat, Option.getD_some] at hleaf
  rw [hsegments, List.dropLast_concat, List.forall_mem_map] at hrelations
  constructor
  · intro head hhead
    have hhere := hlegal head hhead
    rcases List.mem_append.1 hhead with hhead | hhead
    · exact hhere.isNamed_of_column (hrelations head hhead)
    · rw [← List.mem_singleton.1 hhead] at hleaf
      rcases hleaf with hname | hsegment
      · exact hhere.isNamed_of_column hname
      · exact hhere.isNamed_of_segment hsegment
  · intro head hhead
    rw [← (hlegal head (List.mem_append_left _ hhead)).stripHints_segment]
    exact hrelations head hhead

/-- Named heads, written with their aliases or without, make a declared
chain. -/
theorem isDeclaredChain_map (hnamed : ∀ head ∈ front ++ [last], head.IsNamed)
    (hcolumns : ∀ head ∈ front, Head.IsColumnName head.name) {f : Head → Text}
    (hf : ∀ head ∈ front ++ [last], f head = head.spelled ∨ f head = head.segment) :
    SelectNode.IsDeclaredChain Head.Declares ((front ++ [last]).map f) := by
  have hdeclares : ∀ head ∈ front ++ [last], ∀ isRelation,
      (isRelation = true → Head.IsColumnName head.name) → Head.Declares isRelation (f head) := by
    intro head hhead isRelation hname
    rcases hf head hhead with heq | heq
    · exact ⟨head, hnamed head hhead, heq.symm, hname⟩
    · exact ⟨{ head with aliasName := none }, (hnamed head hhead).withoutAlias, heq.symm, hname⟩
  rw [List.map_append]
  refine SelectNode.isDeclaredChain_append (fun segment hmem => ?_) ?_
  · obtain ⟨head, hhead, rfl⟩ := List.mem_map.1 hmem
    exact hdeclares head (List.mem_append_left _ hhead) true fun _ => hcolumns head hhead
  · exact hdeclares last (by simp) false (by simp)

end

/-- A path of named heads that was read is inserted as a declared chain. -/
theorem isDeclaredChain_of_isRead {path : Path} (hread : path.IsRead) (hnamed : path.IsNamed) :
    SelectNode.IsDeclaredChain Head.Declares (Text.splitOn '.' path.declaration) := by
  obtain ⟨heads, hne, hheads, hpath⟩ := hread.exists_chain
  obtain ⟨front, last, rfl⟩ : ∃ front last, heads = front ++ [last] :=
    ⟨_, _, (List.dropLast_concat_getLast hne).symm⟩
  have hdotless : DotlessChain (front ++ [last]) :=
    ⟨hne, fun head hhead => (hheads head hhead).1.isDotless⟩
  have hspelled : ∀ head ∈ front ++ [last], head.IsSpelled := fun head hhead =>
    (hheads head hhead).2
  -- Names are read off the path, which aliases are no part of.
  have hleaf : (ofHeads (front ++ [last])).IsNamed := by
    rcases hpath with rfl | rfl
    · exact hnamed
    · exact ⟨hnamed.relations, hnamed.leaf⟩
  obtain ⟨hall, hcolumns⟩ :=
    isNamed_heads hdotless (fun head hhead => (hheads head hhead).1) hleaf
  rcases hpath with rfl | rfl
  · rw [splitOn_declaration_ofHeads hdotless hspelled]
    exact isDeclaredChain_map hall hcolumns fun head hhead => Or.inl (hspelled head hhead)
  · have hsegments : Text.splitOn '.' (ofHeads (front ++ [last])).withoutAlias.declaration =
        (front ++ [last]).map (·.segment) := by
      rw [withoutAlias_named hdotless hspelled hall]
      exact segments_ofHeads hdotless
    rw [hsegments]
    exact isDeclaredChain_map hall hcolumns fun _ _ => Or.inr rfl

end Path
end QueryCache
