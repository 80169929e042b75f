/-
QueryCache.Proofs.Reshape.OutputPaths — the keys that lead to a leaf, and
the keys of the response.

The response answers a head under its alias, or else under its name
without hints and cast (`Head.responseKey`).  A chain with an alias is
written down as these keys.  A chain without any is derived from its path,
and only hints are taken off (`Path.outputPath_of_unaliased`); so a name
with a cast keeps it, and the output path is the chain of the keys exactly
when some head has an alias or no name has a cast
(`parseSelect_outputPath_iff`).
-/
import QueryCache.Proofs.Reshape.Built
import QueryCache.Proofs.Statement.ReadBack

namespace QueryCache

/-! ## 1. Casts -/

/-- What precedes a cast is the whole text exactly when there is no cast. -/
theorem Text.upToCast_eq_self_iff {text : Text} :
    upToCast text = text ↔ ¬ [':', ':'] <:+: text := by
  constructor
  · rintro heq ⟨before, type, rfl⟩
    induction before with
    | nil => simp [upToCast] at heq
    | cons c before ih =>
      rw [List.cons_append, List.cons_append] at heq
      unfold upToCast at heq
      split at heq
      · simp at heq
      · contradiction
      · rename_i first rest hcast hcons
        rw [List.cons.injEq] at hcons
        obtain ⟨rfl, rfl⟩ := hcons
        exact ih (List.cons.inj heq).2
  · intro hcast
    rcases upToCast_eq_self_or text with heq | ⟨type, heq⟩
    · exact heq
    · exact absurd ⟨upToCast text, type, by simpa using heq.symm⟩ hcast

/-- Lists of parts without the separator are told apart by their joins. -/
theorem Text.join_inj {sep : Char} {parts others : List Text} (hne : parts ≠ [])
    (hother : others ≠ []) (h : ∀ part ∈ parts, sep ∉ part) (ho : ∀ part ∈ others, sep ∉ part) :
    join sep parts = join sep others ↔ parts = others := by
  constructor
  · intro heq
    rw [← splitOn_join hne h, heq, splitOn_join hother ho]
  · exact congrArg (join sep)

/-! ## 2. Keys of the response -/

namespace Head

/-- The key under which the response answers a head. -/
def responseKey (head : Head) : Text :=
  (GroupedPath.leaf ⟨head.written, head.segment, head.aliasName⟩).responseKey

/-- The name of the head carries a cast. -/
def IsCast (head : Head) : Prop :=
  [':', ':'] <:+: head.name

/-- The parser knows the keys of the response by their effective names. -/
theorem effectiveName_eq_responseKey {head : Head} (h : head.IsLegal) :
    head.effectiveName = head.responseKey := by
  have hkey : head.responseKey = head.aliasName.getD (Segment.bareName head.segment) := rfl
  rw [hkey, Segment.bareName, h.stripHints_segment, effectiveName]

end Head

/-! ## 3. Output paths -/

namespace Path

variable {chain : List Head}

theorem outputPath_of_aliased (haliased : ∃ head ∈ chain, head.aliasName.isSome = true) :
    (ofHeads chain).outputPath = Text.join '.' (chain.map (·.effectiveName)) := by
  have hany : chain.any (·.aliasName.isSome) = true := List.any_eq_true.2 haliased
  simp [outputPath, ofHeads, hany]

/-- Without an alias only the hints are taken off the path. -/
theorem outputPath_of_unaliased (hne : chain ≠ []) (hlegal : ∀ head ∈ chain, head.IsLegal)
    (hunaliased : ∀ head ∈ chain, head.aliasName = none) :
    (ofHeads chain).outputPath = Text.join '.' (chain.map (·.name)) := by
  have hnone : (ofHeads chain).aliasChain = none := by
    have hany : chain.any (·.aliasName.isSome) = false :=
      List.any_eq_false.2 fun head hhead => by simp [hunaliased head hhead]
    simp [ofHeads, hany]
  have hsegments : Text.splitOn '.' (ofHeads chain).path = chain.map (·.segment) :=
    segments_ofHeads ⟨hne, fun head hhead => (hlegal head hhead).isDotless⟩
  have hnames : (chain.map (·.segment)).map Segment.stripHints = chain.map (·.name) := by
    rw [List.map_map]
    exact List.map_congr_left fun head hhead => (hlegal head hhead).stripHints_segment
  rw [outputPath, hnone, Option.getD_none, Segment.stripPathHints, Segment.mapSegments,
    hsegments, hnames]

/-- A chain leads to its leaf through the keys of the response exactly when
it has an alias or no cast. -/
theorem outputPath_ofHeads_iff (hne : chain ≠ []) (hlegal : ∀ head ∈ chain, head.IsLegal) :
    (ofHeads chain).outputPath = Text.join '.' (chain.map (·.responseKey)) ↔
      (∃ head ∈ chain, head.aliasName.isSome = true) ∨ ∀ head ∈ chain, ¬ head.IsCast := by
  have hkeys : chain.map (·.responseKey) = chain.map (·.effectiveName) :=
    List.map_congr_left fun head hhead => (Head.effectiveName_eq_responseKey (hlegal head hhead)).symm
  rw [hkeys]
  by_cases haliased : ∃ head ∈ chain, head.aliasName.isSome = true
  · simp only [outputPath_of_aliased haliased, haliased, true_or]
  · have hunaliased : ∀ head ∈ chain, head.aliasName = none := by
      intro head hhead
      by_contra hsome
      exact haliased ⟨head, hhead, Option.isSome_iff_ne_none.2 hsome⟩
    have hbare : chain.map (·.effectiveName) = chain.map fun head => Text.upToCast head.name :=
      List.map_congr_left fun head hhead => by
        rw [Head.effectiveName, hunaliased head hhead, Option.getD_none]
    have hdots : ∀ name ∈ chain.map (·.name), '.' ∉ name := by
      intro name hmem
      obtain ⟨head, hhead, rfl⟩ := List.mem_map.1 hmem
      exact (hlegal head hhead).isDotless.name
    have hbareDots : ∀ name ∈ chain.map (fun head => Text.upToCast head.name), '.' ∉ name := by
      intro name hmem
      obtain ⟨head, hhead, rfl⟩ := List.mem_map.1 hmem
      exact fun hdot => (hlegal head hhead).isDotless.name (Text.mem_of_mem_upToCast hdot)
    rw [outputPath_of_unaliased hne hlegal hunaliased, hbare,
      Text.join_inj (by simpa using hne) (by simpa using hne) hdots hbareDots,
      or_iff_right haliased, List.map_inj_left]
    simp only [Head.IsCast, ← Text.upToCast_eq_self_iff, eq_comm]

end Path

/-! ## 4. Clauses -/

/-- The leaves of a clause are those of its chains of heads, and a leaf is
reached through the keys of the response exactly when some head of its
chain has an alias or none of the names carries a cast. -/
theorem parseSelect_outputPath_iff {clause : Text} {fields : List Field}
    (h : selectFields clause = .ok fields) :
    parseSelect clause = .ok ((Field.chainsOf fields).map Path.ofHeads) ∧
      ∀ chain ∈ Field.chainsOf fields,
        ((Path.ofHeads chain).outputPath = Text.join '.' (chain.map (·.responseKey)) ↔
          (∃ head ∈ chain, head.aliasName.isSome = true) ∨ ∀ head ∈ chain, ¬ head.IsCast) := by
  refine ⟨parseSelect_chains h, fun chain hchain => ?_⟩
  have hlegal : Field.AllOf Head.IsLegal fields :=
    selectFields_all (fun _ _ _ => Head.isLegal_of_parse) h
  exact Path.outputPath_ofHeads_iff (Field.chainsOf_ne_nil fields chain hchain)
    (Field.all_of_mem_chainsOf fields hlegal chain hchain)

/-- The amounts of a client's orders: a name with a cast below an alias. -/
def orderEntries : List GroupedPath :=
  [.nested (.ofHead (Head.ofWritten "orders:order!client_id".toList))
    [.leaf (.ofHead (Head.ofWritten "amount::text".toList))]]

/-- Below an alias the cast is taken off. -/
theorem outputPath_orders :
    selectFields "orders:order!client_id(amount::text)".toList =
        .ok (GroupedPath.toFields orderEntries) ∧
      ∀ chain ∈ Field.chainsOf (GroupedPath.toFields orderEntries),
        (Path.ofHeads chain).outputPath = Text.join '.' (chain.map (·.responseKey)) ∧
          (Path.ofHeads chain).outputPath = "orders.amount".toList := by
  have hread : ∀ written : Text, (Head.ofWritten written).IsNamed →
      Head.ReadsBack (Entry.ofHead (Head.ofWritten written)).declaration :=
    fun _ => GroupedPath.readsBack_ofWritten
  have htext : "orders:order!client_id(amount::text)".toList =
      GroupedPath.statement orderEntries := by decide +kernel
  have hfields : selectFields "orders:order!client_id(amount::text)".toList =
      .ok (GroupedPath.toFields orderEntries) := by
    rw [htext]
    exact GroupedPath.selectFields_readBack (List.cons_ne_nil _ _)
      ⟨⟨hread _ (by decide +kernel), List.cons_ne_nil _ _, hread _ (by decide +kernel), trivial⟩,
        trivial⟩
  have hchains : Field.chainsOf (GroupedPath.toFields orderEntries) =
      [[Head.ofWritten "orders:order!client_id".toList, Head.ofWritten "amount::text".toList]] :=
    rfl
  refine ⟨hfields, fun chain hchain => ?_⟩
  have haliased : ∃ head ∈ chain, head.aliasName.isSome = true := by
    rw [hchains, List.mem_singleton] at hchain
    exact ⟨_, hchain ▸ List.mem_cons_self, by decide +kernel⟩
  refine ⟨((parseSelect_outputPath_iff hfields).2 chain hchain).2 (Or.inl haliased), ?_⟩
  rw [hchains, List.mem_singleton] at hchain
  rw [hchain]
  decide +kernel

/-- Without an alias the cast stays: the response answers under `amount`,
and the reshaped row holds `amount::text`. -/
theorem outputPath_keeps_cast :
    parseSelect "amount::text".toList =
        .ok [Path.ofHeads [Head.ofWritten "amount::text".toList]] ∧
      (Head.ofWritten "amount::text".toList).responseKey = "amount".toList ∧
      (Path.ofHeads [Head.ofWritten "amount::text".toList]).outputPath =
        "amount::text".toList ∧
      denormalize [Path.ofHeads [Head.ofWritten "amount::text".toList]]
          (.obj [("amount".toList, .ofNat 5)]) =
        .obj [("amount::text".toList, .ofNat 5)] := by
  have hread : Head.ReadsBack "amount::text".toList :=
    GroupedPath.readsBack_of_spelled (by decide +kernel) (by decide +kernel)
  have hreads : ∀ name ∈ ["amount::text".toList], Head.ReadsBack name :=
    fun name hname => List.mem_singleton.1 hname ▸ hread
  have hparse := parseSelect_heads (List.cons_ne_nil _ _) hreads
  refine ⟨hparse, by decide +kernel, by decide +kernel, ?_⟩
  have hslots : Slot.ofPaths [Path.ofHeads [Head.ofWritten "amount::text".toList]] =
      [.mk "amount::text".toList "amount::text".toList true []] := rfl
  rw [denormalize, hslots, Slot.reshape_obj, Slot.reshapeFields_eq]
  rfl

end QueryCache
