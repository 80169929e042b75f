/-
QueryCache.Proofs.Reshape.Slots — the slots of a clause are its fields.

When the fields of every level answer under keys of their own, each field
has one slot, in the order of the clause (`ofPaths_chains`).  A row is
then reshaped field by field: the values that the source holds for the
fields, each under the key of its field (`reshapeFields_slots`).
-/
import Mathlib.Data.List.Nodup
import QueryCache.Proofs.Reshape.Built
import QueryCache.Proofs.Select.Chains

namespace QueryCache

/-! ## 1. Fields with keys of their own -/

namespace Field

/-- The key under which a row answers the field. -/
def key (field : Field) : Text :=
  field.head.effectiveName

mutual

/-- No two fields of a level below answer under one key. -/
def DistinctKeys : Field → Prop
  | mk _ children => DistinctKeysOf children

/-- Neither do the fields of this level. -/
def DistinctKeysOf : List Field → Prop
  | [] => True
  | field :: rest =>
    DistinctKeys field ∧ (∀ other ∈ rest, other.key ≠ field.key) ∧ DistinctKeysOf rest

end

mutual

/-- The slot that a field asks for. -/
def slot : Field → Slot
  | mk head children =>
    .mk head.segment head.effectiveName children.isEmpty (slots children)

/-- The slots that the fields of a level ask for. -/
def slots : List Field → List Slot
  | [] => []
  | field :: rest => slot field :: slots rest

end

theorem slots_eq_map (fields : List Field) : slots fields = fields.map slot := by
  induction fields with
  | nil => rfl
  | cons field rest ih => rw [slots, ih, List.map_cons]

theorem key_slot (field : Field) : field.slot.key = field.key := by
  obtain ⟨head, children⟩ := field
  rw [slot]
  rfl

theorem segment_slot (field : Field) : field.slot.segment = field.head.segment := by
  obtain ⟨head, children⟩ := field
  rw [slot]
  rfl

theorem isLeaf_slot (field : Field) : field.slot.isLeaf = field.children.isEmpty := by
  obtain ⟨head, children⟩ := field
  rw [slot]
  rfl

theorem inner_slot (field : Field) : field.slot.inner = slots field.children := by
  obtain ⟨head, children⟩ := field
  rw [slot]
  rfl

mutual

theorem chains_nonempty : (field : Field) → chains field ≠ []
  | mk head children => by
    rw [chains]
    split
    · simp
    · rename_i hchildren
      have hne : children ≠ [] := by simpa using hchildren
      simpa using chainsOf_nonempty children hne

theorem chainsOf_nonempty : (fields : List Field) → fields ≠ [] → chainsOf fields ≠ []
  | [], h => absurd rfl h
  | field :: rest, _ => by
    rw [chainsOf]
    simp [chains_nonempty field]

end

theorem distinctKeysOf_children {fields : List Field} (h : DistinctKeysOf fields) {field : Field}
    (hmem : field ∈ fields) : DistinctKeysOf field.children := by
  induction fields with
  | nil => contradiction
  | cons other rest ih =>
    rw [DistinctKeysOf] at h
    rcases List.mem_cons.1 hmem with rfl | hmem
    · obtain ⟨head, children⟩ := field
      exact h.1
    · exact ih h.2.2 hmem

end Field

/-! ## 2. One slot for each field -/

namespace Slot

/-- The route of a chain of heads. -/
def headRoute (chain : List Head) : List (Text × Text) :=
  chain.map fun head => (head.segment, head.effectiveName)

/-- Adds the slots of chains one after the other. -/
def addChains (slots : List Slot) (chains : List (List Head)) : List Slot :=
  chains.foldl (fun slots chain => addRoute (headRoute chain) slots) slots

section

variable {slots : List Slot} {segment key : Text} (h : ∀ slot ∈ slots, slot.key ≠ key)
include h

theorem find?_eq_none_of_key : find? segment key slots = none := by
  rw [find?, List.find?_eq_none]
  intro slot hslot
  simp [h slot hslot]

theorem find?_append_of_key (new : Slot) (hsegment : new.segment = segment)
    (hkey : new.key = key) : find? segment key (slots ++ [new]) = some new := by
  have hnone : find? segment key slots = none := find?_eq_none_of_key h
  unfold find? at hnone ⊢
  rw [List.find?_append, hnone]
  simp [hsegment, hkey]

theorem put_of_key (new : Slot) (hkey : new.key = key) : put new slots = slots ++ [new] := by
  induction slots with
  | nil => rfl
  | cons slot rest ih =>
    have hslot : slot.key ≠ new.key := hkey ▸ h slot List.mem_cons_self
    rw [put, if_neg fun heq => hslot heq.2,
      ih fun other hmem => h other (List.mem_cons_of_mem _ hmem)]
    rfl

theorem put_append_of_key (old new : Slot) (hsegment : old.segment = new.segment)
    (hold : old.key = new.key) (hkey : new.key = key) :
    put new (slots ++ [old]) = slots ++ [new] := by
  induction slots with
  | nil => rw [List.nil_append, put, if_pos ⟨hsegment, hold⟩]; rfl
  | cons slot rest ih =>
    have hslot : slot.key ≠ new.key := hkey ▸ h slot List.mem_cons_self
    rw [List.cons_append, put, if_neg fun heq => hslot heq.2,
      ih fun other hmem => h other (List.mem_cons_of_mem _ hmem)]
    rfl

end

/-- A leaf with a new key gets a slot at the end. -/
theorem addRoute_leaf {slots : List Slot} {head : Head}
    (h : ∀ slot ∈ slots, slot.key ≠ head.effectiveName) :
    addRoute (headRoute [head]) slots =
      slots ++ [mk head.segment head.effectiveName true []] := by
  simp only [headRoute, List.map_cons, List.map_nil, addRoute, find?_eq_none_of_key h,
    Option.getD_none, List.isEmpty_nil, if_true]
  exact put_of_key h _ rfl

/-- A chain through a new key gets a slot at the end. -/
theorem addRoute_new {slots : List Slot} {head : Head} {chain : List Head} (hchain : chain ≠ [])
    (h : ∀ slot ∈ slots, slot.key ≠ head.effectiveName) :
    addRoute (headRoute (head :: chain)) slots =
      slots ++ [mk head.segment head.effectiveName false (addRoute (headRoute chain) [])] := by
  have hroute : (headRoute chain).isEmpty = false := by simpa [headRoute] using hchain
  have hcons : headRoute (head :: chain) =
      (head.segment, head.effectiveName) :: headRoute chain := rfl
  rw [hcons, addRoute]
  simp only [find?_eq_none_of_key h, Option.getD_none, hroute, Bool.false_eq_true, if_false]
  exact put_of_key h _ rfl

/-- A chain through the key of the last slot goes below that slot. -/
theorem addRoute_last {slots inner : List Slot} {head : Head} {chain : List Head}
    (hchain : chain ≠ []) (h : ∀ slot ∈ slots, slot.key ≠ head.effectiveName) :
    addRoute (headRoute (head :: chain))
        (slots ++ [mk head.segment head.effectiveName false inner]) =
      slots ++ [mk head.segment head.effectiveName false
        (addRoute (headRoute chain) inner)] := by
  have hroute : (headRoute chain).isEmpty = false := by simpa [headRoute] using hchain
  have hcons : headRoute (head :: chain) =
      (head.segment, head.effectiveName) :: headRoute chain := rfl
  have hfind : find? head.segment head.effectiveName
      (slots ++ [mk head.segment head.effectiveName false inner]) =
        some (mk head.segment head.effectiveName false inner) :=
    find?_append_of_key h _ rfl rfl
  rw [hcons, addRoute]
  simp only [hfind, Option.getD_some, hroute, Bool.false_eq_true, if_false]
  exact put_append_of_key h _ _ rfl rfl rfl

/-- All chains through one new key share a slot. -/
theorem addChains_below {slots : List Slot} {head : Head}
    (h : ∀ slot ∈ slots, slot.key ≠ head.effectiveName) {chains : List (List Head)}
    (hchains : ∀ chain ∈ chains, chain ≠ []) (hne : chains ≠ []) :
    addChains slots (chains.map (head :: ·)) =
      slots ++ [mk head.segment head.effectiveName false (addChains [] chains)] := by
  have more : ∀ (chains : List (List Head)) (inner : List Slot),
      (∀ chain ∈ chains, chain ≠ []) →
      addChains (slots ++ [mk head.segment head.effectiveName false inner])
          (chains.map (head :: ·)) =
        slots ++ [mk head.segment head.effectiveName false (addChains inner chains)] := by
    intro chains
    induction chains with
    | nil => exact fun _ _ => rfl
    | cons chain rest ih =>
      intro inner hchains
      have hstep := @addRoute_last slots inner head chain (hchains chain List.mem_cons_self) h
      simp only [addChains, List.map_cons, List.foldl_cons] at ih ⊢
      rw [hstep]
      exact ih _ fun other hmem => hchains other (List.mem_cons_of_mem _ hmem)
  obtain ⟨chain, rest, rfl⟩ := List.exists_cons_of_ne_nil hne
  have hfirst := addRoute_new (hchains chain List.mem_cons_self) h
  have hrest := more rest (addRoute (headRoute chain) [])
    fun other hmem => hchains other (List.mem_cons_of_mem _ hmem)
  simp only [addChains, List.map_cons, List.foldl_cons] at hrest ⊢
  rw [hfirst]
  exact hrest

theorem addChains_append (slots : List Slot) (first second : List (List Head)) :
    addChains slots (first ++ second) = addChains (addChains slots first) second :=
  List.foldl_append

mutual

/-- The chains of a field with a new key add its slot. -/
theorem addChains_field : (field : Field) → field.DistinctKeys → (slots : List Slot) →
    (∀ slot ∈ slots, slot.key ≠ field.key) →
    addChains slots (Field.chains field) = slots ++ [field.slot]
  | .mk head children, hdistinct, slots, hslots => by
    rw [Field.DistinctKeys] at hdistinct
    rw [Field.chains, Field.slot]
    split
    · rename_i hempty
      have hnil : children = [] := by simpa using hempty
      subst hnil
      exact addRoute_leaf hslots
    · rename_i hempty
      have hne : children ≠ [] := by simpa using hempty
      have hbelow := @addChains_below slots head hslots _ (Field.chainsOf_ne_nil children)
        (Field.chainsOf_nonempty children hne)
      rw [hbelow, addChains_fields children hdistinct [] (by simp)]
      simp [hempty]

/-- The chains of fields with new keys add their slots. -/
theorem addChains_fields : (fields : List Field) → Field.DistinctKeysOf fields →
    (slots : List Slot) → (∀ field ∈ fields, ∀ slot ∈ slots, slot.key ≠ field.key) →
    addChains slots (Field.chainsOf fields) = slots ++ Field.slots fields
  | [], _, slots, _ => by simp [Field.chainsOf, addChains, Field.slots]
  | field :: rest, hdistinct, slots, hslots => by
    rw [Field.DistinctKeysOf] at hdistinct
    obtain ⟨hfield, hapart, hrest⟩ := hdistinct
    have hkeys : ∀ other ∈ rest, ∀ slot ∈ slots ++ [field.slot], slot.key ≠ other.key := by
      intro other hother slot hslot
      rcases List.mem_append.1 hslot with hslot | hslot
      · exact hslots other (List.mem_cons_of_mem _ hother) slot hslot
      · rw [List.mem_singleton] at hslot
        rw [hslot, Field.key_slot]
        exact (hapart other hother).symm
    rw [Field.chainsOf, addChains_append,
      addChains_field field hfield slots (hslots field List.mem_cons_self),
      addChains_fields rest hrest _ hkeys, Field.slots, List.append_assoc]
    rfl

end

/-- When every chain leads through its segments to its keys, the slots of a
clause are those of its fields. -/
theorem ofPaths_of_routes {fields : List Field}
    (hroutes : ∀ chain ∈ Field.chainsOf fields, route (Path.ofHeads chain) = headRoute chain)
    (hdistinct : Field.DistinctKeysOf fields) :
    ofPaths ((Field.chainsOf fields).map Path.ofHeads) = Field.slots fields := by
  have hadded : ∀ (chains : List (List Head)) (slots : List Slot),
      (∀ chain ∈ chains, route (Path.ofHeads chain) = headRoute chain) →
      (chains.map Path.ofHeads).foldl (fun slots path => addRoute (route path) slots) slots =
        addChains slots chains := by
    intro chains
    induction chains with
    | nil => exact fun _ _ => rfl
    | cons chain rest ih =>
      intro slots hchains
      rw [List.map_cons, List.foldl_cons,
        ih _ fun other hmem => hchains other (List.mem_cons_of_mem _ hmem),
        hchains chain List.mem_cons_self]
      rfl
  rw [ofPaths, hadded _ _ hroutes, addChains_fields fields hdistinct [] (by simp),
    List.nil_append]

/-- The slots of a plain clause are those of its fields. -/
theorem ofPaths_chains {fields : List Field} (hplain : Field.AllOf Head.IsPlain fields)
    (hspelled : Field.AllOf Head.IsSpelled fields) (hdistinct : Field.DistinctKeysOf fields) :
    ofPaths ((Field.chainsOf fields).map Path.ofHeads) = Field.slots fields :=
  ofPaths_of_routes (fun _ hmem =>
    Path.route_ofHeads (Field.plainChain_of_mem hplain hspelled hmem)) hdistinct

/-! ## 3. Rows field by field -/

/-- What a source holds for a field, in the shape that the field asks
for. -/
def valueIn (source : Fields Json) (field : Field) : Option Json :=
  if field.children.isEmpty then lookup? source field.head.segment
  else related? (reshapeFields (Field.slots field.children)) source field.head.segment

/-- A slot with a new key adds the value of its field, if there is one. -/
theorem addSlot_field {level : Level} {claimed : List Text} {source : Fields Json}
    {field : Field} (hsegment : field.head.segment ≠ ['*'])
    (hkey : level.relationKeys.contains field.key = false) :
    (level.addSlot claimed source field.slot).fields =
        ((valueIn source field).map fun value => (field.key, value)).toList.foldl
          (fun fields entry => Fields.insert entry.1 entry.2 fields) level.fields ∧
      ∀ key ∈ (level.addSlot claimed source field.slot).relationKeys,
        key = field.key ∨ key ∈ level.relationKeys := by
  unfold valueIn Level.addSlot below?
  rw [field.segment_slot, field.key_slot, field.isLeaf_slot, field.inner_slot]
  by_cases hempty : field.children.isEmpty = true
  · have hnil : field.children = [] := by simpa using hempty
    simp only [hnil, List.isEmpty_nil, if_true, Field.slots, Level.addLeaf, hkey,
      Bool.false_eq_true, if_false, hsegment]
    rcases lookup? source field.head.segment with _ | value
    · exact ⟨rfl, fun key hmem => Or.inr hmem⟩
    · exact ⟨rfl, fun key hmem => Or.inr hmem⟩
  · have hslots : (Field.slots field.children).isEmpty = false := by
      rw [Field.slots_eq_map]
      simpa using hempty
    simp only [hempty, hslots, Bool.false_eq_true, if_false]
    rcases related? (reshapeFields (Field.slots field.children)) source field.head.segment
      with _ | value
    · exact ⟨rfl, fun key hmem => Or.inr hmem⟩
    · exact ⟨rfl, fun key hmem => List.mem_cons.1 hmem⟩

/-- A row in the shape of fields with keys of their own: what the source
holds for the fields, each under its key. -/
theorem reshapeFields_slots {fields : List Field} (source : Fields Json)
    (hsegments : ∀ field ∈ fields, field.head.segment ≠ ['*'])
    (hdistinct : fields.Pairwise fun a b => a.key ≠ b.key) :
    reshapeFields (Field.slots fields) source =
      Fields.ofList (fields.filterMap fun field =>
        (valueIn source field).map fun value => (field.key, value)) := by
  rw [reshapeFields_eq, Field.slots_eq_map]
  generalize claimed (fields.map Field.slot) = claimed
  suffices ∀ (rest : List Field) (level : Level), (∀ field ∈ rest, field ∈ fields) →
      rest.Pairwise (fun a b => a.key ≠ b.key) →
      (∀ field ∈ rest, level.relationKeys.contains field.key = false) →
      ((rest.map Field.slot).foldl (fun level slot => level.addSlot claimed source slot)
          level).fields =
        (rest.filterMap fun field =>
          (valueIn source field).map fun value => (field.key, value)).foldl
            (fun fields entry => Fields.insert entry.1 entry.2 fields) level.fields from
    this fields {} (fun _ h => h) hdistinct fun _ _ => rfl
  intro rest
  induction rest with
  | nil => exact fun _ _ _ _ => rfl
  | cons field rest ih =>
    intro level hmem hapart hkeys
    obtain ⟨hfield, hrest⟩ := List.pairwise_cons.1 hapart
    have hin := hmem field List.mem_cons_self
    obtain ⟨hfields, hrelations⟩ := @addSlot_field level claimed source field
      (hsegments field hin) (hkeys field List.mem_cons_self)
    have hentries : (field :: rest).filterMap (fun field =>
          (valueIn source field).map fun value => (field.key, value)) =
        ((valueIn source field).map fun value => (field.key, value)).toList ++
          rest.filterMap fun field =>
            (valueIn source field).map fun value => (field.key, value) := by
      rw [List.filterMap_cons]
      rcases valueIn source field with _ | value <;> rfl
    rw [hentries, List.foldl_append, ← hfields, List.map_cons, List.foldl_cons]
    refine ih _ (fun other h => hmem other (List.mem_cons_of_mem _ h)) hrest ?_
    intro other hother
    have hold := hkeys other (List.mem_cons_of_mem _ hother)
    simp only [List.contains_eq_mem, decide_eq_false_iff_not] at hold ⊢
    intro hcontains
    rcases hrelations other.key hcontains with heq | hcontains
    · exact hfield other hother heq.symm
    · exact hold hcontains

/-- Of values under keys of their own each is found under its key. -/
theorem get?_ofList_keys {fields : List Field}
    (hdistinct : fields.Pairwise fun a b => a.key ≠ b.key) (valueOf : Field → Option Json)
    {field : Field} (hmem : field ∈ fields) :
    Fields.get? field.key (Fields.ofList (fields.filterMap fun field =>
      (valueOf field).map fun value => (field.key, value))) = valueOf field := by
  -- Only the field itself writes its key.
  have hown : ∀ other ∈ fields, other.key = field.key → other = field := fun other hother =>
    List.inj_on_of_nodup_map (List.pairwise_map.2 hdistinct) hother hmem
  rcases hvalue : valueOf field with _ | value
  · refine Fields.get?_ofList_eq_none ?_
    intro entry hentry hkey
    obtain ⟨other, hother, hentry⟩ := List.mem_filterMap.1 hentry
    obtain ⟨found, hfound, rfl⟩ := Option.map_eq_some_iff.1 hentry
    rw [hown other hother hkey, hvalue] at hfound
    contradiction
  · refine Fields.get?_ofList ?_ (List.mem_filterMap.2 ⟨field, hmem, by simp [hvalue]⟩)
    refine List.pairwise_filterMap.2 (hdistinct.imp ?_)
    intro a b hab entry hentry other hother
    obtain ⟨x, -, rfl⟩ := Option.map_eq_some_iff.1 hentry
    obtain ⟨y, -, rfl⟩ := Option.map_eq_some_iff.1 hother
    exact hab

/-- Under any other name nothing is found. -/
theorem get?_ofList_keys_eq_none {fields : List Field} (valueOf : Field → Option Json)
    {name : Text} (hname : ∀ field ∈ fields, field.key ≠ name) :
    Fields.get? name (Fields.ofList (fields.filterMap fun field =>
      (valueOf field).map fun value => (field.key, value))) = none := by
  refine Fields.get?_ofList_eq_none ?_
  intro entry hentry
  obtain ⟨field, hmem, hentry⟩ := List.mem_filterMap.1 hentry
  obtain ⟨value, -, rfl⟩ := Option.map_eq_some_iff.1 hentry
  exact hname field hmem

/-- Under the key of a field the row answers what the source holds for
it. -/
theorem get?_reshapeFields_slots {fields : List Field} (source : Fields Json)
    (hsegments : ∀ field ∈ fields, field.head.segment ≠ ['*'])
    (hdistinct : fields.Pairwise fun a b => a.key ≠ b.key) {field : Field}
    (hmem : field ∈ fields) :
    Fields.get? field.key (reshapeFields (Field.slots fields) source) =
      valueIn source field := by
  rw [reshapeFields_slots source hsegments hdistinct]
  exact get?_ofList_keys hdistinct (valueIn source) hmem

/-- Under any other name it answers nothing. -/
theorem get?_reshapeFields_slots_eq_none {fields : List Field} (source : Fields Json)
    (hsegments : ∀ field ∈ fields, field.head.segment ≠ ['*'])
    (hdistinct : fields.Pairwise fun a b => a.key ≠ b.key) {name : Text}
    (hname : ∀ field ∈ fields, field.key ≠ name) :
    Fields.get? name (reshapeFields (Field.slots fields) source) = none := by
  rw [reshapeFields_slots source hsegments hdistinct]
  exact get?_ofList_keys_eq_none (valueIn source) hname

end Slot
end QueryCache
