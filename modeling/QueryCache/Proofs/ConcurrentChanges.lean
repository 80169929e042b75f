/-
QueryCache.Proofs.ConcurrentChanges — two changes of one store at a time.

A change reads the keys of the store, plans key by key, and performs what it
planned in any order (`ChangeStage.Step`).  Between any two of these steps the
other change may take steps of its own, and somebody else may remove entries
(`SharedRun.Step`).  A plan depends on keys alone and a patch is a function of
the entry that it finds, so wherever a run stands, the entries that were not
removed are those that the calls performed so far leave of the old ones, and
a removed key has none (`SharedRun.IsReachedBy`).  A change patches a key once
at most, and two patches have two orders (`SharedRun.losesNothing`).
-/
import Mathlib.Data.List.Permutation
import QueryCache.Proofs.TaskOrder

namespace QueryCache

/-! ## 1. Planned calls -/

namespace ItemMutation

/-- The calls that a change plans for keys; none of them is refused. -/
def calls (config : CacheConfig) (mutation : ItemMutation) (keys : List Text) :
    List StoreCall :=
  (mutation.plan config keys).map (.under {})

section

variable {config : CacheConfig} {mutation : ItemMutation}

theorem calls_append (front back : List Text) :
    mutation.calls config (front ++ back) =
      mutation.calls config front ++ mutation.calls config back := by
  rw [calls, plan, List.flatMap_append, List.map_append]
  rfl

theorem map_planned_calls (keys : List Text) :
    (mutation.calls config keys).map (·.planned) = mutation.plan config keys :=
  StoreCall.map_planned_under {} _

theorem failure_eq_none_of_mem_calls {keys : List Text} {call : StoreCall}
    (h : call ∈ mutation.calls config keys) : call.failure = none := by
  obtain ⟨task, -, rfl⟩ := List.mem_map.1 h
  exact ite_self none

theorem keepsPresence_of_mem_calls {keys : List Text} {call : StoreCall}
    (h : call ∈ mutation.calls config keys) : call.KeepsPresence :=
  StoreCall.keepsPresence (map_planned_calls keys) h

/-- A key that was read has the calls of its own plan, another has none. -/
theorem patchesOf_calls {keys : List Text} (hnodup : keys.Nodup) (text : Text) :
    StoreCall.patchesOf (mutation.calls config keys) text =
      if text ∈ keys then
        ((mutation.planKey config text).map fun task => StoreCall.under {} (text, task)).filter
          (·.isPatched)
      else [] := by
  have hkey : (mutation.calls config keys).filter (fun call => call.key == text) =
      ((mutation.plan config keys).filter fun task => task.1 == text).map (.under {}) := by
    rw [calls, List.filter_map]
    rfl
  have hsplit : StoreCall.patchesOf (mutation.calls config keys) text =
      ((mutation.calls config keys).filter fun call => call.key == text).filter (·.isPatched) := by
    rw [List.filter_filter, StoreCall.patchesOf]
    exact List.filter_congr fun call _ => Bool.and_comm _ _
  rw [hsplit, hkey]
  split
  · rename_i hmem
    rw [mutation.filter_planned config hnodup hmem, List.map_map]
    rfl
  · rename_i hmem
    rw [filter_plan_eq_nil hmem]
    rfl

theorem length_patchesOf_calls_le_one {keys : List Text} (hnodup : keys.Nodup) (text : Text) :
    (StoreCall.patchesOf (mutation.calls config keys) text).length ≤ 1 :=
  StoreCall.length_patchesOf_le_one (map_planned_calls keys) hnodup text

end
end ItemMutation

namespace Store

theorem isSome_get?_callAll (store : Store) {calls : List StoreCall}
    (h : ∀ call ∈ calls, call.KeepsPresence) (text : Text) :
    ((store.callAll calls).get? text).isSome = (store.get? text).isSome := by
  rw [Bool.eq_iff_iff, ← mem_keys_iff, ← mem_keys_iff, keys_callAll store h]

end Store

/-! ## 2. Stages of a change -/

/-- How far a change has come: it has not read the keys yet; it plans, with
the calls planned so far and the keys that are left; or it performs, with the
calls it planned and those that are left. -/
inductive ChangeStage where
  | waiting
  | planning (planned : List StoreCall) (keys : List Text)
  | performing (planned pending : List StoreCall)

namespace ChangeStage

/-- The calls planned so far. -/
def calls : ChangeStage → List StoreCall
  | waiting => []
  | planning planned _ => planned
  | performing planned _ => planned

/-- All calls were planned and performed. -/
def IsDone (stage : ChangeStage) : Prop :=
  stage = .performing stage.calls []

/-- A change takes a step on a store. -/
inductive Step (config : CacheConfig) (mutation : ItemMutation) :
    Store × ChangeStage → Store × ChangeStage → Prop where
  | readKeys {store : Store} :
    Step config mutation (store, .waiting) (store, .planning [] store.keys)
  | planKey {store : Store} {planned : List StoreCall} {text : Text} {keys : List Text} :
    Step config mutation (store, .planning planned (text :: keys))
      (store, .planning (planned ++ mutation.calls config [text]) keys)
  | spawn {store : Store} {planned : List StoreCall} :
    Step config mutation (store, .planning planned []) (store, .performing planned planned)
  | perform {store next : Store} {planned front back : List StoreCall} {call : StoreCall}
    (h : store.perform call.faults call.key call.task = .ok next) :
    Step config mutation (store, .performing planned (front ++ call :: back))
      (next, .performing planned (front ++ back))

/-- Keys read from a store from which some were removed: each once, and those
that are not removed are the keys of the store. -/
structure IsReadOf (store : Store) (removed keys : List Text) : Prop where
  nodup : keys.Nodup
  mem_iff : ∀ text, text ∉ removed → (text ∈ keys ↔ text ∈ store.keys)

theorem IsReadOf.mono {store : Store} {removed more keys : List Text}
    (h : IsReadOf store removed keys) (hmore : removed ⊆ more) : IsReadOf store more keys :=
  ⟨h.nodup, fun text htext => h.mem_iff text fun hmem => htext (hmore hmem)⟩

/-- How a change reached its stage: it planned for keys of the store, and
performed calls that it had planned. -/
inductive IsReachedBy (config : CacheConfig) (mutation : ItemMutation) (store : Store)
    (removed : List Text) : List StoreCall → ChangeStage → Prop where
  | waiting : IsReachedBy config mutation store removed [] .waiting
  | planning {read keys : List Text} (h : IsReadOf store removed (read ++ keys)) :
    IsReachedBy config mutation store removed [] (.planning (mutation.calls config read) keys)
  | performing {keys : List Text} {performed pending : List StoreCall}
    (h : IsReadOf store removed keys)
    (hperm : (performed ++ pending).Perm (mutation.calls config keys)) :
    IsReachedBy config mutation store removed performed
      (.performing (mutation.calls config keys) pending)

section

variable {config : CacheConfig} {mutation : ItemMutation} {store : Store}
  {removed : List Text} {performed : List StoreCall} {stage : ChangeStage}

/-- A removal leaves what a change has done. -/
theorem IsReachedBy.mono (h : stage.IsReachedBy config mutation store removed performed)
    {more : List Text} (hmore : removed ⊆ more) :
    stage.IsReachedBy config mutation store more performed := by
  cases h with
  | waiting => exact .waiting
  | planning h => exact .planning (h.mono hmore)
  | performing h hperm => exact .performing (h.mono hmore) hperm

/-- What was performed was planned. -/
theorem IsReachedBy.keepsPresence
    (h : stage.IsReachedBy config mutation store removed performed) :
    ∀ call ∈ performed, call.KeepsPresence := by
  intro call hcall
  cases h with
  | waiting => contradiction
  | planning => contradiction
  | performing _ hperm =>
    exact ItemMutation.keepsPresence_of_mem_calls (hperm.subset (List.mem_append_left _ hcall))

/-- A change at its end planned for keys of the store, and performed what it
planned. -/
theorem IsReachedBy.exists_keys_of_isDone
    (h : stage.IsReachedBy config mutation store removed performed) (hdone : stage.IsDone) :
    ∃ keys, IsReadOf store removed keys ∧ stage.calls = mutation.calls config keys ∧
      performed.Perm stage.calls := by
  cases h with
  | waiting => exact absurd hdone (by simp [IsDone])
  | planning => exact absurd hdone (by simp [IsDone])
  | @performing keys _ pending h hperm =>
    obtain rfl : pending = [] := (ChangeStage.performing.inj hdone).2
    rw [List.append_nil] at hperm
    exact ⟨keys, h, rfl, hperm⟩

/-- A step of a change performs calls, one or none. -/
theorem IsReachedBy.step {current next : Store} {last : ChangeStage}
    (h : stage.IsReachedBy config mutation store removed performed)
    (hkeys : IsReadOf store removed current.keys)
    (hstep : Step config mutation (current, stage) (next, last)) :
    ∃ calls, next = current.callAll calls ∧
      last.IsReachedBy config mutation store removed (performed ++ calls) := by
  cases hstep with
  | readKeys =>
    cases h
    exact ⟨[], rfl, @IsReachedBy.planning config mutation store removed [] _ hkeys⟩
  | @planKey _ _ text keys =>
    cases h with
    | @planning read _ h =>
      refine ⟨[], rfl, ?_⟩
      rw [← ItemMutation.calls_append]
      exact .planning (by rwa [List.append_assoc])
  | spawn =>
    cases h with
    | @planning read _ h =>
      rw [List.append_nil] at h
      exact ⟨[], rfl, .performing h (.refl _)⟩
  | @perform _ _ _ front back call hperform =>
    cases h with
    | @performing keys _ _ h hperm =>
      have hnext : next = current.call call := by
        rcases current.perform_call call with ⟨-, hok⟩ | ⟨error, -, herror, -⟩
        · rw [hok] at hperform
          exact (Except.ok.inj hperform).symm
        · rw [herror] at hperform
          contradiction
      exact ⟨[call], hnext, .performing h
        ((MutationRun.perm_take_out performed front back call).trans hperm)⟩

/-- Any number of steps. -/
abbrev Reaches (config : CacheConfig) (mutation : ItemMutation) :
    Store × ChangeStage → Store × ChangeStage → Prop :=
  Relation.ReflTransGen (Step config mutation)

/-- Calls that are not refused can be performed to the last. -/
theorem exists_reaches_performed (planned : List StoreCall) {pending : List StoreCall}
    (h : ∀ call ∈ pending, call.failure = none) (current : Store) :
    ∃ next, Reaches config mutation (current, .performing planned pending)
      (next, .performing planned []) := by
  induction pending generalizing current with
  | nil => exact ⟨current, .refl⟩
  | cons call rest ih =>
    have hcall : call.error? = none := StoreCall.error?_eq_none_iff.2 (h call List.mem_cons_self)
    rcases current.perform_call call with ⟨-, hok⟩ | ⟨error, hsome, -, -⟩
    · obtain ⟨next, hrest⟩ := ih (fun other hother => h other (List.mem_cons_of_mem _ hother))
        (current.call call)
      exact ⟨next, .head (@Step.perform config mutation _ _ planned [] rest call hok) hrest⟩
    · rw [hcall] at hsome
      contradiction

/-- Keys can be planned for to the last. -/
theorem reaches_planned (current : Store) (read keys : List Text) :
    Reaches config mutation (current, .planning (mutation.calls config read) keys)
      (current, .performing (mutation.calls config (read ++ keys))
        (mutation.calls config (read ++ keys))) := by
  induction keys generalizing read with
  | nil =>
    rw [List.append_nil]
    exact .single .spawn
  | cons text keys ih =>
    have hrest := ih (read ++ [text])
    rw [ItemMutation.calls_append, List.append_assoc, List.singleton_append] at hrest
    exact .head .planKey hrest

/-- Wherever a change stands, it comes to its end. -/
theorem IsReachedBy.exists_reaches_done
    (h : stage.IsReachedBy config mutation store removed performed) (current : Store) :
    ∃ next last, Reaches config mutation (current, stage) (next, last) ∧ last.IsDone := by
  have hplanned : ∀ read keys : List Text, ∃ next last,
      Reaches config mutation (current, .planning (mutation.calls config read) keys) (next, last) ∧
        last.IsDone := by
    intro read keys
    obtain ⟨next, hperformed⟩ := @exists_reaches_performed config mutation
      (mutation.calls config (read ++ keys)) _
      (fun _ => ItemMutation.failure_eq_none_of_mem_calls) current
    exact ⟨next, _, (reaches_planned current read keys).trans hperformed, rfl⟩
  cases h with
  | waiting =>
    obtain ⟨next, last, hreaches, hdone⟩ := hplanned [] current.keys
    exact ⟨next, last, .head .readKeys hreaches, hdone⟩
  | @planning read keys _ => exact hplanned read keys
  | @performing keys _ pending _ hperm =>
    obtain ⟨next, hperformed⟩ := @exists_reaches_performed config mutation
      (mutation.calls config keys) pending (fun call hcall =>
        ItemMutation.failure_eq_none_of_mem_calls
          (hperm.subset (List.mem_append_right performed hcall))) current
    exact ⟨next, _, hperformed, rfl⟩

end
end ChangeStage

/-! ## 3. Runs of two changes -/

/-- Two changes of a store, how far each has come, and the keys whose entries
somebody else has removed meanwhile. -/
structure SharedRun where
  store : Store
  first : ChangeStage := .waiting
  second : ChangeStage := .waiting
  removed : List Text := []

namespace SharedRun

/-- Both changes came to their ends. -/
def IsDone (run : SharedRun) : Prop :=
  run.first.IsDone ∧ run.second.IsDone

/-- One of the changes takes a step, or an entry is removed. -/
inductive Step (config : CacheConfig) (first second : ItemMutation) :
    SharedRun → SharedRun → Prop where
  | first {run : SharedRun} {store : Store} {stage : ChangeStage}
    (h : ChangeStage.Step config first (run.store, run.first) (store, stage)) :
    Step config first second run { run with store := store, first := stage }
  | second {run : SharedRun} {store : Store} {stage : ChangeStage}
    (h : ChangeStage.Step config second (run.store, run.second) (store, stage)) :
    Step config first second run { run with store := store, second := stage }
  | remove {run : SharedRun} (text : Text) :
    Step config first second run
      { run with store := run.store.erase text, removed := text :: run.removed }

/-- Any number of steps. -/
abbrev Reaches (config : CacheConfig) (first second : ItemMutation) :
    SharedRun → SharedRun → Prop :=
  Relation.ReflTransGen (Step config first second)

/-- How a run was reached: the calls performed so far, those of each change
among them, and what they left where nothing was removed. -/
structure IsReachedBy (config : CacheConfig) (first second : ItemMutation) (store : Store)
    (order ofFirst ofSecond : List StoreCall) (run : SharedRun) : Prop where
  first : run.first.IsReachedBy config first store run.removed ofFirst
  second : run.second.IsReachedBy config second store run.removed ofSecond
  perm : order.Perm (ofFirst ++ ofSecond)
  get?_eq : ∀ text, run.store.get? text =
    if text ∈ run.removed then none else (store.callAll order).get? text

section

variable {config : CacheConfig} {first second : ItemMutation} {store : Store}
  {order ofFirst ofSecond : List StoreCall} {run : SharedRun}

theorem IsReachedBy.keepsPresence
    (h : run.IsReachedBy config first second store order ofFirst ofSecond) :
    ∀ call ∈ order, call.KeepsPresence := by
  intro call hcall
  rcases List.mem_append.1 (h.perm.subset hcall) with hmem | hmem
  · exact h.first.keepsPresence call hmem
  · exact h.second.keepsPresence call hmem

/-- A run has the entries of the store that were not removed. -/
theorem IsReachedBy.isSome_get?
    (h : run.IsReachedBy config first second store order ofFirst ofSecond) (text : Text) :
    (run.store.get? text).isSome = (decide (text ∉ run.removed) && (store.get? text).isSome) := by
  rw [h.get?_eq]
  by_cases hremoved : text ∈ run.removed
  · simp [hremoved]
  · rw [if_neg hremoved, Store.isSome_get?_callAll store h.keepsPresence]
    simp [hremoved]

/-- The keys of a run are keys read from the store. -/
theorem IsReachedBy.isReadOf
    (h : run.IsReachedBy config first second store order ofFirst ofSecond) :
    ChangeStage.IsReadOf store run.removed run.store.keys where
  nodup := run.store.keys_nodup
  mem_iff text htext := by
    rw [Store.mem_keys_iff, Store.mem_keys_iff, h.isSome_get?, decide_eq_true htext,
      Bool.true_and]

/-- Calls that a change performs next. -/
theorem IsReachedBy.get?_callAll
    (h : run.IsReachedBy config first second store order ofFirst ofSecond)
    {calls : List StoreCall} (hcalls : ∀ call ∈ calls, call.KeepsPresence) (text : Text) :
    (run.store.callAll calls).get? text =
      if text ∈ run.removed then none else (store.callAll (order ++ calls)).get? text := by
  by_cases hremoved : text ∈ run.removed
  · have hnone : run.store.get? text = none := by rw [h.get?_eq, if_pos hremoved]
    rw [if_pos hremoved, ← Option.not_isSome_iff_eq_none, Store.isSome_get?_callAll _ hcalls,
      hnone]
    exact Bool.false_ne_true
  · rw [if_neg hremoved, Store.callAll_append, Store.get?_callAll, Store.get?_callAll _ calls,
      h.get?_eq, if_neg hremoved]

/-- A step performs one more call of either change, or none, or removes an
entry. -/
theorem IsReachedBy.step {next : SharedRun}
    (h : run.IsReachedBy config first second store order ofFirst ofSecond)
    (hstep : Step config first second run next) :
    ∃ order ofFirst ofSecond,
      next.IsReachedBy config first second store order ofFirst ofSecond := by
  cases hstep with
  | first hstep =>
    obtain ⟨calls, rfl, hfirst⟩ := h.first.step h.isReadOf hstep
    refine ⟨order ++ calls, ofFirst ++ calls, ofSecond, hfirst, h.second, ?_, ?_⟩
    · refine (h.perm.append_right calls).trans ?_
      rw [List.append_assoc, List.append_assoc]
      exact List.perm_append_comm.append_left ofFirst
    · exact h.get?_callAll fun call hcall =>
        hfirst.keepsPresence call (List.mem_append_right ofFirst hcall)
  | second hstep =>
    obtain ⟨calls, rfl, hsecond⟩ := h.second.step h.isReadOf hstep
    refine ⟨order ++ calls, ofFirst, ofSecond ++ calls, h.first, hsecond, ?_, ?_⟩
    · rw [← List.append_assoc]
      exact h.perm.append_right calls
    · exact h.get?_callAll fun call hcall =>
        hsecond.keepsPresence call (List.mem_append_right ofSecond hcall)
  | remove text =>
    refine ⟨order, ofFirst, ofSecond, h.first.mono (List.subset_cons_self _ _),
      h.second.mono (List.subset_cons_self _ _), h.perm, fun other => ?_⟩
    rw [Store.get?_erase, h.get?_eq]
    by_cases hother : other = text
    · rw [if_pos hother, if_pos (hother ▸ List.mem_cons_self)]
    · rw [if_neg hother]
      simp only [List.mem_cons, hother, false_or]

theorem exists_reachedBy (h : Reaches config first second { store } run) :
    ∃ order ofFirst ofSecond, run.IsReachedBy config first second store order ofFirst ofSecond := by
  induction h with
  | refl => exact ⟨[], [], [], .waiting, .waiting, .refl _, fun text => by simp [Store.callAll]⟩
  | tail _ hstep ih =>
    obtain ⟨order, ofFirst, ofSecond, hreached⟩ := ih
    exact hreached.step hstep

/-- The first change takes its steps, the second waits. -/
theorem reaches_first {next : Store} {stage : ChangeStage}
    (h : ChangeStage.Reaches config first (run.store, run.first) (next, stage)) :
    Reaches config first second run { run with store := next, first := stage } :=
  Relation.ReflTransGen.lift (fun state : Store × ChangeStage =>
    ({ run with store := state.1, first := state.2 } : SharedRun))
    (fun before _ hstep => @Step.first config first second
      { run with store := before.1, first := before.2 } _ _ hstep) _ _ h

/-- The second change takes its steps, the first waits. -/
theorem reaches_second {next : Store} {stage : ChangeStage}
    (h : ChangeStage.Reaches config second (run.store, run.second) (next, stage)) :
    Reaches config first second run { run with store := next, second := stage } :=
  Relation.ReflTransGen.lift (fun state : Store × ChangeStage =>
    ({ run with store := state.1, second := state.2 } : SharedRun))
    (fun before _ hstep => @Step.second config first second
      { run with store := before.1, second := before.2 } _ _ hstep) _ _ h

/-- Wherever a run stands, the changes come to their ends. -/
theorem exists_reaches_done (h : Reaches config first second { store } run) :
    ∃ last, Reaches config first second run last ∧ last.IsDone ∧ last.removed = run.removed := by
  obtain ⟨order, ofFirst, ofSecond, hreached⟩ := exists_reachedBy h
  obtain ⟨middle, ofFirst', hfirst, hfirstDone⟩ := hreached.first.exists_reaches_done run.store
  obtain ⟨last, ofSecond', hsecond, hsecondDone⟩ := hreached.second.exists_reaches_done middle
  have hmiddle : Reaches config first second run
      { run with store := middle, first := ofFirst' } := reaches_first hfirst
  have hlast : Reaches config first second { run with store := middle, first := ofFirst' }
      { run with store := last, first := ofFirst', second := ofSecond' } := reaches_second hsecond
  exact ⟨_, hmiddle.trans hlast, ⟨hfirstDone, hsecondDone⟩, rfl⟩

theorem removed_subset {next : SharedRun} (h : Reaches config first second run next) :
    run.removed ⊆ next.removed := by
  induction h with
  | refl => exact List.Subset.refl _
  | tail _ hstep ih =>
    cases hstep with
    | first => exact ih
    | second => exact ih
    | remove text => exact fun other hother => List.mem_cons_of_mem text (ih hother)

theorem get?_of_mem_removed (h : Reaches config first second { store } run) {text : Text}
    (htext : text ∈ run.removed) : run.store.get? text = none := by
  obtain ⟨order, ofFirst, ofSecond, hreached⟩ := exists_reachedBy h
  rw [hreached.get?_eq, if_pos htext]

/-- An entry that is missing stays missing. -/
theorem get?_eq_none_of_reaches (h : Reaches config first second { store } run)
    {next : SharedRun} (hnext : Reaches config first second run next) {text : Text}
    (hnone : run.store.get? text = none) : next.store.get? text = none := by
  obtain ⟨order, ofFirst, ofSecond, hreached⟩ := exists_reachedBy h
  obtain ⟨order', ofFirst', ofSecond', hreached'⟩ := exists_reachedBy (h.trans hnext)
  have hbefore := hreached.isSome_get? text
  rw [hnone, Option.isSome_none, eq_comm, Bool.and_eq_false_iff, decide_eq_false_iff_not,
    not_not] at hbefore
  rw [← Option.not_isSome_iff_eq_none, hreached'.isSome_get?, Bool.and_eq_true, decide_eq_true_iff]
  rintro ⟨hkept, hsome⟩
  rcases hbefore with hremoved | hmissing
  · exact hkept (removed_subset hnext hremoved)
  · rw [hmissing] at hsome
    contradiction

end
end SharedRun

/-! ## 4. Two orders -/

/-- An entry after patches of its key, one after the other. -/
def StoreCall.patched (text : Text) (entry : Option CacheData) (patches : List StoreCall) :
    Option CacheData :=
  patches.foldl (fun entry call => call.task.onEntry {} text entry) entry

/-- Two lists of one at most are put together in one of two orders. -/
theorem eq_append_or_of_perm {α : Type} {together front back : List α}
    (h : together.Perm (front ++ back)) (hfront : front.length ≤ 1) (hback : back.length ≤ 1) :
    together = front ++ back ∨ together = back ++ front := by
  rcases front with _ | ⟨a, _ | ⟨_, _⟩⟩
  · rcases back with _ | ⟨b, _ | ⟨_, _⟩⟩
    · exact .inl h.eq_nil
    · exact .inl (List.perm_singleton.1 h)
    · simp at hback
  · rcases back with _ | ⟨b, _ | ⟨_, _⟩⟩
    · exact .inl (List.perm_singleton.1 h)
    · exact List.perm_pair.1 h
    · simp at hback
  · simp at hfront

/-- A change is carried into a store by the calls for the keys of the store. -/
theorem fst_mutateItem_eq_callAll (config : CacheConfig) (mutation : ItemMutation) (store : Store) :
    (mutateItem config {} mutation store).1 =
      store.callAll (mutation.calls config store.keys) := by
  rw [fst_mutateItem, Store.performAll_eq]
  rfl

theorem mutateItems_pair_eq (config : CacheConfig) (first second : ItemMutation) (store : Store) :
    mutateItems config {} store [first, second] =
      store.callAll (first.calls config store.keys ++ second.calls config store.keys) := by
  have hkeys : (store.callAll (first.calls config store.keys)).keys = store.keys :=
    Store.keys_callAll store fun call hcall => ItemMutation.keepsPresence_of_mem_calls hcall
  rw [Store.callAll_append]
  show (mutateItem config {} second (mutateItem config {} first store).1).1 = _
  rw [fst_mutateItem_eq_callAll, fst_mutateItem_eq_callAll, hkeys]

/-- What two changes have done to a store when both came to their ends. -/
structure SharedRun.LosesNothing (config : CacheConfig) (first second : ItemMutation)
    (store : Store) (run : SharedRun) : Prop where
  /-- Either change patches a key once at most. -/
  one_patch : ∀ text, (StoreCall.patchesOf run.first.calls text).length ≤ 1 ∧
    (StoreCall.patchesOf run.second.calls text).length ≤ 1
  /-- For a key that was not removed either change planned what it plans for
  the keys of the store, whenever it read them. -/
  patchesOf_eq : ∀ text, text ∉ run.removed →
    StoreCall.patchesOf run.first.calls text =
        StoreCall.patchesOf (first.calls config store.keys) text ∧
      StoreCall.patchesOf run.second.calls text =
        StoreCall.patchesOf (second.calls config store.keys) text
  /-- The entry is the old one with all patches of the key, one after the
  other, in one of the two orders. -/
  get?_eq : ∀ text, text ∉ run.removed →
    run.store.get? text = StoreCall.patched text (store.get? text)
        (StoreCall.patchesOf run.first.calls text ++ StoreCall.patchesOf run.second.calls text) ∨
      run.store.get? text = StoreCall.patched text (store.get? text)
        (StoreCall.patchesOf run.second.calls text ++ StoreCall.patchesOf run.first.calls text)
  /-- So it is what the changes leave when one waits for the other. -/
  serial : ∀ text, text ∉ run.removed →
    run.store.get? text = (mutateItems config {} store [first, second]).get? text ∨
      run.store.get? text = (mutateItems config {} store [second, first]).get? text

theorem get?_mutateItems_pair (config : CacheConfig) (first second : ItemMutation) (store : Store)
    (text : Text) :
    (mutateItems config {} store [first, second]).get? text =
      StoreCall.patched text (store.get? text)
        (StoreCall.patchesOf (first.calls config store.keys) text ++
          StoreCall.patchesOf (second.calls config store.keys) text) := by
  rw [mutateItems_pair_eq, Store.get?_callAll, StoreCall.patchesOf, List.filter_append]
  rfl

/-- Keys that were read have the patches of the keys of the store, where
nothing was removed. -/
theorem ChangeStage.IsReadOf.patchesOf_eq {store : Store} {removed keys : List Text}
    (h : IsReadOf store removed keys) {text : Text} (htext : text ∉ removed)
    (config : CacheConfig) (mutation : ItemMutation) :
    StoreCall.patchesOf (mutation.calls config keys) text =
      StoreCall.patchesOf (mutation.calls config store.keys) text := by
  have hnodup : store.keys.Nodup := store.keys_nodup
  rw [ItemMutation.patchesOf_calls h.nodup, ItemMutation.patchesOf_calls hnodup]
  exact if_congr (h.mem_iff text htext) rfl rfl

/-- Two changes that came to their ends have lost nothing. -/
theorem SharedRun.losesNothing {config : CacheConfig} {first second : ItemMutation} {store : Store}
    {run : SharedRun} (h : Reaches config first second { store } run) (hdone : run.IsDone) :
    run.LosesNothing config first second store := by
  obtain ⟨order, ofFirst, ofSecond, hreached⟩ := exists_reachedBy h
  obtain ⟨keys, hread, hfirst, hfirstPerm⟩ := hreached.first.exists_keys_of_isDone hdone.1
  obtain ⟨others, hreadOther, hsecond, hsecondPerm⟩ :=
    hreached.second.exists_keys_of_isDone hdone.2
  have hone : ∀ text, (StoreCall.patchesOf run.first.calls text).length ≤ 1 ∧
      (StoreCall.patchesOf run.second.calls text).length ≤ 1 := by
    intro text
    rw [hfirst, hsecond]
    exact ⟨ItemMutation.length_patchesOf_calls_le_one hread.nodup text,
      ItemMutation.length_patchesOf_calls_le_one hreadOther.nodup text⟩
  have hplanned : ∀ text, text ∉ run.removed →
      StoreCall.patchesOf run.first.calls text =
          StoreCall.patchesOf (first.calls config store.keys) text ∧
        StoreCall.patchesOf run.second.calls text =
          StoreCall.patchesOf (second.calls config store.keys) text := by
    intro text htext
    rw [hfirst, hsecond]
    exact ⟨hread.patchesOf_eq htext config first, hreadOther.patchesOf_eq htext config second⟩
  have hentry : ∀ text, text ∉ run.removed →
      run.store.get? text = StoreCall.patched text (store.get? text)
          (StoreCall.patchesOf run.first.calls text ++
            StoreCall.patchesOf run.second.calls text) ∨
        run.store.get? text = StoreCall.patched text (store.get? text)
          (StoreCall.patchesOf run.second.calls text ++
            StoreCall.patchesOf run.first.calls text) := by
    intro text htext
    have hperm : (StoreCall.patchesOf order text).Perm
        (StoreCall.patchesOf run.first.calls text ++
          StoreCall.patchesOf run.second.calls text) := by
      have hall := (hreached.perm.trans (hfirstPerm.append hsecondPerm)).filter
        fun call => call.key == text && call.isPatched
      rwa [List.filter_append] at hall
    have hget : run.store.get? text =
        StoreCall.patched text (store.get? text) (StoreCall.patchesOf order text) := by
      rw [hreached.get?_eq, if_neg htext, Store.get?_callAll]
      rfl
    rw [hget]
    exact (eq_append_or_of_perm hperm (hone text).1 (hone text).2).imp
      (congrArg (StoreCall.patched text _)) (congrArg (StoreCall.patched text _))
  refine ⟨hone, hplanned, hentry, fun text htext => ?_⟩
  rw [get?_mutateItems_pair, get?_mutateItems_pair, ← (hplanned text htext).1,
    ← (hplanned text htext).2]
  exact hentry text htext

/-- Two changes that read the keys of a store, plan, and perform what they
planned in any interleaving, while somebody else removes entries: they come to
their ends, wherever they stand; a removed key has no entry, and an entry that
is missing is never brought back; and at the ends nothing was lost. -/
theorem concurrentChanges_loseNothing (config : CacheConfig) (first second : ItemMutation)
    (store : Store) (run : SharedRun) (h : SharedRun.Reaches config first second { store } run) :
    (∃ last, SharedRun.Reaches config first second run last ∧ last.IsDone ∧
      last.removed = run.removed) ∧
    (∀ text ∈ run.removed, run.store.get? text = none) ∧
    (∀ next, SharedRun.Reaches config first second run next →
      ∀ text, run.store.get? text = none → next.store.get? text = none) ∧
    (run.IsDone → run.LosesNothing config first second store) :=
  ⟨SharedRun.exists_reaches_done h, fun _ => SharedRun.get?_of_mem_removed h,
    fun _ hnext _ hnone => SharedRun.get?_eq_none_of_reaches h hnext hnone,
    SharedRun.losesNothing h⟩

/-! ## 5. A contact that is entered and renamed -/

/-- The patch of the contacts. -/
def patchContacts (mutation : ItemMutation) : StoreCall :=
  ⟨contactsText, .patch (mutation.patchEntry {} contactsKey contactsFilter [.asc "name".toList]),
    none⟩

theorem calls_contacts {mutation : ItemMutation}
    (h : mutation.Patches contactsKey contactsFilter [.asc "name".toList])
    (hrules : mutation.isNamedByRule {} contactsKey (some contactsFilter) = false) :
    mutation.calls {} [contactsText] = [patchContacts mutation] := by
  have hfilter : (QueryFilter.ofQueryKey contactsKey.queryKey).toOption = some contactsFilter := by
    rw [ofQueryKey_contactsKey]
    rfl
  rw [ItemMutation.calls, ItemMutation.plan, List.flatMap_cons, List.flatMap_nil,
    ItemMutation.planKey_eq decode_contactsText, ItemMutation.ownTask_of_patches h, hfilter,
    hrules]
  rfl

/-- The contacts when the contact was entered and then renamed. -/
def contactsPatched : Store :=
  (contactsStore contactsText).callAll [patchContacts enterContact, patchContacts renameContact]

theorem reaches_contactsPatched :
    SharedRun.Reaches {} enterContact renameContact { store := contactsStore contactsText }
      ⟨contactsPatched, .performing [patchContacts enterContact] [],
        .performing [patchContacts renameContact] [], []⟩ := by
  have henter : enterContact.calls {} ([] ++ [contactsText]) = [patchContacts enterContact] :=
    calls_contacts enterContact_patches rfl
  have hrename : renameContact.calls {} ([] ++ [contactsText]) = [patchContacts renameContact] :=
    calls_contacts renameContact_patches rfl
  -- Both changes have planned before either of them writes.
  refine .head (.first .readKeys) (.head (.second .readKeys) ?_)
  refine .trans (SharedRun.reaches_first
    (ChangeStage.reaches_planned (contactsStore contactsText) [] [contactsText])) ?_
  refine .trans (SharedRun.reaches_second
    (ChangeStage.reaches_planned (contactsStore contactsText) [] [contactsText])) ?_
  rw [henter, hrename]
  refine .head (.first (@ChangeStage.Step.perform _ _ _ _ _ [] [] (patchContacts enterContact) rfl))
    (.single ?_)
  exact .second (@ChangeStage.Step.perform _ _ _ _ _ [] [] (patchContacts renameContact) rfl)

/-- The change of the name was planned when the contact was not in the list
yet, and finds it there all the same. -/
theorem concurrentChanges_loseNothing_contacts :
    ∃ run, SharedRun.Reaches {} enterContact renameContact { store := contactsStore contactsText }
        run ∧ run.IsDone ∧
      run.LosesNothing {} enterContact renameContact (contactsStore contactsText) ∧
      run.store.listAt? contactsText =
        some [contact 1 ['a'], contact 2 ['c'], contact 3 ['d']] := by
  refine ⟨_, reaches_contactsPatched, ⟨rfl, rfl⟩,
    (concurrentChanges_loseNothing {} enterContact renameContact (contactsStore contactsText) _
      reaches_contactsPatched).2.2.2 ⟨rfl, rfl⟩, ?_⟩
  have hkeys : (contactsStore contactsText).keys = [contactsText] := rfl
  have hserial : contactsPatched =
      mutateItems {} {} (contactsStore contactsText) [enterContact, renameContact] := by
    rw [mutateItems_pair_eq, hkeys, calls_contacts enterContact_patches rfl,
      calls_contacts renameContact_patches rfl]
    rfl
  show contactsPatched.listAt? contactsText = _
  rw [hserial]
  exact listAt?_renameContact listAt?_enterContact

end QueryCache
