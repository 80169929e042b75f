/-
QueryCache.Proofs.StoreCalls — calls of a store in any order.

A change spawns its tasks as calls of the store and awaits them all.  The
store performs one call at a time, in any order, and any call may fail by
itself; the outcomes are awaited in any order, too (`MutationRun.Step`).  A
step performs one more call or awaits one more outcome (`IsReachedBy.step`),
so a run that has ended performed every call once, and its error is one of
theirs (`exists_order_of_reaches`).  Every run ends
(`exists_reaches_done`), and the calls performed and awaited one after the
other are one of the runs (`reaches_inOrder`).  Seen from one key, only its
patches that succeed count (`get?_callAll`), so a key with one patch at most
does not see the order (`get?_callAll_of_perm`).
-/
import Mathlib.Data.List.Basic
import Mathlib.Logic.Relation
import QueryCache.Proofs.StoreRuns

namespace QueryCache

/-! ## 1. Calls -/

/-- A task as a call of the store, and what the store says if it refuses the
call. -/
structure StoreCall where
  key : Text
  task : KeyTask
  failure : Option Text := none

namespace StoreCall

/-- The call as it was planned. -/
def planned (call : StoreCall) : Text × KeyTask :=
  (call.key, call.task)

/-- The store refuses the call, or it does not. -/
def faults (call : StoreCall) : Faults :=
  ⟨fun _ => call.failure, fun _ => call.failure⟩

/-- What the call reports. -/
def error? (call : StoreCall) : Option CacheError :=
  match call.task with
  | .patch _ => call.failure.map (CacheError.write call.key)
  | .revalidate => call.failure.map (CacheError.revalidate call.key)

/-- The call for a task where the store refuses by key. -/
def under (faults : Faults) (task : Text × KeyTask) : StoreCall where
  key := task.1
  task := task.2
  failure := if task.2.isPatch then faults.write task.1 else faults.revalidate task.1

theorem map_planned_under (faults : Faults) (tasks : List (Text × KeyTask)) :
    (tasks.map (under faults)).map (·.planned) = tasks := by
  rw [List.map_map]
  exact List.map_id tasks

/-- A patch that is not refused. -/
def isPatched (call : StoreCall) : Bool :=
  call.task.isPatch && call.failure.isNone

/-- A revalidation that is not refused. -/
def isRecorded (call : StoreCall) : Bool :=
  !call.task.isPatch && call.failure.isNone

/-- The patches of a key that are not refused, in the order of the calls. -/
def patchesOf (calls : List StoreCall) (text : Text) : List StoreCall :=
  calls.filter fun call => call.key == text && call.isPatched

theorem mem_patchesOf {calls : List StoreCall} {text : Text} {call : StoreCall} :
    call ∈ patchesOf calls text ↔ call ∈ calls ∧ call.key = text ∧ call.isPatched = true := by
  rw [patchesOf, List.mem_filter, Bool.and_eq_true, beq_iff_eq]

theorem error?_eq_none_iff {call : StoreCall} : call.error? = none ↔ call.failure = none := by
  rw [error?]
  split <;> exact Option.map_eq_none_iff

end StoreCall

namespace Store

/-- The store after a call. -/
def call (store : Store) (call : StoreCall) : Store :=
  store.after call.faults call.key call.task

/-- The store after calls, one after the other. -/
def callAll (store : Store) (calls : List StoreCall) : Store :=
  calls.foldl Store.call store

theorem callAll_cons (store : Store) (call : StoreCall) (rest : List StoreCall) :
    store.callAll (call :: rest) = (store.call call).callAll rest := rfl

theorem callAll_append (store : Store) (front back : List StoreCall) :
    store.callAll (front ++ back) = (store.callAll front).callAll back :=
  List.foldl_append

/-- A call is performed, or it reports its error and leaves the store. -/
theorem perform_call (store : Store) (call : StoreCall) :
    call.error? = none ∧
        store.perform call.faults call.key call.task = .ok (store.call call) ∨
      ∃ error, call.error? = some error ∧
        store.perform call.faults call.key call.task = .error error ∧
          store.call call = store := by
  obtain ⟨key, task, failure⟩ := call
  cases task <;> cases failure <;>
    simp [StoreCall.error?, Store.call, after, perform, write, Store.revalidate, StoreCall.faults]

/-- The tasks performed where the store refuses by key are its calls, and
what failed is what they report. -/
theorem performAll_eq (faults : Faults) (store : Store) (tasks : List (Text × KeyTask)) :
    store.performAll faults tasks =
      (store.callAll (tasks.map (StoreCall.under faults)),
        (tasks.map (StoreCall.under faults)).filterMap (·.error?)) := by
  induction tasks generalizing store with
  | nil => rfl
  | cons task rest ih =>
    obtain ⟨key, task⟩ := task
    have hsame : store.perform faults key task =
        store.perform (StoreCall.under faults (key, task)).faults key task := by
      cases task <;> rfl
    rw [performAll, List.map_cons, callAll_cons]
    rcases store.perform_call (.under faults (key, task)) with
      ⟨hnone, hok⟩ | ⟨error, hsome, herror, hstore⟩
    · rw [List.filterMap_cons_none hnone, hsame.trans hok]
      exact ih _
    · rw [List.filterMap_cons_some hsome, hsame.trans herror, hstore]
      simp only [ih]

end Store

/-! ## 2. Runs -/

/-- A change that waits for its calls: the store, the calls that were not
performed yet, the outcomes that were not awaited yet, and the first error
that was awaited. -/
structure MutationRun where
  store : Store
  pending : List StoreCall
  settled : List (Option CacheError) := []
  failure : Option CacheError := none

namespace MutationRun

/-- All calls were performed and awaited. -/
def IsDone (run : MutationRun) : Prop :=
  run.pending = [] ∧ run.settled = []

/-- What the change answers at the end. -/
def result (run : MutationRun) (tasks : List (Text × KeyTask)) :
    Except CacheError MutationOutcome :=
  match run.failure with
  | none => .ok (.ofTasks tasks)
  | some error => .error error

/-- The store performs some pending call, or some outcome is awaited. -/
inductive Step : MutationRun → MutationRun → Prop where
  | succeed {store next : Store} {front back : List StoreCall} {call : StoreCall}
    {settled : List (Option CacheError)} {failure : Option CacheError}
    (h : store.perform call.faults call.key call.task = .ok next) :
    Step ⟨store, front ++ call :: back, settled, failure⟩
      ⟨next, front ++ back, settled ++ [none], failure⟩
  | fail {store : Store} {front back : List StoreCall} {call : StoreCall} {error : CacheError}
    {settled : List (Option CacheError)} {failure : Option CacheError}
    (h : store.perform call.faults call.key call.task = .error error) :
    Step ⟨store, front ++ call :: back, settled, failure⟩
      ⟨store, front ++ back, settled ++ [some error], failure⟩
  | await {store : Store} {pending : List StoreCall} {front back : List (Option CacheError)}
    {outcome failure : Option CacheError} :
    Step ⟨store, pending, front ++ outcome :: back, failure⟩
      ⟨store, pending, front ++ back, failure.or outcome⟩

/-- Any number of steps. -/
abbrev Reaches : MutationRun → MutationRun → Prop :=
  Relation.ReflTransGen Step

/-- How a run was reached: the calls that were performed, in their order, and
the outcomes that were awaited. -/
structure IsReachedBy (store : Store) (calls performed : List StoreCall)
    (awaited : List (Option CacheError)) (run : MutationRun) : Prop where
  perm : (performed ++ run.pending).Perm calls
  store_eq : run.store = store.callAll performed
  outcomes : (awaited ++ run.settled).Perm (performed.map (·.error?))
  failure_eq : run.failure = awaited.findSome? id

/-- What is taken out of the middle may come first. -/
theorem perm_take_out {α : Type} (taken front back : List α) (a : α) :
    (taken ++ [a] ++ (front ++ back)).Perm (taken ++ (front ++ a :: back)) := by
  rw [List.append_assoc, List.singleton_append]
  exact List.perm_middle.symm.append_left taken

section

variable {store : Store} {calls performed : List StoreCall} {awaited : List (Option CacheError)}

/-- The next call is performed. -/
theorem IsReachedBy.perform {run : MutationRun} {front back : List StoreCall} {call : StoreCall}
    (h : run.IsReachedBy store calls performed awaited)
    (hpending : run.pending = front ++ call :: back) :
    IsReachedBy store calls (performed ++ [call]) awaited
      ⟨run.store.call call, front ++ back, run.settled ++ [call.error?], run.failure⟩ where
  perm := (perm_take_out performed front back call).trans (hpending ▸ h.perm)
  store_eq := by
    rw [Store.callAll_append, h.store_eq]
    rfl
  outcomes := by
    rw [← List.append_assoc, List.map_append]
    exact h.outcomes.append_right _
  failure_eq := h.failure_eq

/-- A step performs one more call or awaits one more outcome. -/
theorem IsReachedBy.step {run next : MutationRun}
    (h : run.IsReachedBy store calls performed awaited) (hstep : Step run next) :
    ∃ performed awaited, next.IsReachedBy store calls performed awaited := by
  -- Whether a call succeeds depends on the call alone, so a step that performs
  -- it leaves what `IsReachedBy.perform` says.
  cases hstep with
  | @succeed before after front back call settled failure hperform =>
    refine ⟨performed ++ [call], awaited, ?_⟩
    have hnext := h.perform rfl
    rcases before.perform_call call with ⟨hnone, hok⟩ | ⟨error, -, herror, -⟩
    · rw [hok] at hperform
      rw [hnone] at hnext
      exact Except.ok.inj hperform ▸ hnext
    · rw [herror] at hperform
      contradiction
  | @fail before front back call error settled failure hperform =>
    refine ⟨performed ++ [call], awaited, ?_⟩
    have hnext := h.perform rfl
    rcases before.perform_call call with ⟨-, hok⟩ | ⟨other, hsome, herror, hstore⟩
    · rw [hok] at hperform
      contradiction
    · rw [herror] at hperform
      rw [hsome, hstore] at hnext
      exact Except.error.inj hperform ▸ hnext
  | @await _ _ front back outcome failure =>
    refine ⟨performed, awaited ++ [outcome], h.perm, h.store_eq,
      (perm_take_out awaited front back outcome).trans h.outcomes, ?_⟩
    have hfailure : failure = awaited.findSome? id := h.failure_eq
    rw [List.findSome?_append, ← hfailure]
    rcases outcome with _ | error <;> rfl

theorem exists_reachedBy {run : MutationRun} (h : Reaches ⟨store, calls, [], none⟩ run) :
    ∃ performed awaited, run.IsReachedBy store calls performed awaited := by
  induction h with
  | refl => exact ⟨[], [], by simp, rfl, by simp, rfl⟩
  | tail _ hstep ih =>
    obtain ⟨performed, awaited, hreached⟩ := ih
    exact hreached.step hstep

/-- A run that has ended performed all calls in some order, and its error is
the first of theirs in some order. -/
theorem exists_order_of_reaches {run : MutationRun} (h : Reaches ⟨store, calls, [], none⟩ run)
    (hdone : run.IsDone) :
    ∃ (order : List StoreCall) (awaited : List (Option CacheError)),
      order.Perm calls ∧ run.store = store.callAll order ∧
      awaited.Perm (calls.map (·.error?)) ∧ run.failure = awaited.findSome? id := by
  obtain ⟨order, awaited, hreached⟩ := exists_reachedBy h
  have horder := hreached.perm
  have hawaited := hreached.outcomes
  rw [hdone.1, List.append_nil] at horder
  rw [hdone.2, List.append_nil] at hawaited
  exact ⟨order, awaited, horder, hreached.store_eq, hawaited.trans (horder.map _),
    hreached.failure_eq⟩

/-- A run that has ended has no error exactly if no call was refused. -/
theorem failure_eq_none_iff {run : MutationRun} (h : Reaches ⟨store, calls, [], none⟩ run)
    (hdone : run.IsDone) : run.failure = none ↔ ∀ call ∈ calls, call.failure = none := by
  obtain ⟨order, awaited, -, -, hawaited, hfailure⟩ := exists_order_of_reaches h hdone
  simp only [hfailure, List.findSome?_eq_none_iff, hawaited.mem_iff, List.mem_map, id_eq,
    forall_exists_index, and_imp, forall_apply_eq_imp_iff₂, StoreCall.error?_eq_none_iff]

/-- Its error is that of a call. -/
theorem exists_call_of_failure {run : MutationRun} {error : CacheError}
    (h : Reaches ⟨store, calls, [], none⟩ run) (hdone : run.IsDone)
    (herror : run.failure = some error) : ∃ call ∈ calls, call.error? = some error := by
  obtain ⟨order, awaited, -, -, hawaited, hfailure⟩ := exists_order_of_reaches h hdone
  rw [hfailure] at herror
  obtain ⟨outcome, hmem, rfl⟩ := List.exists_of_findSome?_eq_some herror
  exact List.mem_map.1 (hawaited.mem_iff.1 hmem)

/-- The run answers the number of patches and the number of revalidations
among its calls exactly if no call was refused, and answers no others. -/
theorem result_eq_ok_iff {run : MutationRun} (h : Reaches ⟨store, calls, [], none⟩ run)
    (hdone : run.IsDone) (outcome : MutationOutcome) :
    run.result (calls.map (·.planned)) = .ok outcome ↔
      (∀ call ∈ calls, call.failure = none) ∧
        outcome.patched = calls.countP (fun call => call.task.isPatch) ∧
        outcome.revalidated = calls.countP (fun call => !call.task.isPatch) := by
  have hcounts : MutationOutcome.ofTasks (calls.map (·.planned)) =
      ⟨calls.countP (fun call => call.task.isPatch),
        calls.countP (fun call => !call.task.isPatch)⟩ := by
    rw [MutationOutcome.ofTasks, List.countP_map, List.countP_map]
    rfl
  obtain ⟨patched, revalidated⟩ := outcome
  rw [← failure_eq_none_iff h hdone, result, hcounts]
  rcases run.failure with _ | error
  · simp only [Except.ok.injEq, MutationOutcome.mk.injEq, true_and, eq_comm]
  · simp

theorem exists_result_eq_error {run : MutationRun} (h : Reaches ⟨store, calls, [], none⟩ run)
    (hdone : run.IsDone) (tasks : List (Text × KeyTask))
    (hrefused : ∃ call ∈ calls, call.failure ≠ none) :
    ∃ call ∈ calls, ∃ error, call.error? = some error ∧ run.result tasks = .error error := by
  obtain ⟨call, hcall, hfailure⟩ := hrefused
  rcases herror : run.failure with _ | error
  · exact absurd ((failure_eq_none_iff h hdone).1 herror call hcall) hfailure
  · obtain ⟨other, hother, hreports⟩ := exists_call_of_failure h hdone herror
    exact ⟨other, hother, error, hreports, by rw [result, herror]⟩

end

/-! ## 3. Every run ends -/

/-- How many steps are left. -/
def stepsLeft (run : MutationRun) : Nat :=
  2 * run.pending.length + run.settled.length

theorem Step.stepsLeft_lt {run next : MutationRun} (h : Step run next) :
    next.stepsLeft < run.stepsLeft := by
  cases h <;> simp only [stepsLeft, List.length_append, List.length_cons, List.length_nil] <;> omega

theorem exists_step {run : MutationRun} (h : ¬ run.IsDone) : ∃ next, Step run next := by
  obtain ⟨store, pending, settled, failure⟩ := run
  cases pending with
  | cons call back =>
    rcases store.perform_call call with ⟨-, hok⟩ | ⟨error, -, herror, -⟩
    · exact ⟨_, @Step.succeed _ _ [] back call settled failure hok⟩
    · exact ⟨_, @Step.fail _ [] back call error settled failure herror⟩
  | nil =>
    cases settled with
    | cons outcome back => exact ⟨_, @Step.await store [] [] back outcome failure⟩
    | nil => exact absurd ⟨rfl, rfl⟩ h

/-- Wherever a run stands, it comes to an end. -/
theorem exists_reaches_done (run : MutationRun) : ∃ last, Reaches run last ∧ last.IsDone := by
  by_cases h : run.IsDone
  · exact ⟨run, .refl, h⟩
  · obtain ⟨next, hstep⟩ := exists_step h
    have hless := hstep.stepsLeft_lt
    obtain ⟨last, hreaches, hdone⟩ := exists_reaches_done next
    exact ⟨last, .head hstep hreaches, hdone⟩
termination_by run.stepsLeft

/-! ## 4. One call after the other -/

/-- A change that waits performs the first of its calls. -/
theorem reaches_perform (store : Store) (call : StoreCall) (back : List StoreCall)
    (settled : List (Option CacheError)) (failure : Option CacheError) :
    Reaches ⟨store, call :: back, settled, failure⟩
      ⟨store.call call, back, settled ++ [call.error?], failure⟩ := by
  rcases store.perform_call call with ⟨hnone, hok⟩ | ⟨error, hsome, herror, hstore⟩
  · rw [hnone]
    exact .single (@Step.succeed _ _ [] back call settled failure hok)
  · rw [hsome, hstore]
    exact .single (@Step.fail _ [] back call error settled failure herror)

theorem reaches_callAll (store : Store) (calls : List StoreCall)
    (settled : List (Option CacheError)) (failure : Option CacheError) :
    Reaches ⟨store, calls, settled, failure⟩
      ⟨store.callAll calls, [], settled ++ calls.map (·.error?), failure⟩ := by
  induction calls generalizing store settled with
  | nil =>
    rw [List.map_nil, List.append_nil]
    exact .refl
  | cons call rest ih =>
    have hrest := ih (store.call call) (settled ++ [call.error?])
    rw [List.append_assoc, List.singleton_append] at hrest
    exact (reaches_perform store call rest settled failure).trans hrest

theorem reaches_awaitAll (store : Store) (settled : List (Option CacheError))
    (failure : Option CacheError) :
    Reaches ⟨store, [], settled, failure⟩
      ⟨store, [], [], failure.or (settled.findSome? id)⟩ := by
  induction settled generalizing failure with
  | nil =>
    rw [List.findSome?_nil, Option.or_none]
  | cons outcome rest ih =>
    have hrest := ih (failure.or outcome)
    have hfirst : (outcome :: rest).findSome? id = outcome.or (rest.findSome? id) := by
      cases outcome <;> rfl
    rw [Option.or_assoc, ← hfirst] at hrest
    exact .head (@Step.await store [] [] rest outcome failure) hrest

/-- Calls may be performed in their order, and awaited in their order. -/
theorem reaches_inOrder (store : Store) (calls : List StoreCall) :
    Reaches ⟨store, calls, [], none⟩
      ⟨store.callAll calls, [], [], (calls.map (·.error?)).findSome? id⟩ :=
  (reaches_callAll store calls [] none).trans (reaches_awaitAll _ _ _)

end MutationRun

/-! ## 5. One key -/

namespace Store

/-- A call seen from a key: only a patch of that key that is not refused
counts. -/
theorem get?_call (store : Store) (call : StoreCall) (text : Text) :
    (store.call call).get? text =
      if call.key == text && call.isPatched then call.task.onEntry {} text (store.get? text)
      else store.get? text := by
  obtain ⟨key, task, failure⟩ := call
  by_cases hkey : key = text
  · subst hkey
    rw [Store.call, get?_after_self]
    cases task <;> cases failure <;>
      simp [KeyTask.onEntry, StoreCall.faults, StoreCall.isPatched, KeyTask.isPatch]
  · rw [Store.call, get?_after_of_ne (Ne.symm hkey), beq_false_of_ne hkey]
    rfl

theorem get?_callAll (store : Store) (calls : List StoreCall) (text : Text) :
    (store.callAll calls).get? text =
      (StoreCall.patchesOf calls text).foldl
        (fun entry call => call.task.onEntry {} text entry) (store.get? text) := by
  induction calls generalizing store with
  | nil => rfl
  | cons call rest ih =>
    rw [callAll_cons, ih, get?_call, StoreCall.patchesOf, StoreCall.patchesOf, List.filter_cons]
    split <;> rfl

/-- The order of the calls does not matter to a key with one patch at
most. -/
theorem get?_callAll_of_perm {order calls : List StoreCall} (h : order.Perm calls) (text : Text)
    (hone : (StoreCall.patchesOf calls text).length ≤ 1) (store : Store) :
    (store.callAll order).get? text = (store.callAll calls).get? text := by
  have hperm : (StoreCall.patchesOf order text).Perm (StoreCall.patchesOf calls text) :=
    h.filter _
  have hsame : StoreCall.patchesOf order text = StoreCall.patchesOf calls text := by
    -- Patches do not commute; a list of one at most has no other order.
    rcases hcalls : StoreCall.patchesOf calls text with _ | ⟨patch, _ | ⟨other, rest⟩⟩
    · rw [hcalls] at hperm
      exact hperm.eq_nil
    · rw [hcalls] at hperm
      exact List.perm_singleton.1 hperm
    · rw [hcalls] at hone
      simp at hone
  rw [get?_callAll, get?_callAll, hsame]

theorem get?_callAll_of_forall {calls : List StoreCall} {text : Text}
    (h : ∀ call ∈ calls, call.key = text → call.isPatched = false) (store : Store) :
    (store.callAll calls).get? text = store.get? text := by
  have hnil : StoreCall.patchesOf calls text = [] := by
    rw [List.eq_nil_iff_forall_not_mem]
    intro call hmem
    obtain ⟨hcall, hkey, hpatched⟩ := StoreCall.mem_patchesOf.1 hmem
    exact Bool.false_ne_true ((h call hcall hkey).symm.trans hpatched)
  rw [get?_callAll, hnil]
  rfl

theorem get?_callAll_of_mem {calls : List StoreCall} {call : StoreCall} (hcall : call ∈ calls)
    (hpatched : call.isPatched = true)
    (hone : (StoreCall.patchesOf calls call.key).length ≤ 1) (store : Store) :
    (store.callAll calls).get? call.key = call.task.onEntry {} call.key (store.get? call.key) := by
  have hmem : call ∈ StoreCall.patchesOf calls call.key :=
    StoreCall.mem_patchesOf.2 ⟨hcall, rfl, hpatched⟩
  obtain ⟨only, honly⟩ := List.length_eq_one_iff.1
    (Nat.le_antisymm hone (List.length_pos_of_mem hmem))
  rw [honly, List.mem_singleton] at hmem
  rw [get?_callAll, honly, ← hmem]
  rfl

theorem revalidated_call (store : Store) (call : StoreCall) :
    (store.call call).revalidated =
      store.revalidated ++ if call.isRecorded then [call.key] else [] := by
  obtain ⟨key, task, failure⟩ := call
  cases task with
  | patch f =>
    cases failure with
    | none =>
      simp only [Store.call, after, perform, write, StoreCall.faults, alter]
      split <;> simp [StoreCall.isRecorded, KeyTask.isPatch, insert, erase]
    | some message =>
      simp [Store.call, after, perform, write, StoreCall.faults, StoreCall.isRecorded]
  | revalidate =>
    cases failure <;>
      simp [Store.call, after, perform, Store.revalidate, StoreCall.faults,
        StoreCall.isRecorded, KeyTask.isPatch, logRevalidation]

/-- The revalidations that are not refused are logged in the order of the
calls. -/
theorem revalidated_callAll (store : Store) (calls : List StoreCall) :
    (store.callAll calls).revalidated =
      store.revalidated ++ (calls.filter (·.isRecorded)).map (·.key) := by
  induction calls generalizing store with
  | nil => simp [callAll]
  | cons call rest ih =>
    rw [callAll_cons, ih, revalidated_call, List.filter_cons]
    split <;> simp

theorem exists_logged_of_reaches {store : Store} {calls : List StoreCall} {run : MutationRun}
    (h : MutationRun.Reaches ⟨store, calls, [], none⟩ run) (hdone : run.IsDone) :
    ∃ logged, run.store.revalidated = store.revalidated ++ logged ∧
      logged.Perm ((calls.filter (·.isRecorded)).map (·.key)) := by
  obtain ⟨order, -, horder, hstore, -, -⟩ := MutationRun.exists_order_of_reaches h hdone
  refine ⟨_, ?_, (horder.filter _).map _⟩
  rw [hstore, revalidated_callAll]

/-! ## 6. The keys -/

theorem mem_keys_iff {store : Store} {text : Text} :
    text ∈ store.keys ↔ (store.get? text).isSome := by
  rw [keys, get?]
  induction store.entries with
  | nil => simp
  | cons entry rest ih =>
    obtain ⟨name, data⟩ := entry
    rw [List.map_cons, List.mem_cons, List.lookup_cons, ih]
    by_cases h : text = name
    · simp [h]
    · simp [h, beq_false_of_ne h]

/-- What makes an entry of an entry, and nothing of nothing, changes no
key. -/
theorem keys_alter {f : Option CacheData → Option CacheData}
    (h : ∀ entry, (f entry).isSome = entry.isSome) (store : Store) (key : Text) :
    (store.alter key f).keys = store.keys := by
  have hentry := h (store.get? key)
  unfold alter
  rcases hf : f (store.get? key) with _ | data
  · rw [hf, Option.isSome_none] at hentry
    have habsent : key ∉ store.keys := by
      rw [mem_keys_iff, ← hentry]
      exact Bool.false_ne_true
    refine congrArg (List.map Prod.fst) (List.filter_eq_self.2 fun entry hmem => ?_)
    rw [bne_iff_ne]
    rintro rfl
    exact habsent (List.mem_map_of_mem hmem)
  · rw [hf, Option.isSome_some] at hentry
    have hpresent : key ∈ store.entries.map (·.1) := mem_keys_iff.2 hentry.symm
    exact (map_fst_setEntry key data store.entries).trans (if_pos hpresent)

/-- Calls whose patches make entries of entries, and nothing of nothing,
change no key. -/
theorem keys_callAll (store : Store) {calls : List StoreCall}
    (h : ∀ call ∈ calls, ∀ f, call.task = .patch f →
      ∀ entry, (f entry).isSome = entry.isSome) :
    (store.callAll calls).keys = store.keys := by
  induction calls generalizing store with
  | nil => rfl
  | cons call rest ih =>
    rw [callAll_cons, ih _ fun other hother => h other (List.mem_cons_of_mem _ hother)]
    rcases store.perform_call call with ⟨-, hok⟩ | ⟨error, -, -, hsame⟩
    · have hcall := h call List.mem_cons_self
      obtain ⟨key, task, failure⟩ := call
      cases task with
      | patch f =>
        cases failure with
        | none => exact keys_alter (hcall f rfl) store key
        | some message => rfl
      | revalidate => cases failure <;> rfl
    · rw [hsame]

end Store
end QueryCache
