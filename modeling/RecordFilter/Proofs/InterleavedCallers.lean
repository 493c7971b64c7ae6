import Mathlib.Logic.Function.Basic
import RecordFilter.Proofs.SharedSelections

/-!
# Callers that share a table

Many callers may want values from one table at a time. A call takes two steps: the key is looked up, and if it
is missing a value is computed and stored. Each of them is atomic, but between the two any others may take
theirs, so several callers can find the same key missing and compute different values for it. The first one that
stores its value decides: the table only grows at its end and only by keys that it does not have, and storing
returns what is in the table.

Main statement: `Memo.Sharing.first_store_wins`.
-/

namespace RecordFilter
namespace Memo

variable {ι κ α : Type} [DecidableEq ι] [BEq κ]

/-! ## Schedules -/

/-- The key that a caller wants a value for, and the value that it computes if the key is missing. -/
structure Caller (κ α : Type) where
  key : κ
  computed : α

/-- How far a call is: before the first step, between the two, or at its end. -/
inductive Progress (α : Type) where
  | calling
  | missed
  | returned (value : α)
deriving DecidableEq, Repr

/-- A table and how far the calls of those who share it are. -/
structure Sharing (ι κ α : Type) where
  memo : Memo κ α
  progress : ι → Progress α

namespace Sharing

/-- A table with calls of which none has taken a step. -/
def start (memo : Memo κ α) : Sharing ι κ α :=
  ⟨memo, fun _ => .calling⟩

/-- The next step of one call. A call that has returned takes no more steps. -/
def step (callers : ι → Caller κ α) (state : Sharing ι κ α) (i : ι) : Sharing ι κ α :=
  let caller := callers i
  match state.progress i with
  | .calling =>
    match state.memo.get? caller.key with
    | some present => ⟨state.memo, Function.update state.progress i (.returned present)⟩
    | none => ⟨state.memo, Function.update state.progress i .missed⟩
  | .missed =>
    let (memo, value) := state.memo.store caller.key caller.computed
    ⟨memo, Function.update state.progress i (.returned value)⟩
  | .returned _ => state

/-- The state after the steps of a schedule, which names the one whose turn it is. -/
def run (callers : ι → Caller κ α) (state : Sharing ι κ α) (schedule : List ι) : Sharing ι κ α :=
  schedule.foldl (step callers) state

variable {callers : ι → Caller κ α} {state : Sharing ι κ α} {i j : ι} {value : α}

theorem run_append (before after : List ι) :
    run callers state (before ++ after) = run callers (run callers state before) after :=
  List.foldl_append

/-- All that a step can do: nothing after the end, return what is in the table, find a key missing, or store a
value under a key that is still missing. -/
theorem step_cases (callers : ι → Caller κ α) (state : Sharing ι κ α) (i : ι) :
    (∃ value, state.progress i = .returned value ∧ step callers state i = state) ∨
    (∃ present, state.memo.get? (callers i).key = some present ∧
      step callers state i = ⟨state.memo, Function.update state.progress i (.returned present)⟩) ∨
    (state.progress i = .calling ∧ state.memo.get? (callers i).key = none ∧
      step callers state i = ⟨state.memo, Function.update state.progress i .missed⟩) ∨
    (state.progress i = .missed ∧ state.memo.get? (callers i).key = none ∧
      step callers state i = ⟨⟨state.memo.entries ++ [((callers i).key, (callers i).computed)]⟩,
        Function.update state.progress i (.returned (callers i).computed)⟩) := by
  cases hprogress : state.progress i with
  | calling =>
    cases hget : state.memo.get? (callers i).key with
    | some present => exact .inr (.inl ⟨present, rfl, by simp only [step, hprogress, hget]⟩)
    | none => exact .inr (.inr (.inl ⟨rfl, rfl, by simp only [step, hprogress, hget]⟩))
  | missed =>
    cases hget : state.memo.get? (callers i).key with
    | some present => exact .inr (.inl ⟨present, rfl, by simp only [step, hprogress, store, hget]⟩)
    | none => exact .inr (.inr (.inr ⟨rfl, rfl, by simp only [step, hprogress, store, hget]⟩))
  | returned value => exact .inl ⟨value, rfl, by simp only [step, hprogress]⟩

/-- The two steps of a call without another one in between look up or store at once. -/
theorem step_step (callers : ι → Caller κ α) (hprogress : state.progress i = .calling) :
    step callers (step callers state i) i =
      ⟨(state.memo.getOrStore (callers i).key (callers i).computed).1,
        Function.update state.progress i
          (.returned (state.memo.getOrStore (callers i).key (callers i).computed).2)⟩ := by
  cases hget : state.memo.get? (callers i).key with
  | some present => simp [step, hprogress, getOrStore, hget]
  | none => simp [step, hprogress, getOrStore, store, hget]

/-! ## How far the calls are -/

/-- How many steps a call has before it at most. -/
def remaining : Progress α → Nat
  | .calling => 2
  | .missed => 1
  | .returned _ => 0

theorem remaining_eq_zero_iff {progress : Progress α} :
    remaining progress = 0 ↔ ∃ value, progress = .returned value := by
  cases progress <;> simp [remaining]

theorem progress_step_of_ne (h : i ≠ j) : (step callers state j).progress i = state.progress i := by
  rcases step_cases callers state j with
    ⟨_, -, hstep⟩ | ⟨_, -, hstep⟩ | ⟨-, -, hstep⟩ | ⟨-, -, hstep⟩ <;> rw [hstep]
  all_goals exact Function.update_of_ne h _ _

theorem remaining_step (callers : ι → Caller κ α) (state : Sharing ι κ α) (i : ι) :
    remaining ((step callers state i).progress i) ≤ remaining (state.progress i) - 1 := by
  rcases step_cases callers state i with
    ⟨_, hprogress, hstep⟩ | ⟨_, -, hstep⟩ | ⟨hprogress, -, hstep⟩ | ⟨hprogress, -, hstep⟩ <;> rw [hstep]
  · rw [hprogress]
    exact Nat.le_refl 0
  · simp [remaining]
  · simp [remaining, hprogress]
  · simp [remaining]

theorem remaining_run (callers : ι → Caller κ α) (schedule : List ι) (state : Sharing ι κ α) (i : ι) :
    remaining ((run callers state schedule).progress i) ≤ remaining (state.progress i) - schedule.count i := by
  induction schedule generalizing state with
  | nil => exact Nat.le_refl _
  | cons j schedule ih =>
    have hrest := ih (step callers state j)
    rw [run, List.foldl_cons, ← run]
    by_cases h : j = i
    · subst h
      have hfirst := remaining_step callers state j
      rw [List.count_cons_self]
      omega
    · rw [progress_step_of_ne (Ne.symm h)] at hrest
      rw [List.count_cons_of_ne h]
      exact hrest

end Sharing

/-! ## Tables that grow -/

variable {memo later : Memo κ α} {key : κ} {value : α}

theorem get?_eq_or {added : List (κ × α)} (h : later.entries = memo.entries ++ added) (key : κ) :
    later.get? key = (memo.get? key).or (added.lookup key) := by
  rw [get?, h, List.lookup_append]
  rfl

/-- A table that has got more entries at its end, one for each of some keys that were missing. -/
def Extends (memo later : Memo κ α) : Prop :=
  ∃ added : List (κ × α), later.entries = memo.entries ++ added ∧ (added.map Prod.fst).Nodup ∧
    ∀ entry ∈ added, memo.get? entry.1 = none

namespace Extends

theorem refl (memo : Memo κ α) : memo.Extends memo :=
  ⟨[], by simp, .nil, nofun⟩

theorem concat (h : memo.get? key = none) (value : α) :
    memo.Extends ⟨memo.entries ++ [(key, value)]⟩ :=
  ⟨[(key, value)], rfl, List.nodup_singleton key, by simpa using h⟩

/-- A key keeps its value. -/
theorem get?_eq_some (h : memo.Extends later) (hget : memo.get? key = some value) :
    later.get? key = some value := by
  obtain ⟨added, hentries, -⟩ := h
  rw [get?_eq_or hentries, hget]
  rfl

theorem trans [LawfulBEq κ] {middle : Memo κ α} (h : memo.Extends middle) (h' : middle.Extends later) :
    memo.Extends later := by
  obtain ⟨first, hfirst, hnodup, hmissing⟩ := h
  obtain ⟨second, hsecond, hnodup', hmissing'⟩ := h'
  -- what comes second was missing in the table and among what came first
  have hboth : ∀ entry ∈ second, memo.get? entry.1 = none ∧ first.lookup entry.1 = none := by
    intro entry hentry
    have hnone := hmissing' entry hentry
    rwa [get?_eq_or hfirst, Option.or_eq_none_iff] at hnone
  refine ⟨first ++ second, by rw [hsecond, hfirst, List.append_assoc], ?_, ?_⟩
  · rw [List.map_append, List.nodup_append]
    refine ⟨hnodup, hnodup', ?_⟩
    rintro _ hkey _ hkey' rfl
    obtain ⟨⟨_, present⟩, hpresent, rfl⟩ := List.mem_map.1 hkey
    obtain ⟨entry, hentry, hsame⟩ := List.mem_map.1 hkey'
    simpa [hsame] using List.lookup_eq_none_iff.1 (hboth entry hentry).2 _ hpresent
  · intro entry hentry
    rcases List.mem_append.1 hentry with hentry | hentry
    · exact hmissing entry hentry
    · exact (hboth entry hentry).1

end Extends

namespace Sharing

variable {callers : ι → Caller κ α} {state : Sharing ι κ α} {i : ι}

theorem extends_step (callers : ι → Caller κ α) (state : Sharing ι κ α) (i : ι) :
    state.memo.Extends (step callers state i).memo := by
  rcases step_cases callers state i with
    ⟨_, -, hstep⟩ | ⟨_, -, hstep⟩ | ⟨-, -, hstep⟩ | ⟨-, hmissing, hstep⟩ <;> rw [hstep]
  · exact .refl _
  · exact .refl _
  · exact .refl _
  · exact .concat hmissing _

variable [LawfulBEq κ]

theorem extends_run (callers : ι → Caller κ α) (state : Sharing ι κ α) (schedule : List ι) :
    state.memo.Extends (run callers state schedule).memo := by
  induction schedule generalizing state with
  | nil => exact .refl _
  | cons i schedule ih => exact (extends_step callers state i).trans (ih (step callers state i))

/-- A state in which everyone who has returned has the value in the table. -/
def Agrees (callers : ι → Caller κ α) (state : Sharing ι κ α) : Prop :=
  ∀ i value, state.progress i = .returned value → state.memo.get? (callers i).key = some value

/-- Whoever has returned before keeps the value, as the table keeps it, and whoever returns in this step takes
what is in the table then. -/
theorem Agrees.step (h : Agrees callers state) (j : ι) : Agrees callers (step callers state j) := by
  intro i value hvalue
  by_cases hij : i = j
  · subst hij
    rcases step_cases callers state i with
      ⟨_, -, hstep⟩ | ⟨present, hget, hstep⟩ | ⟨-, -, hstep⟩ | ⟨-, hmissing, hstep⟩ <;> rw [hstep] at hvalue ⊢
    · exact h i value hvalue
    · simp only [Function.update_self, Progress.returned.injEq] at hvalue
      rw [hget, hvalue]
    · simp at hvalue
    · simp only [Function.update_self, Progress.returned.injEq] at hvalue
      rw [get?_eq_or rfl, hmissing, hvalue]
      simp
  · rw [progress_step_of_ne hij] at hvalue
    exact (extends_step callers state j).get?_eq_some (h i value hvalue)

theorem Agrees.run (h : Agrees callers state) (schedule : List ι) :
    Agrees callers (run callers state schedule) := by
  induction schedule generalizing state with
  | nil => exact h
  | cons i schedule ih => exact ih (h.step i)

/-- The one who stores first decides on the value of a key. -/
theorem get?_run_of_missed (hprogress : state.progress i = .missed)
    (hmissing : state.memo.get? (callers i).key = none) (schedule : List ι) :
    (run callers state (i :: schedule)).memo.get? (callers i).key = some (callers i).computed := by
  refine (extends_run callers (step callers state i) schedule).get?_eq_some ?_
  have hstep : (step callers state i).memo
      = ⟨state.memo.entries ++ [((callers i).key, (callers i).computed)]⟩ := by
    simp only [step, hprogress, store, hmissing]
  rw [get?_eq_or (congrArg Memo.entries hstep), hmissing]
  simp

/-! ## What callers can rely on -/

/-- A key keeps its value, however the schedule goes on. -/
theorem get?_run_append {key : κ} {value : α} {schedule : List ι}
    (h : (run callers state schedule).memo.get? key = some value) (more : List ι) :
    (run callers state (schedule ++ more)).memo.get? key = some value := by
  rw [run_append]
  exact (extends_run callers _ more).get?_eq_some h

omit [LawfulBEq κ] in
/-- Nobody waits for others: a call is over after two steps of its own. -/
theorem exists_returned_of_two_steps (callers : ι → Caller κ α) (memo : Memo κ α) {schedule : List ι} {i : ι}
    (h : 2 ≤ schedule.count i) : ∃ value, (run callers (start memo) schedule).progress i = .returned value := by
  have hremaining := remaining_run callers schedule (start memo) i
  refine remaining_eq_zero_iff.1 (Nat.eq_zero_of_le_zero (hremaining.trans ?_))
  simp only [start, remaining]
  omega

omit [DecidableEq ι] [LawfulBEq κ] in
/-- Callers of one key return the same value. -/
theorem Agrees.eq_of_key_eq (h : Agrees callers state) {i j : ι} (hkey : (callers j).key = (callers i).key)
    {value other : α} (hvalue : state.progress i = .returned value)
    (hother : state.progress j = .returned other) :
    other = value := by
  have hget := h j other hother
  rw [hkey, h i value hvalue] at hget
  exact (Option.some.inj hget).symm

/-- Whoever stores a value for a key that is still missing decides on it. -/
theorem get?_run_of_first_store {before after : List ι} {i : ι}
    (hprogress : (run callers state before).progress i = .missed)
    (hmissing : (run callers state before).memo.get? (callers i).key = none) :
    (run callers state (before ++ i :: after)).memo.get? (callers i).key = some (callers i).computed := by
  rw [run_append]
  exact get?_run_of_missed hprogress hmissing after

omit [LawfulBEq κ] in
/-- If no other step is between the two of a call, it is `getOrStore`. -/
theorem run_undisturbed {schedule : List ι} {i : ι} (h : (run callers state schedule).progress i = .calling) :
    let result := (run callers state schedule).memo.getOrStore (callers i).key (callers i).computed
    (run callers state (schedule ++ [i, i])).memo = result.1 ∧
      (run callers state (schedule ++ [i, i])).progress i = .returned result.2 := by
  have htwo := step_step callers h
  rw [run_append]
  refine ⟨congrArg Sharing.memo htwo, (congrFun (congrArg Sharing.progress htwo) i).trans ?_⟩
  exact Function.update_self ..

/-- In any `run`, the first value that is stored under a missing key is the one that stays, and all callers of
the key return it, each after two steps of its own. The table only `Extends`. -/
theorem first_store_wins (callers : ι → Caller κ α) (memo : Memo κ α) (schedule : List ι) :
    (∀ more key value, (run callers (start memo) schedule).memo.get? key = some value →
      (run callers (start memo) (schedule ++ more)).memo.get? key = some value) ∧
    memo.Extends (run callers (start memo) schedule).memo ∧
    (∀ i, 2 ≤ schedule.count i → ∃ value, (run callers (start memo) schedule).progress i = .returned value) ∧
    (∀ i value, (run callers (start memo) schedule).progress i = .returned value →
      (run callers (start memo) schedule).memo.get? (callers i).key = some value ∧
      ∀ j other, (callers j).key = (callers i).key →
        (run callers (start memo) schedule).progress j = .returned other → other = value) ∧
    (∀ i before after, schedule = before ++ i :: after →
      (run callers (start memo) before).progress i = .missed →
      (run callers (start memo) before).memo.get? (callers i).key = none →
      (run callers (start memo) schedule).memo.get? (callers i).key = some (callers i).computed) ∧
    ∀ i, (run callers (start memo) schedule).progress i = .calling →
      let result := (run callers (start memo) schedule).memo.getOrStore (callers i).key (callers i).computed
      (run callers (start memo) (schedule ++ [i, i])).memo = result.1 ∧
      (run callers (start memo) (schedule ++ [i, i])).progress i = .returned result.2 := by
  have hstart : Agrees callers (start memo) := nofun
  have hagrees := hstart.run schedule
  refine ⟨fun more key value hget => get?_run_append hget more, extends_run callers (start memo) schedule,
    fun i => exists_returned_of_two_steps callers memo, fun i value hvalue => ⟨hagrees i value hvalue, ?_⟩, ?_,
    fun i => run_undisturbed⟩
  · exact fun j other hkey hother => hagrees.eq_of_key_eq hkey hvalue hother
  · rintro i before after rfl hprogress hmissing
    exact get?_run_of_first_store hprogress hmissing

/-- Two callers find a key missing. The one that looked it up last stores its value first, and both
return it. -/
theorem first_store_wins_overtaken :
    let callers : Bool → Caller String Nat := fun late => ⟨"a", if late then 2 else 1⟩
    let raced := run callers (start Memo.empty) [false, true, true, false]
    LawfulBEq String ∧ (run callers (start Memo.empty) [false, true]).progress = (fun _ => .missed) ∧
      raced.memo.get? "a" = some 2 ∧ raced.progress false = .returned 2 := by
  intro callers raced
  obtain ⟨-, -, hreturns, hvalue, hfirst, -⟩ :=
    first_store_wins callers Memo.empty [false, true, true, false]
  have hget : raced.memo.get? "a" = some 2 := hfirst true [false, true] [false] rfl rfl rfl
  obtain ⟨value, hprogress⟩ := hreturns false (by decide)
  have hsame : some value = some 2 := (hvalue false value hprogress).1.symm.trans hget
  rw [Option.some.inj hsame] at hprogress
  exact ⟨inferInstance, funext (by decide), hget, hprogress⟩

example :
    let callers : Bool → Caller String Nat := fun late => ⟨"a", if late then 2 else 1⟩
    (run callers (start ⟨[("b", 3)]⟩) [true, false, true, true]).memo.entries = [("b", 3), ("a", 2)] :=
  rfl

end Sharing
end Memo
end RecordFilter
