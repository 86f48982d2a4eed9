/-
Reloads: requests on their way while the registry is replaced.

A desk has one current registry, which any number of engines share, and the
requests that were handed in, each at some stage. One action at a time is
taken: a request is handed in, goes one stage further, or the registry is
replaced. So a list of actions is an interleaving of requests and
replacements, and nothing is said about its order.

`Desk.exists_began`: what a request is at depends on one registry alone, the
one that was current when the request began. `Desk.replaced_concat`: every
registry that was ever installed is given back once, in order, but for the
current one.
-/
import Mathlib.Data.List.Induction
import ContractDocs.Engine

namespace ContractDocs

/-! ## Stages -/

namespace Run

/-- The number of stages that a request has behind it. -/
def stage : Run → Nat
  | .waiting => 0
  | .begun _ => 1
  | .completed _ _ _ => 2
  | .validated _ _ _ _ => 3
  | .compiled _ _ _ _ => 4
  | .finished _ => 5

/-- A request that began with a registry and is a number of stages further, with nothing else going
on. -/
def alone (s : Settings) (q : Request) (reg : Registry) : Nat → Run
  | 0 => .begun reg
  | k + 1 => (alone s q reg k).advance s q reg

theorem stage_le (run : Run) : run.stage ≤ 5 := by
  cases run <;> simp [stage]

theorem stage_advance (s : Settings) (q : Request) (current : Registry) (run : Run) :
    (run.advance s q current).stage = min (run.stage + 1) 5 := by
  cases run <;> rfl

theorem stage_alone (s : Settings) (q : Request) (reg : Registry) (k : Nat) :
    (alone s q reg k).stage = min (k + 1) 5 := by
  induction k with
  | zero => rfl
  | succ k ih =>
    rw [alone, stage_advance, ih]
    omega

theorem alone_ne_waiting (s : Settings) (q : Request) (reg : Registry) (k : Nat) :
    alone s q reg k ≠ .waiting := by
  intro waiting
  have behind := stage_alone s q reg k
  rw [waiting, stage] at behind
  omega

theorem exists_finished_of_stage {run : Run} (h : run.stage = 5) : ∃ o, run = .finished o := by
  cases run with
  | finished o => exact ⟨o, rfl⟩
  | waiting | begun | completed | validated | compiled => cases h

theorem alone_add_four (s : Settings) (q : Request) (reg : Registry) (k : Nat) :
    alone s q reg (k + 4) = .finished (reg.process s q) := by
  induction k with
  | zero => rfl
  | succ k ih => rw [Nat.add_right_comm, alone, ih, advance]

/-- A request that finishes alone has the outcome of its process. -/
theorem eq_process_of_alone {s : Settings} {q : Request} {reg : Registry} {k : Nat} {o : Outcome}
    (h : alone s q reg k = .finished o) : o = reg.process s q := by
  have behind := stage_alone s q reg k
  rw [h, stage] at behind
  obtain ⟨k, rfl⟩ : ∃ j, k = j + 4 := ⟨k - 4, by omega⟩
  rw [alone_add_four] at h
  cases h
  rfl

end Run

/-! ## The desk -/

/-- A request that was handed to an engine with these settings. -/
structure Pending where
  settings : Settings
  request : Request
  run : Run

/-- Engines that share a registry, and the requests that were handed to them. -/
structure Desk where
  current : Registry
  requests : List Pending
  /-- What the replacements gave back, in their order. -/
  replaced : List Registry

namespace Desk

/-- What may happen next. -/
inductive Action
  /-- A request is handed to an engine with these settings. -/
  | submit (s : Settings) (q : Request)
  /-- The request of this number goes one stage further. -/
  | advance (number : Nat)
  /-- An engine with these settings replaces the registry. -/
  | replace (s : Settings) (reg : Registry)

/-- Is it the request of this number that goes on? -/
def Action.advances (number : Nat) : Action → Bool
  | .advance m => m == number
  | _ => false

/-- The registry that the action installs. -/
def Action.installed? : Action → Option Registry
  | .replace _ reg => some reg
  | _ => none

/-- The engine with these settings. -/
def engine (d : Desk) (s : Settings) : Engine := ⟨d.current, s⟩

/-- Takes a request one stage further. -/
def advance (d : Desk) (p : Pending) : Pending :=
  { p with run := (d.engine p.settings).advance p.request p.run }

def step (d : Desk) : Action → Desk
  | .submit s q => { d with requests := d.requests ++ [⟨s, q, .waiting⟩] }
  | .advance number => { d with requests := d.requests.modify number d.advance }
  | .replace s reg =>
    let (previous, e) := (d.engine s).replace reg
    { d with current := e.registry, replaced := d.replaced ++ [previous] }

/-- The desk after actions in this order. -/
def run (d : Desk) (actions : List Action) : Desk := actions.foldl step d

/-- A desk without requests. -/
def opened (reg : Registry) : Desk := ⟨reg, [], []⟩

variable {d : Desk} {actions : List Action} {number : Nat} {p : Pending}

theorem run_append (d : Desk) (actions more : List Action) :
    d.run (actions ++ more) = (d.run actions).run more := List.foldl_append

theorem run_concat (d : Desk) (actions : List Action) (a : Action) :
    d.run (actions ++ [a]) = (d.run actions).step a := run_append ..

/-! ## One registry for a request -/

/-- Where a request comes from: it was handed in just now, it was there before, or it is the one
that went on. -/
theorem getElem?_step {a : Action} (h : (d.step a).requests[number]? = some p) :
    (p.run = .waiting ∧ a = .submit p.settings p.request) ∨
    (d.requests[number]? = some p ∧ a.advances number = false) ∨
    ∃ before, d.requests[number]? = some before ∧ a = .advance number ∧ p = d.advance before := by
  cases a with
  | submit s q =>
    rw [step, List.getElem?_append] at h
    split at h
    · exact .inr (.inl ⟨h, rfl⟩)
    · obtain rfl := List.mem_singleton.1 (List.mem_of_getElem? h)
      exact .inl ⟨rfl, rfl⟩
  | advance m =>
    rw [step, List.getElem?_modify, Option.map_eq_map, Option.map_eq_some_iff] at h
    obtain ⟨before, there, rfl⟩ := h
    by_cases same : m = number
    · subst same
      exact .inr (.inr ⟨before, there, rfl, if_pos rfl⟩)
    · rw [if_neg same]
      exact .inr (.inl ⟨there, by simpa [Action.advances] using same⟩)
  | replace s reg => exact .inr (.inl ⟨h, rfl⟩)

/-- **A request keeps its registry.** Either it waits, or there is the action by which it began;
since then it has gone on by its own actions as it would alone with the registry that was current
before that action. -/
theorem exists_began {reg : Registry} (h : ((opened reg).run actions).requests[number]? = some p) :
    p.run = .waiting ∨ ∃ before after, actions = before ++ .advance number :: after ∧
      ((opened reg).run before).requests[number]? = some { p with run := .waiting } ∧
      p.run = .alone p.settings p.request ((opened reg).run before).current
        (after.countP (Action.advances number)) := by
  -- On the last action, as what led to it is again a list of actions.
  induction actions using List.reverseRecOn generalizing p with
  | nil => simp [run, opened] at h
  | append_singleton actions a ih =>
    rw [run_concat] at h
    rcases getElem?_step h with ⟨waiting, -⟩ | ⟨there, other⟩ | ⟨last, there, rfl, rfl⟩
    · exact .inl waiting
    · refine (ih there).imp_right ?_
      rintro ⟨before, after, rfl, began, goes⟩
      refine ⟨before, after ++ [a], by simp, began, ?_⟩
      rw [List.countP_append, List.countP_singleton, other]
      exact goes
    · rcases ih there with waiting | ⟨before, after, rfl, began, goes⟩
      · refine .inr ⟨actions, [], rfl, ?_, ?_⟩
        · rw [there, ← waiting]
          rfl
        · simp [advance, waiting, Engine.advance, Run.advance, engine, Run.alone]
      · refine .inr ⟨before, after ++ [.advance number], by simp, began, ?_⟩
        have counted : (after ++ [Action.advance number]).countP (Action.advances number) =
            after.countP (Action.advances number) + 1 := by simp [Action.advances]
        simp only [counted, Run.alone, advance, Engine.advance, engine]
        rw [← goes]
        refine Run.advance_begun _ _ _ _ ?_
        rw [goes]
        exact Run.alone_ne_waiting _ _ _ _

/-! ## Every request finishes -/

/-- No action takes a request away, and only its own actions take it further. -/
theorem exists_getElem?_step (h : d.requests[number]? = some p) (a : Action) :
    ∃ run, (d.step a).requests[number]? = some { p with run } ∧
      run.stage = min (p.run.stage + if a.advances number then 1 else 0) 5 := by
  have le := p.run.stage_le
  cases a with
  | submit s q =>
    refine ⟨p.run, ?_, by simp [Action.advances, le]⟩
    rw [step, List.getElem?_append_left (List.getElem?_eq_some_iff.1 h).1, h]
  | advance m =>
    by_cases same : m = number
    · refine ⟨(d.advance p).run, by simp [step, h, same, advance], ?_⟩
      simp [Action.advances, same, advance, Engine.advance, Run.stage_advance]
    · refine ⟨p.run, by simp [step, h, same], ?_⟩
      simp [Action.advances, same, le]
  | replace s reg => exact ⟨p.run, h, by simp [Action.advances, le]⟩

theorem exists_getElem?_run (h : d.requests[number]? = some p) (actions : List Action) :
    ∃ run, (d.run actions).requests[number]? = some { p with run } ∧
      run.stage = min (p.run.stage + actions.countP (Action.advances number)) 5 := by
  induction actions generalizing d p with
  | nil => exact ⟨p.run, h, by simp [Run.stage_le]⟩
  | cons a actions ih =>
    obtain ⟨next, there, stage⟩ := exists_getElem?_step h a
    obtain ⟨run, there', stage'⟩ := ih there
    refine ⟨run, there', ?_⟩
    rw [stage', stage, List.countP_cons]
    omega

/-! ## Every registry is given back -/

/-- **The registries** that were given back, and then the current one, are the first one and then
those that were installed. -/
theorem replaced_concat (d : Desk) (actions : List Action) :
    (d.run actions).replaced ++ [(d.run actions).current] =
      d.replaced ++ d.current :: actions.filterMap Action.installed? := by
  induction actions generalizing d with
  | nil => rfl
  | cons a actions ih =>
    have rest : (d.run (a :: actions)) = (d.step a).run actions := rfl
    rw [rest, ih]
    cases a with
    | submit s q | advance number => rfl
    | replace s reg => simp [step, Engine.replace, engine, Action.installed?]

end Desk

/-- **A reload mixes no registries.** In every interleaving of requests and
replacements, a request that has finished has the outcome of its process with
one registry, the one that was current when the request began; a request
finishes by five actions of its own, whatever happens between them; and the
replacements give back the first registry and all that were installed, each
once and in order, but for the one that is current in the end. -/
theorem reload_consistent (reg : Registry) (actions : List Desk.Action) :
    (∀ number s q o,
      ((Desk.opened reg).run actions).requests[number]? = some ⟨s, q, .finished o⟩ →
        ∃ before after, actions = before ++ .advance number :: after ∧
          ((Desk.opened reg).run before).requests[number]? = some ⟨s, q, .waiting⟩ ∧
          o = ((Desk.opened reg).run before).current.process s q) ∧
    (∀ number s q stage more,
      ((Desk.opened reg).run actions).requests[number]? = some ⟨s, q, stage⟩ →
        5 ≤ more.countP (Desk.Action.advances number) →
          ∃ o, ((Desk.opened reg).run (actions ++ more)).requests[number]? =
            some ⟨s, q, .finished o⟩) ∧
    ((Desk.opened reg).run actions).replaced ++ [((Desk.opened reg).run actions).current] =
      reg :: actions.filterMap Desk.Action.installed? := by
  refine ⟨fun number s q o h => ?_, fun number s q stage more h enough => ?_,
    Desk.replaced_concat ..⟩
  · rcases Desk.exists_began h with waiting | ⟨before, after, split, began, goes⟩
    · cases waiting
    · exact ⟨before, after, split, began, Run.eq_process_of_alone goes.symm⟩
  · obtain ⟨run, there, behind⟩ := Desk.exists_getElem?_run h more
    have through : run.stage = 5 := by omega
    obtain ⟨o, rfl⟩ := Run.exists_finished_of_stage through
    exact ⟨o, by rw [Desk.run_append]; exact there⟩

/-- Memos, a type without rules. -/
def memos : Registry := ⟨Dict.empty.insert "memo" (.new "memo" "Memo" "office"), .empty, []⟩

def withoutTypes : Registry := ⟨.empty, .empty, []⟩

def memo : Request := ⟨"memo", .empty, false⟩

/-- The memo begins, its type goes away, and the memo goes on. -/
def replacedMeanwhile : List Desk.Action :=
  [.advance 0, .replace .standard withoutTypes, .advance 0, .advance 0, .advance 0, .advance 0]

/-- The memo has the outcome of its process with the registry it began with. -/
theorem reload_consistent_memo :
    ((Desk.opened memos).run [.submit .standard memo]).requests[0]? =
        some ⟨.standard, memo, .waiting⟩ ∧
      5 ≤ replacedMeanwhile.countP (Desk.Action.advances 0) ∧
      ∃ o before after,
        ((Desk.opened memos).run (.submit .standard memo :: replacedMeanwhile)).requests[0]? =
          some ⟨.standard, memo, .finished o⟩ ∧
        .submit .standard memo :: replacedMeanwhile = before ++ .advance 0 :: after ∧
        ((Desk.opened memos).run before).requests[0]? = some ⟨.standard, memo, .waiting⟩ ∧
        o = ((Desk.opened memos).run before).current.process .standard memo := by
  have submitted : ((Desk.opened memos).run [.submit .standard memo]).requests[0]? =
      some ⟨.standard, memo, .waiting⟩ := rfl
  have enough : 5 ≤ replacedMeanwhile.countP (Desk.Action.advances 0) := by decide
  obtain ⟨o, finished⟩ := (reload_consistent memos _).2.1 _ _ _ _ _ submitted enough
  obtain ⟨before, after, split, began, same⟩ := (reload_consistent memos _).1 _ _ _ _ finished
  exact ⟨submitted, enough, o, before, after, finished, split, began, same⟩

end ContractDocs
