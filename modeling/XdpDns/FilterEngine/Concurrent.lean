import XdpDns.FilterEngine
import Mathlib.Data.UInt

/-!
# Concurrent checks are linearizable

`check` is a `const` method that many threads call at once. It makes three atomic steps, between
which other threads run: `total_checks_.fetch_add(1)`, the match of the domain in the trie under
the trie's shared lock, and the `fetch_add` of the counter of the answer's action. `addRule`
inserts under the trie's unique lock, so it is one step (it also pushes the rule's copy under
`rules_mutex_`, which nothing else reads). `Shared` is the engine with the checks in flight,
`Shared.step` one atomic step of one thread, and `Shared.run` any interleaving of them.

Every interleaving behaves as the sequential engine run on the calls in the order of their trie
lookups. `Shared.lin` settles, on the counters, every check in flight as if it had run at once at
its lookup; each step moves `lin` as the sequential call it linearizes does (`Shared.step_lin`), so
a run replays on `lin` (`Shared.run_lin`). With no check in flight `lin` is the engine itself:
from a new engine, every interleaving answers and counts as `FilterSpec` does on the linearized
calls, and leaves `total_checks` the sum of the action counters (`checks_linearizable`).

`resetStats` is left out of the interleavings: its five stores are separate steps, and a reset
between a check's two increments leaves that check counted under its action and not in
`total_checks_`.
-/

namespace XdpDns

namespace FilterEngine

/-- `total_checks_.fetch_add(1)`, the first step of `check`. -/
def countTotal (e : FilterEngine) : FilterEngine := { e with totalChecks := e.totalChecks + 1 }

/-- The `switch` that ends `check`: one more in the counter of the answer's action, `allowed_`
when no rule matched and in the `default` branch. -/
def countAnswer (e : FilterEngine) : Option Rule → FilterEngine
  | none => { e with allowed := e.allowed + 1 }
  | some rule =>
    match rule.action with
    | .Block => { e with blocked := e.blocked + 1 }
    | .Redirect => { e with redirected := e.redirected + 1 }
    | .Log => { e with logged := e.logged + 1 }
    | _ => { e with allowed := e.allowed + 1 }

theorem check_eq_steps (e : FilterEngine) (domain : List UInt8) (qtype : UInt16) :
    e.check domain qtype = (FilterResult.ofRule (e.trie.matchDomain domain),
      e.countTotal.countAnswer (e.trie.matchDomain domain)) := by
  dsimp only [check]
  rcases e.trie.matchDomain domain with _ | ⟨_, _ | _ | _ | _, _, _, _⟩ <;> rfl

end FilterEngine

/-! ### Threads and interleavings -/

/-- A thread inside `check`, past its `total_checks_.fetch_add`: about to look `domain` up, or
holding the rule the trie returned, about to count it. -/
inductive CheckThread where
  | counted (domain : List UInt8) (qtype : UInt16)
  | matched (rule : Option Rule)

/-- The engine the threads share, and the checks in flight. -/
structure Shared where
  engine : FilterEngine
  threads : List CheckThread

/-- One atomic step of one thread. -/
inductive Event where
  /-- A new call of `check`: `total_checks_.fetch_add(1)`. -/
  | begin (domain : List UInt8) (qtype : UInt16)
  /-- The `i`-th check in flight: `trie_.match` under the shared lock. -/
  | lookup (i : Nat)
  /-- The `i`-th check in flight: the `fetch_add` of its answer's counter, and the return. -/
  | count (i : Nat)
  /-- A call of `addRule`. -/
  | addRule (rule : Rule) (domain : List UInt8)

namespace Shared

/-- One step, and the state after it; `none` when thread `i` is not at the step named. The first
component is the call the step linearizes, with the answer the call returns: a check at its
lookup (it returns the answer found there when it counts it), an `addRule` at once. -/
def step (s : Shared) : Event → Option (Option (EngineOp × EngineOut) × Shared)
  | .begin domain qtype =>
    some (none, ⟨s.engine.countTotal, s.threads ++ [.counted domain qtype]⟩)
  | .lookup i =>
    match s.threads[i]? with
    | some (.counted domain qtype) =>
      let rule := s.engine.trie.matchDomain domain
      some (some (.check domain qtype, .result (FilterResult.ofRule rule)),
        ⟨s.engine, s.threads.set i (.matched rule)⟩)
    | _ => none
  | .count i =>
    match s.threads[i]? with
    | some (.matched rule) => some (none, ⟨s.engine.countAnswer rule, s.threads.eraseIdx i⟩)
    | _ => none
  | .addRule rule domain =>
    some (some (.addRule rule domain, .done), ⟨s.engine.addRule rule domain, s.threads⟩)

/-- An interleaving: the calls it linearizes, in order, and the state after it; `none` when some
step names a thread that is not there. -/
def run (s : Shared) : List Event → Option (List (EngineOp × EngineOut) × Shared)
  | [] => some ([], s)
  | ev :: evs =>
    match s.step ev with
    | none => none
    | some (o, s') =>
      match s'.run evs with
      | none => none
      | some (os, s'') => some (o.toList ++ os, s'')

end Shared

/-! ### Settling the checks in flight -/

namespace CheckThread

/-- A check in flight finished at its lookup, on the counters: before its lookup it gives back its
count of `total_checks_`, after it it counts its answer. -/
def settle : CheckThread → FilterEngine → FilterEngine
  | counted _ _, e => { e with totalChecks := e.totalChecks - 1 }
  | matched rule, e => e.countAnswer rule

theorem settle_comm (t t' : CheckThread) (e : FilterEngine) :
    t.settle (t'.settle e) = t'.settle (t.settle e) := by
  cases t with
  | counted => cases t' with
    | counted => rfl
    | matched r' => rcases r' with _ | ⟨_, _ | _ | _ | _, _, _, _⟩ <;> rfl
  | matched r => cases t' with
    | counted => rcases r with _ | ⟨_, _ | _ | _ | _, _, _, _⟩ <;> rfl
    | matched r' =>
      rcases r with _ | ⟨_, _ | _ | _ | _, _, _, _⟩ <;>
        rcases r' with _ | ⟨_, _ | _ | _ | _, _, _, _⟩ <;> rfl

theorem settle_countTotal (t : CheckThread) (e : FilterEngine) :
    t.settle e.countTotal = (t.settle e).countTotal := by
  cases t with
  | counted => simp only [settle, FilterEngine.countTotal, add_sub_right_comm]
  | matched r => rcases r with _ | ⟨_, _ | _ | _ | _, _, _, _⟩ <;> rfl

theorem settle_addRule (t : CheckThread) (e : FilterEngine) (rule : Rule) (domain : List UInt8) :
    t.settle (e.addRule rule domain) = (t.settle e).addRule rule domain := by
  cases t with
  | counted => rfl
  | matched r => rcases r with _ | ⟨_, _ | _ | _ | _, _, _, _⟩ <;> rfl

theorem settle_counted_countTotal (domain : List UInt8) (qtype : UInt16) (e : FilterEngine) :
    (counted domain qtype).settle e.countTotal = e := by
  simp only [settle, FilterEngine.countTotal, add_sub_cancel_right]

theorem countTotal_settle_counted (domain : List UInt8) (qtype : UInt16) (e : FilterEngine) :
    ((counted domain qtype).settle e).countTotal = e := by
  simp only [settle, FilterEngine.countTotal, sub_add_cancel]

@[simp]
theorem settle_trie (t : CheckThread) (e : FilterEngine) : (t.settle e).trie = e.trie := by
  cases t with
  | counted => rfl
  | matched r => rcases r with _ | ⟨_, _ | _ | _ | _, _, _, _⟩ <;> rfl

/-- Settling a list of checks in flight, first to last. -/
def settleAll (l : List CheckThread) (e : FilterEngine) : FilterEngine :=
  l.foldl (fun e t => t.settle e) e

theorem settleAll_append_singleton (l : List CheckThread) (t : CheckThread) (e : FilterEngine) :
    settleAll (l ++ [t]) e = t.settle (settleAll l e) := by
  simp only [settleAll, List.foldl_append, List.foldl_cons, List.foldl_nil]

theorem settleAll_map {g : FilterEngine → FilterEngine}
    (hg : ∀ (t : CheckThread) e, t.settle (g e) = g (t.settle e))
    (l : List CheckThread) (e : FilterEngine) : settleAll l (g e) = g (settleAll l e) := by
  induction l generalizing e with
  | nil => rfl
  | cons t l ih => simp only [settleAll, List.foldl_cons] at ih ⊢; rw [hg, ih]

@[simp]
theorem settleAll_trie (l : List CheckThread) (e : FilterEngine) : (settleAll l e).trie = e.trie := by
  induction l generalizing e with
  | nil => rfl
  | cons t l ih => simp only [settleAll, List.foldl_cons] at ih ⊢; rw [ih, settle_trie]

theorem settleAll_of_getElem? {l : List CheckThread} {i : Nat} {t : CheckThread} (h : l[i]? = some t)
    (e : FilterEngine) : settleAll l e = t.settle (settleAll (l.eraseIdx i) e) := by
  induction l generalizing i e with
  | nil => simp at h
  | cons a l ih =>
    cases i with
    | zero =>
      obtain rfl : a = t := by simpa using h
      exact settleAll_map (fun t' e => settle_comm t' a e) l e
    | succ i => exact ih (by simpa using h) (a.settle e)

theorem settleAll_set {l : List CheckThread} {i : Nat} {t : CheckThread} (h : l[i]? = some t)
    (t' : CheckThread) (e : FilterEngine) :
    settleAll (l.set i t') e = t'.settle (settleAll (l.eraseIdx i) e) := by
  induction l generalizing i e with
  | nil => simp at h
  | cons a l ih =>
    cases i with
    | zero => exact settleAll_map (fun t'' e => settle_comm t'' t' e) l e
    | succ i => exact ih (by simpa using h) (a.settle e)

end CheckThread

namespace Shared

/-- The engine as the sequential calls linearized so far leave it. -/
def lin (s : Shared) : FilterEngine := CheckThread.settleAll s.threads s.engine

theorem lin_of_threads_nil {s : Shared} (h : s.threads = []) : s.lin = s.engine := by
  rw [lin, h]; rfl

theorem lin_trie (s : Shared) : s.lin.trie = s.engine.trie := CheckThread.settleAll_trie _ _

theorem step_lin {s s' : Shared} {ev : Event} {o : Option (EngineOp × EngineOut)}
    (h : s.step ev = some (o, s')) :
    runOps FilterEngine.step s.lin (o.toList.map Prod.fst) = (o.toList.map Prod.snd, s'.lin) := by
  cases ev with
  | begin domain qtype =>
    obtain ⟨rfl, rfl⟩ := Prod.mk.inj (Option.some.inj h).symm
    show (([] : List EngineOut), s.lin) =
      ([], CheckThread.settleAll (s.threads ++ [.counted domain qtype]) s.engine.countTotal)
    rw [CheckThread.settleAll_append_singleton, CheckThread.settleAll_map CheckThread.settle_countTotal]
    exact congrArg _ (CheckThread.settle_counted_countTotal domain qtype s.lin).symm
  | lookup i =>
    simp only [step] at h
    split at h
    · rename_i domain qtype ht
      obtain ⟨rfl, rfl⟩ := Prod.mk.inj (Option.some.inj h).symm
      simp only [Option.toList_some, List.map_cons, List.map_nil, runOps, FilterEngine.step,
        FilterEngine.check_eq_steps, lin_trie]
      rw [lin, CheckThread.settleAll_of_getElem? ht, CheckThread.countTotal_settle_counted]
      exact congrArg _
        (CheckThread.settleAll_set ht (.matched (s.engine.trie.matchDomain domain)) s.engine).symm
    · cases h
  | count i =>
    simp only [step] at h
    split at h
    · rename_i rule ht
      obtain ⟨rfl, rfl⟩ := Prod.mk.inj (Option.some.inj h).symm
      show (([] : List EngineOut), s.lin) =
        ([], CheckThread.settleAll (s.threads.eraseIdx i) ((CheckThread.matched rule).settle s.engine))
      rw [lin, CheckThread.settleAll_of_getElem? ht,
        CheckThread.settleAll_map (fun t e => CheckThread.settle_comm t (.matched rule) e)]
    · cases h
  | addRule rule domain =>
    obtain ⟨rfl, rfl⟩ := Prod.mk.inj (Option.some.inj h).symm
    simp only [Option.toList_some, List.map_cons, List.map_nil, runOps, FilterEngine.step, lin]
    rw [CheckThread.settleAll_map (fun t e => CheckThread.settle_addRule t e rule domain)]

theorem run_lin {s s' : Shared} {evs : List Event} {lin : List (EngineOp × EngineOut)}
    (h : s.run evs = some (lin, s')) :
    runOps FilterEngine.step s.lin (lin.map Prod.fst) = (lin.map Prod.snd, s'.lin) := by
  induction evs generalizing s lin with
  | nil =>
    obtain ⟨rfl, rfl⟩ := Prod.mk.inj (Option.some.inj h).symm
    rfl
  | cons ev evs ih =>
    simp only [run] at h
    rcases hs : s.step ev with _ | ⟨o, t⟩ <;> rw [hs] at h
    · cases h
    dsimp only at h
    rcases ht : t.run evs with _ | ⟨os, t'⟩ <;> rw [ht] at h
    · cases h
    obtain ⟨rfl, rfl⟩ := Prod.mk.inj (Option.some.inj h).symm
    rw [List.map_append, runOps_append, step_lin hs, ih ht, List.map_append]

end Shared

/-- From a new engine, every interleaving of concurrent `check` and `addRule` calls whose rules
are added under domains with a label, once no check is in flight, has answered each call as
`FilterSpec` answers the calls taken in the order of their trie lookups, and leaves the engine
holding that specification's rule table and counters, `total_checks` the sum of the four action
counters. -/
theorem checks_linearizable {evs : List Event} {lin : List (EngineOp × EngineOut)} {s : Shared}
    (h : Shared.run ⟨FilterEngine.init, []⟩ evs = some (lin, s)) (hq : s.threads = [])
    (hops : ∀ op ∈ lin.map Prod.fst, op.Labelled) :
    lin.map Prod.snd = (runOps FilterSpec.step FilterSpec.init (lin.map Prod.fst)).1 ∧
      s.engine.Simulates (runOps FilterSpec.step FilterSpec.init (lin.map Prod.fst)).2 ∧
      s.engine.getStats.Balanced := by
  have hr := Shared.run_lin h
  rw [Shared.lin_of_threads_nil hq] at hr
  have hsim := FilterEngine.Simulates.run (show FilterEngine.init.Simulates FilterSpec.init from
    ⟨Refines.empty, rfl⟩) _ hops
  have hbal := FilterEngine.balanced_run (show FilterEngine.init.getStats.Balanced from rfl)
    (lin.map Prod.fst)
  rw [show (⟨FilterEngine.init, []⟩ : Shared).lin = FilterEngine.init from rfl] at hr
  rw [hr] at hsim hbal
  exact ⟨hsim.1, hsim.2, hbal⟩

theorem checks_linearizable_overlap :
    let evs : List Event := [.begin [0x61] 1, .begin [0x61] 1, .lookup 0,
      .addRule ⟨1, .Block, 0, 0, []⟩ [0x61], .lookup 1, .count 1, .count 0]
    let res := (Shared.run ⟨FilterEngine.init, []⟩ evs).getD ([], ⟨FilterEngine.init, []⟩)
    res.1.map Prod.snd = [.result ⟨.Allow, none⟩, .done, .result ⟨.Block, some ⟨1, .Block, 0, 0, []⟩⟩] ∧
    (Shared.run ⟨FilterEngine.init, []⟩ evs = some res ∧ res.2.threads = [] ∧
      ∀ op ∈ res.1.map Prod.fst, op.Labelled) ∧
    res.1.map Prod.snd = (runOps FilterSpec.step FilterSpec.init (res.1.map Prod.fst)).1 ∧
      res.2.engine.Simulates (runOps FilterSpec.step FilterSpec.init (res.1.map Prod.fst)).2 ∧
      res.2.engine.getStats.Balanced := by
  intro evs res
  have h : Shared.run ⟨FilterEngine.init, []⟩ evs = some res := rfl
  have hops : ∀ op ∈ res.1.map Prod.fst, op.Labelled := by decide
  exact ⟨by decide, ⟨h, rfl, hops⟩, checks_linearizable h rfl hops⟩

end XdpDns
