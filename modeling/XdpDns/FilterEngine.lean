import XdpDns.Trie.Observe

/-!
# The filter engine (`FilterEngine`)

`check` matches the domain in the trie and answers with the matched rule's action, `Allow` when no
rule matches; it counts every call in `total_checks_` and the answer in one of the four action
counters, a rule whose action is `Allow` going to `allowed_` by the `default` branch. `addRule`
stores a copy of the rule and inserts the domain with a pointer to the copy. The counters are
atomics, each read and written on its own; the calls are modelled one after another.

What the engine is for is `FilterSpec`: the rule table the inserted rules build (`RuleMap`) and the
counters, each call counted once under the action it answered. Every run of the engine simulates
it (`filterEngine_simulates`), and along every run `total_checks` is the sum of the four action
counters, modulo the width of `uint64_t` (`stats_balanced`).
-/

namespace XdpDns

/-- `enum class Action`. -/
inductive Action where
  | Allow
  | Block
  | Redirect
  | Log
  deriving DecidableEq, Repr

/-- `struct Rule`. The engine stores and returns it whole; `check` reads `action`. -/
structure Rule where
  id : UInt32
  action : Action
  redirectIp : UInt32
  ttl : UInt32
  ruleId : List UInt8
  deriving DecidableEq, Repr

/-- `struct FilterResult`. -/
structure FilterResult where
  action : Action
  matchedRule : Option Rule
  deriving DecidableEq, Repr

/-- `FilterEngine::Stats`. -/
structure FilterEngine.Stats where
  totalChecks : UInt64
  allowed : UInt64
  blocked : UInt64
  redirected : UInt64
  logged : UInt64
  deriving DecidableEq, Repr

/-- `FilterEngine`: the trie, whose rules point into `rules_storage_`, and the counters. -/
structure FilterEngine where
  trie : DomainTrie Rule
  rulesStorage : List Rule
  totalChecks : UInt64
  allowed : UInt64
  blocked : UInt64
  redirected : UInt64
  logged : UInt64

namespace FilterEngine

/-- `FilterEngine()`. -/
def init : FilterEngine := ⟨.empty, [], 0, 0, 0, 0, 0⟩

/-- `check(domain, domain_len, qtype)`: the answer and the engine with its counters updated.
`qtype` is not read. -/
def check (e : FilterEngine) (domain : List UInt8) (_qtype : UInt16) : FilterResult × FilterEngine :=
  let e := { e with totalChecks := e.totalChecks + 1 }
  match e.trie.matchDomain domain with
  | none => (⟨.Allow, none⟩, { e with allowed := e.allowed + 1 })
  | some rule =>
    let e := match rule.action with
      | .Block => { e with blocked := e.blocked + 1 }
      | .Redirect => { e with redirected := e.redirected + 1 }
      | .Log => { e with logged := e.logged + 1 }
      | _ => { e with allowed := e.allowed + 1 }
    (⟨rule.action, some rule⟩, e)

/-- `addRule(rule, domain, domain_len)`. -/
def addRule (e : FilterEngine) (rule : Rule) (domain : List UInt8) : FilterEngine :=
  { e with rulesStorage := e.rulesStorage ++ [rule], trie := e.trie.insert domain (some rule) }

/-- `getStats()`. -/
def getStats (e : FilterEngine) : Stats := ⟨e.totalChecks, e.allowed, e.blocked, e.redirected, e.logged⟩

/-- `resetStats()`. -/
def resetStats (e : FilterEngine) : FilterEngine :=
  { e with totalChecks := 0, allowed := 0, blocked := 0, redirected := 0, logged := 0 }

end FilterEngine

/-! ### Sequences of calls -/

/-- A call on the engine. -/
inductive EngineOp where
  | check (domain : List UInt8) (qtype : UInt16)
  | addRule (rule : Rule) (domain : List UInt8)
  | getStats
  | resetStats

/-- What a call returns. -/
inductive EngineOut where
  | done
  | result (r : FilterResult)
  | stats (s : FilterEngine.Stats)
  deriving DecidableEq

/-- One call on the engine. -/
def FilterEngine.step (e : FilterEngine) : EngineOp → EngineOut × FilterEngine
  | .check domain qtype => (.result (e.check domain qtype).1, (e.check domain qtype).2)
  | .addRule rule domain => (.done, e.addRule rule domain)
  | .getStats => (.stats e.getStats, e)
  | .resetStats => (.done, e.resetStats)

/-! ### What the engine is for -/

/-- The answer for the rule the table matched: its action, `Allow` when none matched. -/
def FilterResult.ofRule : Option Rule → FilterResult
  | none => ⟨.Allow, none⟩
  | some rule => ⟨rule.action, some rule⟩

namespace FilterEngine.Stats

/-- The counters with none counted. -/
def zero : Stats := ⟨0, 0, 0, 0, 0⟩

/-- Counting one call answered with `action`. -/
def tally (s : Stats) : Action → Stats
  | .Allow => { s with totalChecks := s.totalChecks + 1, allowed := s.allowed + 1 }
  | .Block => { s with totalChecks := s.totalChecks + 1, blocked := s.blocked + 1 }
  | .Redirect => { s with totalChecks := s.totalChecks + 1, redirected := s.redirected + 1 }
  | .Log => { s with totalChecks := s.totalChecks + 1, logged := s.logged + 1 }

/-- `total_checks` is the sum of the four action counters, modulo the width of `uint64_t`. -/
def Balanced (s : Stats) : Prop :=
  s.totalChecks.toNat = (s.allowed.toNat + s.blocked.toNat + s.redirected.toNat + s.logged.toNat) % 2 ^ 64

theorem Balanced.tally {s : Stats} (h : s.Balanced) (a : Action) : (s.tally a).Balanced := by
  unfold Balanced at h
  cases a <;> simp only [Balanced, Stats.tally, uint64_toNat_add_one, h] <;> omega

end FilterEngine.Stats

/-- The engine as its callers see it: the rule table and the counters. -/
structure FilterSpec where
  rules : RuleMap Rule
  stats : FilterEngine.Stats

namespace FilterSpec

def init : FilterSpec := ⟨RuleMap.empty, .zero⟩

/-- One call: `check` answers from the table and counts the answer's action. -/
def step (S : FilterSpec) : EngineOp → EngineOut × FilterSpec
  | .check domain _ =>
    let r := FilterResult.ofRule (S.rules.matchDomain domain)
    (.result r, { S with stats := S.stats.tally r.action })
  | .addRule rule domain => (.done, { S with rules := S.rules.insert domain (some rule) })
  | .getStats => (.stats S.stats, S)
  | .resetStats => (.done, { S with stats := .zero })

end FilterSpec

/-! ### The engine simulates its specification -/

namespace FilterEngine

variable (e : FilterEngine) (domain : List UInt8) (qtype : UInt16)

theorem check_result : (e.check domain qtype).1 = FilterResult.ofRule (e.trie.matchDomain domain) := by
  dsimp only [check]
  cases e.trie.matchDomain domain <;> rfl

theorem check_trie : (e.check domain qtype).2.trie = e.trie := by
  dsimp only [check]
  rcases e.trie.matchDomain domain with _ | ⟨_, _ | _ | _ | _, _, _, _⟩ <;> rfl

theorem check_rulesStorage : (e.check domain qtype).2.rulesStorage = e.rulesStorage := by
  dsimp only [check]
  rcases e.trie.matchDomain domain with _ | ⟨_, _ | _ | _ | _, _, _, _⟩ <;> rfl

theorem check_stats : (e.check domain qtype).2.getStats = e.getStats.tally (e.check domain qtype).1.action := by
  dsimp only [check]
  rcases e.trie.matchDomain domain with _ | ⟨_, _ | _ | _ | _, _, _, _⟩ <;> rfl

theorem balanced_step {e : FilterEngine} (h : e.getStats.Balanced) (op : EngineOp) :
    (e.step op).2.getStats.Balanced := by
  cases op with
  | check domain qtype => exact (check_stats e domain qtype) ▸ h.tally _
  | addRule rule domain => exact h
  | getStats => exact h
  | resetStats => rfl

end FilterEngine

theorem FilterEngine.balanced_run {e : FilterEngine} (h : e.getStats.Balanced) (ops : List EngineOp) :
    (runOps FilterEngine.step e ops).2.getStats.Balanced := by
  induction ops generalizing e with
  | nil => exact h
  | cons op ops ih => exact ih (FilterEngine.balanced_step h op)

/-- Along every run of calls from a new engine, `total_checks` is the sum of `allowed`, `blocked`,
`redirected` and `logged`, modulo the width of `uint64_t`. -/
theorem stats_balanced (ops : List EngineOp) :
    (runOps FilterEngine.step FilterEngine.init ops).2.getStats.Balanced :=
  FilterEngine.balanced_run (show FilterEngine.init.getStats.Balanced from rfl) ops

/-- The calls the simulation covers: a rule is added under a domain with at least one label. -/
def EngineOp.Labelled : EngineOp → Prop
  | .addRule _ d => d ≠ [] → (domainKey d).2 ≠ []
  | _ => True

instance : DecidablePred EngineOp.Labelled := fun op =>
  match op with
  | .addRule _ d => inferInstanceAs (Decidable (d ≠ [] → (domainKey d).2 ≠ []))
  | .check _ _ | .getStats | .resetStats => isTrue trivial

/-- The engine holds the specification's state: its trie stores the rule table, and its counters
are the specification's. -/
structure FilterEngine.Simulates (e : FilterEngine) (S : FilterSpec) : Prop where
  refines : Refines e.trie S.rules
  stats_eq : e.getStats = S.stats

namespace FilterEngine.Simulates

variable {e : FilterEngine} {S : FilterSpec}

theorem step (h : e.Simulates S) {op : EngineOp} (hop : op.Labelled) :
    (e.step op).1 = (S.step op).1 ∧ (e.step op).2.Simulates (S.step op).2 := by
  cases op with
  | check domain qtype =>
    have hr : (e.check domain qtype).1 = FilterResult.ofRule (S.rules.matchDomain domain) := by
      rw [check_result, h.refines.matchDomain]
    refine ⟨by simp only [FilterEngine.step, FilterSpec.step, hr], ?_, ?_⟩
    · exact (check_trie e domain qtype).symm ▸ h.refines
    · simp only [FilterEngine.step, FilterSpec.step, check_stats, hr, h.stats_eq]
  | addRule rule domain =>
    exact ⟨rfl, h.refines.insert fun hd _ => hop hd, h.stats_eq⟩
  | getStats => exact ⟨by simp only [FilterEngine.step, FilterSpec.step, h.stats_eq], h⟩
  | resetStats => exact ⟨rfl, h.refines, rfl⟩

theorem run (h : e.Simulates S) (ops : List EngineOp) (hops : ∀ op ∈ ops, op.Labelled) :
    (runOps FilterEngine.step e ops).1 = (runOps FilterSpec.step S ops).1 ∧
      (runOps FilterEngine.step e ops).2.Simulates (runOps FilterSpec.step S ops).2 := by
  induction ops generalizing e S with
  | nil => exact ⟨rfl, h⟩
  | cons op ops ih =>
    obtain ⟨hout, h'⟩ := h.step (hops op (List.mem_cons_self _ _))
    obtain ⟨hrun, hfin⟩ := ih h' fun op' hm => hops op' (List.mem_cons_of_mem _ hm)
    exact ⟨by simp only [runOps, hout, hrun], hfin⟩

end FilterEngine.Simulates

/-- From a new engine, every run of calls whose rules are added under domains with a label answers
as `FilterSpec` does: each `check` returns the action of the rule the table of added rules
matches (`Allow` when none does), and the counters count each check once under its answer. -/
theorem filterEngine_simulates (ops : List EngineOp) (hops : ∀ op ∈ ops, op.Labelled) :
    (runOps FilterEngine.step FilterEngine.init ops).1 = (runOps FilterSpec.step FilterSpec.init ops).1 ∧
      (runOps FilterEngine.step FilterEngine.init ops).2.Simulates (runOps FilterSpec.step FilterSpec.init ops).2 :=
  FilterEngine.Simulates.run ⟨Refines.empty, rfl⟩ ops hops

theorem filterEngine_simulates_wildcard :
    let ops := [EngineOp.addRule ⟨1, .Block, 0, 0, []⟩ [0x2A, 0x2E, 0x61],
      .check [0x42, 0x2E, 0x61] 1, .getStats]
    (∀ op ∈ ops, op.Labelled) ∧
      (runOps FilterEngine.step FilterEngine.init ops).1 = (runOps FilterSpec.step FilterSpec.init ops).1 ∧
      (runOps FilterEngine.step FilterEngine.init ops).2.Simulates (runOps FilterSpec.step FilterSpec.init ops).2 :=
  have hops := by decide
  ⟨hops, filterEngine_simulates _ hops⟩

/-! ### What `check` can answer with -/

/-- Every rule the trie stores is one of the copies in `rules_storage_`, added by a call of `ops`
under a domain whose key leads to it. -/
def FilterEngine.Stored (e : FilterEngine) (ops : List EngineOp) : Prop :=
  ∀ k P r, e.trie.root.lookup k P = some r →
    r ∈ e.rulesStorage ∧ ∃ d, EngineOp.addRule r d ∈ ops ∧ domainKey d = (k, P)

namespace FilterEngine.Stored

variable {e : FilterEngine} {ops : List EngineOp}

theorem init : FilterEngine.init.Stored [] := fun k P r hl => by
  simp [FilterEngine.init, DomainTrie.empty] at hl

theorem of_trie (h : e.Stored ops) {e' : FilterEngine} (ht : e'.trie = e.trie)
    (hs : e'.rulesStorage = e.rulesStorage) (ops' : List EngineOp) : e'.Stored (ops ++ ops') :=
  fun k P r hl => by
    obtain ⟨hm, d, hd, hk⟩ := h k P r (ht ▸ hl)
    exact ⟨hs ▸ hm, d, List.mem_append_left _ hd, hk⟩

theorem step (h : e.Stored ops) (op : EngineOp) : (e.step op).2.Stored (ops ++ [op]) := by
  cases op with
  | check domain qtype => exact h.of_trie (check_trie ..) (check_rulesStorage ..) _
  | addRule rule domain =>
    intro k P r hl
    simp only [FilterEngine.step, addRule, DomainTrie.lookup_insert] at hl ⊢
    split_ifs at hl with hc
    · cases hl
      exact ⟨List.mem_append_right _ (List.mem_singleton_self _), domain,
        List.mem_append_right _ (List.mem_singleton_self _), hc.2.2.symm⟩
    · obtain ⟨hm, d, hd, hk⟩ := h k P r hl
      exact ⟨List.mem_append_left _ hm, d, List.mem_append_left _ hd, hk⟩
  | getStats => exact h.of_trie rfl rfl _
  | resetStats => exact h.of_trie rfl rfl _

theorem run (h : e.Stored ops) (ops' : List EngineOp) :
    (runOps FilterEngine.step e ops').2.Stored (ops ++ ops') := by
  induction ops' generalizing e ops with
  | nil => simpa using h
  | cons op ops' ih => simpa using ih (h.step op)

end FilterEngine.Stored

/-- Along every run of calls from a new engine, `check` answers only with a rule it was given: the
rule it returns is one of the copies in `rules_storage_`, added by `addRule` under a domain whose
key is the exact key of the queried domain's labels, or a wildcard key whose labels are a prefix
of them (the queried domain ends with the wildcard's domain, label by label). -/
theorem check_sound (ops : List EngineOp) (domain : List UInt8) (qtype : UInt16) {r : Rule}
    (h : ((runOps FilterEngine.step FilterEngine.init ops).2.check domain qtype).1.matchedRule =
      some r) :
    r ∈ (runOps FilterEngine.step FilterEngine.init ops).2.rulesStorage ∧
      ∃ d, EngineOp.addRule r d ∈ ops ∧ (domainKey d = (false, domainLabels domain) ∨
        (domainKey d).1 = true ∧ (domainKey d).2 <+: domainLabels domain) := by
  have hS := FilterEngine.Stored.init.run ops
  rw [List.nil_append] at hS
  rw [FilterEngine.check_result] at h
  rcases hm : (runOps FilterEngine.step FilterEngine.init ops).2.trie.matchDomain domain with _ | x <;>
    rw [hm] at h <;> cases h
  rcases DomainTrie.matchDomain_eq_some _ _ hm with hl | ⟨P, hP, hl⟩
  · obtain ⟨hmem, d, hd, hk⟩ := hS _ _ _ hl
    exact ⟨hmem, d, hd, Or.inl hk⟩
  · obtain ⟨hmem, d, hd, hk⟩ := hS _ _ _ hl
    exact ⟨hmem, d, hd, Or.inr ⟨by rw [hk], by rw [hk]; exact hP⟩⟩

theorem check_sound_wildcard :
    let rule : Rule := ⟨1, .Block, 0, 0, []⟩
    let ops := [EngineOp.addRule rule [0x2A, 0x2E, 0x61]]
    ((runOps FilterEngine.step FilterEngine.init ops).2.check [0x42, 0x2E, 0x61] 1).1.matchedRule =
      some rule ∧
    rule ∈ (runOps FilterEngine.step FilterEngine.init ops).2.rulesStorage ∧
      ∃ d, EngineOp.addRule rule d ∈ ops ∧ (domainKey d = (false, domainLabels [0x42, 0x2E, 0x61]) ∨
        (domainKey d).1 = true ∧ (domainKey d).2 <+: domainLabels [0x42, 0x2E, 0x61]) :=
  have h : ((runOps FilterEngine.step FilterEngine.init
      [EngineOp.addRule ⟨1, .Block, 0, 0, []⟩ [0x2A, 0x2E, 0x61]]).2.check [0x42, 0x2E, 0x61] 1).1.matchedRule =
      some ⟨1, .Block, 0, 0, []⟩ := by decide
  ⟨h, check_sound _ _ _ h⟩

end XdpDns
