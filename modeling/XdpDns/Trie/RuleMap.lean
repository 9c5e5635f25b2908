import XdpDns.Trie.DomainTrie
import Mathlib.Data.List.Infix

/-!
# The trie refines a map from keys to rules

What the trie is for, stated on its own: a map `RuleMap` from keys to rules. A key is the kind of
rule (`true` for a wildcard) and the domain's labels, last first; `insert` binds the key of a
domain, `remove` unbinds it and reports whether it was bound, and `match` returns the exact rule of
the queried labels, else the wildcard rule of their longest bound prefix.

`TrieNode.lookup` reads a key off the trie: the slot of the node its labels lead to. Each
operation of `DomainTrie` changes `lookup` as the map's operation changes the map
(`lookup_insertImpl`, `lookup_removeImpl`, `matchImpl_eq`), so a run of operations from the empty
trie gives the answers the map gives (`trie_refines_ruleMap`). The run needs one assumption: no
domain inserted with a rule has an empty label list after normalization. Such a domain (`.`,
`*..`) binds a slot of the root; `.` binds the exact slot, the key of the empty domain, which
`remove` of the empty domain does not look at (it returns `false` at once).
-/

namespace XdpDns

variable {ρ : Type}

/-! ### Labels -/

/-- `labels(s)`: the non-empty `.`-separated segments of `s` lowercased, last first. -/
def domainLabels (s : List UInt8) : List (List UInt8) :=
  (((s.map tolower).splitOn 0x2E).filter (· ≠ [])).reverse

/-- The key of a domain: a wildcard key for `*.` followed by at least one byte. -/
def domainKey (d : List UInt8) : Bool × List (List UInt8) :=
  if 2 < d.length ∧ d.take 2 = [0x2A, 0x2E] then (true, domainLabels (d.drop 2))
  else (false, domainLabels d)

theorem splitAndReverse.loop_eq (cs current : List UInt8) (labels : List (List UInt8)) :
    splitAndReverse.loop cs current labels =
      (labels ++ (List.splitOnP.go (· == 0x2E) cs current.reverse).filter (· ≠ [])).reverse := by
  induction cs generalizing current labels with
  | nil =>
    by_cases hc : current = [] <;> simp [splitAndReverse.loop, List.splitOnP.go, hc]
  | cons c cs ih =>
    by_cases hc : c = 0x2E
    · by_cases hcur : current = [] <;>
        simp [splitAndReverse.loop, List.splitOnP.go, hc, hcur, ih, List.filter_cons]
    · simp [splitAndReverse.loop, List.splitOnP.go, hc, ih]

theorem splitAndReverse_map_tolower (s : List UInt8) :
    splitAndReverse (s.map tolower) = domainLabels s := by
  rw [splitAndReverse, splitAndReverse.loop_eq, domainLabels, List.splitOn, List.splitOnP]
  rfl

theorem wildcardSplit_key (d : List UInt8) :
    ((wildcardSplit d).1, splitAndReverse ((wildcardSplit d).2.map tolower)) = domainKey d := by
  unfold wildcardSplit domainKey
  split_ifs <;> simp only [splitAndReverse_map_tolower]

namespace DomainTrie

theorem insert_eq (t : DomainTrie ρ) (d : List UInt8) (r : Option ρ) :
    t.insert d r = if d = [] ∨ r.isNone then t
      else ⟨t.root.insertImpl (domainKey d).2 (domainKey d).1 r, t.ruleCount + 1⟩ := by
  rw [← wildcardSplit_key]; rfl

theorem remove_eq (t : DomainTrie ρ) (d : List UInt8) :
    t.remove d = if d = [] then (false, t) else
      match t.root.removeImpl (domainKey d).2 (domainKey d).1 with
      | none => (false, t)
      | some root => (true, ⟨root, t.ruleCount - 1⟩) := by
  rw [← wildcardSplit_key]; rfl

theorem matchDomain_eq (t : DomainTrie ρ) (d : List UInt8) :
    t.matchDomain d = if d = [] then none else t.root.matchImpl (domainLabels d) none := by
  rw [DomainTrie.matchDomain, splitAndReverse_map_tolower]

end DomainTrie

/-! ### Longest bound prefix -/

/-- The rule `W` gives the longest prefix of `L` it binds; `L.inits` lists the prefixes of `L`
shortest first, `L` itself included. -/
def longestBound (W : List (List UInt8) → Option ρ) (L : List (List UInt8)) : Option ρ :=
  L.inits.reverse.findSome? W

@[simp]
theorem longestBound_nil (W : List (List UInt8) → Option ρ) : longestBound W [] = W [] := by
  cases h : W [] <;> simp [longestBound, h]

theorem longestBound_cons (W : List (List UInt8) → Option ρ) (l : List UInt8)
    (L : List (List UInt8)) :
    longestBound W (l :: L) = (longestBound (fun P => W (l :: P)) L).or (W []) := by
  simp only [longestBound, List.inits_cons, List.reverse_cons, ← List.map_reverse,
    List.findSome?_append, List.findSome?_map, Function.comp_def]
  exact congrArg _ (longestBound_nil W)

@[simp]
theorem longestBound_none (L : List (List UInt8)) : longestBound (fun _ => (none : Option ρ)) L = none := by
  simp [longestBound]

/-! ### Reading a key off the trie -/

namespace TrieNode

/-- The rule stored under the key `(is_wildcard, path)`: the slot of the node `path` leads to. -/
def lookup (node : TrieNode ρ) (is_wildcard : Bool) : List (List UInt8) → Option ρ
  | [] => node.slot is_wildcard
  | label :: path => match findChild node.children label with
    | none => none
    | some child => child.lookup is_wildcard path

@[simp]
theorem lookup_empty (k : Bool) (path : List (List UInt8)) : (empty : TrieNode ρ).lookup k path = none := by
  cases path <;> cases k <;> rfl

theorem findChild_setChild (cs : List (List UInt8 × TrieNode ρ)) (label label' : List UInt8)
    (node : TrieNode ρ) :
    findChild (setChild cs label node) label' = if label = label' then some node else findChild cs label' := by
  induction cs with
  | nil => rfl
  | cons c cs ih =>
    obtain ⟨l, n⟩ := c
    by_cases hl : l = label
    · subst hl; by_cases h : l = label' <;> simp [setChild, findChild, h]
    · simp only [setChild, hl, if_false, findChild, ih]
      by_cases h : l = label' <;> by_cases h' : label = label' <;> simp_all

theorem lookup_getD (cs : List (List UInt8 × TrieNode ρ)) (label : List UInt8) (k : Bool)
    (path : List (List UInt8)) :
    ((findChild cs label).getD empty).lookup k path =
      match findChild cs label with
      | none => none
      | some child => child.lookup k path := by
  cases findChild cs label <;> simp

@[simp]
theorem slot_setSlot (node : TrieNode ρ) (k k' : Bool) (rule : Option ρ) :
    (node.setSlot k rule).slot k' = if k' = k then rule else node.slot k' := by
  cases k <;> cases k' <;> rfl

@[simp]
theorem children_setSlot (node : TrieNode ρ) (k : Bool) (rule : Option ρ) :
    (node.setSlot k rule).children = node.children := by
  cases k <;> rfl

theorem lookup_insertImpl (node : TrieNode ρ) (labels : List (List UInt8)) (k : Bool)
    (rule : Option ρ) (k' : Bool) (path : List (List UInt8)) :
    (node.insertImpl labels k rule).lookup k' path =
      if (k', path) = (k, labels) then rule else node.lookup k' path := by
  induction labels generalizing node path with
  | nil =>
    cases path with
    | nil => simp [insertImpl, lookup]
    | cons l path => simp [insertImpl, lookup]
  | cons l labels ih =>
    cases path with
    | nil => simp [insertImpl, lookup, slot]
    | cons l' path =>
      simp only [insertImpl, lookup, children_mk, findChild_setChild]
      by_cases h : l = l'
      · subst h; simp [ih, lookup_getD]
      · simp [h, Ne.symm h]

theorem removeImpl_eq_none (node : TrieNode ρ) (labels : List (List UInt8)) (k : Bool) :
    node.removeImpl labels k = none ↔ node.lookup k labels = none := by
  induction labels generalizing node with
  | nil => cases h : node.slot k <;> simp [removeImpl, lookup, h]
  | cons l labels ih =>
    simp only [removeImpl, lookup]
    cases findChild node.children l with
    | none => simp
    | some child => simp [ih]

theorem lookup_removeImpl {node node' : TrieNode ρ} {labels : List (List UInt8)} {k : Bool}
    (h : node.removeImpl labels k = some node') (k' : Bool) (path : List (List UInt8)) :
    node'.lookup k' path = if (k', path) = (k, labels) then none else node.lookup k' path := by
  induction labels generalizing node node' path with
  | nil =>
    simp only [removeImpl] at h
    split_ifs at h
    cases h
    cases path <;> simp [lookup]
  | cons l labels ih =>
    simp only [removeImpl] at h
    rcases hc : findChild node.children l with _ | child <;> rw [hc] at h
    · cases h
    obtain ⟨child', hr, rfl⟩ := Option.map_eq_some'.1 h
    cases path with
    | nil => simp [lookup, slot]
    | cons l' path =>
      simp only [lookup, children_mk, findChild_setChild]
      by_cases hl : l = l'
      · subst hl; simp [ih hr, hc]
      · simp [hl, Ne.symm hl]

theorem matchImpl_eq (node : TrieNode ρ) (labels : List (List UInt8)) (matched_wildcard : Option ρ) :
    node.matchImpl labels matched_wildcard =
      (node.lookup false labels).or ((longestBound (node.lookup true) labels).or matched_wildcard) := by
  induction labels generalizing node matched_wildcard with
  | nil => simp [matchImpl, lookup, slot]
  | cons l labels ih =>
    rw [matchImpl, longestBound_cons]
    simp only [lookup]
    cases findChild node.children l with
    | none => simp [slot]
    | some child => simp [ih, slot, Option.or_assoc]

end TrieNode

/-! ### The abstract rule table -/

/-- What the trie is for: a rule per key, `none` where the key is unbound. -/
def RuleMap (ρ : Type) := Bool × List (List UInt8) → Option ρ

namespace RuleMap

/-- The table with no key bound. -/
def empty : RuleMap ρ := fun _ => none

/-- `M` with `key` bound to `rule`. -/
def set (M : RuleMap ρ) (key : Bool × List (List UInt8)) (rule : Option ρ) : RuleMap ρ :=
  fun k => if k = key then rule else M k

/-- `insert(d, r)` binds the key of `d` to `r` when `d` is non-empty and `r` is not null. -/
def insert (M : RuleMap ρ) (d : List UInt8) (r : Option ρ) : RuleMap ρ :=
  if d = [] ∨ r.isNone then M else M.set (domainKey d) r

/-- `remove(d)` unbinds the key of `d` and reports whether it was bound. -/
def remove (M : RuleMap ρ) (d : List UInt8) : Bool × RuleMap ρ :=
  ((M (domainKey d)).isSome, M.set (domainKey d) none)

/-- `match(d)`: null for the empty domain, else the exact rule of its labels, else the wildcard
rule of their longest bound prefix. -/
def matchDomain (M : RuleMap ρ) (d : List UInt8) : Option ρ :=
  if d = [] then none else
  (M (false, domainLabels d)).or (longestBound (fun P => M (true, P)) (domainLabels d))

/-- One call on the table. -/
def step (M : RuleMap ρ) : TrieOp ρ → TrieOut ρ × RuleMap ρ
  | .insert d r => (.done, M.insert d r)
  | .remove d => (.removed (M.remove d).1, (M.remove d).2)
  | .clear => (.done, empty)
  | .matchDomain d => (.matched (M.matchDomain d), M)

end RuleMap

/-- The calls the refinement covers: an insert that binds a key leaves it at least one label. -/
def TrieOp.Labelled : TrieOp ρ → Prop
  | .insert d r => d ≠ [] → r.isSome → (domainKey d).2 ≠ []
  | _ => True

instance TrieOp.decLabelled : (op : TrieOp ρ) → Decidable op.Labelled
  | .insert d r => inferInstanceAs (Decidable (d ≠ [] → r.isSome → (domainKey d).2 ≠ []))
  | .remove _ | .clear | .matchDomain _ => isTrue trivial

/-! ### Refinement -/

/-- The trie stores the table `M`: every key reads the same off both. The exact key with no
labels, which `remove` cannot reach (it rejects the empty domain), is unbound. -/
structure Refines (t : DomainTrie ρ) (M : RuleMap ρ) : Prop where
  lookup_eq : ∀ k P, t.root.lookup k P = M (k, P)
  root_exact : M (false, []) = none

namespace Refines

variable {t : DomainTrie ρ} {M : RuleMap ρ}

theorem empty : Refines (DomainTrie.empty : DomainTrie ρ) RuleMap.empty :=
  ⟨fun _ _ => TrieNode.lookup_empty _ _, rfl⟩

theorem set (h : Refines t M) {root : TrieNode ρ} {key : Bool × List (List UInt8)}
    {rule : Option ρ} (hroot : ∀ k P, root.lookup k P = if (k, P) = key then rule else t.root.lookup k P)
    (hkey : key = (false, []) → rule = none) (c : UInt64) :
    Refines ⟨root, c⟩ (M.set key rule) := by
  refine ⟨fun k P => ?_, ?_⟩
  · simp only [hroot, RuleMap.set, h.lookup_eq]
  · by_cases hk : key = (false, [])
    · simp [RuleMap.set, hk, hkey hk]
    · simp [RuleMap.set, Ne.symm hk, h.root_exact]

theorem insert (h : Refines t M) {d : List UInt8} {r : Option ρ}
    (hd : (TrieOp.insert d r).Labelled) : Refines (t.insert d r) (M.insert d r) := by
  rw [DomainTrie.insert_eq, RuleMap.insert]
  split_ifs with h0
  · exact h
  · push_neg at h0
    have hkey : (domainKey d).2 ≠ [] := hd h0.1 (Option.ne_none_iff_isSome.mp (by simpa using h0.2))
    exact h.set (fun k P => TrieNode.lookup_insertImpl ..) (fun he => absurd (congrArg Prod.snd he) hkey) _

theorem remove (h : Refines t M) (d : List UInt8) :
    (t.remove d).1 = (M.remove d).1 ∧ Refines (t.remove d).2 (M.remove d).2 := by
  have hset : ∀ key, M key = none → M.set key none = M := fun key hk => by
    funext k; by_cases hk' : k = key <;> simp [RuleMap.set, hk', hk]
  rw [DomainTrie.remove_eq, RuleMap.remove]
  by_cases hd : d = []
  · subst hd
    have hk : domainKey ([] : List UInt8) = (false, []) := rfl
    simp [hk, h.root_exact, hset _ h.root_exact, h]
  rcases hr : t.root.removeImpl (domainKey d).2 (domainKey d).1 with _ | root
  · have hM : M (domainKey d) = none := by
      rw [← h.lookup_eq]; exact (TrieNode.removeImpl_eq_none ..).1 hr
    simp [hd, hr, hM, hset _ hM, h]
  · have hM : M (domainKey d) ≠ none := by
      rw [← h.lookup_eq]; intro hl
      rw [(TrieNode.removeImpl_eq_none ..).2 hl] at hr; cases hr
    refine ⟨by simp [hd, hr, Option.ne_none_iff_isSome.mp hM], ?_⟩
    simp only [hd, hr, if_false]
    exact h.set (fun k P => TrieNode.lookup_removeImpl hr k P) (fun _ => rfl) _

theorem matchDomain (h : Refines t M) (d : List UInt8) : t.matchDomain d = M.matchDomain d := by
  have hw : t.root.lookup true = fun P => M (true, P) := funext (h.lookup_eq true)
  rw [DomainTrie.matchDomain_eq, RuleMap.matchDomain, TrieNode.matchImpl_eq, hw, h.lookup_eq,
    Option.or_none]

theorem step (h : Refines t M) {op : TrieOp ρ} (hop : op.Labelled) :
    (t.step op).1 = (M.step op).1 ∧ Refines (t.step op).2 (M.step op).2 := by
  cases op with
  | insert d r => exact ⟨rfl, h.insert hop⟩
  | remove d =>
    obtain ⟨hb, h'⟩ := h.remove d
    exact ⟨by simp only [DomainTrie.step, RuleMap.step, hb], h'⟩
  | clear => exact ⟨rfl, empty⟩
  | matchDomain d => exact ⟨by simp only [DomainTrie.step, RuleMap.step, h.matchDomain], h⟩

theorem run (h : Refines t M) (ops : List (TrieOp ρ)) (hops : ∀ op ∈ ops, op.Labelled) :
    (runOps DomainTrie.step t ops).1 = (runOps RuleMap.step M ops).1 ∧
      Refines (runOps DomainTrie.step t ops).2 (runOps RuleMap.step M ops).2 := by
  induction ops generalizing t M with
  | nil => exact ⟨rfl, h⟩
  | cons op ops ih =>
    obtain ⟨hout, h'⟩ := h.step (hops op (List.mem_cons_self _ _))
    obtain ⟨hrun, hfin⟩ := ih h' fun op' hm => hops op' (List.mem_cons_of_mem _ hm)
    exact ⟨by simp only [runOps, hout, hrun], hfin⟩

end Refines

/-- From the empty trie, every run of calls whose inserts keep a label answers as the rule table
does, and leaves the trie storing the table. -/
theorem trie_refines_ruleMap (ops : List (TrieOp ρ)) (hops : ∀ op ∈ ops, op.Labelled) :
    (runOps DomainTrie.step DomainTrie.empty ops).1 = (runOps RuleMap.step RuleMap.empty ops).1 ∧
      Refines (runOps DomainTrie.step DomainTrie.empty ops).2 (runOps RuleMap.step RuleMap.empty ops).2 :=
  Refines.empty.run ops hops

theorem trie_refines_ruleMap_wildcard :
    let ops : List (TrieOp Nat) := [.insert [0x2A, 0x2E, 0x61] (some 1),
      .matchDomain [0x42, 0x2E, 0x61], .remove [0x61], .remove [0x2A, 0x2E, 0x61]]
    (∀ op ∈ ops, op.Labelled) ∧
      (runOps DomainTrie.step DomainTrie.empty ops).1 = (runOps RuleMap.step RuleMap.empty ops).1 ∧
      Refines (runOps DomainTrie.step DomainTrie.empty ops).2 (runOps RuleMap.step RuleMap.empty ops).2 :=
  have hops := by decide
  ⟨hops, trie_refines_ruleMap _ hops⟩

end XdpDns
