import XdpDns.Trie.RuleMap

/-!
# What `size()` counts

`rule_count_` is incremented by every `insert` that gets past its guard and decremented by every
`remove` that clears a slot. The slots that hold a rule (`TrieNode.slotCount`) grow by one on an
insert only when the key was unbound (`slotCount_insertImpl`) and shrink by one on every successful
remove (`slotCount_removeImpl`). So an insert over a bound key adds one to `size()` without filling
a slot (`DomainTrie.insert_bound_key`), and along every run `size()` is the filled slots plus the
overwrites since the last `clear` (`size_eq_slots_add_overwrites`). A run whose inserts each bind
an unbound key makes none, and there `size()` counts the filled slots (`size_counts_of_freshRun`).
An insert whose domain normalizes to no labels (`.`, `*..`) is counted too, and fills a slot of the
root (`DomainTrie.insert_noLabels`).
-/

namespace XdpDns

variable {ρ : Type}

namespace TrieNode

@[simp]
theorem slotCount_empty : (empty : TrieNode ρ).slotCount = 0 := rfl

theorem slotCountList_setChild (cs : List (List UInt8 × TrieNode ρ)) (label : List UInt8)
    (node : TrieNode ρ) :
    slotCountList (setChild cs label node) + ((findChild cs label).getD empty).slotCount =
      slotCountList cs + node.slotCount := by
  induction cs with
  | nil => simp [setChild, findChild, slotCountList]
  | cons c cs ih =>
    obtain ⟨l, n⟩ := c
    by_cases hl : l = label
    · simp [setChild, findChild, slotCountList, hl]; omega
    · simp only [setChild, findChild, hl, if_false, slotCountList]; omega

theorem slotCount_setSlot (node : TrieNode ρ) (k : Bool) (rule : Option ρ) :
    (node.setSlot k rule).slotCount + (if (node.slot k).isSome then 1 else 0) =
      node.slotCount + (if rule.isSome then 1 else 0) := by
  obtain ⟨cs, e, w⟩ := node
  cases k <;> simp only [setSlot, slot, slotCount, children_mk, exactRule_mk, wildcardRule_mk,
    if_true, Bool.false_eq_true, if_false] <;> omega

theorem slotCount_insertImpl (node : TrieNode ρ) (labels : List (List UInt8)) (k : Bool)
    (rule : Option ρ) :
    (node.insertImpl labels k rule).slotCount + (if (node.lookup k labels).isSome then 1 else 0) =
      node.slotCount + (if rule.isSome then 1 else 0) := by
  induction labels generalizing node with
  | nil => exact slotCount_setSlot node k rule
  | cons l labels ih =>
    obtain ⟨cs, e, w⟩ := node
    have hc := slotCountList_setChild cs l (((findChild cs l).getD empty).insertImpl labels k rule)
    have hi := ih ((findChild cs l).getD empty)
    simp only [insertImpl, lookup, slotCount, children_mk, exactRule_mk, wildcardRule_mk,
      ← lookup_getD] at hc hi ⊢
    omega

theorem slotCount_removeImpl {node node' : TrieNode ρ} {labels : List (List UInt8)} {k : Bool}
    (h : node.removeImpl labels k = some node') : node'.slotCount + 1 = node.slotCount := by
  induction labels generalizing node node' with
  | nil =>
    simp only [removeImpl] at h
    split_ifs at h with hs
    cases h
    simpa [hs] using slotCount_setSlot node k none
  | cons l labels ih =>
    obtain ⟨cs, e, w⟩ := node
    simp only [removeImpl, children_mk] at h
    rcases hc : findChild cs l with _ | child <;> rw [hc] at h
    · cases h
    obtain ⟨child', hr, rfl⟩ := Option.map_eq_some'.1 h
    have hs := slotCountList_setChild cs l child'
    have hi := ih hr
    simp only [hc, Option.getD_some] at hs
    simp only [slotCount, exactRule_mk, wildcardRule_mk]
    omega

end TrieNode

namespace DomainTrie

/-- An insert over a bound key adds one to `size()` and leaves the filled slots as they were. -/
theorem insert_bound_key (t : DomainTrie ρ) {d : List UInt8} {r : Option ρ} (hd : d ≠ [])
    (hr : r.isSome) (hb : (t.root.lookup (domainKey d).1 (domainKey d).2).isSome) :
    (t.insert d r).root.slotCount = t.root.slotCount ∧ (t.insert d r).size = t.size + 1 := by
  have hs := t.root.slotCount_insertImpl (domainKey d).2 (domainKey d).1 r
  have hn : ¬(d = [] ∨ r.isNone) := by simp [hd, Option.isSome_iff_ne_none.mp hr]
  simp only [hb, hr, if_true] at hs
  rw [insert_eq, if_neg hn]
  exact ⟨by dsimp only; omega, rfl⟩

theorem insert_bound_key_a :
    let t : DomainTrie Nat := empty.insert [0x61] (some 1)
    [0x41] ≠ [] ∧ (some 2 : Option Nat).isSome ∧
      (t.root.lookup (domainKey [0x41]).1 (domainKey [0x41]).2).isSome ∧
      (t.insert [0x41] (some 2)).root.slotCount = t.root.slotCount ∧
      (t.insert [0x41] (some 2)).size = t.size + 1 :=
  have hb : ((empty.insert [0x61] (some 1) : DomainTrie Nat).root.lookup (domainKey [0x41]).1
      (domainKey [0x41]).2).isSome := by decide
  ⟨by decide, rfl, hb, insert_bound_key _ (by decide) rfl hb⟩

end DomainTrie

/-! ### The drift of `size()` -/

/-- An insert that binds a key already bound: `insert` counts it and fills no slot. -/
def TrieOp.Overwrites (t : DomainTrie ρ) : TrieOp ρ → Bool
  | .insert d r => !d.isEmpty && r.isSome && (t.root.lookup (domainKey d).1 (domainKey d).2).isSome
  | _ => false

/-- The overwrites since the last `clear`, after `op` when `n` were counted before it. -/
def TrieOp.overwritesAfter (t : DomainTrie ρ) (n : Nat) : TrieOp ρ → Nat
  | .clear => 0
  | op => if op.Overwrites t then n + 1 else n

/-- The overwrites of a run since its last `clear`, `n` counted before it. -/
def overwrites : DomainTrie ρ → List (TrieOp ρ) → Nat → Nat
  | _, [], n => n
  | t, op :: ops, n => overwrites (t.step op).2 ops (op.overwritesAfter t n)

/-- A call that does not overwrite: an insert that binds a key finds it unbound. -/
def TrieOp.Fresh (t : DomainTrie ρ) : TrieOp ρ → Prop
  | .insert d r => d ≠ [] → r.isSome → t.root.lookup (domainKey d).1 (domainKey d).2 = none
  | _ => True

/-- Every call of the run is fresh in the state it runs in. -/
def FreshRun : DomainTrie ρ → List (TrieOp ρ) → Prop
  | _, [] => True
  | t, op :: ops => op.Fresh t ∧ FreshRun (t.step op).2 ops

theorem TrieOp.overwritesAfter_fresh {t : DomainTrie ρ} {op : TrieOp ρ} (hf : op.Fresh t) :
    op.overwritesAfter t 0 = 0 := by
  cases op with
  | insert d r =>
    by_cases hd : d = []
    · simp [TrieOp.overwritesAfter, TrieOp.Overwrites, hd]
    cases hr : r.isSome <;> simp [TrieOp.overwritesAfter, TrieOp.Overwrites, hr, hf hd]
  | _ => rfl

theorem overwrites_freshRun {t : DomainTrie ρ} {ops : List (TrieOp ρ)} (hf : FreshRun t ops) :
    overwrites t ops 0 = 0 := by
  induction ops generalizing t with
  | nil => rfl
  | cons op ops ih => rw [overwrites, TrieOp.overwritesAfter_fresh hf.1]; exact ih hf.2

/-- `size()` is the filled slots and `n` more, up to the wrap of `size_t`. -/
def SizeDrift (t : DomainTrie ρ) (n : Nat) : Prop :=
  t.ruleCount.toNat = (t.root.slotCount + n) % 2 ^ 64

namespace SizeDrift

variable {t : DomainTrie ρ} {n : Nat}

theorem insert (h : SizeDrift t n) (d : List UInt8) (r : Option ρ) :
    SizeDrift (t.insert d r) ((TrieOp.insert d r).overwritesAfter t n) := by
  have hs := t.root.slotCount_insertImpl (domainKey d).2 (domainKey d).1 r
  unfold SizeDrift at h ⊢
  rw [DomainTrie.insert_eq]
  rcases r with _ | x
  · simp [TrieOp.overwritesAfter, TrieOp.Overwrites, h]
  by_cases hd : d = []
  · simp [TrieOp.overwritesAfter, TrieOp.Overwrites, hd, h]
  cases hb : (t.root.lookup (domainKey d).1 (domainKey d).2).isSome <;>
    simp [TrieOp.overwritesAfter, TrieOp.Overwrites, hd, hb, uint64_toNat_add_one, h] at hs ⊢ <;>
    omega

theorem remove (h : SizeDrift t n) (d : List UInt8) : SizeDrift (t.remove d).2 n := by
  rw [DomainTrie.remove_eq]
  split_ifs
  · exact h
  rcases hr : t.root.removeImpl (domainKey d).2 (domainKey d).1 with _ | root
  · exact h
  · have hs := TrieNode.slotCount_removeImpl hr
    unfold SizeDrift at h ⊢
    dsimp only
    rw [uint64_toNat_sub_one, h]
    omega

theorem step (h : SizeDrift t n) (op : TrieOp ρ) :
    SizeDrift (t.step op).2 (op.overwritesAfter t n) := by
  cases op with
  | insert d r => exact h.insert d r
  | remove d => exact h.remove d
  | clear => rfl
  | matchDomain d => exact h

theorem run (h : SizeDrift t n) (ops : List (TrieOp ρ)) :
    SizeDrift (runOps DomainTrie.step t ops).2 (overwrites t ops n) := by
  induction ops generalizing t n with
  | nil => exact h
  | cons op ops ih => exact ih (h.step op)

end SizeDrift

/-- Along every run of calls from the empty trie, `size()` is the number of filled slots plus the
number of inserts since the last `clear` that bound a key already bound, modulo the width of
`size_t`: `remove` takes back only what filled a slot. -/
theorem size_eq_slots_add_overwrites (ops : List (TrieOp ρ)) :
    (runOps DomainTrie.step DomainTrie.empty ops).2.size.toNat =
      ((runOps DomainTrie.step DomainTrie.empty ops).2.root.slotCount +
        overwrites DomainTrie.empty ops 0) % 2 ^ 64 :=
  SizeDrift.run (show SizeDrift (DomainTrie.empty : DomainTrie ρ) 0 from rfl) ops

theorem size_counts_of_freshRun (ops : List (TrieOp ρ)) (hf : FreshRun DomainTrie.empty ops) :
    (runOps DomainTrie.step DomainTrie.empty ops).2.size.toNat =
      (runOps DomainTrie.step DomainTrie.empty ops).2.root.slotCount % 2 ^ 64 := by
  have h := SizeDrift.run (show SizeDrift (DomainTrie.empty : DomainTrie ρ) 0 from rfl) ops
  rw [overwrites_freshRun hf] at h
  exact h

/-- On a new trie, `insert(".", r)` counts a rule and makes `match(".")` return it, and
`insert("*..", r)` makes `match("a")` return it: neither insert is a no-op. -/
theorem insert_noLabels_dot :
    let t : DomainTrie Nat := DomainTrie.empty
    (domainKey [0x2E]).2 = [] ∧ t.size = 0 ∧ (t.insert [0x2E] (some 1)).size = 1 ∧
      t.matchDomain [0x2E] = none ∧ (t.insert [0x2E] (some 1)).matchDomain [0x2E] = some 1 ∧
      (domainKey [0x2A, 0x2E, 0x2E]).2 = [] ∧ t.matchDomain [0x61] = none ∧
      (t.insert [0x2A, 0x2E, 0x2E] (some 1)).matchDomain [0x61] = some 1 := by
  decide

/-- `insert("Example.com")`, `insert("example.com.")`, then `remove("example.com.")`: both inserts
bind the key `(exact, [com, example])`, so after them `size()` is 2 with one slot filled, and after
the remove 1 with none. -/
theorem size_counts_reinsert :
    let ops : List (TrieOp Nat) :=
      [.insert [0x45, 0x78, 0x61, 0x6D, 0x70, 0x6C, 0x65, 0x2E, 0x63, 0x6F, 0x6D] (some 1),
       .insert [0x65, 0x78, 0x61, 0x6D, 0x70, 0x6C, 0x65, 0x2E, 0x63, 0x6F, 0x6D, 0x2E] (some 2)]
    let rm : TrieOp Nat := .remove [0x65, 0x78, 0x61, 0x6D, 0x70, 0x6C, 0x65, 0x2E, 0x63, 0x6F, 0x6D, 0x2E]
    (runOps DomainTrie.step DomainTrie.empty ops).2.size = 2 ∧
      (runOps DomainTrie.step DomainTrie.empty ops).2.root.slotCount = 1 ∧
      (runOps DomainTrie.step DomainTrie.empty (ops ++ [rm])).2.size = 1 ∧
      (runOps DomainTrie.step DomainTrie.empty (ops ++ [rm])).2.root.slotCount = 0 := by
  decide

end XdpDns
