import XdpDns.Trie.RuleMap
import Mathlib.Data.UInt

/-!
# What a trie's callers can observe

Every answer of `DomainTrie`, and every effect of a call on later answers, goes through the table
`TrieNode.lookup` reads off the root and through `rule_count_`. The order of a node's children,
and the empty nodes `remove` leaves on the path it walked, are never seen. `DomainTrie.Equiv`
relates two tries with the same table and counter; each call answers the same on both and keeps
them related (`Equiv.step`), so every later run of calls does (`Equiv.run`).

Two laws of the trie follow. A rule inserted under a key the trie does not bind and removed again
leaves no trace (`insert_remove_unbound`), and inserts under different keys commute
(`insert_comm`): every later run of calls answers the same and ends with the same `size()`. Both
hold with the root's slots too: `.` and `*..` bind them like any other key.

`match` answers only with a rule bound to the exact key of the domain's labels or to the wildcard
key of a prefix of them (`matchDomain_eq_some`). The filter engine uses this to show that `check`
answers only with rules it was given.
-/

namespace XdpDns

variable {ρ : Type}

theorem longestBound_eq_some {W : List (List UInt8) → Option ρ} {L : List (List UInt8)} {r : ρ}
    (h : longestBound W L = some r) : ∃ P, P <+: L ∧ W P = some r := by
  obtain ⟨P, hP, hW⟩ := List.exists_of_findSome?_eq_some h
  exact ⟨P, (List.mem_inits P L).1 (List.mem_reverse.1 hP), hW⟩

namespace DomainTrie

variable (t : DomainTrie ρ) (d : List UInt8) (r : Option ρ)

theorem lookup_insert (k : Bool) (P : List (List UInt8)) :
    (t.insert d r).root.lookup k P =
      if d ≠ [] ∧ r.isSome ∧ (k, P) = domainKey d then r else t.root.lookup k P := by
  rw [insert_eq]
  rcases r with _ | x
  · simp
  · by_cases hd : d = [] <;> simp [hd, TrieNode.lookup_insertImpl]

theorem ruleCount_insert :
    (t.insert d r).ruleCount = if d = [] ∨ r.isNone then t.ruleCount else t.ruleCount + 1 := by
  rw [insert_eq]; split_ifs <;> rfl

theorem matchDomain_eq_some {x : ρ} (h : t.matchDomain d = some x) :
    t.root.lookup false (domainLabels d) = some x ∨
      ∃ P, P <+: domainLabels d ∧ t.root.lookup true P = some x := by
  rw [matchDomain_eq] at h
  split_ifs at h
  rw [TrieNode.matchImpl_eq, Option.or_none] at h
  rcases Option.or_eq_some.1 h with h | ⟨-, h⟩
  · exact Or.inl h
  · exact Or.inr (longestBound_eq_some h)

theorem matchDomain_insert_wildcard {d' : List UInt8} {K : List (List UInt8)} (hd' : d' ≠ [])
    (hk : domainKey d' = (true, K)) {x : ρ} (d : List UInt8) :
    ((empty : DomainTrie ρ).insert d' (some x)).matchDomain d = some x ↔
      d ≠ [] ∧ K <+: domainLabels d := by
  have hl : ∀ k P, ((empty : DomainTrie ρ).insert d' (some x)).root.lookup k P =
      if (k, P) = (true, K) then some x else none := fun k P => by
    simp [lookup_insert, hd', hk, empty]
  rw [matchDomain_eq]
  by_cases hd : d = []
  · simp [hd]
  have hW : ((empty : DomainTrie ρ).insert d' (some x)).root.lookup true =
      fun P => if P = K then some x else none := funext fun P => by simp [hl]
  rw [if_neg hd, TrieNode.matchImpl_eq, hl, hW, Option.or_none]
  simp only [Prod.mk.injEq, Bool.false_eq_true, false_and, if_false, Option.none_or, ne_eq, hd,
    not_false_eq_true, true_and]
  constructor
  · intro h
    obtain ⟨P, hP, hx⟩ := longestBound_eq_some h
    split_ifs at hx with hPK
    exact hPK ▸ hP
  · intro hK
    rcases h : longestBound (fun P => if P = K then some x else none) (domainLabels d) with _ | y
    · rw [longestBound, List.findSome?_eq_none_iff] at h
      simpa using h K (List.mem_reverse.2 ((List.mem_inits _ _).2 hK))
    · obtain ⟨P, -, hy⟩ := longestBound_eq_some h
      split_ifs at hy
      exact hy.symm ▸ rfl

/-- Two tries a caller cannot tell apart: every key reads the same, and so does `size()`. -/
structure Equiv (t t' : DomainTrie ρ) : Prop where
  lookup_eq : ∀ k P, t.root.lookup k P = t'.root.lookup k P
  count_eq : t.ruleCount = t'.ruleCount

namespace Equiv

variable {t t' : DomainTrie ρ}

theorem refl (t : DomainTrie ρ) : Equiv t t := ⟨fun _ _ => rfl, rfl⟩

theorem matchDomain (h : Equiv t t') (d : List UInt8) : t.matchDomain d = t'.matchDomain d := by
  have hw : t.root.lookup true = t'.root.lookup true := funext (h.lookup_eq true)
  simp only [matchDomain_eq, TrieNode.matchImpl_eq, hw, h.lookup_eq]

theorem insert (h : Equiv t t') (d : List UInt8) (r : Option ρ) :
    Equiv (t.insert d r) (t'.insert d r) :=
  ⟨fun k P => by simp only [lookup_insert, h.lookup_eq], by simp only [ruleCount_insert, h.count_eq]⟩

theorem remove (h : Equiv t t') (d : List UInt8) :
    (t.remove d).1 = (t'.remove d).1 ∧ Equiv (t.remove d).2 (t'.remove d).2 := by
  rw [remove_eq, remove_eq]
  by_cases hd : d = []
  · rw [if_pos hd, if_pos hd]; exact ⟨rfl, h⟩
  simp only [hd, if_false]
  have hnone := fun (u : DomainTrie ρ) => TrieNode.removeImpl_eq_none u.root (domainKey d).2 (domainKey d).1
  rcases hr : t.root.removeImpl (domainKey d).2 (domainKey d).1 with _ | root <;>
    rcases hr' : t'.root.removeImpl (domainKey d).2 (domainKey d).1 with _ | root'
  · exact ⟨rfl, h⟩
  · rw [(hnone t').2 (by rw [← h.lookup_eq]; exact (hnone t).1 hr)] at hr'; cases hr'
  · rw [(hnone t).2 (by rw [h.lookup_eq]; exact (hnone t').1 hr')] at hr; cases hr
  · refine ⟨rfl, fun k P => ?_, by simp only [h.count_eq]⟩
    simp only [TrieNode.lookup_removeImpl hr, TrieNode.lookup_removeImpl hr', h.lookup_eq]

theorem step (h : Equiv t t') (op : TrieOp ρ) :
    (t.step op).1 = (t'.step op).1 ∧ Equiv (t.step op).2 (t'.step op).2 := by
  cases op with
  | insert d r => exact ⟨rfl, h.insert d r⟩
  | remove d =>
    obtain ⟨hb, h'⟩ := h.remove d
    exact ⟨by simp only [DomainTrie.step, hb], h'⟩
  | clear => exact ⟨rfl, refl _⟩
  | matchDomain d => exact ⟨by simp only [DomainTrie.step, h.matchDomain], h⟩

theorem run (h : Equiv t t') (ops : List (TrieOp ρ)) :
    (runOps DomainTrie.step t ops).1 = (runOps DomainTrie.step t' ops).1 ∧
      Equiv (runOps DomainTrie.step t ops).2 (runOps DomainTrie.step t' ops).2 := by
  induction ops generalizing t t' with
  | nil => exact ⟨rfl, h⟩
  | cons op ops ih =>
    obtain ⟨hout, h'⟩ := h.step op
    obtain ⟨hrun, hfin⟩ := ih h'
    exact ⟨by simp only [runOps, hout, hrun], hfin⟩

end Equiv

end DomainTrie

/-! ### Two laws of the trie -/

/-- A rule inserted under a key the trie does not bind, and removed by the same domain, leaves no
trace: `remove` reports `true`, and every run of calls afterwards answers as it would have from
the trie before the insert and ends with the same `size()`. -/
theorem insert_remove_unbound (t : DomainTrie ρ) {d : List UInt8} {r : Option ρ} (hd : d ≠ [])
    (hr : r.isSome) (hk : t.root.lookup (domainKey d).1 (domainKey d).2 = none)
    (ops : List (TrieOp ρ)) :
    ((t.insert d r).remove d).1 = true ∧
      (runOps DomainTrie.step ((t.insert d r).remove d).2 ops).1 = (runOps DomainTrie.step t ops).1 ∧
      (runOps DomainTrie.step ((t.insert d r).remove d).2 ops).2.size =
        (runOps DomainTrie.step t ops).2.size := by
  obtain ⟨x, rfl⟩ := Option.isSome_iff_exists.1 hr
  have hbound : (t.insert d (some x)).root.lookup (domainKey d).1 (domainKey d).2 = some x := by
    simp [DomainTrie.lookup_insert, hd]
  obtain ⟨root, hroot⟩ : ∃ root,
      (t.insert d (some x)).root.removeImpl (domainKey d).2 (domainKey d).1 = some root :=
    Option.ne_none_iff_exists'.1 fun hn => by simp [(TrieNode.removeImpl_eq_none ..).1 hn] at hbound
  have hrem : (t.insert d (some x)).remove d =
      (true, ⟨root, (t.insert d (some x)).ruleCount - 1⟩) := by
    rw [DomainTrie.remove_eq, if_neg hd, hroot]
  have heq : DomainTrie.Equiv ((t.insert d (some x)).remove d).2 t := by
    refine ⟨fun k P => ?_, ?_⟩
    · rw [hrem]
      simp only [TrieNode.lookup_removeImpl hroot, DomainTrie.lookup_insert, Prod.mk.eta]
      by_cases hkP : (k, P) = domainKey d
      · rw [if_pos hkP]; rw [← hkP] at hk; exact hk.symm
      · simp [hkP]
    · simp [hrem, DomainTrie.ruleCount_insert, hd]
  exact ⟨by rw [hrem], (heq.run ops).1, (heq.run ops).2.count_eq⟩

theorem insert_remove_unbound_wildcard :
    let t : DomainTrie Nat := DomainTrie.empty.insert [0x2A, 0x2E, 0x61] (some 1)
    let ops : List (TrieOp Nat) := [.matchDomain [0x61], .matchDomain [0x62, 0x2E, 0x61]]
    [0x61] ≠ [] ∧ (some 2).isSome ∧ t.root.lookup (domainKey [0x61]).1 (domainKey [0x61]).2 = none ∧
      ((t.insert [0x61] (some 2)).remove [0x61]).1 = true ∧
      (runOps DomainTrie.step ((t.insert [0x61] (some 2)).remove [0x61]).2 ops).1 =
        (runOps DomainTrie.step t ops).1 ∧
      (runOps DomainTrie.step ((t.insert [0x61] (some 2)).remove [0x61]).2 ops).2.size =
        (runOps DomainTrie.step t ops).2.size :=
  have hk : (DomainTrie.empty.insert [0x2A, 0x2E, 0x61] (some 1) : DomainTrie Nat).root.lookup
      (domainKey [0x61]).1 (domainKey [0x61]).2 = none := by decide
  ⟨by decide, rfl, hk, insert_remove_unbound _ (by decide)
    (show (some 2 : Option Nat).isSome from rfl) hk _⟩

/-- Inserts under different keys commute: whichever goes first, every run of calls afterwards
answers the same and ends with the same `size()`. -/
theorem insert_comm (t : DomainTrie ρ) {d d' : List UInt8} (r r' : Option ρ)
    (hk : domainKey d ≠ domainKey d') (ops : List (TrieOp ρ)) :
    (runOps DomainTrie.step ((t.insert d r).insert d' r') ops).1 =
      (runOps DomainTrie.step ((t.insert d' r').insert d r) ops).1 ∧
    (runOps DomainTrie.step ((t.insert d r).insert d' r') ops).2.size =
      (runOps DomainTrie.step ((t.insert d' r').insert d r) ops).2.size := by
  have heq : DomainTrie.Equiv ((t.insert d r).insert d' r') ((t.insert d' r').insert d r) := by
    refine ⟨fun k P => ?_, ?_⟩
    · simp only [DomainTrie.lookup_insert]
      split_ifs with h₁ h₂ h₃ <;> first | rfl | exact absurd (h₂.2.2.symm.trans h₁.2.2) hk
    · simp only [DomainTrie.ruleCount_insert]
      split_ifs <;> simp only [add_right_comm]
  exact ⟨(heq.run ops).1, (heq.run ops).2.count_eq⟩

theorem insert_comm_wildcard :
    let ops : List (TrieOp Nat) := [.matchDomain [0x62, 0x2E, 0x61], .matchDomain [0x63, 0x2E, 0x61]]
    domainKey [0x2A, 0x2E, 0x61] ≠ domainKey [0x62, 0x2E, 0x61] ∧
      (runOps DomainTrie.step ((DomainTrie.empty.insert [0x2A, 0x2E, 0x61] (some 1)).insert
        [0x62, 0x2E, 0x61] (some 2)) ops).1 =
      (runOps DomainTrie.step ((DomainTrie.empty.insert [0x62, 0x2E, 0x61] (some 2)).insert
        [0x2A, 0x2E, 0x61] (some 1)) ops).1 ∧
      (runOps DomainTrie.step ((DomainTrie.empty.insert [0x2A, 0x2E, 0x61] (some 1)).insert
        [0x62, 0x2E, 0x61] (some 2)) ops).2.size =
      (runOps DomainTrie.step ((DomainTrie.empty.insert [0x62, 0x2E, 0x61] (some 2)).insert
        [0x2A, 0x2E, 0x61] (some 1)) ops).2.size :=
  have hk : domainKey [0x2A, 0x2E, 0x61] ≠ domainKey [0x62, 0x2E, 0x61] := by decide
  ⟨hk, insert_comm _ _ _ hk _⟩

end XdpDns
