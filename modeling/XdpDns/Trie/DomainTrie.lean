import XdpDns.Basic
import Mathlib.Data.List.Basic

/-!
# The domain trie (`DomainTrie`)

A domain is split into its labels, the labels reversed (`www.example.com` becomes
`com`, `example`, `www`), and the rule is stored at the node of that path, in the exact slot or, for
a `*.` domain, in the wildcard slot. `match` walks the path of the queried domain, remembering the
deepest wildcard rule passed, and at the end prefers the exact rule, then the node's own wildcard
rule, then the remembered one.

A node's children are the association list of `std::unordered_map` (one entry per label; the order is
not observable). Rules are the pointers the caller passes, of an arbitrary type `ρ`, with `none` for
`nullptr`; the lock is left out, each operation being atomic under it. `rules_storage_` is written by
`clear` only and left out.
-/

namespace XdpDns

/-- `TrieNode`: the children, `exact_rule` and `wildcard_rule`. -/
inductive TrieNode (ρ : Type) where
  | mk (children : List (List UInt8 × TrieNode ρ)) (exactRule wildcardRule : Option ρ)

namespace TrieNode

variable {ρ : Type}

def children : TrieNode ρ → List (List UInt8 × TrieNode ρ)
  | mk children _ _ => children

def exactRule : TrieNode ρ → Option ρ
  | mk _ exactRule _ => exactRule

def wildcardRule : TrieNode ρ → Option ρ
  | mk _ _ wildcardRule => wildcardRule

@[simp] theorem children_mk (cs : List (List UInt8 × TrieNode ρ)) (e w : Option ρ) :
    (mk cs e w).children = cs := rfl
@[simp] theorem exactRule_mk (cs : List (List UInt8 × TrieNode ρ)) (e w : Option ρ) :
    (mk cs e w).exactRule = e := rfl
@[simp] theorem wildcardRule_mk (cs : List (List UInt8 × TrieNode ρ)) (e w : Option ρ) :
    (mk cs e w).wildcardRule = w := rfl

/-- `TrieNode()`: no children and no rules. -/
def empty : TrieNode ρ := mk [] none none

/-- `children.find(label)`. -/
def findChild : List (List UInt8 × TrieNode ρ) → List UInt8 → Option (TrieNode ρ)
  | [], _ => none
  | (l, n) :: cs, label => if l = label then some n else findChild cs label

/-- Storing `node` under `label`: the entry is replaced, or added when there is none. -/
def setChild : List (List UInt8 × TrieNode ρ) → List UInt8 → TrieNode ρ →
    List (List UInt8 × TrieNode ρ)
  | [], label, node => [(label, node)]
  | (l, n) :: cs, label, node =>
    if l = label then (l, node) :: cs else (l, n) :: setChild cs label node

/-- The rule slot `is_wildcard` selects. -/
def slot (node : TrieNode ρ) (is_wildcard : Bool) : Option ρ :=
  if is_wildcard then node.wildcardRule else node.exactRule

/-- The node with the slot `is_wildcard` selects set to `rule`. -/
def setSlot (node : TrieNode ρ) (is_wildcard : Bool) (rule : Option ρ) : TrieNode ρ :=
  if is_wildcard then mk node.children node.exactRule rule else mk node.children rule node.wildcardRule

/-- `insertImpl`: `node->children[label]` creates the missing nodes of the path. -/
def insertImpl (node : TrieNode ρ) : List (List UInt8) → Bool → Option ρ → TrieNode ρ
  | [], is_wildcard, rule => node.setSlot is_wildcard rule
  | label :: labels, is_wildcard, rule =>
    mk (setChild node.children label
        (insertImpl ((findChild node.children label).getD empty) labels is_wildcard rule))
      node.exactRule node.wildcardRule

/-- The walk of `remove`: `none` where it returns `false` and leaves the trie as it was, else the
trie with the slot cleared. -/
def removeImpl (node : TrieNode ρ) : List (List UInt8) → Bool → Option (TrieNode ρ)
  | [], is_wildcard => if (node.slot is_wildcard).isSome then some (node.setSlot is_wildcard none)
      else none
  | label :: labels, is_wildcard =>
    match findChild node.children label with
    | none => none
    | some child => (removeImpl child labels is_wildcard).map fun child =>
        mk (setChild node.children label child) node.exactRule node.wildcardRule

/-- `matchImpl`, with the loop's `matched_wildcard` as an argument. -/
def matchImpl (node : TrieNode ρ) (labels : List (List UInt8)) (matched_wildcard : Option ρ) :
    Option ρ :=
  match labels with
  | [] => node.exactRule.or (node.wildcardRule.or matched_wildcard)
  | label :: labels =>
    let matched_wildcard := node.wildcardRule.or matched_wildcard
    match findChild node.children label with
    | none => matched_wildcard
    | some child => matchImpl child labels matched_wildcard

mutual
/-- The rule slots of the trie that hold a rule. -/
def slotCount : TrieNode ρ → Nat
  | mk children exactRule wildcardRule =>
    (if exactRule.isSome then 1 else 0) + (if wildcardRule.isSome then 1 else 0) +
      slotCountList children

def slotCountList : List (List UInt8 × TrieNode ρ) → Nat
  | [] => 0
  | (_, n) :: cs => slotCount n + slotCountList cs
end

end TrieNode

/-! ### Labels -/

/-- The loop of `splitAndReverse`: `current` is the label being read, `labels` those pushed. -/
def splitAndReverse.loop : List UInt8 → List UInt8 → List (List UInt8) → List (List UInt8)
  | [], current, labels => (if current = [] then labels else labels ++ [current]).reverse
  | c :: cs, current, labels =>
    if c = 0x2E then
      splitAndReverse.loop cs [] (if current = [] then labels else labels ++ [current])
    else splitAndReverse.loop cs (current ++ [c]) labels

/-- `splitAndReverse`: the non-empty `.`-separated labels, last first. -/
def splitAndReverse (domain : List UInt8) : List (List UInt8) := splitAndReverse.loop domain [] []

/-- The wildcard test of `insert` and `remove`: `*.` and at least one more byte. The rest of the
domain is returned without the `*.`. -/
def wildcardSplit (domain : List UInt8) : Bool × List UInt8 :=
  if 2 < domain.length ∧ domain.take 2 = [0x2A, 0x2E] then (true, domain.drop 2) else (false, domain)

/-! ### The trie -/

/-- `DomainTrie`: the root and `rule_count_`, a `size_t`. -/
structure DomainTrie (ρ : Type) where
  root : TrieNode ρ
  ruleCount : UInt64

namespace DomainTrie

variable {ρ : Type}

/-- `DomainTrie()`. -/
def empty : DomainTrie ρ := ⟨.empty, 0⟩

/-- `insert(domain, domain_len, rule)`. -/
def insert (t : DomainTrie ρ) (domain : List UInt8) (rule : Option ρ) : DomainTrie ρ :=
  if domain = [] ∨ rule.isNone then t else
  let (is_wildcard, dom) := wildcardSplit domain
  let labels := splitAndReverse (dom.map tolower)
  ⟨t.root.insertImpl labels is_wildcard rule, t.ruleCount + 1⟩

/-- `match(domain, domain_len)`. -/
def matchDomain (t : DomainTrie ρ) (domain : List UInt8) : Option ρ :=
  if domain = [] then none else t.root.matchImpl (splitAndReverse (domain.map tolower)) none

/-- `remove(domain, domain_len)`: the result and the trie after the call. -/
def remove (t : DomainTrie ρ) (domain : List UInt8) : Bool × DomainTrie ρ :=
  if domain = [] then (false, t) else
  let (is_wildcard, dom) := wildcardSplit domain
  let labels := splitAndReverse (dom.map tolower)
  match t.root.removeImpl labels is_wildcard with
  | none => (false, t)
  | some root => (true, ⟨root, t.ruleCount - 1⟩)

/-- `clear()`. -/
def clear (_t : DomainTrie ρ) : DomainTrie ρ := ⟨.empty, 0⟩

/-- `size()`. -/
def size (t : DomainTrie ρ) : UInt64 := t.ruleCount

end DomainTrie

/-! ### Sequences of calls -/

/-- A call on the trie. -/
inductive TrieOp (ρ : Type) where
  | insert (domain : List UInt8) (rule : Option ρ)
  | remove (domain : List UInt8)
  | clear
  | matchDomain (domain : List UInt8)

/-- What a call returns: nothing, the result of `remove`, or the rule `match` found. -/
inductive TrieOut (ρ : Type) where
  | done
  | removed (found : Bool)
  | matched (rule : Option ρ)
  deriving DecidableEq

/-- A run of calls from state `s` under `step`: the answers, and the state after the last call. -/
def runOps {σ α β : Type} (step : σ → α → β × σ) : σ → List α → List β × σ
  | s, [] => ([], s)
  | s, op :: ops =>
    let r := runOps step (step s op).2 ops
    ((step s op).1 :: r.1, r.2)

theorem runOps_append {σ α β : Type} (step : σ → α → β × σ) (s : σ) (ops ops' : List α) :
    runOps step s (ops ++ ops') =
      ((runOps step s ops).1 ++ (runOps step (runOps step s ops).2 ops').1,
        (runOps step (runOps step s ops).2 ops').2) := by
  induction ops generalizing s with
  | nil => rfl
  | cons op ops ih => simp only [List.cons_append, runOps, List.append_eq, ih]

namespace DomainTrie

variable {ρ : Type}

/-- One call on the trie. -/
def step (t : DomainTrie ρ) : TrieOp ρ → TrieOut ρ × DomainTrie ρ
  | .insert domain rule => (.done, t.insert domain rule)
  | .remove domain => (.removed (t.remove domain).1, (t.remove domain).2)
  | .clear => (.done, t.clear)
  | .matchDomain domain => (.matched (t.matchDomain domain), t)

end DomainTrie

end XdpDns
