import XdpDns.CgoBridge
import XdpDns.FilterEngine
import XdpDns.Wire.Compare

/-!
# From the question to the rule

The path of a query: `xdp_dns_parse` decodes the question's name into `domain`, and
`FilterEngine::check` looks the first `domain_len` bytes up in the trie, which splits them at
every `.` (`splitAndReverse`). The decoder joins the wire labels with `.` and does not look inside
them, so the trie's key is the question's wire labels, lowercased and last first, exactly when no
label holds a `.` byte (`domainLabels_decodedName`). A label that does is read as two or more.

The root name (no labels) decodes to the empty domain, which `check` answers with `Allow` whatever
rules were added, also a rule added for `.`, which binds the root's exact slot.

The parser has its own suffix test, `domainEndsWith`. On names that fit its buffer and hold no `.`
inside a label, it agrees with the trie's wildcard keys: the suffix ends the name on a label
boundary exactly when a trie holding only the wildcard rule of the suffix matches the name
(`domainEndsWith_iff_wildcard`). Both come down to one fact about names joined by `.`: one ends
with another on a boundary exactly when its labels end with the other's
(`intercalate_endsOnBoundary_iff`).
-/

namespace XdpDns

theorem List.splitOnP_not_mem {α : Type} {p : α → Bool} :
    ∀ {xs : List α} {q : List α}, q ∈ xs.splitOnP p → ∀ y ∈ q, p y = false
  | [], q, hq, y, hy => by
    rw [List.splitOnP_nil, List.mem_singleton] at hq
    subst hq; cases hy
  | x :: xs, q, hq, y, hy => by
    rw [List.splitOnP_cons] at hq
    split_ifs at hq with hx
    · rcases List.mem_cons.1 hq with rfl | hq
      · cases hy
      · exact List.splitOnP_not_mem hq y hy
    · obtain ⟨q₀, qs, hsplit⟩ := List.exists_cons_of_ne_nil (List.splitOnP_ne_nil p xs)
      rw [hsplit, List.modifyHead] at hq
      rcases List.mem_cons.1 hq with rfl | hq
      · rcases List.mem_cons.1 hy with rfl | hy
        · simpa using hx
        · exact List.splitOnP_not_mem (hsplit ▸ List.mem_cons_self _ _) y hy
      · exact List.splitOnP_not_mem (hsplit ▸ List.mem_cons_of_mem _ hq) y hy

/-! ### Names joined by `.` -/

section Joined

variable {α : Type} (x : α)

theorem intercalate_cons_cons (a b : List α) (l : List (List α)) :
    List.intercalate [x] (a :: b :: l) = a ++ x :: List.intercalate [x] (b :: l) := by
  simp [List.intercalate, List.intersperse_cons_cons]

theorem map_intercalate {f : α → α} (hx : f x = x) (l : List (List α)) :
    (List.intercalate [x] l).map f = List.intercalate [x] (l.map (List.map f)) := by
  induction l with
  | nil => rfl
  | cons a l ih => cases l with
    | nil => simp [List.intercalate]
    | cons b l => simp_all [List.intercalate, List.intersperse_cons_cons]

theorem intercalate_append {P T : List (List α)} (hP : P ≠ []) (hT : T ≠ []) :
    List.intercalate [x] (P ++ T) = List.intercalate [x] P ++ x :: List.intercalate [x] T := by
  induction P with
  | nil => exact absurd rfl hP
  | cons a P ih =>
    obtain ⟨b, T, rfl⟩ := List.exists_cons_of_ne_nil hT
    cases P with
    | nil => simp [intercalate_cons_cons, List.intercalate]
    | cons c P =>
      have ih := ih (List.cons_ne_nil c P)
      rw [List.cons_append] at ih
      simp [intercalate_cons_cons, ih]

theorem splitOn_append_cons [DecidableEq α] (a b : List α) : (a ++ x :: b).splitOn x = a.splitOn x ++ b.splitOn x := by
  induction a with
  | nil => simp [List.splitOn, List.splitOnP_cons]
  | cons y a ih =>
    simp only [List.splitOn, List.cons_append, List.splitOnP_cons] at ih ⊢
    split_ifs
    · rw [ih]; rfl
    · obtain ⟨q, qs, hq⟩ := List.exists_cons_of_ne_nil (List.splitOnP_ne_nil (· == x) a)
      rw [ih, hq]; rfl

end Joined

/-- Labels as the trie stores them: none empty, none holding a `.`. -/
def DotFree (X : List (List UInt8)) : Prop := ∀ P ∈ X, P ≠ [] ∧ 0x2E ∉ P

theorem DotFree.map_tolower {X : List (List UInt8)} (h : DotFree X) : DotFree (X.map (List.map tolower)) := by
  simp only [DotFree, List.mem_map, forall_exists_index, and_imp, forall_apply_eq_imp_iff₂]
  intro P hP
  simpa [tolower_eq_dot] using h P hP

theorem DotFree.intercalate_ne_nil {X : List (List UInt8)} (h : DotFree X) (hX : X ≠ []) :
    List.intercalate [0x2E] X ≠ [] := by
  obtain ⟨P, X, rfl⟩ := List.exists_cons_of_ne_nil hX
  cases X with
  | nil => simpa [List.intercalate] using (h P (List.mem_cons_self _ _)).1
  | cons Q X => simp [intercalate_cons_cons]

theorem not_mem_of_mem_domainLabels {s P : List UInt8} (hP : P ∈ domainLabels s) : 0x2E ∉ P := by
  intro hd
  rw [domainLabels, List.mem_reverse, List.mem_filter] at hP
  simpa using List.splitOnP_not_mem hP.1 _ hd

theorem domainLabels_intercalate {X : List (List UInt8)} (h : DotFree X) :
    domainLabels (List.intercalate [0x2E] X) = (X.map (List.map tolower)).reverse := by
  by_cases hX : X = []
  · subst hX; rfl
  have hl := h.map_tolower
  rw [domainLabels, map_intercalate _ rfl, List.splitOn_intercalate _ _ (fun P hP => (hl P hP).2)
    (by simpa using hX), List.filter_eq_self.2 fun P hP => by simpa using (hl P hP).1]

theorem intercalate_endsOnBoundary_iff {L T : List (List UInt8)} (hL : DotFree L) (hT : DotFree T)
    (hT0 : T ≠ []) :
    (List.intercalate [0x2E] L = List.intercalate [0x2E] T ∨
      ∃ pre, List.intercalate [0x2E] L = pre ++ 0x2E :: List.intercalate [0x2E] T) ↔ T <:+ L := by
  have hsplit : ∀ {X}, DotFree X → X ≠ [] → (List.intercalate [0x2E] X).splitOn 0x2E = X :=
    fun h hX => List.splitOn_intercalate _ _ (fun P hP => (h P hP).2) hX
  have hL0 : ∀ {n}, List.intercalate [0x2E] L = n → n ≠ [] → L ≠ [] := by
    rintro n hn hne rfl; exact hne hn.symm
  constructor
  · rintro (h | ⟨pre, h⟩)
    · rw [← hsplit hT hT0, ← h, hsplit hL (hL0 h (hT.intercalate_ne_nil hT0))]
    · refine ⟨pre.splitOn 0x2E, ?_⟩
      rw [← hsplit hT hT0, ← splitOn_append_cons, ← h, hsplit hL (hL0 h (by simp))]
  · rintro ⟨P, rfl⟩
    by_cases hP : P = []
    · subst hP; exact .inl rfl
    · exact .inr ⟨_, intercalate_append _ hP hT0⟩

section Labels

variable (packet : Nat → UInt8) (labels : List (Nat × Nat))

/-- The wire labels lowercased, last first: the key the question's name has in the rule table. -/
def wireKey : List (List UInt8) := (labels.map fun l => (labelBytes packet l).map tolower).reverse

theorem dotFree_wireLabels (hpos : ∀ l ∈ labels, 0 < l.2) (h : ∀ l ∈ labels, 0x2E ∉ labelBytes packet l) :
    DotFree (labels.map fun l => (labelBytes packet l).map tolower) := by
  simp only [DotFree, List.mem_map, forall_exists_index, and_imp, forall_apply_eq_imp_iff₂]
  intro l hl
  refine ⟨?_, by simpa [tolower_eq_dot] using h l hl⟩
  simpa [← List.length_pos, length_labelBytes] using hpos l hl

theorem domainLabels_decodedName (hpos : ∀ l ∈ labels, 0 < l.2) :
    domainLabels (decodedName packet labels) = wireKey packet labels ↔
      ∀ l ∈ labels, 0x2E ∉ labelBytes packet l := by
  constructor
  · intro h l hl hd
    have hm : (labelBytes packet l).map tolower ∈ domainLabels (decodedName packet labels) := by
      rw [h, wireKey, List.mem_reverse]; exact List.mem_map_of_mem _ hl
    exact not_mem_of_mem_domainLabels hm (by simpa [tolower_eq_dot] using hd)
  · intro h
    rw [decodedName, domainLabels_intercalate (dotFree_wireLabels packet labels hpos h), wireKey,
      List.map_map]
    congr 2
    funext l
    simp [Function.comp_def, tolower_tolower]

end Labels

/-! ### The suffix test and the wildcard keys -/

/-- The parser's suffix test and the trie's wildcard match agree. For every packet `parse` accepts
whose name fits `domainEndsWith`'s buffer and holds no `.` inside a label, and every suffix made of
labels joined by `.` (none empty), `domainEndsWith` holds exactly when a trie holding only the
wildcard rule for `*.` and the suffix matches the decoded name. -/
theorem domainEndsWith_iff_wildcard (data : Nat → UInt8) (len : Nat) (r : DNSParseResult)
    (hs : (parse data len r).1 = .Success) {S : List (List UInt8)} (hS : DotFree S) (hS0 : S ≠ [])
    (domain_buf : Nat → UInt8) {ρ : Type} (rule : ρ) :
    ∃ labels nameEnd, NameWalk data 0 len dnsHeaderSize 0 none labels nameEnd ∧
      ((decodedName data labels).length ≤ maxDomainLength + 1 →
        (∀ l ∈ labels, 0x2E ∉ labelBytes data l) →
        (domainEndsWith data len (parse data len r).2.question (bytesOf (List.intercalate [0x2E] S))
            (List.intercalate [0x2E] S).length domain_buf = true ↔
          (DomainTrie.empty.insert (0x2A :: 0x2E :: List.intercalate [0x2E] S) (some rule)).matchDomain
            (decodedName data labels) = some rule)) := by
  obtain ⟨labels, nameEnd, -, hw, -, -, -, hfit, -⟩ :=
    decodeName_follows_parse data len r hs domain_buf (maxDomainLength + 1) 0
  refine ⟨labels, nameEnd, hw, fun hlen hdot => ?_⟩
  have hs0 : List.intercalate [0x2E] S ≠ [] := hS.intercalate_ne_nil hS0
  have hL := dotFree_wireLabels data labels hw.labels_pos hdot
  -- the decoder's output is the decoded name, lowercase
  obtain ⟨hsucc, hdl, hget⟩ := hfit hlen
  rcases hr : decodeName data len (parse data len r).2.question.nameOffset domain_buf
    (maxDomainLength + 1) 0 with ⟨err, db, dl⟩
  rw [hr] at hsucc hdl hget
  dsimp only at hsucc hdl hget
  subst hsucc hdl
  have hn : (List.range (decodedName data labels).length).map db = decodedName data labels :=
    List.ext_getElem (by simp) fun i h₁ _ => by simpa using hget i (by simpa using h₁)
  have hlow : ∀ i < (decodedName data labels).length, tolower (db i) = db i := fun i hi => by
    rw [hget i hi]
    exact tolower_decodedTail data true labels _ (by rw [decodedTail_true]; exact List.getElem_mem hi)
  have ht : (List.range (List.intercalate [0x2E] S).length).map
      (fun i => tolower (bytesOf (List.intercalate [0x2E] S) i)) =
      List.intercalate [0x2E] (S.map (List.map tolower)) := by
    rw [← map_intercalate _ (rfl : tolower 0x2E = 0x2E)]
    refine List.ext_getElem (by simp) fun i h₁ _ => ?_
    simp [bytesOf, List.getElem?_eq_getElem (show i < (List.intercalate [0x2E] S).length by simpa using h₁)]
  -- both sides are the suffix relation on labels
  rw [domainEndsWith_of_decode hr hlow, hn, ht, decodedName,
    intercalate_endsOnBoundary_iff hL hS.map_tolower (by simpa using hS0),
    DomainTrie.matchDomain_insert_wildcard (List.cons_ne_nil _ _)
      (show domainKey (0x2A :: 0x2E :: List.intercalate [0x2E] S) =
        (true, domainLabels (List.intercalate [0x2E] S)) by simp [domainKey, List.length_pos.2 hs0])]
  by_cases hl0 : labels = []
  · subst hl0
    simpa [List.intercalate] using hS0
  rw [← decodedName, (domainLabels_decodedName data labels hw.labels_pos).2 hdot,
    domainLabels_intercalate hS, wireKey, List.reverse_prefix]
  exact (and_iff_right (hL.intercalate_ne_nil (by simpa using hl0))).symm

theorem domainEndsWith_iff_wildcard_s1 :
    (parse (bytesOf queryS1) 33 default).1 = .Success ∧ DotFree [[0x63, 0x6F, 0x6D]] ∧
    [[0x63, 0x6F, 0x6D]] ≠ [] ∧
    ∃ labels nameEnd, NameWalk (bytesOf queryS1) 0 33 dnsHeaderSize 0 none labels nameEnd ∧
      ((decodedName (bytesOf queryS1) labels).length ≤ maxDomainLength + 1 →
        (∀ l ∈ labels, 0x2E ∉ labelBytes (bytesOf queryS1) l) →
        (domainEndsWith (bytesOf queryS1) 33 (parse (bytesOf queryS1) 33 default).2.question
            (bytesOf (List.intercalate [0x2E] [[0x63, 0x6F, 0x6D]]))
            (List.intercalate [0x2E] [[0x63, 0x6F, 0x6D]]).length (fun _ => 0) = true ↔
          (DomainTrie.empty.insert (0x2A :: 0x2E :: List.intercalate [0x2E] [[0x63, 0x6F, 0x6D]])
            (some (1 : Nat))).matchDomain (decodedName (bytesOf queryS1) labels) = some 1)) :=
  have hs : (parse (bytesOf queryS1) 33 default).1 = .Success := by rw [parse_queryS1]
  have hS : DotFree [[0x63, 0x6F, 0x6D]] := by unfold DotFree; decide
  ⟨hs, hS, List.cons_ne_nil _ _, domainEndsWith_iff_wildcard _ _ _ hs hS (List.cons_ne_nil _ _) _ _⟩

/-! ### What the façade hands on -/

/-- The domain the caller of `xdp_dns_parse` reads: the first `domain_len` bytes of `domain`. -/
def XDPDNSParseResult.domainName (res : XDPDNSParseResult) : List UInt8 :=
  (List.range res.domainLen).map res.domain

theorem xdpDnsParse_ok_domain {data : Nat → UInt8} {len : Nat} {out : XDPDNSParseResult}
    {g : Globals} (hok : (xdpDnsParse data len out g).1 = xdpDnsOk) :
    ∃ labels nameEnd, NameWalk data 0 len dnsHeaderSize 0 none labels nameEnd ∧
      (xdpDnsParse data len out g).2.1.domainName = decodedName data labels := by
  have h12 : ¬ len < 12 := fun h => by
    rw [xdpDnsParse_of_lt h] at hok; exact absurd hok (show xdpDnsErrInvalidParam ≠ xdpDnsOk by decide)
  have hs : (parse data len default).1 = .Success := by
    by_contra h
    rw [xdpDnsParse_of_error h12 h] at hok
    exact h (Error.toInt_injective.1 (show _ = Error.Success.toInt from hok))
  have hq : DNSHeader.isQuery data 0 = true := by
    by_contra h
    rw [xdpDnsParse_of_response h12 hs (by simpa using h)] at hok
    exact absurd hok (show xdpDnsErrNotDnsQuery ≠ xdpDnsOk by decide)
  obtain ⟨hst, hres⟩ := @xdpDnsParse_of_query data len out g h12 hs hq
  obtain ⟨labels, nameEnd, hw, -, -, -⟩ := parse_success_result hs
  obtain ⟨-, -, -, hfit, hover⟩ := decodesWalk_of_walk hw out.domain 256 0
  have hlen : (decodedName data labels).length ≤ 256 := by
    by_contra h
    rw [hst, hover (by omega)] at hok
    exact absurd hok (show Error.BufferTooSmall.toInt ≠ xdpDnsOk by decide)
  obtain ⟨hsucc, hdl, hget⟩ := hfit hlen
  refine ⟨labels, nameEnd, hw, ?_⟩
  rw [hres, XDPDNSParseResult.domainName]
  dsimp only
  rw [if_pos hsucc, hdl]
  refine List.ext_getElem (by simp) fun i h₁ _ => ?_
  simp only [List.getElem_map, List.getElem_range]
  exact hget i (by simpa using h₁)

/-- On every packet `xdp_dns_parse` answers with `XDP_DNS_OK`, the domain it hands on is the
question's name decoded, and `FilterEngine::check` of it, on every engine, answers from the rule
table under the question's wire labels (lowercased, last first) when no label holds a `.`: the exact
rule of those labels, else the wildcard rule of their longest bound prefix. The trie reads the
domain under those labels only then. The root name is answered `Allow` whatever the rules. -/
theorem check_parsed_domain (data : Nat → UInt8) (len : Nat) (out : XDPDNSParseResult)
    (g : Globals) (hok : (xdpDnsParse data len out g).1 = xdpDnsOk) (e : FilterEngine)
    (qtype : UInt16) :
    ∃ labels nameEnd, NameWalk data 0 len dnsHeaderSize 0 none labels nameEnd ∧
      (xdpDnsParse data len out g).2.1.domainName = decodedName data labels ∧
      (domainLabels (xdpDnsParse data len out g).2.1.domainName = wireKey data labels ↔
        ∀ l ∈ labels, 0x2E ∉ labelBytes data l) ∧
      ((∀ l ∈ labels, 0x2E ∉ labelBytes data l) → labels ≠ [] →
        (e.check (xdpDnsParse data len out g).2.1.domainName qtype).1 = FilterResult.ofRule
          ((e.trie.root.lookup false (wireKey data labels)).or
            (longestBound (e.trie.root.lookup true) (wireKey data labels)))) ∧
      (labels = [] → (e.check (xdpDnsParse data len out g).2.1.domainName qtype).1 = ⟨.Allow, none⟩) := by
  obtain ⟨labels, nameEnd, hw, hd⟩ := xdpDnsParse_ok_domain hok
  rw [hd]
  have hkey := domainLabels_decodedName data labels hw.labels_pos
  refine ⟨labels, nameEnd, hw, rfl, hkey, fun hdot hne => ?_, fun hnil => ?_⟩
  · have hL := hkey.2 hdot
    have hdom : decodedName data labels ≠ [] := fun h0 => hne (by
      rw [h0] at hL; simpa [wireKey, show domainLabels ([] : List UInt8) = [] from rfl] using hL.symm)
    rw [FilterEngine.check_result, DomainTrie.matchDomain_eq, if_neg hdom,
      TrieNode.matchImpl_eq, Option.or_none, hL]
  · subst hnil
    have h0 : decodedName data [] = [] := rfl
    rw [FilterEngine.check_result, DomainTrie.matchDomain_eq, if_pos h0]
    rfl

theorem check_parsed_domain_s1 :
    let out : XDPDNSParseResult := ⟨0, 0, 0, 0, 0, 0, fun _ => 0, 0⟩
    let g : Globals := ⟨true, 0, 0, 0, 0, 0⟩
    let e := FilterEngine.init.addRule ⟨1, .Block, 0, 0, []⟩
      [0x2A, 0x2E, 0x65, 0x78, 0x61, 0x6d, 0x70, 0x6c, 0x65, 0x2E, 0x63, 0x6f, 0x6d]
    (xdpDnsParse (bytesOf queryS1) 33 out g).1 = xdpDnsOk ∧
    ∃ labels nameEnd, NameWalk (bytesOf queryS1) 0 33 dnsHeaderSize 0 none labels nameEnd ∧
      (xdpDnsParse (bytesOf queryS1) 33 out g).2.1.domainName = decodedName (bytesOf queryS1) labels ∧
      (domainLabels (xdpDnsParse (bytesOf queryS1) 33 out g).2.1.domainName =
          wireKey (bytesOf queryS1) labels ↔ ∀ l ∈ labels, 0x2E ∉ labelBytes (bytesOf queryS1) l) ∧
      ((∀ l ∈ labels, 0x2E ∉ labelBytes (bytesOf queryS1) l) → labels ≠ [] →
        (e.check (xdpDnsParse (bytesOf queryS1) 33 out g).2.1.domainName 1).1 = FilterResult.ofRule
          ((e.trie.root.lookup false (wireKey (bytesOf queryS1) labels)).or
            (longestBound (e.trie.root.lookup true) (wireKey (bytesOf queryS1) labels)))) ∧
      (labels = [] →
        (e.check (xdpDnsParse (bytesOf queryS1) 33 out g).2.1.domainName 1).1 = ⟨.Allow, none⟩) :=
  have hok : (xdpDnsParse (bytesOf queryS1) 33 ⟨0, 0, 0, 0, 0, 0, fun _ => 0, 0⟩
      ⟨true, 0, 0, 0, 0, 0⟩).1 = xdpDnsOk := by
    have hs : (parse (bytesOf queryS1) 33 default).1 = .Success := by rw [parse_queryS1]
    rw [(xdpDnsParse_of_query (by decide) hs (by decide)).1,
      ((decodesWalk_of_walk (walk_queryS1.mono (Nat.zero_le _) le_rfl) _ 256 0).2.2.2.1
        (by decide)).1]
    rfl
  ⟨hok, check_parsed_domain _ _ _ _ hok _ _⟩

end XdpDns
