import XdpDns.Wire.DecodeName

/-!
# Comparing a wire name with a string (`domainEquals`, `domainEndsWith`)

`domainEquals` walks the wire name and the candidate string in lock-step: each literal label is
compared byte by byte, case-insensitively, and after each label the string must hold a `.`
whenever the byte following the label in the packet is not zero. That byte is the next label's
length byte or a compression pointer; a pointer is not followed before the test, so a last
label reached through a pointer to the root name asks for a trailing `.` that `decodeName`
does not write (`domainEquals_walk`).

`domainEndsWith` decodes the name into a local buffer of `MAX_DOMAIN_LENGTH + 1` bytes and tests
the suffix on a label boundary: on an accepted packet it holds exactly when the lowercased suffix
is the decoded name or follows a `.` of it (`domainEndsWith_spec`).
-/

namespace XdpDns

/-- The comparison loop `for (uint8_t i = 0; i < label_len; i++)` of `domainEquals`:
`some domain_pos` after a label that matched, `none` where the loop returns `false`. -/
def domainEquals.compareLabel (packet : Nat → UInt8) (offset : Nat) (domain : Nat → UInt8)
    (domain_len domain_pos : Nat) : Nat → Option Nat
  | 0 => some domain_pos
  | n + 1 =>
    if domain_len ≤ domain_pos then none
    else if tolower (packet offset) ≠ tolower (domain domain_pos) then none
    else domainEquals.compareLabel packet (offset + 1) domain domain_len (domain_pos + 1) n

/-- One iteration of `domainEquals`'s loop and the rest of the loop. -/
def domainEquals.loop (packet : Nat → UInt8) (packet_len : Nat) (domain : Nat → UInt8)
    (domain_len offset domain_pos jump_count : Nat) : Bool :=
  if jump_count < maxLabels then
    if packet_len ≤ offset then false
    else
      let label_len := (packet offset).toNat
      if label_len = 0 then domain_pos = domain_len
      else if label_len &&& 0xC0 = 0xC0 then
        if packet_len ≤ offset + 1 then false
        else domainEquals.loop packet packet_len domain domain_len
          (pointerTarget label_len (packet (offset + 1)).toNat) domain_pos (jump_count + 1)
      else
        match domainEquals.compareLabel packet (offset + 1) domain domain_len domain_pos label_len with
        | none => false
        | some domain_pos =>
          if (packet (offset + 1 + label_len)).toNat ≠ 0 then
            if domain_len ≤ domain_pos ∨ domain domain_pos ≠ 0x2E then false
            else domainEquals.loop packet packet_len domain domain_len (offset + 1 + label_len)
              (domain_pos + 1) jump_count
          else domainEquals.loop packet packet_len domain domain_len (offset + 1 + label_len)
            domain_pos jump_count
  else false
termination_by (maxLabels - jump_count, packet_len - offset)

/-- `DNSParser::domainEquals`. -/
def domainEquals (packet : Nat → UInt8) (packet_len : Nat) (q : DNSQuestion)
    (domain : Nat → UInt8) (domain_len : Nat) : Bool :=
  domainEquals.loop packet packet_len domain domain_len q.nameOffset 0 0

/-- `DNSParser::domainEndsWith`, with `domain_buf` the prior contents of its local buffer. -/
def domainEndsWith (packet : Nat → UInt8) (packet_len : Nat) (q : DNSQuestion)
    (suffix : Nat → UInt8) (suffix_len : Nat) (domain_buf : Nat → UInt8) : Bool :=
  match decodeName packet packet_len q.nameOffset domain_buf (maxDomainLength + 1) 0 with
  | (.Success, domain_buf, domain_len) =>
    if domain_len < suffix_len then false
    else
      let start := domain_len - suffix_len
      if (List.range suffix_len).all fun i => tolower (domain_buf (start + i)) = tolower (suffix i) then
        !(0 < start ∧ domain_buf (start - 1) ≠ 0x2E)
      else false
  | _ => false

/-! ### One lemma per branch of the loop -/

section Loop

variable {packet : Nat → UInt8} {len : Nat} {domain : Nat → UInt8} {dl offset pos k : Nat}

theorem domainEquals.loop_stop (hk : k < maxLabels) (ho : offset < len)
    (hz : (packet offset).toNat = 0) :
    domainEquals.loop packet len domain dl offset pos k = decide (pos = dl) := by
  rw [domainEquals.loop]; simp [hk, hz, Nat.not_le.2 ho]

theorem domainEquals.loop_pointer (hk : k < maxLabels) (hp : 0xC0 ≤ (packet offset).toNat)
    (hn : offset + 1 < len) :
    domainEquals.loop packet len domain dl offset pos k =
      domainEquals.loop packet len domain dl
        (pointerTarget (packet offset).toNat (packet (offset + 1)).toNat) pos (k + 1) := by
  have hc := (isPointer_iff (byte_lt (packet offset))).2 hp
  rw [domainEquals.loop]
  simp [hk, hc, Nat.not_le.2 hn, show offset < len by omega, show (packet offset).toNat ≠ 0 by omega]

theorem domainEquals.loop_label (hk : k < maxLabels) (ho : offset < len)
    (hz : (packet offset).toNat ≠ 0) (hnp : (packet offset).toNat < 0xC0) :
    domainEquals.loop packet len domain dl offset pos k =
      match domainEquals.compareLabel packet (offset + 1) domain dl pos (packet offset).toNat with
      | none => false
      | some pos' =>
        if (packet (offset + 1 + (packet offset).toNat)).toNat ≠ 0 then
          if dl ≤ pos' ∨ domain pos' ≠ 0x2E then false
          else domainEquals.loop packet len domain dl (offset + 1 + (packet offset).toNat)
            (pos' + 1) k
        else domainEquals.loop packet len domain dl (offset + 1 + (packet offset).toNat) pos' k := by
  have hc : ¬ (packet offset).toNat &&& 0xC0 = 0xC0 := by
    rw [isPointer_iff (byte_lt _)]; omega
  rw [domainEquals.loop]
  simp only [hk, hz, hc, Nat.not_le.2 ho, if_true, if_false]

theorem domainEquals.loop_of_le (h : len ≤ offset) :
    domainEquals.loop packet len domain dl offset pos k = false := by
  rw [domainEquals.loop]; simp [h]

theorem domainEquals.loop_label_past (hk : k < maxLabels) (ho : offset < len)
    (hz : (packet offset).toNat ≠ 0) (hnp : (packet offset).toNat < 0xC0)
    (hpast : len ≤ offset + 1 + (packet offset).toNat) :
    domainEquals.loop packet len domain dl offset pos k = false := by
  rw [domainEquals.loop_label hk ho hz hnp]
  rcases domainEquals.compareLabel packet (offset + 1) domain dl pos (packet offset).toNat with
    _ | pos'
  · rfl
  · simp only
    split_ifs <;> first | rfl | exact domainEquals.loop_of_le hpast

theorem domainEquals.compareLabel_congr {packet' : Nat → UInt8} {off n : Nat}
    (hd : ∀ i < n, packet' (off + i) = packet (off + i)) :
    domainEquals.compareLabel packet' off domain dl pos n =
      domainEquals.compareLabel packet off domain dl pos n := by
  induction n generalizing off pos with
  | zero => rfl
  | succ n ih =>
    have h₀ := hd 0 (Nat.succ_pos n)
    rw [Nat.add_zero] at h₀
    simp only [domainEquals.compareLabel, h₀,
      ih fun i hi => by rw [Nat.add_assoc, Nat.add_comm 1 i]; exact hd (i + 1) (by omega)]

theorem domainEquals.loop_label_congr {packet' : Nat → UInt8} (hd : ∀ i < len, packet' i = packet i)
    (hk : k < maxLabels) (hz : (packet offset).toNat ≠ 0) (hnp : (packet offset).toNat < 0xC0)
    (hin : offset + 1 + (packet offset).toNat < len) :
    domainEquals.loop packet' len domain dl offset pos k =
      match domainEquals.compareLabel packet (offset + 1) domain dl pos (packet offset).toNat with
      | none => false
      | some pos' =>
        if (packet (offset + 1 + (packet offset).toNat)).toNat ≠ 0 then
          if dl ≤ pos' ∨ domain pos' ≠ 0x2E then false
          else domainEquals.loop packet' len domain dl (offset + 1 + (packet offset).toNat)
            (pos' + 1) k
        else domainEquals.loop packet' len domain dl (offset + 1 + (packet offset).toNat) pos' k := by
  have hb := hd offset (by omega)
  rw [domainEquals.loop_label hk (by omega) (by rw [hb]; exact hz) (by rw [hb]; exact hnp), hb,
    domainEquals.compareLabel_congr fun i hi => hd _ (by omega), hd _ hin]

theorem domainEquals.loop_label_past_congr {packet' : Nat → UInt8}
    (hd : ∀ i < len, packet' i = packet i) (hk : k < maxLabels) (ho : offset < len)
    (hz : (packet offset).toNat ≠ 0) (hnp : (packet offset).toNat < 0xC0)
    (hpast : len ≤ offset + 1 + (packet offset).toNat) :
    domainEquals.loop packet' len domain dl offset pos k =
      domainEquals.loop packet len domain dl offset pos k := by
  have hb := hd offset ho
  rw [domainEquals.loop_label_past hk ho hz hnp hpast, domainEquals.loop_label_past hk ho
    (by rw [hb]; exact hz) (by rw [hb]; exact hnp) (by rw [hb]; exact hpast)]

theorem domainEquals.loop_congr {packet' : Nat → UInt8} (hd : ∀ i < len, packet' i = packet i) :
    domainEquals.loop packet' len domain dl offset pos k =
      domainEquals.loop packet len domain dl offset pos k := by
  induction offset, pos, k using domainEquals.loop.induct packet len domain dl with
  | case1 offset pos k hk hle => rw [domainEquals.loop_of_le hle, domainEquals.loop_of_le hle]
  | case2 offset pos k hk hlt l hz =>
    simp only [l] at hz
    rw [domainEquals.loop_stop hk (by omega) hz,
      domainEquals.loop_stop hk (by omega) (by rw [hd _ (by omega)]; exact hz)]
  | case3 offset pos k hk hlt l hz hc hle =>
    simp only [l] at hz hc
    rw [domainEquals.loop, domainEquals.loop]
    simp only [hk, hlt, hd offset (by omega), hz, hc, hle, if_true, if_false]
  | case4 offset pos k hk hlt l hz hc hle ih =>
    simp only [l] at hz hc ih
    have hp := (isPointer_iff (byte_lt _)).1 hc
    rw [domainEquals.loop_pointer hk hp (by omega), domainEquals.loop_pointer hk
      (by rw [hd _ (by omega)]; exact hp) (by omega), hd _ (by omega), hd (offset + 1) (by omega), ih]
  | case5 offset pos k hk hlt l hz hc hnone =>
    simp only [l] at hz hc hnone
    have hnp : (packet offset).toNat < 0xC0 := by rw [isPointer_iff (byte_lt _)] at hc; omega
    by_cases hpast : len ≤ offset + 1 + (packet offset).toNat
    · exact domainEquals.loop_label_past_congr hd hk (by omega) hz hnp hpast
    · rw [domainEquals.loop_label_congr hd hk hz hnp (by omega), domainEquals.loop_label hk
        (by omega) hz hnp, hnone]
  | case6 offset pos k hk hlt l hz hc pos' hsome hnz hdot =>
    simp only [l] at hz hc hsome hnz
    have hnp : (packet offset).toNat < 0xC0 := by rw [isPointer_iff (byte_lt _)] at hc; omega
    by_cases hpast : len ≤ offset + 1 + (packet offset).toNat
    · exact domainEquals.loop_label_past_congr hd hk (by omega) hz hnp hpast
    · rw [domainEquals.loop_label_congr hd hk hz hnp (by omega), domainEquals.loop_label hk
        (by omega) hz hnp, hsome]
      simp only [if_pos hnz, if_pos hdot]
  | case7 offset pos k hk hlt l hz hc pos' hsome hnz hdot ih =>
    simp only [l] at hz hc hsome hnz ih
    have hnp : (packet offset).toNat < 0xC0 := by rw [isPointer_iff (byte_lt _)] at hc; omega
    by_cases hpast : len ≤ offset + 1 + (packet offset).toNat
    · exact domainEquals.loop_label_past_congr hd hk (by omega) hz hnp hpast
    · rw [domainEquals.loop_label_congr hd hk hz hnp (by omega), domainEquals.loop_label hk
        (by omega) hz hnp, hsome]
      simp only [if_pos hnz, if_neg hdot, ih]
  | case8 offset pos k hk hlt l hz hc pos' hsome hnz ih =>
    simp only [l] at hz hc hsome hnz ih
    have hnp : (packet offset).toNat < 0xC0 := by rw [isPointer_iff (byte_lt _)] at hc; omega
    by_cases hpast : len ≤ offset + 1 + (packet offset).toNat
    · exact domainEquals.loop_label_past_congr hd hk (by omega) hz hnp hpast
    · rw [domainEquals.loop_label_congr hd hk hz hnp (by omega), domainEquals.loop_label hk
        (by omega) hz hnp, hsome]
      simp only [if_neg hnz, ih]
  | case9 offset pos k hk => rw [domainEquals.loop, domainEquals.loop]; simp [hk]

end Loop

/-! ### The string the lock-step walk accepts -/

/-- What `domainEquals` accepts on a walk visiting `labels`: each label lowercased, followed by a
`.` when the byte after the label in the packet is not zero. -/
def lockstepName (packet : Nat → UInt8) : List (Nat × Nat) → List UInt8
  | [] => []
  | l :: labels => (labelBytes packet l).map tolower ++
      ((if (packet (l.1 + 1 + l.2)).toNat ≠ 0 then [0x2E] else []) ++ lockstepName packet labels)

/-- The `.` that `domainEquals` asks for after the last label: there when the byte after the last
label is not zero, which on a walk means that a pointer follows it. -/
def trailingDot (packet : Nat → UInt8) : List (Nat × Nat) → List UInt8
  | [] => []
  | [l] => if (packet (l.1 + 1 + l.2)).toNat ≠ 0 then [0x2E] else []
  | _ :: labels => trailingDot packet labels

theorem eq_append_iff_take_drop {α : Type} {X A B : List α} :
    X = A ++ B ↔ X.take A.length = A ∧ X.drop A.length = B := by
  constructor
  · rintro rfl; exact ⟨List.take_left' rfl, List.drop_left' rfl⟩
  · rintro ⟨h₁, h₂⟩; rw [← List.take_append_drop A.length X, h₁, h₂]

theorem domainEquals.compareLabel_eq (packet : Nat → UInt8) (d : List UInt8) (off pos n : Nat) :
    domainEquals.compareLabel packet off (bytesOf d) d.length pos n =
      if ((d.map tolower).drop pos).take n = (List.range n).map (fun i => tolower (packet (off + i)))
      then some (pos + n) else none := by
  induction n generalizing off pos with
  | zero => simp [domainEquals.compareLabel]
  | succ n ih =>
    simp only [domainEquals.compareLabel]
    by_cases hp : d.length ≤ pos
    · rw [if_pos hp, List.drop_eq_nil_of_le (by simpa using hp)]; simp
    · have hlt : pos < (d.map tolower).length := by simp only [List.length_map]; omega
      rw [if_neg hp, ih, List.drop_eq_getElem_cons hlt, List.range_succ_eq_map]
      simp only [bytesOf, List.getD_eq_getElem _ _ (Nat.lt_of_not_le hp), List.take_succ_cons,
        List.map_cons, List.map_map, List.cons.injEq, Nat.add_zero, List.getElem_map]
      by_cases hc : tolower (packet off) = tolower d[pos]
      · simp only [hc, ne_eq, not_true_eq_false, if_false, true_and, Function.comp_def,
          Nat.succ_eq_add_one, Nat.add_assoc, Nat.add_comm 1]
      · simp [hc, Ne.symm hc]

theorem domainEquals.loop_walk {packet : Nat → UInt8} {len offset k : Nat} {ret : Option Nat}
    {labels : List (Nat × Nat)} {e : Nat} {d : List UInt8}
    (h : NameWalk packet 0 len offset k ret labels e) {pos : Nat} (hpos : pos ≤ d.length) :
    domainEquals.loop packet len (bytesOf d) d.length offset pos k =
      decide ((d.map tolower).drop pos = lockstepName packet labels) := by
  induction h generalizing pos with
  | stop hk ho hz =>
    rw [domainEquals.loop_stop hk ho hz]
    simp only [lockstepName, List.drop_eq_nil_iff, List.length_map]
    exact decide_eq_decide.2 ⟨fun h => by omega, fun h => by omega⟩
  | pointer hk hp hn _ _ _ ih => rw [domainEquals.loop_pointer hk hp hn]; exact ih hpos
  | @label offset _ _ labels _ hk hz hl he _ ih =>
    have hnp : (packet offset).toNat < 0xC0 := by simp only [maxLabelLength] at hl; omega
    have hA : (labelBytes packet (offset, (packet offset).toNat)).map tolower =
        (List.range (packet offset).toNat).map (fun i => tolower (packet (offset + 1 + i))) := by
      simp only [labelBytes, List.map_map, Function.comp_def]
    rw [domainEquals.loop_label hk (by omega) hz hnp, domainEquals.compareLabel_eq,
      Bool.eq_iff_iff, decide_eq_true_iff]
    simp only [lockstepName]
    rw [eq_append_iff_take_drop, hA, List.length_map, List.length_range, List.drop_drop]
    by_cases hc : ((d.map tolower).drop pos).take (packet offset).toNat =
        (List.range (packet offset).toNat).map (fun i => tolower (packet (offset + 1 + i)))
    case neg => rw [if_neg hc]; simp [hc]
    case pos =>
    have hlen : pos + (packet offset).toNat ≤ d.length := by
      have := congrArg List.length hc
      simp only [List.length_take, List.length_drop, List.length_map, List.length_range] at this
      omega
    rw [if_pos hc]
    simp only [hc, true_and]
    by_cases hb : (packet (offset + 1 + (packet offset).toNat)).toNat = 0
    case pos =>
      simp only [hb, ne_eq, not_true_eq_false, if_false, List.nil_append]
      rw [ih hlen, decide_eq_true_iff]
    case neg =>
    simp only [hb, ne_eq, not_false_eq_true, if_true, List.singleton_append]
    by_cases hend : d.length ≤ pos + (packet offset).toNat
    case pos => rw [if_pos (.inl hend), List.drop_eq_nil_of_le (by simpa using hend)]; simp
    case neg =>
    have hlt : pos + (packet offset).toNat < (d.map tolower).length := by
      simp only [List.length_map]; omega
    rw [List.drop_eq_getElem_cons hlt, List.cons.injEq, List.getElem_map, tolower_eq_dot]
    simp only [bytesOf, List.getD_eq_getElem _ _ (Nat.lt_of_not_le hend), hend, false_or]
    by_cases hdot : d[pos + (packet offset).toNat] = 0x2E
    · simp only [hdot, ne_eq, not_true_eq_false, if_false, true_and]
      rw [ih (by omega), decide_eq_true_iff]
    · simp [hdot]

theorem NameWalk.ne_zero_of_labels {packet : Nat → UInt8} {lo hi offset k : Nat}
    {ret : Option Nat} {l : Nat × Nat} {labels : List (Nat × Nat)} {e : Nat}
    (h : NameWalk packet lo hi offset k ret (l :: labels) e) : (packet offset).toNat ≠ 0 := by
  cases h with
  | label _ hz => exact hz
  | pointer _ hp => omega

theorem lockstepName_walk {packet : Nat → UInt8} {lo hi offset k : Nat} {ret : Option Nat}
    {labels : List (Nat × Nat)} {e : Nat} (h : NameWalk packet lo hi offset k ret labels e) :
    lockstepName packet labels = decodedName packet labels ++ trailingDot packet labels := by
  rw [← decodedTail_true]
  induction h with
  | stop => rfl
  | pointer _ _ _ _ _ _ ih => exact ih
  | @label offset _ _ labels _ _ _ _ _ rest ih =>
    cases labels with
    | nil => simp [lockstepName, decodedTail, trailingDot]
    | cons l' labels =>
      have hb := rest.ne_zero_of_labels
      rw [lockstepName, if_pos hb, ih]
      simp only [decodedTail, trailingDot, if_true, if_false, Bool.false_eq_true, List.nil_append,
        List.append_assoc, List.singleton_append, List.cons_append]


theorem NameWalk.nil_start {packet : Nat → UInt8} {lo hi offset k : Nat} {ret : Option Nat}
    {e : Nat} (h : NameWalk packet lo hi offset k ret [] e) :
    (packet offset).toNat = 0 ∨ 0xC0 ≤ (packet offset).toNat := by
  cases h with
  | stop _ _ hz => exact .inl hz
  | pointer _ hp => exact .inr hp

theorem trailingDot_walk {packet : Nat → UInt8} {lo hi offset k : Nat} {ret : Option Nat}
    {labels : List (Nat × Nat)} {e : Nat} (h : NameWalk packet lo hi offset k ret labels e) :
    (trailingDot packet labels = [] ∧
        ∀ l, labels.getLast? = some l → (packet (l.1 + 1 + l.2)).toNat = 0) ∨
      (trailingDot packet labels = [0x2E] ∧
        ∃ l, labels.getLast? = some l ∧ 0xC0 ≤ (packet (l.1 + 1 + l.2)).toNat) := by
  induction h with
  | stop => exact .inl ⟨rfl, fun _ h => nomatch h⟩
  | pointer _ _ _ _ _ _ ih => exact ih
  | @label offset _ _ labels _ _ _ _ _ rest ih =>
    cases labels with
    | nil =>
      rcases rest.nil_start with hb | hb
      · exact .inl ⟨by simp [trailingDot, hb], fun l hl => by cases hl; exact hb⟩
      · exact .inr ⟨by simp [trailingDot]; omega, _, rfl, hb⟩
    | cons l' labels => simpa only [trailingDot, List.getLast?_cons_cons] using ih

/-! ### On accepted packets -/

/-- On a packet the parser accepts, `domainEquals` holds of a string exactly when the string,
lowercased, is the decoded name followed by the trailing `.` of `trailingDot`; `decodeName`
writes the decoded name. The two agree unless a pointer follows the name's last label. -/
theorem domainEquals_walk (data : Nat → UInt8) (len : Nat) (r : DNSParseResult)
    (hs : (parse data len r).1 = .Success) :
    ∃ labels e, NameWalk data 0 len dnsHeaderSize 0 none labels e ∧
      (∀ d : List UInt8, domainEquals data len (parse data len r).2.question (bytesOf d) d.length =
        decide (d.map tolower = decodedName data labels ++ trailingDot data labels)) ∧
      ((trailingDot data labels = [] ∧
          ∀ l, labels.getLast? = some l → (data (l.1 + 1 + l.2)).toNat = 0) ∨
        (trailingDot data labels = [0x2E] ∧
          ∃ l, labels.getLast? = some l ∧ 0xC0 ≤ (data (l.1 + 1 + l.2)).toNat)) ∧
      ∀ out b ol, DecodesWalk data len (parse data len r).2.question.nameOffset labels out b ol := by
  obtain ⟨labels, e, hw, -, -, hP⟩ := parse_success_result hs
  rw [hP]
  refine ⟨labels, e, hw, fun d => ?_, trailingDot_walk hw, fun out b ol => decodesWalk_of_walk hw out b ol⟩
  rw [domainEquals, ← lockstepName_walk hw, ← List.drop_zero (d.map tolower)]
  exact domainEquals.loop_walk hw (Nat.zero_le _)

theorem domainEquals_walk_s1 :
    (parse (bytesOf queryS1) 33 default).1 = .Success ∧
    ∃ labels e, NameWalk (bytesOf queryS1) 0 33 dnsHeaderSize 0 none labels e ∧
      (∀ d : List UInt8, domainEquals (bytesOf queryS1) 33
          (parse (bytesOf queryS1) 33 default).2.question (bytesOf d) d.length =
        decide (d.map tolower = decodedName (bytesOf queryS1) labels ++ trailingDot (bytesOf queryS1) labels)) ∧
      ((trailingDot (bytesOf queryS1) labels = [] ∧
          ∀ l, labels.getLast? = some l → (bytesOf queryS1 (l.1 + 1 + l.2)).toNat = 0) ∨
        (trailingDot (bytesOf queryS1) labels = [0x2E] ∧
          ∃ l, labels.getLast? = some l ∧ 0xC0 ≤ (bytesOf queryS1 (l.1 + 1 + l.2)).toNat)) ∧
      ∀ out b ol, DecodesWalk (bytesOf queryS1) 33
        (parse (bytesOf queryS1) 33 default).2.question.nameOffset labels out b ol :=
  have hs : (parse (bytesOf queryS1) 33 default).1 = .Success := by rw [parse_queryS1]
  ⟨hs, domainEquals_walk _ _ _ hs⟩

/-! ### The suffix test (`domainEndsWith`) -/

theorem endsOnBoundary_iff (n t : List UInt8) :
    (t.length ≤ n.length ∧ n.drop (n.length - t.length) = t ∧
      (n.length = t.length ∨ n[n.length - t.length - 1]? = some 0x2E)) ↔
      n = t ∨ ∃ pre, n = pre ++ 0x2E :: t := by
  constructor
  · rintro ⟨hle, hdrop, hdot⟩
    have hn := (List.take_append_drop (n.length - t.length) n).symm
    rw [hdrop] at hn
    by_cases hk : n.length - t.length = 0
    · left; rwa [hk, List.take_zero, List.nil_append] at hn
    · right
      have hget : n[n.length - t.length - 1]? = some 0x2E := hdot.resolve_left (by omega)
      refine ⟨n.take (n.length - t.length - 1), ?_⟩
      conv_lhs => rw [hn]
      rw [show n.length - t.length = n.length - t.length - 1 + 1 by omega, List.take_succ, hget]
      simp
  · rintro (rfl | ⟨pre, rfl⟩)
    · simp
    · have hlen : (pre ++ 0x2E :: t).length - t.length = pre.length + 1 := by simp; omega
      refine ⟨by simp; omega, ?_, .inr ?_⟩
      · rw [hlen, show pre ++ 0x2E :: t = (pre ++ [0x2E]) ++ t by simp, List.drop_left' (by simp)]
      · rw [hlen, Nat.add_sub_cancel]; simp [List.getElem_append_right]

theorem domainEndsWith_of_decode {packet : Nat → UInt8} {len : Nat} {q : DNSQuestion}
    {suffix : Nat → UInt8} {sl : Nat} {buf db : Nat → UInt8} {dl : Nat}
    (h : decodeName packet len q.nameOffset buf (maxDomainLength + 1) 0 = (.Success, db, dl))
    (hlow : ∀ i < dl, tolower (db i) = db i) :
    domainEndsWith packet len q suffix sl buf = true ↔
      let n := (List.range dl).map db
      let t := (List.range sl).map fun i => tolower (suffix i)
      n = t ∨ ∃ pre, n = pre ++ 0x2E :: t := by
  dsimp only
  rw [← endsOnBoundary_iff]
  simp only [domainEndsWith, h, List.length_map, List.length_range]
  by_cases hlt : dl < sl
  · simp only [hlt, if_true, Bool.false_eq_true, false_iff]
    exact fun h => absurd h.1 (by omega)
  have hdrop : ((List.range dl).map db).drop (dl - sl) = (List.range sl).map fun i => db (dl - sl + i) :=
    List.ext_getElem (by simp; omega) fun i _ _ => by simp
  have hsuf : (∀ i < sl, tolower (db (dl - sl + i)) = tolower (suffix i)) ↔
      (List.range sl).map (fun i => db (dl - sl + i)) = (List.range sl).map fun i => tolower (suffix i) := by
    rw [List.map_inj_left]
    refine forall_congr' fun i => ?_
    rw [List.mem_range]
    refine imp_congr_right fun hi => ?_
    rw [hlow _ (by omega)]
  have hdot : (dl = sl ∨ ((List.range dl).map db)[dl - sl - 1]? = some 0x2E) ↔
      ¬(0 < dl - sl ∧ db (dl - sl - 1) ≠ 0x2E) := by
    by_cases hk : dl - sl = 0
    · exact iff_of_true (.inl (by omega)) (by omega)
    · rw [List.getElem?_map, List.getElem?_range (by omega)]
      simp [show dl ≠ sl by omega, Nat.pos_of_ne_zero hk]
  simp only [hlt, if_false, hdrop, ← hsuf, hdot, List.all_eq_true, List.mem_range, decide_eq_true_eq]
  split_ifs with hall
  · rw [Bool.not_eq_true', decide_eq_false_iff_not]
    exact ⟨fun hd => ⟨Nat.le_of_not_lt hlt, hall, hd⟩, fun hd => hd.2.2⟩
  · simp only [hall, false_and, and_false, if_false]

/-- On an accepted packet, `domainEndsWith` holds exactly when the name decodes into its
`MAX_DOMAIN_LENGTH + 1` bytes and the lowercased suffix ends the name on a label boundary: the
suffix is the whole name, or follows a `.` of it. -/
theorem domainEndsWith_spec (data : Nat → UInt8) (len : Nat) (r : DNSParseResult)
    (hs : (parse data len r).1 = .Success) (suffix : Nat → UInt8) (suffix_len : Nat)
    (domain_buf : Nat → UInt8) :
    domainEndsWith data len (parse data len r).2.question suffix suffix_len domain_buf = true ↔
      let res := decodeName data len (parse data len r).2.question.nameOffset domain_buf
        (maxDomainLength + 1) 0
      let n := (List.range res.2.2).map res.2.1
      let s := (List.range suffix_len).map fun i => tolower (suffix i)
      res.1 = .Success ∧ (n = s ∨ ∃ pre, n = pre ++ 0x2E :: s) := by
  obtain ⟨labels, -, -, -, -, -, -, hfit, hover⟩ :=
    decodeName_follows_parse data len r hs domain_buf (maxDomainLength + 1) 0
  dsimp only at hfit hover ⊢
  rcases hr : decodeName data len (parse data len r).2.question.nameOffset domain_buf
    (maxDomainLength + 1) 0 with ⟨err, db, dl⟩
  rw [hr] at hfit hover
  dsimp only at hfit hover
  by_cases hn : (decodedName data labels).length ≤ maxDomainLength + 1
  · obtain ⟨rfl, rfl, hget⟩ := hfit hn
    have hlow : ∀ i < (decodedName data labels).length, tolower (db i) = db i := fun i hi => by
      rw [hget i hi]
      exact tolower_decodedTail data true labels _ (by rw [decodedTail_true]; exact List.getElem_mem hi)
    rw [domainEndsWith_of_decode hr hlow]
    simp
  · obtain rfl : err = .BufferTooSmall := hover (by omega)
    simp [domainEndsWith, hr]

theorem domainEndsWith_spec_s1 :
    (parse (bytesOf queryS1) 33 default).1 = .Success ∧
    (domainEndsWith (bytesOf queryS1) 33 (parse (bytesOf queryS1) 33 default).2.question
        (bytesOf [0x43, 0x4F, 0x4D]) 3 (fun _ => 0) = true ↔
      let res := decodeName (bytesOf queryS1) 33 (parse (bytesOf queryS1) 33 default).2.question.nameOffset
        (fun _ => 0) (maxDomainLength + 1) 0
      let n := (List.range res.2.2).map res.2.1
      let s := (List.range 3).map fun i => tolower (bytesOf [0x43, 0x4F, 0x4D] i)
      res.1 = .Success ∧ (n = s ∨ ∃ pre, n = pre ++ 0x2E :: s)) :=
  have hs : (parse (bytesOf queryS1) 33 default).1 = .Success := by rw [parse_queryS1]
  ⟨hs, domainEndsWith_spec _ _ _ hs _ _ _⟩

end XdpDns

namespace XdpDns

/-- A query for `a` whose name is the label `a` followed by a pointer to a zero byte, the high
byte of its own `qtype`. -/
def queryLabelPointer : List UInt8 :=
  [0x12, 0x34, 0x01, 0x00, 0x00, 0x01, 0x00, 0x00, 0x00, 0x00, 0x00, 0x00,
   0x01, 0x61, 0xC0, 0x10, 0x00, 0x01, 0x00, 0x01]

theorem domainEquals_label_pointer :
    (parse (bytesOf queryLabelPointer) 20 default).1 = .Success ∧
    (decodeName (bytesOf queryLabelPointer) 20
      (parse (bytesOf queryLabelPointer) 20 default).2.question.nameOffset (fun _ => 0) 256 0).1 =
        .Success ∧
    (decodeName (bytesOf queryLabelPointer) 20
      (parse (bytesOf queryLabelPointer) 20 default).2.question.nameOffset (fun _ => 0) 256 0).2.2 = 1 ∧
    (decodeName (bytesOf queryLabelPointer) 20
      (parse (bytesOf queryLabelPointer) 20 default).2.question.nameOffset (fun _ => 0) 256 0).2.1 0 =
        0x61 ∧
    domainEquals (bytesOf queryLabelPointer) 20 (parse (bytesOf queryLabelPointer) 20 default).2.question
      (bytesOf [0x61]) 1 = false ∧
    domainEquals (bytesOf queryLabelPointer) 20 (parse (bytesOf queryLabelPointer) 20 default).2.question
      (bytesOf [0x61, 0x2E]) 2 = true := by
  simp +decide [parse, parseName, parseName.loop, bytesOf, queryLabelPointer, minDnsQuerySize,
    dnsHeaderSize, DNSHeader.getQDCount, be16, decodeName, decodeName.loop, decodeName.addDot,
    decodeName.terminate, copyLabel, tolower, domainEquals, domainEquals.loop,
    domainEquals.compareLabel, pointerTarget]

end XdpDns
