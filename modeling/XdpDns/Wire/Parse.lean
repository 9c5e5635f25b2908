import XdpDns.Wire.NameWalk

/-!
# The query parser (`DNSParser::parse`, `DNSParser::parseName`)

`parseName.loop` is the `while (jump_count < MAX_LABELS)` loop of `parseName`, one call per
iteration, with the loop's locals as arguments; it terminates by the measure
`(MAX_LABELS - jump_count, len - offset)`, lexicographic: a pointer raises `jump_count`, a literal
label advances `offset` past a byte below `len`. `parse` fills the caller's `DNSParseResult` field
by field in the order the source does, so that a failed parse returns the partly written record.

The contract the parser is checked against is `NameWalk`: the walk of a wire name as a relation,
with one constructor per kind of length byte and the bounds each one must respect.
-/

namespace XdpDns

/-- `struct DNSQuestion`. The pointer `name_start` is kept as its offset into the packet. -/
structure DNSQuestion where
  nameStart : Nat
  nameOffset : Nat
  nameWireLen : Nat
  qtype : UInt16
  qclass : UInt16
deriving DecidableEq, Repr, Inhabited

/-- `struct DNSParseResult`. The pointer `header` is kept as its offset into the packet. -/
structure DNSParseResult where
  header : Nat
  question : DNSQuestion
  totalConsumed : Nat
  questionEnd : Nat
  id : UInt16
  flags : UInt16
  isQuery : Bool
deriving DecidableEq, Repr, Inhabited

/-! ### `struct DNSHeader`: the packed header at offset `h` of `data`, read through `ntohs` -/

namespace DNSHeader

def getId (data : Nat → UInt8) (h : Nat) : UInt16 := be16 data h
def getFlags (data : Nat → UInt8) (h : Nat) : UInt16 := be16 data (h + 2)
def getQDCount (data : Nat → UInt8) (h : Nat) : UInt16 := be16 data (h + 4)
def getANCount (data : Nat → UInt8) (h : Nat) : UInt16 := be16 data (h + 6)
/-- Not in the source's accessors: `ntohs(ns_count)` and `ntohs(ar_count)`. -/
def getNSCount (data : Nat → UInt8) (h : Nat) : UInt16 := be16 data (h + 8)
def getARCount (data : Nat → UInt8) (h : Nat) : UInt16 := be16 data (h + 10)

def isQuery (data : Nat → UInt8) (h : Nat) : Bool := (getFlags data h).toNat &&& 0x8000 = 0
def getRCode (data : Nat → UInt8) (h : Nat) : Nat := (getFlags data h).toNat &&& 0x000F
def isRecursionDesired (data : Nat → UInt8) (h : Nat) : Bool :=
  (getFlags data h).toNat &&& 0x0100 ≠ 0

end DNSHeader

/-! ### The loop of `parseName` -/

/-- One iteration of `parseName`'s loop and the rest of the loop after it. On success the values
of `*end_offset` and `*wire_len`. -/
def parseName.loop (data : Nat → UInt8) (len offset original_offset : Nat) (jumped : Bool)
    (jump_count total_len : Nat) : Except Error (Nat × Nat) :=
  if jump_count < maxLabels then
    if len ≤ offset then .error .TruncatedMessage
    else
      let label_len := (data offset).toNat
      if label_len = 0 then
        .ok (if jumped then original_offset + 2 else offset + 1, total_len + 1)
      else if label_len &&& 0xC0 = 0xC0 then
        if len ≤ offset + 1 then .error .TruncatedMessage
        else
          let ptr := pointerTarget label_len (data (offset + 1)).toNat
          if len ≤ ptr then .error .PointerLoop
          else parseName.loop data len ptr (if jumped then original_offset else offset) true
            (jump_count + 1) total_len
      else if maxLabelLength < label_len then .error .InvalidLabel
      else if len < offset + 1 + label_len then .error .TruncatedMessage
      else parseName.loop data len (offset + 1 + label_len) original_offset jumped jump_count
        (total_len + 1 + label_len)
  else .error .PointerLoop
termination_by (maxLabels - jump_count, len - offset)

/-- `DNSParser::parseName`: on success `(*end_offset, *wire_len)`. -/
def parseName (data : Nat → UInt8) (len offset : Nat) : Except Error (Nat × Nat) :=
  parseName.loop data len offset offset false 0 0

/-- `DNSParser::parse` with a non-null packet and result: the error code and `*result` after
the call. -/
def parse (data : Nat → UInt8) (len : Nat) (result : DNSParseResult) : Error × DNSParseResult :=
  if len < minDnsQuerySize then (.PacketTooShort, result) else
  let result := { result with
    header := 0, id := DNSHeader.getId data 0, flags := DNSHeader.getFlags data 0,
    isQuery := DNSHeader.isQuery data 0 }
  if (DNSHeader.getQDCount data 0).toNat = 0 then (.InvalidHeader, result) else
  let offset := dnsHeaderSize
  let result := { result with
    question := { result.question with nameStart := offset, nameOffset := offset } }
  match parseName data len offset with
  | .error err => (err, result)
  | .ok (name_end, wire_len) =>
    let result := { result with question := { result.question with nameWireLen := wire_len } }
    if len < name_end + 4 then (.TruncatedMessage, result) else
    (.Success, { result with
      question := { result.question with
        qtype := be16 data name_end, qclass := be16 data (name_end + 2) },
      totalConsumed := name_end + 4, questionEnd := name_end + 4 })

/-! ### One lemma per branch of the loop that continues or succeeds -/

section Loop

variable {data : Nat → UInt8} {len offset orig : Nat} {jumped : Bool} {k total : Nat}

theorem parseName.loop_stop (hk : k < maxLabels) (ho : offset < len)
    (hz : (data offset).toNat = 0) :
    parseName.loop data len offset orig jumped k total =
      .ok (if jumped then orig + 2 else offset + 1, total + 1) := by
  rw [parseName.loop]; simp [hk, hz, Nat.not_le.2 ho]

theorem parseName.loop_pointer (hk : k < maxLabels) (hp : 0xC0 ≤ (data offset).toNat)
    (hn : offset + 1 < len) (ht : pointerTarget (data offset).toNat (data (offset + 1)).toNat < len) :
    parseName.loop data len offset orig jumped k total =
      parseName.loop data len (pointerTarget (data offset).toNat (data (offset + 1)).toNat)
        (if jumped then orig else offset) true (k + 1) total := by
  have hc := (isPointer_iff (byte_lt (data offset))).2 hp
  rw [parseName.loop]
  simp [hk, hc, Nat.not_le.2 hn, Nat.not_le.2 ht, show offset < len by omega,
    show (data offset).toNat ≠ 0 by omega]

theorem parseName.loop_label (hk : k < maxLabels) (hz : (data offset).toNat ≠ 0)
    (hl : (data offset).toNat ≤ maxLabelLength) (he : offset + 1 + (data offset).toNat ≤ len) :
    parseName.loop data len offset orig jumped k total =
      parseName.loop data len (offset + 1 + (data offset).toNat) orig jumped k
        (total + 1 + (data offset).toNat) := by
  have hc : ¬ (data offset).toNat &&& 0xC0 = 0xC0 := by
    rw [isPointer_iff (byte_lt _)]; simp only [maxLabelLength] at hl; omega
  rw [parseName.loop]
  simp [hk, hz, hc, Nat.not_lt.2 hl, Nat.not_lt.2 he, show offset < len by omega]

/-- The end offset fixed so far, in `NameWalk`'s terms: by the first pointer, once one was taken. -/
def parseName.ret (jumped : Bool) (original_offset : Nat) : Option Nat :=
  if jumped then some (original_offset + 2) else none

theorem parseName.loop_sound {e w : Nat}
    (h : parseName.loop data len offset orig jumped k total = .ok (e, w)) :
    ∃ labels, NameWalk data 0 len offset k (parseName.ret jumped orig) labels e ∧
      w = total + 1 + labelsWireLen labels := by
  induction offset, orig, jumped, k, total using parseName.loop.induct data len with
  | case1 offset orig jumped k total hk hle =>
    rw [parseName.loop] at h; simp [hk, hle] at h
  | case2 offset orig jumped k total hk hlt l hz =>
    simp only [l] at hz
    rw [parseName.loop_stop hk (by omega) hz] at h
    cases jumped <;> simp [parseName.ret] at h ⊢ <;> obtain ⟨rfl, rfl⟩ := h <;>
      exact ⟨[], .stop hk (by omega) hz, by simp [labelsWireLen]⟩
  | case3 offset orig jumped k total hk hlt l hz hc hle =>
    simp only [l] at hz hc
    rw [parseName.loop] at h; simp [hk, hlt, hz, hc, hle] at h
  | case4 offset orig jumped k total hk hlt l hz hc hle p hpl =>
    simp only [l, p] at hz hc hpl
    rw [parseName.loop] at h; simp [hk, hlt, hz, hc, hle, hpl] at h
  | case5 offset orig jumped k total hk hlt l hz hc hle p hpl ih =>
    simp only [l, p] at hz hc hpl ih
    have hp := (isPointer_iff (byte_lt _)).1 hc
    rw [parseName.loop_pointer hk hp (by omega) (by omega)] at h
    obtain ⟨labels, hw, rfl⟩ := ih (by simpa using h)
    refine ⟨labels, .pointer hk hp (by omega) (Nat.zero_le _) (by omega) ?_, rfl⟩
    cases jumped <;> simpa [parseName.ret] using hw
  | case6 offset orig jumped k total hk hlt l hz hc hl =>
    simp only [l] at hz hc hl
    rw [parseName.loop] at h; simp [hk, hlt, hz, hc, hl] at h
  | case7 offset orig jumped k total hk hlt l hz hc hl hle =>
    simp only [l] at hz hc hl hle
    rw [parseName.loop] at h; simp [hk, hlt, hz, hc, hl, hle] at h
  | case8 offset orig jumped k total hk hlt l hz hc hl hle ih =>
    simp only [l] at hz hc hl hle ih
    rw [parseName.loop_label hk hz (by omega) (by omega)] at h
    obtain ⟨labels, hw, rfl⟩ := ih h
    exact ⟨_, .label hk hz (by omega) (by omega) hw, by simp [labelsWireLen]; omega⟩
  | case9 offset orig jumped k total hk =>
    rw [parseName.loop] at h; simp [hk] at h

theorem parseName.loop_complete {ret : Option Nat} {labels : List (Nat × Nat)} {e : Nat}
    (h : NameWalk data 0 len offset k ret labels e) (hret : ret = parseName.ret jumped orig) :
    parseName.loop data len offset orig jumped k total =
      .ok (e, total + 1 + labelsWireLen labels) := by
  induction h generalizing orig jumped total with
  | stop hk ho hz =>
    rw [parseName.loop_stop hk ho hz, hret]
    cases jumped <;> simp [parseName.ret, labelsWireLen]
  | label hk hz hl he _ ih =>
    rw [parseName.loop_label hk hz hl he, ih hret]
    simp [labelsWireLen]; omega
  | pointer hk hp hn _ ht _ ih =>
    rw [parseName.loop_pointer hk hp hn ht, ih (by cases jumped <;> simp [hret, parseName.ret])]

end Loop

theorem parseName.loop_error {err : Error}
    (h : parseName.loop data len offset orig jumped k total = .error err) :
    err = .TruncatedMessage ∨ err = .PointerLoop ∨ err = .InvalidLabel := by
  induction offset, orig, jumped, k, total using parseName.loop.induct data len with
  | case1 offset orig jumped k total hk hle =>
    rw [parseName.loop] at h; simp [hk, hle] at h; simp [h]
  | case2 offset orig jumped k total hk hlt l hz =>
    simp only [l] at hz
    rw [parseName.loop_stop hk (by omega) hz] at h; cases h
  | case3 offset orig jumped k total hk hlt l hz hc hle =>
    simp only [l] at hz hc
    rw [parseName.loop] at h; simp [hk, hlt, hz, hc, hle] at h; simp [h]
  | case4 offset orig jumped k total hk hlt l hz hc hle p hpl =>
    simp only [l, p] at hz hc hpl
    rw [parseName.loop] at h; simp [hk, hlt, hz, hc, hle, hpl] at h; simp [h]
  | case5 offset orig jumped k total hk hlt l hz hc hle p hpl ih =>
    simp only [l, p, dite_eq_ite] at hz hc hpl ih
    rw [parseName.loop_pointer hk ((isPointer_iff (byte_lt _)).1 hc) (by omega) (by omega)] at h
    exact ih h
  | case6 offset orig jumped k total hk hlt l hz hc hl =>
    simp only [l] at hz hc hl
    rw [parseName.loop] at h; simp [hk, hlt, hz, hc, hl] at h; simp [h]
  | case7 offset orig jumped k total hk hlt l hz hc hl hle =>
    simp only [l] at hz hc hl hle
    rw [parseName.loop] at h; simp [hk, hlt, hz, hc, hl, hle] at h; simp [h]
  | case8 offset orig jumped k total hk hlt l hz hc hl hle ih =>
    simp only [l] at hz hc hl hle ih
    rw [parseName.loop_label hk hz (by omega) (by omega)] at h
    exact ih h
  | case9 offset orig jumped k total hk =>
    rw [parseName.loop] at h; simp [hk] at h; simp [h]

theorem parseName.loop_congr {data' : Nat → UInt8} (hd : ∀ i < len, data' i = data i) :
    parseName.loop data' len offset orig jumped k total =
      parseName.loop data len offset orig jumped k total := by
  induction offset, orig, jumped, k, total using parseName.loop.induct data len with
  | case1 offset orig jumped k total hk hle =>
    rw [parseName.loop, parseName.loop]; simp [hk, hle]
  | case2 offset orig jumped k total hk hlt l hz =>
    simp only [l] at hz
    rw [parseName.loop_stop hk (by omega) hz, parseName.loop_stop hk (by omega) (by rw [hd _ (by omega)]; exact hz)]
  | case3 offset orig jumped k total hk hlt l hz hc hle =>
    simp only [l] at hz hc
    rw [parseName.loop, parseName.loop, hd offset (by omega)]; simp [hk, hlt, hz, hc, hle]
  | case4 offset orig jumped k total hk hlt l hz hc hle p hpl =>
    simp only [l, p] at hz hc hpl
    rw [parseName.loop, parseName.loop, hd offset (by omega), hd (offset + 1) (by omega)]
    simp [hk, hlt, hz, hc, hle, hpl]
  | case5 offset orig jumped k total hk hlt l hz hc hle p hpl ih =>
    simp only [l, p, dite_eq_ite] at hz hc hpl ih
    have hp := (isPointer_iff (byte_lt _)).1 hc
    rw [parseName.loop_pointer hk hp (by omega) (by omega), ← ih, parseName.loop_pointer hk
      (by rw [hd _ (by omega)]; exact hp) (by omega)
      (by rw [hd _ (by omega), hd _ (by omega)]; omega), hd offset (by omega), hd (offset + 1) (by omega)]
  | case6 offset orig jumped k total hk hlt l hz hc hl =>
    simp only [l] at hz hc hl
    rw [parseName.loop, parseName.loop, hd offset (by omega)]; simp [hk, hlt, hz, hc, hl]
  | case7 offset orig jumped k total hk hlt l hz hc hl hle =>
    simp only [l] at hz hc hl hle
    rw [parseName.loop, parseName.loop, hd offset (by omega)]; simp [hk, hlt, hz, hc, hl, hle]
  | case8 offset orig jumped k total hk hlt l hz hc hl hle ih =>
    simp only [l] at hz hc hl hle ih
    have hb := hd offset (by omega)
    rw [parseName.loop_label hk hz (by omega) (by omega), ← ih, parseName.loop_label hk
      (by rw [hb]; exact hz) (by rw [hb]; omega) (by rw [hb]; omega), hb]
  | case9 offset orig jumped k total hk =>
    rw [parseName.loop, parseName.loop]; simp [hk]

theorem parseName_ok_iff {data : Nat → UInt8} {len e w : Nat} :
    parseName data len dnsHeaderSize = .ok (e, w) ↔
      ∃ labels, NameWalk data 0 len dnsHeaderSize 0 none labels e ∧ w = 1 + labelsWireLen labels := by
  constructor
  · intro h
    simpa [parseName.ret] using parseName.loop_sound h
  · rintro ⟨labels, hw, rfl⟩
    have h : parseName.loop data len dnsHeaderSize dnsHeaderSize false 0 0 =
        .ok (e, 0 + 1 + labelsWireLen labels) := parseName.loop_complete hw rfl
    simpa using h

end XdpDns

namespace XdpDns

/-! ### `parse` -/

/-- The query of the spec's scenario S1: `www.example.com`, type A, class IN, RD set. -/
def queryS1 : List UInt8 :=
  [0x12, 0x34, 0x01, 0x00, 0x00, 0x01, 0x00, 0x00, 0x00, 0x00, 0x00, 0x00,
   3, 0x77, 0x77, 0x77, 7, 0x65, 0x78, 0x61, 0x6d, 0x70, 0x6c, 0x65, 3, 0x63, 0x6f, 0x6d, 0,
   0x00, 0x01, 0x00, 0x01]

section Parse

variable {data : Nat → UInt8} {len : Nat} {r : DNSParseResult}

/-- The record a successful parse leaves, for the name ending at `e` with wire length `w`. -/
def parsedResult (data : Nat → UInt8) (r : DNSParseResult) (e w : Nat) : DNSParseResult :=
  { r with
    header := 0, id := DNSHeader.getId data 0, flags := DNSHeader.getFlags data 0,
    isQuery := DNSHeader.isQuery data 0,
    question := { r.question with
      nameStart := dnsHeaderSize, nameOffset := dnsHeaderSize, nameWireLen := w,
      qtype := be16 data e, qclass := be16 data (e + 2) },
    totalConsumed := e + 4, questionEnd := e + 4 }

theorem parse_eq_success {e w : Nat} (hlen : minDnsQuerySize ≤ len)
    (hqd : (DNSHeader.getQDCount data 0).toNat ≠ 0)
    (hn : parseName data len dnsHeaderSize = .ok (e, w)) (he : e + 4 ≤ len) :
    parse data len r = (.Success, parsedResult data r e w) := by
  simp [parse, Nat.not_lt.2 hlen, hqd, hn, Nat.not_lt.2 he, parsedResult]

theorem parse_success_iff :
    (parse data len r).1 = .Success ↔ minDnsQuerySize ≤ len ∧
      (DNSHeader.getQDCount data 0).toNat ≠ 0 ∧
      ∃ e w, parseName data len dnsHeaderSize = .ok (e, w) ∧ e + 4 ≤ len := by
  constructor
  · intro h
    by_cases hlen : len < minDnsQuerySize
    · simp [parse, hlen] at h
    by_cases hqd : (DNSHeader.getQDCount data 0).toNat = 0
    · simp [parse, hlen, hqd] at h
    rcases hn : parseName data len dnsHeaderSize with err | ⟨e, w⟩
    · simp only [parse, hlen, hqd, hn, if_false] at h
      rcases parseName.loop_error hn with rfl | rfl | rfl <;> cases h
    · by_cases he : len < e + 4
      · simp [parse, hlen, hqd, hn, he] at h
      · exact ⟨by omega, hqd, e, w, rfl, by omega⟩
  · rintro ⟨hlen, hqd, e, w, hn, he⟩
    rw [parse_eq_success hlen hqd hn he]

theorem parse_success_result (h : (parse data len r).1 = .Success) :
    ∃ labels e, NameWalk data 0 len dnsHeaderSize 0 none labels e ∧ dnsHeaderSize < e ∧
      e + 4 ≤ len ∧ (parse data len r).2 = parsedResult data r e (1 + labelsWireLen labels) := by
  obtain ⟨hlen, hqd, e, w, hn, he⟩ := parse_success_iff.1 h
  obtain ⟨labels, hw, rfl⟩ := parseName_ok_iff.1 hn
  exact ⟨labels, e, hw, hw.lt_nameEnd, he, by rw [parse_eq_success hlen hqd hn he]⟩

theorem parse_congr {data' : Nat → UInt8} (hd : ∀ i < len, data' i = data i) :
    parse data' len r = parse data len r := by
  by_cases hlen : len < minDnsQuerySize
  · simp [parse, hlen]
  have h17 : 17 ≤ len := by simp only [minDnsQuerySize, dnsHeaderSize] at hlen; omega
  have hb : ∀ k, k + 1 < len → be16 data' k = be16 data k := fun k hk =>
    be16_congr (hd k (by omega)) (hd (k + 1) hk)
  have hn : parseName data' len dnsHeaderSize = parseName data len dnsHeaderSize :=
    parseName.loop_congr hd
  simp only [parse, hlen, DNSHeader.getId, DNSHeader.getFlags, DNSHeader.getQDCount,
    DNSHeader.isQuery, hb 0 (by omega), hb 2 (by omega), hb 4 (by omega), hn]
  rcases parseName data len dnsHeaderSize with err | ⟨e, w⟩
  · rfl
  · by_cases he : len < e + 4
    · simp [he]
    · simp [he, hb e (by omega), hb (e + 2) (by omega)]

theorem parse_ne_bufferTooSmall : (parse data len r).1 ≠ .BufferTooSmall := by
  by_cases hlen : len < minDnsQuerySize
  · simp [parse, hlen]
  by_cases hqd : (DNSHeader.getQDCount data 0).toNat = 0
  · simp [parse, hlen, hqd]
  rcases hn : parseName data len dnsHeaderSize with err | ⟨e, w⟩
  · simp only [parse, hlen, hqd, hn, if_false]
    rcases parseName.loop_error hn with rfl | rfl | rfl <;> simp
  · by_cases he : len < e + 4 <;> simp [parse, hlen, hqd, hn, he]

theorem parse_failure_writes (h : (parse data len r).1 ≠ .Success) :
    ((parse data len r).1 = .PacketTooShort → (parse data len r).2 = r) ∧
    ((parse data len r).1 ≠ .PacketTooShort → ∃ ns no nw, (parse data len r).2 = { r with
      header := 0, id := DNSHeader.getId data 0, flags := DNSHeader.getFlags data 0,
      isQuery := DNSHeader.isQuery data 0,
      question := { r.question with nameStart := ns, nameOffset := no, nameWireLen := nw } }) := by
  by_cases hlen : len < minDnsQuerySize
  · simp [parse, hlen]
  by_cases hqd : (DNSHeader.getQDCount data 0).toNat = 0
  · simp only [parse, hlen, hqd, if_true, if_false, reduceCtorEq, false_implies, true_and]
    exact fun _ => ⟨r.question.nameStart, r.question.nameOffset, r.question.nameWireLen, rfl⟩
  rcases hn : parseName data len dnsHeaderSize with err | ⟨e, w⟩
  · simp only [parse, hlen, hqd, hn, if_false] at h ⊢
    have := parseName.loop_error hn
    exact ⟨by rintro rfl; simp at this, fun _ => ⟨_, _, r.question.nameWireLen, rfl⟩⟩
  · by_cases he : len < e + 4
    · simp only [parse, hlen, hqd, hn, he, if_true, if_false, reduceCtorEq, false_implies, true_and]
      exact fun _ => ⟨_, _, _, rfl⟩
    · simp [parse, hlen, hqd, hn, he] at h

theorem walk_queryS1 :
    NameWalk (bytesOf queryS1) dnsHeaderSize 33 dnsHeaderSize 0 none [(12, 3), (16, 7), (24, 3)] 29 :=
  .label (by decide) (by decide) (by decide) (by decide)
    (.label (by decide) (by decide) (by decide) (by decide)
      (.label (by decide) (by decide) (by decide) (by decide)
        (.stop (by decide) (by decide) (by decide))))

theorem parse_queryS1 (r : DNSParseResult) :
    parse (bytesOf queryS1) 33 r = (.Success, parsedResult (bytesOf queryS1) r 29 17) :=
  parse_eq_success (by decide) (by decide)
    (parseName_ok_iff.2 ⟨_, walk_queryS1.mono (Nat.zero_le _) le_rfl, rfl⟩) (by decide)

/-- `name_offset + name_wire_len` is the end of the name `parse` reports exactly when the name is
written out with no compression pointer: `wire_len` counts every label the walk visits, those
reached through a pointer included, and not the pointer, while the end follows the first
pointer. -/
theorem nameWireLen_iff_noPointer (hs : (parse data len r).1 = .Success) :
    ∃ labels, NameWalk data 0 len dnsHeaderSize 0 none labels ((parse data len r).2.questionEnd - 4) ∧
      ((parse data len r).2.question.nameOffset + (parse data len r).2.question.nameWireLen =
        (parse data len r).2.questionEnd - 4 ↔ NoPointer data dnsHeaderSize labels) := by
  obtain ⟨labels, e, hw, -, -, hP⟩ := parse_success_result hs
  rw [hP]
  simp only [parsedResult, Nat.add_sub_cancel]
  refine ⟨labels, hw, ?_⟩
  rcases hw.nameEnd_shape with ⟨he, hnp⟩ | ⟨pre, post, rfl, hp, he⟩
  · exact iff_of_true (by omega) hnp
  · have hpost : labelsWireLen post ≠ 1 :=
      labelsWireLen_ne_one fun l hl => hw.labels_pos l (List.mem_append_right _ hl)
    refine iff_of_false ?_ fun hnp => absurd (hnp pre post rfl) (by omega)
    rw [labelsWireLen_append]; omega

theorem nameWireLen_iff_noPointer_s1 :
    (parse (bytesOf queryS1) 33 default).1 = .Success ∧
    ∃ labels, NameWalk (bytesOf queryS1) 0 33 dnsHeaderSize 0 none labels
        ((parse (bytesOf queryS1) 33 default).2.questionEnd - 4) ∧
      ((parse (bytesOf queryS1) 33 default).2.question.nameOffset +
          (parse (bytesOf queryS1) 33 default).2.question.nameWireLen =
        (parse (bytesOf queryS1) 33 default).2.questionEnd - 4 ↔
        NoPointer (bytesOf queryS1) dnsHeaderSize labels) :=
  have hs : (parse (bytesOf queryS1) 33 default).1 = .Success := by rw [parse_queryS1]
  ⟨hs, nameWireLen_iff_noPointer hs⟩

end Parse

/-- A query whose name is a pointer to the label `a` stored after the question. -/
def queryPointerLabel : List UInt8 :=
  [0x12, 0x34, 0x01, 0x00, 0x00, 0x01, 0x00, 0x00, 0x00, 0x00, 0x00, 0x00,
   0xC0, 0x12, 0x00, 0x01, 0x00, 0x01, 0x01, 0x61, 0x00]

/-- The parser accepts `queryPointerLabel`: the name occupies the two bytes of its pointer and ends
at 14, but `name_wire_len` is 3, the label `a` reached through the pointer and a terminator. -/
theorem parse_pointerLabel_wireLen :
    (parse (bytesOf queryPointerLabel) 21 default).1 = .Success ∧
    (parse (bytesOf queryPointerLabel) 21 default).2.question.nameOffset = 12 ∧
    (parse (bytesOf queryPointerLabel) 21 default).2.question.nameWireLen = 3 ∧
    (parse (bytesOf queryPointerLabel) 21 default).2.questionEnd = 18 ∧
    (parse (bytesOf queryPointerLabel) 21 default).2.question.nameOffset +
      (parse (bytesOf queryPointerLabel) 21 default).2.question.nameWireLen ≠
        (parse (bytesOf queryPointerLabel) 21 default).2.questionEnd - 4 := by
  have hw : NameWalk (bytesOf queryPointerLabel) 0 21 dnsHeaderSize 0 none [(18, 1)] 14 :=
    .pointer (by decide) (by decide) (by decide) (by decide) (by decide)
      (.label (by decide) (by decide) (by decide) (by decide) (.stop (by decide) (by decide) (by decide)))
  rw [parse_eq_success (by decide) (by decide) (parseName_ok_iff.2 ⟨_, hw, rfl⟩) (by decide)]
  decide

/-- The parser's contract: `parse` accepts exactly the packets of at least `MIN_DNS_QUERY_SIZE`
bytes with a nonzero `qd_count` whose name at offset 12 is a `NameWalk` inside the packet leaving
room for qtype and qclass; it then reports the question's end and the two words after the name;
and it reads the packet only below `len`. -/
theorem parse_spec (data : Nat → UInt8) (len : Nat) (r : DNSParseResult) :
    ((parse data len r).1 = .Success ↔ minDnsQuerySize ≤ len ∧
      (DNSHeader.getQDCount data 0).toNat ≠ 0 ∧
      ∃ labels nameEnd, NameWalk data 0 len dnsHeaderSize 0 none labels nameEnd ∧
        nameEnd + 4 ≤ len) ∧
    (∀ labels nameEnd, (parse data len r).1 = .Success →
      NameWalk data 0 len dnsHeaderSize 0 none labels nameEnd →
      (parse data len r).2.questionEnd = nameEnd + 4 ∧
      (parse data len r).2.totalConsumed = nameEnd + 4 ∧ nameEnd + 4 ≤ len ∧
      (parse data len r).2.question.qtype = be16 data nameEnd ∧
      (parse data len r).2.question.qclass = be16 data (nameEnd + 2)) ∧
    ∀ data' : Nat → UInt8, (∀ i < len, data' i = data i) → parse data' len r = parse data len r := by
  refine ⟨?_, fun labels nameEnd hs hw => ?_, fun data' hd => parse_congr hd⟩
  · rw [parse_success_iff]
    constructor
    · rintro ⟨hlen, hqd, e, w, hn, he⟩
      obtain ⟨labels, hw, -⟩ := parseName_ok_iff.1 hn
      exact ⟨hlen, hqd, labels, e, hw, he⟩
    · rintro ⟨hlen, hqd, labels, e, hw, he⟩
      exact ⟨hlen, hqd, e, _, parseName_ok_iff.2 ⟨labels, hw, rfl⟩, he⟩
  · obtain ⟨hlen, hqd, e, w, hn, he⟩ := parse_success_iff.1 hs
    obtain ⟨labels', hw', -⟩ := parseName_ok_iff.1 hn
    obtain ⟨-, rfl⟩ := hw.det hw'
    rw [parse_eq_success hlen hqd hn he]
    exact ⟨rfl, rfl, he, rfl, rfl⟩

end XdpDns
