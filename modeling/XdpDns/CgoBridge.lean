import XdpDns.Wire.Respond

/-!
# The C boundary (`cgo_bridge.cpp`)

The entry points the Go side calls: `xdp_dns_parse` runs the parser, rejects responses and decodes
the name into the caller's `XDPDNSParseResult`; the three `xdp_dns_build_*` functions parse the
packet again and run a builder. The counters are process-wide atomics, modelled as a record passed
through each call; the pointers are non-null (the null checks are left out).

The parser's errors are returned as `static_cast<int>(err)`, so they share the status space of
`XDPDNSError`: `TruncatedMessage` is `-3`, which is also `XDP_DNS_ERR_BUFFER_TOO_SMALL`, and
`InvalidLabel` is `-5`, also `XDP_DNS_ERR_NOT_DNS_QUERY` (`status_notQuery_bufferTooSmall`).
-/

namespace XdpDns

/-! ### Status codes and state -/

def xdpDnsOk : Int := 0
def xdpDnsErrInvalidParam : Int := -1
def xdpDnsErrBufferTooSmall : Int := -3
def xdpDnsErrNotDnsQuery : Int := -5

/-- `XDPDNSParseResult`: the decoded question handed to Go. `domain` is the 256-byte buffer. -/
structure XDPDNSParseResult where
  id : UInt16
  flags : UInt16
  qtype : UInt16
  qclass : UInt16
  nameOffset : Nat
  questionEnd : Nat
  domain : Nat → UInt8
  domainLen : Nat

/-- The process-wide state of `cgo_bridge.cpp`: the initialized flag and the counters. -/
structure Globals where
  initialized : Bool
  packetsReceived : UInt64
  packetsParsed : UInt64
  parseErrors : UInt64
  responseBuilt : UInt64
  totalLatencyNs : UInt64

def xdpDnsInit (g : Globals) : Int × Globals := (xdpDnsOk, { g with initialized := true })

def xdpDnsCleanup (g : Globals) : Globals := { g with initialized := false }

def xdpDnsResetStats (g : Globals) : Globals :=
  { g with
    packetsReceived := 0, packetsParsed := 0, parseErrors := 0, responseBuilt := 0
    totalLatencyNs := 0 }

/-! ### The entry points -/

/-- `xdp_dns_parse`: the status, `*result` and the state after the call. The parser's record is
the local `parsed`, whose prior contents it overwrites on success. -/
def xdpDnsParse (packet_data : Nat → UInt8) (packet_len : Nat) (result : XDPDNSParseResult)
    (g : Globals) : Int × XDPDNSParseResult × Globals :=
  if packet_len < 12 then (xdpDnsErrInvalidParam, result, g) else
  let g := { g with packetsReceived := g.packetsReceived + 1 }
  let (err, parsed) := parse packet_data packet_len default
  if err ≠ .Success then (err.toInt, result, { g with parseErrors := g.parseErrors + 1 }) else
  if !parsed.isQuery then (xdpDnsErrNotDnsQuery, result, g) else
  let result := { result with
    id := parsed.id, flags := parsed.flags, qtype := parsed.question.qtype,
    qclass := parsed.question.qclass, nameOffset := parsed.question.nameOffset,
    questionEnd := parsed.questionEnd }
  let (err, domain, domain_len) :=
    decodeName packet_data packet_len parsed.question.nameOffset result.domain 256 0
  let result := { result with domain := domain }
  if err ≠ .Success then (err.toInt, result, { g with parseErrors := g.parseErrors + 1 }) else
  (xdpDnsOk, { result with domainLen := domain_len }, { g with packetsParsed := g.packetsParsed + 1 })

/-- The body shared by the three `xdp_dns_build_*` entry points: the status, the response buffer,
`*response_len` and the state after the call. -/
def xdpDnsBuild (bld : Builder) (original_packet : Nat → UInt8) (original_len : Nat)
    (response_buf : Nat → UInt8) (response_buf_size response_len : Nat) (g : Globals) :
    Int × (Nat → UInt8) × Nat × Globals :=
  let (err, parsed) := parse original_packet original_len default
  if err ≠ .Success then (err.toInt, response_buf, response_len, g) else
  let (built_len, response_buf) :=
    bld.build original_packet original_len parsed response_buf response_buf_size
  if built_len = 0 then (xdpDnsErrBufferTooSmall, response_buf, response_len, g) else
  (xdpDnsOk, response_buf, built_len, { g with responseBuilt := g.responseBuilt + 1 })

def xdpDnsBuildNxdomain (original_packet : Nat → UInt8) (original_len : Nat)
    (response_buf : Nat → UInt8) (response_buf_size response_len : Nat) (g : Globals) :
    Int × (Nat → UInt8) × Nat × Globals :=
  xdpDnsBuild .nxDomain original_packet original_len response_buf response_buf_size response_len g

def xdpDnsBuildAResponse (original_packet : Nat → UInt8) (original_len : Nat)
    (ipv4_addr ttl : UInt32) (response_buf : Nat → UInt8) (response_buf_size response_len : Nat)
    (g : Globals) : Int × (Nat → UInt8) × Nat × Globals :=
  xdpDnsBuild (.a ipv4_addr ttl) original_packet original_len response_buf response_buf_size
    response_len g

def xdpDnsBuildAaaaResponse (original_packet : Nat → UInt8) (original_len : Nat)
    (ipv6_addr : Nat → UInt8) (ttl : UInt32) (response_buf : Nat → UInt8)
    (response_buf_size response_len : Nat) (g : Globals) : Int × (Nat → UInt8) × Nat × Globals :=
  xdpDnsBuild (.aaaa ipv6_addr ttl) original_packet original_len response_buf response_buf_size
    response_len g

/-! ### One lemma per path of the entry points -/

section Paths

variable {data : Nat → UInt8} {len : Nat} {out : XDPDNSParseResult} {g : Globals}

theorem parse_of_short (h : len < minDnsQuerySize) (r : DNSParseResult) :
    parse data len r = (.PacketTooShort, r) := by
  simp [parse, h]

theorem xdpDnsParse_of_lt (h : len < 12) :
    xdpDnsParse data len out g = (xdpDnsErrInvalidParam, out, g) := by
  simp [xdpDnsParse, h]

theorem xdpDnsParse_of_error (h12 : ¬ len < 12) (h : (parse data len default).1 ≠ .Success) :
    xdpDnsParse data len out g = ((parse data len default).1.toInt, out,
      { g with packetsReceived := g.packetsReceived + 1, parseErrors := g.parseErrors + 1 }) := by
  rcases hp : parse data len default with ⟨err, parsed⟩
  rw [hp] at h
  simp [xdpDnsParse, h12, hp, h]

theorem xdpDnsParse_of_response (h12 : ¬ len < 12) (h : (parse data len default).1 = .Success)
    (hq : DNSHeader.isQuery data 0 = false) :
    xdpDnsParse data len out g =
      (xdpDnsErrNotDnsQuery, out, { g with packetsReceived := g.packetsReceived + 1 }) := by
  obtain ⟨labels, e, -, -, -, hP⟩ := parse_success_result h
  rcases hp : parse data len default with ⟨err, parsed⟩
  rw [hp] at h hP
  subst h hP
  simp [xdpDnsParse, h12, hp, parsedResult, hq]

theorem xdpDnsParse_of_query (h12 : ¬ len < 12) (h : (parse data len default).1 = .Success)
    (hq : DNSHeader.isQuery data 0 = true) :
    (xdpDnsParse data len out g).1 = (decodeName data len dnsHeaderSize out.domain 256 0).1.toInt ∧
    (xdpDnsParse data len out g).2.1 = { out with
      id := (parse data len default).2.id, flags := (parse data len default).2.flags,
      qtype := (parse data len default).2.question.qtype,
      qclass := (parse data len default).2.question.qclass,
      nameOffset := dnsHeaderSize, questionEnd := (parse data len default).2.questionEnd,
      domain := (decodeName data len dnsHeaderSize out.domain 256 0).2.1,
      domainLen := if (decodeName data len dnsHeaderSize out.domain 256 0).1 = .Success then
        (decodeName data len dnsHeaderSize out.domain 256 0).2.2 else out.domainLen } := by
  obtain ⟨labels, e, -, -, -, hP⟩ := parse_success_result h
  rcases hp : parse data len default with ⟨err, parsed⟩
  rw [hp] at h hP
  subst h hP
  rcases hd : decodeName data len dnsHeaderSize out.domain 256 0 with ⟨err', dom, dl⟩
  by_cases hs : err' = .Success
  · subst hs; simp [xdpDnsParse, h12, hp, parsedResult, hq, hd, Error.toInt, xdpDnsOk]
  · simp [xdpDnsParse, h12, hp, parsedResult, hq, hd, hs]

theorem decodeName_of_parse (h : (parse data len default).1 = .Success) (buf : Nat → UInt8) :
    ((decodeName data len dnsHeaderSize buf 256 0).1 = .Success ∨
      (decodeName data len dnsHeaderSize buf 256 0).1 = .BufferTooSmall) ∧
    ∀ i, 256 ≤ i → (decodeName data len dnsHeaderSize buf 256 0).2.1 i = buf i := by
  obtain ⟨labels, e, hw, -, -, -⟩ := parse_success_result h
  obtain ⟨-, hframe, hres, -⟩ := decodesWalk_of_walk hw buf 256 0
  exact ⟨hres, hframe⟩

variable {bld : Builder} {buf : Nat → UInt8} {size rl : Nat}

theorem xdpDnsBuild_of_error (h : (parse data len default).1 ≠ .Success) :
    xdpDnsBuild bld data len buf size rl g = ((parse data len default).1.toInt, buf, rl, g) := by
  rcases hp : parse data len default with ⟨err, parsed⟩
  rw [hp] at h
  simp [xdpDnsBuild, hp, h]

theorem xdpDnsBuild_of_success (h : (parse data len default).1 = .Success) :
    xdpDnsBuild bld data len buf size rl g =
      if size < (parse data len default).2.questionEnd + bld.answerSize then
        (xdpDnsErrBufferTooSmall, buf, rl, g)
      else (xdpDnsOk, (bld.build data len (parse data len default).2 buf size).2,
        (parse data len default).2.questionEnd + bld.answerSize,
        { g with responseBuilt := g.responseBuilt + 1 }) := by
  obtain ⟨htc, h12, -⟩ := parse_totalConsumed h
  rcases hp : parse data len default with ⟨err, parsed⟩
  rw [hp] at h htc h12
  subst h
  simp only at htc h12
  rw [← htc]
  by_cases hsize : size < parsed.totalConsumed + bld.answerSize
  · simp [xdpDnsBuild, hp, bld.build_of_lt hsize, hsize]
  · have hfst : (bld.build data len parsed buf size).1 = parsed.totalConsumed + bld.answerSize :=
      bld.build_fst (Nat.le_of_not_lt hsize)
    rcases hb : bld.build data len parsed buf size with ⟨n, resp⟩
    rw [hb] at hfst
    simp only at hfst
    subst hfst
    simp only [xdpDnsBuild, hp, hb, hsize, if_false, ne_eq, not_true_eq_false]
    rw [if_neg (by simp only [dnsHeaderSize] at h12; omega)]

end Paths

/-! ### Statuses -/

/-- When the façade reports `NotDnsQuery` and `BufferTooSmall`: for an accepted response and a
short buffer, and also for the parser's `InvalidLabel` and `TruncatedMessage`, whose codes are the
same integers. -/
theorem status_notQuery_bufferTooSmall (data : Nat → UInt8) (len : Nat) :
    (∀ out g, (xdpDnsParse data len out g).1 = xdpDnsErrNotDnsQuery ↔
      ((parse data len default).1 = .Success ∧ DNSHeader.isQuery data 0 = false) ∨
        (parse data len default).1 = .InvalidLabel) ∧
    ∀ bld buf size rl g, (xdpDnsBuild bld data len buf size rl g).1 = xdpDnsErrBufferTooSmall ↔
      ((parse data len default).1 = .Success ∧
        size < (parse data len default).2.questionEnd + bld.answerSize) ∨
        (parse data len default).1 = .TruncatedMessage := by
  refine ⟨fun out g => ?_, fun bld buf size rl g => ?_⟩
  · by_cases h12 : len < 12
    · rw [xdpDnsParse_of_lt h12,
        parse_of_short (by simp only [minDnsQuerySize, dnsHeaderSize]; omega)]
      simp [xdpDnsErrInvalidParam, xdpDnsErrNotDnsQuery]
    by_cases hs : (parse data len default).1 = .Success
    · by_cases hq : DNSHeader.isQuery data 0 = false
      · rw [xdpDnsParse_of_response h12 hs hq]; simp [hs, hq]
      · rw [(xdpDnsParse_of_query h12 hs (by simpa using hq)).1]
        rcases (decodeName_of_parse hs out.domain).1 with hd | hd <;>
          simp [hd, hs, hq, Error.toInt, xdpDnsErrNotDnsQuery]
    · rw [xdpDnsParse_of_error h12 hs]
      simp only [hs, false_and, false_or]
      show _ = Error.InvalidLabel.toInt ↔ _
      exact Error.toInt_injective
  · by_cases hs : (parse data len default).1 = .Success
    · rw [xdpDnsBuild_of_success hs]
      split_ifs with hsize <;> simp [hs, hsize, xdpDnsOk, xdpDnsErrBufferTooSmall]
    · rw [xdpDnsBuild_of_error hs]
      simp only [hs, false_and, false_or]
      show _ = Error.TruncatedMessage.toInt ↔ _
      exact Error.toInt_injective

/-- A query whose first length byte, `0x40`, is neither a label nor a pointer. -/
def queryInvalidLabel : List UInt8 :=
  [0x12, 0x34, 0x01, 0x00, 0x00, 0x01, 0x00, 0x00, 0x00, 0x00, 0x00, 0x00,
   0x40, 0x00, 0x00, 0x01, 0x00, 0x01]

/-- The parser rejects `queryInvalidLabel` and S1 cut after 20 bytes, and the façade reports them
as `NotDnsQuery` and `BufferTooSmall`. -/
theorem status_collision :
    (parse (bytesOf queryInvalidLabel) 18 default).1 = .InvalidLabel ∧
    (xdpDnsParse (bytesOf queryInvalidLabel) 18 ⟨0, 0, 0, 0, 0, 0, fun _ => 0, 0⟩
      ⟨true, 0, 0, 0, 0, 0⟩).1 = xdpDnsErrNotDnsQuery ∧
    (parse (bytesOf (queryS1.take 20)) 20 default).1 = .TruncatedMessage ∧
    (xdpDnsBuildNxdomain (bytesOf (queryS1.take 20)) 20 (fun _ => 0) 512 0
      ⟨true, 0, 0, 0, 0, 0⟩).1 = xdpDnsErrBufferTooSmall := by
  have h₁ : (parse (bytesOf queryInvalidLabel) 18 default).1 = .InvalidLabel := by
    simp +decide [parse, parseName, parseName.loop, bytesOf, queryInvalidLabel, minDnsQuerySize,
      dnsHeaderSize, DNSHeader.getQDCount, be16, maxLabelLength]
  have h₂ : (parse (bytesOf (queryS1.take 20)) 20 default).1 = .TruncatedMessage := by
    simp +decide [parse, parseName, parseName.loop, bytesOf, queryS1, minDnsQuerySize,
      dnsHeaderSize, DNSHeader.getQDCount, be16, maxLabelLength]
  refine ⟨h₁, ?_, h₂, ?_⟩
  · rw [xdpDnsParse_of_error (by decide) (by rw [h₁]; decide), h₁]; rfl
  · rw [xdpDnsBuildNxdomain, xdpDnsBuild_of_error (by rw [h₂]; decide), h₂]; rfl

/-! ### What a failed call leaves behind -/

/-- What `parse` and `xdp_dns_parse` leave in the caller's record when they fail. `parse` writes
the header fields before it checks `qd_count` and the name's fields before it walks the name;
`xdp_dns_parse` writes nothing unless the decoder runs out of room in `domain`, after the
question's fields are filled in. -/
theorem parse_failure_frame (data : Nat → UInt8) (len : Nat) (r : DNSParseResult)
    (out : XDPDNSParseResult) (g : Globals) :
    ((parse data len r).1 ≠ .Success →
      ((parse data len r).1 = .PacketTooShort → (parse data len r).2 = r) ∧
      ((parse data len r).1 ≠ .PacketTooShort → ∃ ns no nw, (parse data len r).2 = { r with
        header := 0, id := DNSHeader.getId data 0, flags := DNSHeader.getFlags data 0,
        isQuery := DNSHeader.isQuery data 0,
        question := { r.question with nameStart := ns, nameOffset := no, nameWireLen := nw } })) ∧
    ((xdpDnsParse data len out g).1 ≠ xdpDnsOk →
      (xdpDnsParse data len out g).1 ≠ Error.BufferTooSmall.toInt →
      (xdpDnsParse data len out g).2.1 = out) ∧
    ((xdpDnsParse data len out g).1 = Error.BufferTooSmall.toInt →
      ∃ domain : Nat → UInt8, (∀ i, 256 ≤ i → domain i = out.domain i) ∧
        (xdpDnsParse data len out g).2.1 = { out with
          id := (parse data len default).2.id, flags := (parse data len default).2.flags,
          qtype := (parse data len default).2.question.qtype,
          qclass := (parse data len default).2.question.qclass,
          nameOffset := dnsHeaderSize, questionEnd := (parse data len default).2.questionEnd,
          domain := domain }) := by
  refine ⟨parse_failure_writes, ?_⟩
  by_cases h12 : len < 12
  · simp [xdpDnsParse_of_lt h12, xdpDnsErrInvalidParam, Error.toInt]
  by_cases hs : (parse data len default).1 = .Success
  · by_cases hq : DNSHeader.isQuery data 0 = false
    · simp [xdpDnsParse_of_response h12 hs hq, xdpDnsErrNotDnsQuery, Error.toInt]
    · have hq' : DNSHeader.isQuery data 0 = true := by simpa using hq
      obtain ⟨hst, hout⟩ := @xdpDnsParse_of_query data len out g h12 hs hq'
      rw [hst]
      rcases decodeName_of_parse hs out.domain with ⟨hd | hd, hframe⟩ <;> rw [hd]
      · simp [Error.toInt, xdpDnsOk]
      · exact ⟨fun h => absurd rfl, fun _ => ⟨_, hframe, by rw [hout, hd]; rfl⟩⟩
  · rw [xdpDnsParse_of_error h12 hs]
    refine ⟨fun _ _ => rfl, fun h => absurd (Error.toInt_injective.1 h) parse_ne_bufferTooSmall⟩

/-! ### What a successful call writes -/

/-- On a query the parser accepts, `xdp_dns_parse` succeeds exactly when the decoded name `n` (the
labels of the name's walk, lowercased and joined by `.`) fits the 256 bytes of `domain`. It then
fills in the question's fields, writes `n` at the start of `domain` followed by a zero byte only
when `0 < |n| < 256`, leaves the other bytes of `domain` as they were, sets `domain_len` to `|n|`
and counts the packet as received and parsed. A longer name gives `BufferTooSmall`. -/
theorem xdpDnsParse_query_spec (data : Nat → UInt8) (len : Nat) (h12 : 12 ≤ len)
    (hs : (parse data len default).1 = .Success) (hq : DNSHeader.isQuery data 0 = true)
    (out : XDPDNSParseResult) (g : Globals) :
    ∃ labels e, NameWalk data 0 len dnsHeaderSize 0 none labels e ∧
      ((decodedName data labels).length ≤ 256 →
        xdpDnsParse data len out g = (xdpDnsOk, { out with
          id := (parse data len default).2.id, flags := (parse data len default).2.flags,
          qtype := (parse data len default).2.question.qtype,
          qclass := (parse data len default).2.question.qclass,
          nameOffset := dnsHeaderSize, questionEnd := (parse data len default).2.questionEnd,
          domain := decodeName.terminate 256 (decodedName data labels).length
            (writeBytes out.domain 0 (decodedName data labels)),
          domainLen := (decodedName data labels).length },
          { g with packetsReceived := g.packetsReceived + 1, packetsParsed := g.packetsParsed + 1 })) ∧
      (256 < (decodedName data labels).length →
        (xdpDnsParse data len out g).1 = Error.BufferTooSmall.toInt) := by
  obtain ⟨labels, e, hw, -, -, hP⟩ := parse_success_result hs
  have ht := decodedTail_true data labels
  refine ⟨labels, e, hw, fun hfit => ?_, fun hover => ?_⟩
  · have hd : decodeName data len dnsHeaderSize out.domain 256 0 =
        (.Success, decodeName.terminate 256 (decodedName data labels).length
          (writeBytes out.domain 0 (decodedName data labels)), (decodedName data labels).length) := by
      rw [decodeName, decodeName.loop_walk_fits hw (by rw [ht]; omega), ht, Nat.zero_add]
    rcases hp : parse data len default with ⟨err, parsed⟩
    rw [hp] at hs hP
    subst hs hP
    simp [xdpDnsParse, Nat.not_lt.2 h12, hp, parsedResult, hq, hd]
  · rw [(xdpDnsParse_of_query (Nat.not_lt.2 h12) hs hq).1,
      (decodesWalk_of_walk hw out.domain 256 0).2.2.2.2 hover]

theorem xdpDnsParse_query_spec_s1 :
    let out : XDPDNSParseResult := ⟨0, 0, 0, 0, 0, 0, fun _ => 0, 0⟩
    let g : Globals := ⟨true, 0, 0, 0, 0, 0⟩
    12 ≤ 33 ∧ (parse (bytesOf queryS1) 33 default).1 = .Success ∧
    DNSHeader.isQuery (bytesOf queryS1) 0 = true ∧
    ∃ labels e, NameWalk (bytesOf queryS1) 0 33 dnsHeaderSize 0 none labels e ∧
      ((decodedName (bytesOf queryS1) labels).length ≤ 256 →
        xdpDnsParse (bytesOf queryS1) 33 out g = (xdpDnsOk, { out with
          id := (parse (bytesOf queryS1) 33 default).2.id,
          flags := (parse (bytesOf queryS1) 33 default).2.flags,
          qtype := (parse (bytesOf queryS1) 33 default).2.question.qtype,
          qclass := (parse (bytesOf queryS1) 33 default).2.question.qclass,
          nameOffset := dnsHeaderSize, questionEnd := (parse (bytesOf queryS1) 33 default).2.questionEnd,
          domain := decodeName.terminate 256 (decodedName (bytesOf queryS1) labels).length
            (writeBytes out.domain 0 (decodedName (bytesOf queryS1) labels)),
          domainLen := (decodedName (bytesOf queryS1) labels).length },
          { g with packetsReceived := g.packetsReceived + 1, packetsParsed := g.packetsParsed + 1 })) ∧
      (256 < (decodedName (bytesOf queryS1) labels).length →
        (xdpDnsParse (bytesOf queryS1) 33 out g).1 = Error.BufferTooSmall.toInt) :=
  have hs : (parse (bytesOf queryS1) 33 default).1 = .Success := by rw [parse_queryS1]
  have hq : DNSHeader.isQuery (bytesOf queryS1) 0 = true := by decide
  ⟨by decide, hs, hq, xdpDnsParse_query_spec _ _ (by decide) hs hq _ _⟩

/-! ### The façade does not take its own responses for queries -/

/-- Every response a builder makes from an accepted query, handed back to `xdp_dns_parse`, is
refused: the status is `NotDnsQuery` when the parser accepts it and the parser's error otherwise,
`*result` is left as it was, and `packets_parsed` does not move. -/
theorem xdpDnsParse_of_built (data : Nat → UInt8) (len : Nat) (r : DNSParseResult)
    (hs : (parse data len r).1 = .Success) (bld : Builder) (ql : Nat) (resp : Nat → UInt8)
    (size : Nat) (hsize : (parse data len r).2.questionEnd + bld.answerSize ≤ size)
    (out : XDPDNSParseResult) (g : Globals) :
    let R := bld.build data ql (parse data len r).2 resp size
    (xdpDnsParse R.2 R.1 out g).1 = (if (parse R.2 R.1 default).1 = .Success then
        xdpDnsErrNotDnsQuery else (parse R.2 R.1 default).1.toInt) ∧
      (xdpDnsParse R.2 R.1 out g).1 ≠ xdpDnsOk ∧ (xdpDnsParse R.2 R.1 out g).2.1 = out ∧
      (xdpDnsParse R.2 R.1 out g).2.2.packetsParsed = g.packetsParsed := by
  intro R
  obtain ⟨htc, h12, -⟩ := parse_totalConsumed hs
  rw [← htc] at hsize
  have hlen : ¬ R.1 < 12 := by
    rw [bld.build_fst hsize]; simp only [dnsHeaderSize] at h12; omega
  by_cases hp : (parse R.2 R.1 default).1 = .Success
  · rw [xdpDnsParse_of_response hlen hp (bld.build_flags hsize h12.le).1, if_pos hp]
    exact ⟨rfl, show xdpDnsErrNotDnsQuery ≠ xdpDnsOk by decide, rfl, rfl⟩
  · rw [xdpDnsParse_of_error hlen hp, if_neg hp]
    exact ⟨rfl, fun h => hp (Error.toInt_injective.1 (show _ = Error.Success.toInt from h)), rfl, rfl⟩

theorem xdpDnsParse_of_built_s1 :
    (parse (bytesOf queryS1) 33 default).1 = .Success ∧
    (parse (bytesOf queryS1) 33 default).2.questionEnd + Builder.nxDomain.answerSize ≤ 512 ∧
    let R := Builder.nxDomain.build (bytesOf queryS1) 33 (parse (bytesOf queryS1) 33 default).2
      (fun _ => 0) 512
    (xdpDnsParse R.2 R.1 ⟨0, 0, 0, 0, 0, 0, fun _ => 0, 0⟩ ⟨true, 0, 0, 0, 0, 0⟩).1 =
        (if (parse R.2 R.1 default).1 = .Success then xdpDnsErrNotDnsQuery
          else (parse R.2 R.1 default).1.toInt) ∧
      (xdpDnsParse R.2 R.1 ⟨0, 0, 0, 0, 0, 0, fun _ => 0, 0⟩ ⟨true, 0, 0, 0, 0, 0⟩).1 ≠ xdpDnsOk ∧
      (xdpDnsParse R.2 R.1 ⟨0, 0, 0, 0, 0, 0, fun _ => 0, 0⟩ ⟨true, 0, 0, 0, 0, 0⟩).2.1 =
        ⟨0, 0, 0, 0, 0, 0, fun _ => 0, 0⟩ ∧
      (xdpDnsParse R.2 R.1 ⟨0, 0, 0, 0, 0, 0, fun _ => 0, 0⟩ ⟨true, 0, 0, 0, 0, 0⟩).2.2.packetsParsed =
        0 :=
  have hs : (parse (bytesOf queryS1) 33 default).1 = .Success := by rw [parse_queryS1]
  have hsize : (parse (bytesOf queryS1) 33 default).2.questionEnd + Builder.nxDomain.answerSize ≤
      512 := by rw [parse_queryS1]; decide
  ⟨hs, hsize, xdpDnsParse_of_built _ _ _ hs _ _ _ _ hsize _ _⟩

/-! ### The façade reads a packet only below its length -/

/-- `xdp_dns_parse` and the `xdp_dns_build_*` entry points read the packet only below its length:
two packets that agree on their first `len` bytes get the same status, `*result` and counters from
`xdp_dns_parse`, and the same status, response, `*response_len` and counters from each builder.
`decodeName` on its own reads a label's bytes before it checks them against `packet_len`; the
façade calls it only on a name `parse` has walked inside the packet. -/
theorem facade_reads_within_len {data data' : Nat → UInt8} {len : Nat}
    (h : ∀ i < len, data' i = data i) (out : XDPDNSParseResult) (g : Globals) (bld : Builder)
    (buf : Nat → UInt8) (size rl : Nat) :
    xdpDnsParse data' len out g = xdpDnsParse data len out g ∧
      xdpDnsBuild bld data' len buf size rl g = xdpDnsBuild bld data len buf size rl g := by
  have hp : parse data' len default = parse data len default := parse_congr h
  by_cases hs : (parse data len default).1 = .Success
  swap
  · refine ⟨?_, by rw [xdpDnsBuild_of_error hs, xdpDnsBuild_of_error (by rwa [hp]), hp]⟩
    by_cases h12 : len < 12
    · rw [xdpDnsParse_of_lt h12, xdpDnsParse_of_lt h12]
    · rw [xdpDnsParse_of_error h12 hs, xdpDnsParse_of_error h12 (by rwa [hp]), hp]
  obtain ⟨labels, e, hw, -, he, hP⟩ := parse_success_result hs
  have hdec := (decodesWalk_of_walk hw out.domain 256 0).1 data' h
  refine ⟨?_, ?_⟩
  · simp only [xdpDnsParse, hp]
    rcases hpp : parse data len default with ⟨err, parsed⟩
    rw [hpp] at hs hP
    subst hs hP
    simp only [parsedResult, hdec]
  · obtain ⟨-, h12, hh⟩ := parse_totalConsumed hs
    simp only [dnsHeaderSize] at h12
    rw [xdpDnsBuild_of_success hs, xdpDnsBuild_of_success (by rwa [hp]), hp,
      bld.build_congr (fun i hi => h i (by rw [hP] at hi; simp only [parsedResult] at hi; omega))
        (by omega) len]

theorem facade_reads_within_len_s1 :
    let out : XDPDNSParseResult := ⟨0, 0, 0, 0, 0, 0, fun _ => 0, 0⟩
    let g : Globals := ⟨true, 0, 0, 0, 0, 0⟩
    (∀ i < 33, bytesOf (queryS1 ++ [0xFF]) i = bytesOf queryS1 i) ∧
    xdpDnsParse (bytesOf (queryS1 ++ [0xFF])) 33 out g = xdpDnsParse (bytesOf queryS1) 33 out g ∧
    xdpDnsBuild .nxDomain (bytesOf (queryS1 ++ [0xFF])) 33 (fun _ => 0) 512 0 g =
      xdpDnsBuild .nxDomain (bytesOf queryS1) 33 (fun _ => 0) 512 0 g :=
  have h : ∀ i < 33, bytesOf (queryS1 ++ [0xFF]) i = bytesOf queryS1 i := by decide
  ⟨h, facade_reads_within_len h _ _ _ _ _ _⟩

/-! ### Partial writes on failure -/

/-- A query for five 63-byte labels of `a`: 319 bytes once decoded, more than `domain` holds. -/
def queryLongName : List UInt8 :=
  [0x12, 0x34, 0x01, 0x00, 0x00, 0x01, 0x00, 0x00, 0x00, 0x00, 0x00, 0x00] ++
    (List.replicate 5 (63 :: List.replicate 63 0x61)).flatten ++ [0, 0x00, 0x01, 0x00, 0x01]

theorem walk_queryLongName :
    NameWalk (bytesOf queryLongName) 0 337 dnsHeaderSize 0 none
      [(12, 63), (76, 63), (140, 63), (204, 63), (268, 63)] 333 :=
  .label (by decide) (by decide) (by decide) (by decide)
    (.label (by decide) (by decide) (by decide) (by decide)
      (.label (by decide) (by decide) (by decide) (by decide)
        (.label (by decide) (by decide) (by decide) (by decide)
          (.label (by decide) (by decide) (by decide) (by decide)
            (.stop (by decide) (by decide) (by decide))))))

/-- S1's first 17 bytes with `qd_count = 0`: `parse` fails with `InvalidHeader` and has written
the packet's id into a record whose id was 0. `queryLongName` is accepted by the parser, and
`xdp_dns_parse` fails on it with `BufferTooSmall` after writing the packet's id into `*result`,
whose id was 0. -/
theorem parse_invalidHeader_writes_id :
    (parse (bytesOf ((queryS1.set 5 0).take 17)) 17 default).1 = .InvalidHeader ∧
    (parse (bytesOf ((queryS1.set 5 0).take 17)) 17 default).2.id = 0x1234 ∧
    (default : DNSParseResult).id = 0 ∧
    (parse (bytesOf queryLongName) 337 default).1 = .Success ∧
    (xdpDnsParse (bytesOf queryLongName) 337 ⟨0, 0, 0, 0, 0, 0, fun _ => 0, 0⟩
      ⟨true, 0, 0, 0, 0, 0⟩).1 = Error.BufferTooSmall.toInt ∧
    (xdpDnsParse (bytesOf queryLongName) 337 ⟨0, 0, 0, 0, 0, 0, fun _ => 0, 0⟩
      ⟨true, 0, 0, 0, 0, 0⟩).2.1.id = 0x1234 := by
  have hp : parse (bytesOf queryLongName) 337 default =
      (.Success, parsedResult (bytesOf queryLongName) default 333 321) :=
    parse_eq_success (by decide) (by decide) (parseName_ok_iff.2 ⟨_, walk_queryLongName, rfl⟩)
      (by decide)
  have hs : (parse (bytesOf queryLongName) 337 default).1 = .Success := by rw [hp]
  obtain ⟨hst, hout⟩ := @xdpDnsParse_of_query (bytesOf queryLongName) 337
    ⟨0, 0, 0, 0, 0, 0, fun _ => 0, 0⟩ ⟨true, 0, 0, 0, 0, 0⟩ (by decide) hs (by decide)
  have hover := (decodesWalk_of_walk walk_queryLongName (fun _ => 0) 256 0).2.2.2.2
    (by simp [decodedName, labelBytes, List.intercalate])
  refine ⟨?_, ?_, rfl, hs, by rw [hst, hover], by rw [hout, hp]; decide⟩ <;>
    simp +decide [parse, bytesOf, queryS1, minDnsQuerySize, dnsHeaderSize, DNSHeader.getQDCount,
      DNSHeader.getId, be16]

end XdpDns
