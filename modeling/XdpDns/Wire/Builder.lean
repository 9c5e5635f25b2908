import XdpDns.Wire.DecodeName

/-!
# The response builder (`DNSResponseBuilder`)

Every builder copies the query's first `total_consumed` bytes into the response buffer, rewrites
the flags word and some of the counts in place, and the two address builders append one answer
record whose name is the compression pointer `0xC0 0x0C` back to the question's name. The
response is returned with the length the builder reports; a buffer that is too small gives
length 0 and is left untouched.

The two negative answers (`buildNXDomain`, `buildRefused`) are one definition with the RCODE as
parameter, and the two address answers (`buildAResponse`, `buildAAAAResponse`) one with the
answer's size, type, RDLENGTH and data as parameters: the source's functions differ only there.
The negative answers zero `an_count`, `ns_count` and `ar_count`; the address answers set
`an_count` to 1 and leave the other two counts as the query had them.
-/

namespace XdpDns

/-- `std::memcpy(dst, src, n)`. -/
def memcpy (dst src : Nat → UInt8) (n : Nat) : Nat → UInt8 := fun i => if i < n then src i else dst i

/-- A 16-bit word stored in network order (`htons` and a store). -/
def bytes16 (v : Nat) : List UInt8 := [UInt8.ofNat (v / 256), UInt8.ofNat v]

/-- A 32-bit word stored in network order (`htonl` and a store). -/
def bytes32 (v : Nat) : List UInt8 :=
  [UInt8.ofNat (v / 2 ^ 24), UInt8.ofNat (v / 2 ^ 16), UInt8.ofNat (v / 256), UInt8.ofNat v]

/-- A `uint32_t` stored as it is, on a little-endian host. -/
def hostBytes32 (v : Nat) : List UInt8 :=
  [UInt8.ofNat v, UInt8.ofNat (v / 256), UInt8.ofNat (v / 2 ^ 16), UInt8.ofNat (v / 2 ^ 24)]

/-- `hdr->field = htons(v)` for the header word at offset `k`. -/
def store16 (buf : Nat → UInt8) (k v : Nat) : Nat → UInt8 := writeBytes buf k (bytes16 v)

/-- `buildNXDomain` and `buildRefused`: the response length and buffer. -/
def buildNegative (rcode : Nat) (query : Nat → UInt8) (_query_len : Nat)
    (parsed : DNSParseResult) (response : Nat → UInt8) (response_buf_size : Nat) :
    Nat × (Nat → UInt8) :=
  if response_buf_size < parsed.totalConsumed then (0, response) else
  let response := memcpy response query parsed.totalConsumed
  let flags := (DNSHeader.getFlags query parsed.header).toNat
  let flags := (flags ||| 0x8000 ||| 0x0080) &&& 0xFFF0 ||| rcode
  let response := store16 response 2 flags
  let response := store16 (store16 (store16 response 6 0) 8 0) 10 0
  (parsed.totalConsumed, response)

def buildNXDomain (query : Nat → UInt8) (query_len : Nat) (parsed : DNSParseResult)
    (response : Nat → UInt8) (response_buf_size : Nat) : Nat × (Nat → UInt8) :=
  buildNegative 0x0003 query query_len parsed response response_buf_size

def buildRefused (query : Nat → UInt8) (query_len : Nat) (parsed : DNSParseResult)
    (response : Nat → UInt8) (response_buf_size : Nat) : Nat × (Nat → UInt8) :=
  buildNegative 0x0005 query query_len parsed response response_buf_size

/-- The answer record of an address response: the name pointer, type, class IN, TTL, RDLENGTH
and data, in the order the builders write them. -/
def answerRecord (rtype rdlength : Nat) (rdata : List UInt8) (ttl : UInt32) : List UInt8 :=
  [0xC0, UInt8.ofNat dnsHeaderSize] ++ bytes16 rtype ++ bytes16 dns_class.IN ++ bytes32 ttl.toNat ++
    bytes16 rdlength ++ rdata

/-- `buildAResponse` and `buildAAAAResponse`: the response length and buffer. -/
def buildAddress (answer_size rtype rdlength : Nat) (rdata : List UInt8) (query : Nat → UInt8)
    (_query_len : Nat) (parsed : DNSParseResult) (ttl : UInt32) (response : Nat → UInt8)
    (response_buf_size : Nat) : Nat × (Nat → UInt8) :=
  let total_size := parsed.totalConsumed + answer_size
  if response_buf_size < total_size then (0, response) else
  let response := memcpy response query parsed.totalConsumed
  let flags := (DNSHeader.getFlags query parsed.header).toNat
  let flags := (flags ||| 0x8000 ||| 0x0400 ||| 0x0080) &&& 0xFFF0
  let response := store16 (store16 response 2 flags) 6 1
  let record := answerRecord rtype rdlength rdata ttl
  (parsed.totalConsumed + record.length, writeBytes response parsed.totalConsumed record)

/-- `ip` is the address in network order, as the caller stores it in a `uint32_t`. -/
def buildAResponse (query : Nat → UInt8) (query_len : Nat) (parsed : DNSParseResult)
    (ip ttl : UInt32) (response : Nat → UInt8) (response_buf_size : Nat) : Nat × (Nat → UInt8) :=
  buildAddress 16 dns_type.A 4 (hostBytes32 ip.toNat) query query_len parsed ttl response
    response_buf_size

/-- `ipv6` points to the 16 address bytes. -/
def buildAAAAResponse (query : Nat → UInt8) (query_len : Nat) (parsed : DNSParseResult)
    (ipv6 : Nat → UInt8) (ttl : UInt32) (response : Nat → UInt8) (response_buf_size : Nat) :
    Nat × (Nat → UInt8) :=
  buildAddress 28 dns_type.AAAA 16 ((List.range 16).map ipv6) query query_len parsed ttl response
    response_buf_size

/-! ### The four builders as one family -/

/-- A builder with the arguments of its answer. -/
inductive Builder where
  | nxDomain
  | refused
  | a (ip ttl : UInt32)
  | aaaa (ipv6 : Nat → UInt8) (ttl : UInt32)

namespace Builder

def build : Builder → (Nat → UInt8) → Nat → DNSParseResult → (Nat → UInt8) → Nat →
    Nat × (Nat → UInt8)
  | nxDomain => buildNXDomain
  | refused => buildRefused
  | a ip ttl => fun q ql p => buildAResponse q ql p ip ttl
  | aaaa ipv6 ttl => fun q ql p => buildAAAAResponse q ql p ipv6 ttl

/-- The bytes the builder appends after the question (`answer_size`). -/
def answerSize : Builder → Nat
  | nxDomain | refused => 0
  | a .. => 16
  | aaaa .. => 28

def rcode : Builder → Nat
  | nxDomain => 3
  | refused => 5
  | a .. | aaaa .. => 0

def anCount : Builder → Nat
  | nxDomain | refused => 0
  | a .. | aaaa .. => 1

/-- The type, RDLENGTH, TTL and data of the answer record, for the address builders. -/
def answer : Builder → Option (Nat × Nat × UInt32 × List UInt8)
  | nxDomain | refused => none
  | a ip ttl => some (dns_type.A, 4, ttl, hostBytes32 ip.toNat)
  | aaaa ipv6 ttl => some (dns_type.AAAA, 16, ttl, (List.range 16).map ipv6)

end Builder

theorem memcpy_of_lt {dst src : Nat → UInt8} {n i : Nat} (h : i < n) : memcpy dst src n i = src i :=
  if_pos h

theorem memcpy_of_ge {dst src : Nat → UInt8} {n i : Nat} (h : n ≤ i) : memcpy dst src n i = dst i :=
  if_neg (Nat.not_lt.2 h)

theorem memcpy_congr {dst src src' : Nat → UInt8} {n : Nat} (h : ∀ i < n, src' i = src i) :
    memcpy dst src' n = memcpy dst src n :=
  funext fun i => by
    unfold memcpy
    split_ifs with hi
    · exact h i hi
    · rfl

theorem store16_of_ne {buf : Nat → UInt8} {k v i : Nat} (h₀ : i ≠ k) (h₁ : i ≠ k + 1) :
    store16 buf k v i = buf i := by
  simp [store16, bytes16, writeBytes, Function.update_noteq h₁, Function.update_noteq h₀]

theorem be16_store16 (buf : Nat → UInt8) (k v : Nat) (hv : v < 65536) :
    (be16 (store16 buf k v) k).toNat = v := by
  rw [be16_toNat]
  simp only [store16, bytes16, writeBytes, Function.update_same,
    Function.update_noteq (Nat.succ_ne_self k).symm]
  rw [toNat_uint8_ofNat, toNat_uint8_ofNat]; omega

theorem be16_of_eq {buf buf' : Nat → UInt8} {k : Nat} (h₀ : buf' k = buf k)
    (h₁ : buf' (k + 1) = buf (k + 1)) : be16 buf' k = be16 buf k := be16_congr h₀ h₁

theorem flags_lt (x s c : Nat) (hc : c < 16) : (x ||| s) &&& 0xFFF0 ||| c < 2 ^ 16 :=
  Nat.or_lt_two_pow (Nat.lt_of_le_of_lt Nat.and_le_right (by decide)) (by omega)

/-! ### The negative answers -/

section Negative

variable {rcode : Nat} {query : Nat → UInt8} {query_len : Nat} {parsed : DNSParseResult}
  {response : Nat → UInt8} {size : Nat}

theorem buildNegative_eq (hsize : parsed.totalConsumed ≤ size) :
    buildNegative rcode query query_len parsed response size =
      (parsed.totalConsumed, store16 (store16 (store16 (store16 (memcpy response query
        parsed.totalConsumed) 2 (((DNSHeader.getFlags query parsed.header).toNat ||| 0x8000 |||
          0x0080) &&& 0xFFF0 ||| rcode)) 6 0) 8 0) 10 0) := by
  simp [buildNegative, Nat.not_lt.2 hsize]

theorem buildNegative_query (hsize : parsed.totalConsumed ≤ size) {i : Nat}
    (hi : i < parsed.totalConsumed) (h₂ : i ≠ 2 ∧ i ≠ 3) (h₆ : i < 6 ∨ 12 ≤ i) :
    (buildNegative rcode query query_len parsed response size).2 i = query i := by
  rw [buildNegative_eq hsize]
  simp only [store16_of_ne (show i ≠ 10 by omega) (show i ≠ 11 by omega),
    store16_of_ne (show i ≠ 8 by omega) (show i ≠ 9 by omega),
    store16_of_ne (show i ≠ 6 by omega) (show i ≠ 7 by omega), store16_of_ne h₂.1 h₂.2,
    memcpy_of_lt hi]

theorem buildNegative_flags (hsize : parsed.totalConsumed ≤ size) (hrc : rcode < 16) :
    (DNSHeader.getFlags (buildNegative rcode query query_len parsed response size).2 0).toNat =
      ((DNSHeader.getFlags query parsed.header).toNat ||| 0x8000 ||| 0x0080) &&& 0xFFF0 ||| rcode := by
  rw [buildNegative_eq hsize, DNSHeader.getFlags, Nat.zero_add,
    be16_of_eq (store16_of_ne (by decide) (by decide)) (store16_of_ne (by decide) (by decide)),
    be16_of_eq (store16_of_ne (by decide) (by decide)) (store16_of_ne (by decide) (by decide)),
    be16_of_eq (store16_of_ne (by decide) (by decide)) (store16_of_ne (by decide) (by decide)),
    be16_store16 _ _ _ (flags_lt _ _ _ hrc)]

theorem buildNegative_counts (hsize : parsed.totalConsumed ≤ size) :
    (DNSHeader.getANCount (buildNegative rcode query query_len parsed response size).2 0).toNat = 0 ∧
    (DNSHeader.getNSCount (buildNegative rcode query query_len parsed response size).2 0).toNat = 0 ∧
    (DNSHeader.getARCount (buildNegative rcode query query_len parsed response size).2 0).toNat = 0 := by
  rw [buildNegative_eq hsize]
  refine ⟨?_, ?_, be16_store16 _ _ _ (by decide)⟩
  · rw [DNSHeader.getANCount,
      be16_of_eq (store16_of_ne (by decide) (by decide)) (store16_of_ne (by decide) (by decide)),
      be16_of_eq (store16_of_ne (by decide) (by decide)) (store16_of_ne (by decide) (by decide)),
      be16_store16 _ _ _ (by decide)]
  · rw [DNSHeader.getNSCount,
      be16_of_eq (store16_of_ne (by decide) (by decide)) (store16_of_ne (by decide) (by decide)),
      be16_store16 _ _ _ (by decide)]

theorem buildNegative_of_ge (hsize : parsed.totalConsumed ≤ size)
    (h12 : dnsHeaderSize ≤ parsed.totalConsumed) {i : Nat} (hi : parsed.totalConsumed ≤ i) :
    (buildNegative rcode query query_len parsed response size).2 i = response i := by
  simp only [dnsHeaderSize] at h12
  rw [buildNegative_eq hsize]
  simp only [store16_of_ne (show i ≠ 10 by omega) (show i ≠ 11 by omega),
    store16_of_ne (show i ≠ 8 by omega) (show i ≠ 9 by omega),
    store16_of_ne (show i ≠ 6 by omega) (show i ≠ 7 by omega),
    store16_of_ne (show i ≠ 2 by omega) (show i ≠ 3 by omega), memcpy_of_ge hi]

end Negative

/-! ### The address answers -/

section Address

variable {answer_size rtype rdlength : Nat} {rdata : List UInt8} {query : Nat → UInt8}
  {query_len : Nat} {parsed : DNSParseResult} {ttl : UInt32} {response : Nat → UInt8} {size : Nat}

theorem buildAddress_eq (hsize : parsed.totalConsumed + answer_size ≤ size) :
    buildAddress answer_size rtype rdlength rdata query query_len parsed ttl response size =
      (parsed.totalConsumed + (answerRecord rtype rdlength rdata ttl).length,
        writeBytes (store16 (store16 (memcpy response query parsed.totalConsumed) 2
          (((DNSHeader.getFlags query parsed.header).toNat ||| 0x8000 ||| 0x0400 ||| 0x0080) &&&
            0xFFF0)) 6 1) parsed.totalConsumed (answerRecord rtype rdlength rdata ttl)) := by
  simp [buildAddress, Nat.not_lt.2 hsize]

theorem buildAddress_query (hsize : parsed.totalConsumed + answer_size ≤ size) {i : Nat}
    (hi : i < parsed.totalConsumed) (h₂ : i ≠ 2 ∧ i ≠ 3) (h₆ : i ≠ 6 ∧ i ≠ 7) :
    (buildAddress answer_size rtype rdlength rdata query query_len parsed ttl response size).2 i =
      query i := by
  rw [buildAddress_eq hsize]
  simp only [writeBytes_of_lt _ _ _ hi, store16_of_ne h₆.1 h₆.2, store16_of_ne h₂.1 h₂.2,
    memcpy_of_lt hi]

theorem buildAddress_header (hsize : parsed.totalConsumed + answer_size ≤ size)
    (h12 : dnsHeaderSize ≤ parsed.totalConsumed) :
    (DNSHeader.getFlags
        (buildAddress answer_size rtype rdlength rdata query query_len parsed ttl response size).2
        0).toNat =
      ((DNSHeader.getFlags query parsed.header).toNat ||| 0x8000 ||| 0x0400 ||| 0x0080) &&& 0xFFF0 ∧
    (DNSHeader.getANCount
        (buildAddress answer_size rtype rdlength rdata query query_len parsed ttl response size).2
        0).toNat = 1 := by
  simp only [dnsHeaderSize] at h12
  rw [buildAddress_eq hsize, DNSHeader.getFlags, DNSHeader.getANCount, Nat.zero_add, Nat.zero_add,
    be16_of_eq (writeBytes_of_lt _ _ _ (by omega)) (writeBytes_of_lt _ _ _ (by omega)),
    be16_of_eq (writeBytes_of_lt _ _ _ (by omega)) (writeBytes_of_lt _ _ _ (by omega)),
    be16_of_eq (store16_of_ne (by decide) (by decide)) (store16_of_ne (by decide) (by decide))]
  exact ⟨be16_store16 _ _ _ (by simpa using flags_lt _ _ 0 (by decide)),
    be16_store16 _ _ _ (by decide)⟩

theorem buildAddress_of_ge (hsize : parsed.totalConsumed + answer_size ≤ size)
    (h12 : dnsHeaderSize ≤ parsed.totalConsumed) {i : Nat}
    (hi : (buildAddress answer_size rtype rdlength rdata query query_len parsed ttl response size).1 ≤ i) :
    (buildAddress answer_size rtype rdlength rdata query query_len parsed ttl response size).2 i =
      response i := by
  simp only [dnsHeaderSize] at h12
  rw [buildAddress_eq hsize] at hi ⊢
  dsimp only at hi ⊢
  rw [writeBytes_of_ge _ _ _ hi, store16_of_ne (show i ≠ 6 by omega) (show i ≠ 7 by omega),
    store16_of_ne (show i ≠ 2 by omega) (show i ≠ 3 by omega), memcpy_of_ge (by omega)]

end Address

/-! ### Every builder -/

namespace Builder

variable {q : Nat → UInt8} {ql : Nat} {p : DNSParseResult} {resp : Nat → UInt8} {size : Nat}

theorem build_fst (bld : Builder) (hsize : p.totalConsumed + bld.answerSize ≤ size) :
    (bld.build q ql p resp size).1 = p.totalConsumed + bld.answerSize := by
  cases bld <;> simp only [answerSize, Nat.add_zero] at hsize <;>
    simp only [build, answerSize, buildNXDomain, buildRefused, buildAResponse, buildAAAAResponse]
  · rw [buildNegative_eq hsize, Nat.add_zero]
  · rw [buildNegative_eq hsize, Nat.add_zero]
  · rw [buildAddress_eq hsize]; rfl
  · rw [buildAddress_eq hsize]; simp [answerRecord, bytes16, bytes32]

theorem build_of_lt (bld : Builder) (hsize : size < p.totalConsumed + bld.answerSize) :
    bld.build q ql p resp size = (0, resp) := by
  cases bld <;> simp only [answerSize, Nat.add_zero] at hsize <;>
    simp [build, buildNXDomain, buildRefused, buildAResponse, buildAAAAResponse, buildNegative,
      buildAddress, hsize]

theorem build_of_ge (bld : Builder) (h12 : dnsHeaderSize ≤ p.totalConsumed) {i : Nat}
    (hi : (bld.build q ql p resp size).1 ≤ i) : (bld.build q ql p resp size).2 i = resp i := by
  by_cases hsize : size < p.totalConsumed + bld.answerSize
  · rw [bld.build_of_lt hsize]
  have hle := Nat.le_of_not_lt hsize
  rw [bld.build_fst hle] at hi
  cases bld <;> simp only [answerSize, Nat.add_zero] at hle hi <;>
    simp only [build, buildNXDomain, buildRefused, buildAResponse, buildAAAAResponse]
  · exact buildNegative_of_ge hle h12 hi
  · exact buildNegative_of_ge hle h12 hi
  · exact buildAddress_of_ge hle h12 (by rw [buildAddress_eq hle]; exact hi)
  · exact buildAddress_of_ge hle h12 (by rw [buildAddress_eq hle]; simpa [answerRecord, bytes16, bytes32] using hi)

theorem build_congr (bld : Builder) {q' : Nat → UInt8} (h : ∀ i < p.totalConsumed, q' i = q i)
    (hh : p.header + 4 ≤ p.totalConsumed) (ql' : Nat) :
    bld.build q' ql' p resp size = bld.build q ql p resp size := by
  have hf : DNSHeader.getFlags q' p.header = DNSHeader.getFlags q p.header :=
    be16_congr (h _ (by omega)) (h _ (by omega))
  cases bld <;> simp only [build, buildNXDomain, buildRefused, buildAResponse, buildAAAAResponse,
    buildNegative, buildAddress, memcpy_congr h, hf]

theorem build_query (bld : Builder) (hsize : p.totalConsumed + bld.answerSize ≤ size) {i : Nat}
    (hi : i < p.totalConsumed) (h₂ : i ≠ 2 ∧ i ≠ 3) (h₆ : i < 6 ∨ 12 ≤ i) :
    (bld.build q ql p resp size).2 i = q i := by
  cases bld <;> simp only [answerSize, Nat.add_zero] at hsize <;>
    simp only [build, buildNXDomain, buildRefused, buildAResponse, buildAAAAResponse]
  · exact buildNegative_query hsize hi h₂ h₆
  · exact buildNegative_query hsize hi h₂ h₆
  · exact buildAddress_query hsize hi h₂ (by omega)
  · exact buildAddress_query hsize hi h₂ (by omega)

theorem build_qdCount (bld : Builder) (hsize : p.totalConsumed + bld.answerSize ≤ size)
    (h12 : dnsHeaderSize ≤ p.totalConsumed) :
    DNSHeader.getQDCount (bld.build q ql p resp size).2 0 = DNSHeader.getQDCount q 0 := by
  simp only [dnsHeaderSize] at h12
  exact be16_of_eq (build_query bld hsize (by omega) (by omega) (by omega))
    (build_query bld hsize (by omega) (by omega) (by omega))

theorem negative_flagBits {rc : Nat} (hsize : p.totalConsumed ≤ size) (hrc : rc < 16)
    (hrd : rc &&& 0x100 = 0) :
    DNSHeader.isQuery (buildNegative rc q ql p resp size).2 0 = false ∧
    DNSHeader.getRCode (buildNegative rc q ql p resp size).2 0 = rc ∧
    DNSHeader.isRecursionDesired (buildNegative rc q ql p resp size).2 0 =
      DNSHeader.isRecursionDesired q p.header := by
  simp only [DNSHeader.isQuery, DNSHeader.getRCode, DNSHeader.isRecursionDesired,
    buildNegative_flags hsize hrc, Nat.lor_assoc _ 0x8000 0x0080,
    qr_of_mask _ _ _ (show (0x8000 ||| 0x0080 : Nat) &&& 0x8000 = 0x8000 from rfl),
    rcode_of_mask _ _ _ hrc, rd_of_mask _ _ _ (show (0x8000 ||| 0x0080 : Nat) &&& 0x100 = 0 from rfl) hrd]
  decide

theorem address_flagBits {n t rl : Nat} {rd : List UInt8} {ttl : UInt32}
    (hsize : p.totalConsumed + n ≤ size) (h12 : dnsHeaderSize ≤ p.totalConsumed) :
    DNSHeader.isQuery (buildAddress n t rl rd q ql p ttl resp size).2 0 = false ∧
    DNSHeader.getRCode (buildAddress n t rl rd q ql p ttl resp size).2 0 = 0 ∧
    DNSHeader.isRecursionDesired (buildAddress n t rl rd q ql p ttl resp size).2 0 =
      DNSHeader.isRecursionDesired q p.header := by
  have hf : (DNSHeader.getFlags (buildAddress n t rl rd q ql p ttl resp size).2 0).toNat =
      ((DNSHeader.getFlags q p.header).toNat ||| (0x8000 ||| (0x0400 ||| 0x0080))) &&& 0xFFF0 ||| 0 := by
    rw [(buildAddress_header hsize h12).1, Nat.or_zero, Nat.lor_assoc, Nat.lor_assoc]
  simp only [DNSHeader.isQuery, DNSHeader.getRCode, DNSHeader.isRecursionDesired, hf,
    qr_of_mask _ _ _ (show (0x8000 ||| (0x0400 ||| 0x0080) : Nat) &&& 0x8000 = 0x8000 from rfl),
    rcode_of_mask _ _ _ (show 0 < 16 by decide),
    rd_of_mask _ _ _ (show (0x8000 ||| (0x0400 ||| 0x0080) : Nat) &&& 0x100 = 0 from rfl)
      (show (0 : Nat) &&& 0x100 = 0 from rfl)]
  decide

theorem build_flags (bld : Builder) (hsize : p.totalConsumed + bld.answerSize ≤ size)
    (h12 : dnsHeaderSize ≤ p.totalConsumed) :
    DNSHeader.isQuery (bld.build q ql p resp size).2 0 = false ∧
    DNSHeader.getRCode (bld.build q ql p resp size).2 0 = bld.rcode ∧
    DNSHeader.isRecursionDesired (bld.build q ql p resp size).2 0 =
      DNSHeader.isRecursionDesired q p.header := by
  cases bld <;> simp only [answerSize, Nat.add_zero] at hsize <;>
    simp only [build, rcode, buildNXDomain, buildRefused, buildAResponse, buildAAAAResponse]
  · exact negative_flagBits hsize (by decide) rfl
  · exact negative_flagBits hsize (by decide) rfl
  · exact address_flagBits hsize h12
  · exact address_flagBits hsize h12

theorem build_counts (bld : Builder) (hsize : p.totalConsumed + bld.answerSize ≤ size)
    (h12 : dnsHeaderSize ≤ p.totalConsumed) :
    (DNSHeader.getANCount (bld.build q ql p resp size).2 0).toNat = bld.anCount ∧
    (bld.answer = none → (DNSHeader.getNSCount (bld.build q ql p resp size).2 0).toNat = 0 ∧
      (DNSHeader.getARCount (bld.build q ql p resp size).2 0).toNat = 0) ∧
    (bld.answer ≠ none →
      DNSHeader.getNSCount (bld.build q ql p resp size).2 0 = DNSHeader.getNSCount q 0 ∧
      DNSHeader.getARCount (bld.build q ql p resp size).2 0 = DNSHeader.getARCount q 0) := by
  simp only [dnsHeaderSize] at h12
  have hkept : ∀ k, 8 ≤ k → k < 12 → bld.answer ≠ none → (bld.build q ql p resp size).2 k = q k :=
    fun k h₈ h₁₂ ha => by
      cases bld <;> simp only [answer, ne_eq, not_true_eq_false, answerSize] at ha hsize <;>
        simp only [build, buildAResponse, buildAAAAResponse] <;>
        exact buildAddress_query hsize (by omega) (by omega) (by omega)
  refine ⟨?_, fun ha => ?_, fun ha => ⟨be16_of_eq (hkept _ (by omega) (by omega) ha)
    (hkept _ (by omega) (by omega) ha), be16_of_eq (hkept _ (by omega) (by omega) ha)
    (hkept _ (by omega) (by omega) ha)⟩⟩
  · cases bld <;> simp only [answerSize, Nat.add_zero] at hsize <;>
      simp only [build, anCount, buildNXDomain, buildRefused, buildAResponse, buildAAAAResponse]
    · exact (buildNegative_counts hsize).1
    · exact (buildNegative_counts hsize).1
    · exact (buildAddress_header hsize h12).2
    · exact (buildAddress_header hsize h12).2
  · cases bld <;> simp only [answer, reduceCtorEq] at ha <;>
      simp only [answerSize, Nat.add_zero] at hsize <;>
      simp only [build, buildNXDomain, buildRefused]
    · exact (buildNegative_counts hsize).2
    · exact (buildNegative_counts hsize).2

end Builder

end XdpDns
