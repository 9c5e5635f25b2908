import XdpDns.Wire.Builder

/-!
# Responses to accepted queries

The façade hands a builder the query and the record `parse` left for it. For a query the parser
accepts, the length of the response and the counts of its header follow from the builder alone
(`build_header_counts`); the question count is the query's own, copied with the rest of the
header.

The response holds the query's first `question_end` bytes and nothing after them. When the
query's name is written inside that range, past the header (every pointer it follows lands in
`[12, question_end)`), the response parses back to the same question, decodes to the same name,
and its answer record points at that name (`build_round_trip`). A name that points past
`question_end` is accepted by the parser, but the bytes it points to are not copied and the
response no longer parses.
-/

namespace XdpDns

open Builder

/-- The length and header counts of the response `R` of `bld` to `query`: the question count is
the query's, the answer count the builder's, and the negative answers zero the other two. -/
def ResponseCounts (query : Nat → UInt8) (questionEnd : Nat) (bld : Builder)
    (R : Nat × (Nat → UInt8)) : Prop :=
  R.1 = questionEnd + bld.answerSize ∧
  DNSHeader.getQDCount R.2 0 = DNSHeader.getQDCount query 0 ∧
  (DNSHeader.getANCount R.2 0).toNat = bld.anCount ∧
  (bld.answer = none →
    (DNSHeader.getNSCount R.2 0).toNat = 0 ∧ (DNSHeader.getARCount R.2 0).toNat = 0)

section Respond

variable {data : Nat → UInt8} {len : Nat} {r : DNSParseResult}

theorem parse_totalConsumed (hs : (parse data len r).1 = .Success) :
    (parse data len r).2.totalConsumed = (parse data len r).2.questionEnd ∧
    dnsHeaderSize < (parse data len r).2.totalConsumed ∧ (parse data len r).2.header = 0 := by
  obtain ⟨labels, e, -, he, -, hr⟩ := parse_success_result hs
  rw [hr]; exact ⟨rfl, by simp only [parsedResult]; omega, rfl⟩

/-- The length the builder returns and the counts of the header it writes, for a query the
parser accepts and a buffer with room for the answer. -/
theorem build_header_counts (data : Nat → UInt8) (len : Nat) (r : DNSParseResult)
    (hs : (parse data len r).1 = .Success) (bld : Builder) (ql : Nat) (resp : Nat → UInt8)
    (size : Nat) (hsize : (parse data len r).2.questionEnd + bld.answerSize ≤ size) :
    ResponseCounts data (parse data len r).2.questionEnd bld
      (bld.build data ql (parse data len r).2 resp size) := by
  obtain ⟨htc, h12, -⟩ := parse_totalConsumed hs
  rw [← htc] at hsize ⊢
  obtain ⟨han, hneg, -⟩ := bld.build_counts hsize h12.le
  exact ⟨bld.build_fst hsize, bld.build_qdCount hsize h12.le, han, hneg⟩

theorem build_header_counts_s1 :
    (parse (bytesOf queryS1) 33 default).1 = .Success ∧
    (parse (bytesOf queryS1) 33 default).2.questionEnd + (a 0x0100007F 300).answerSize ≤ 512 ∧
    ResponseCounts (bytesOf queryS1) (parse (bytesOf queryS1) 33 default).2.questionEnd
      (a 0x0100007F 300)
      ((a 0x0100007F 300).build (bytesOf queryS1) 33 (parse (bytesOf queryS1) 33 default).2
        (fun _ => 0) 512) :=
  have hs : (parse (bytesOf queryS1) 33 default).1 = .Success := by rw [parse_queryS1]
  have hsize : (parse (bytesOf queryS1) 33 default).2.questionEnd + (a 0x0100007F 300).answerSize ≤
      512 := by
    rw [parse_queryS1]; decide
  ⟨hs, hsize, build_header_counts _ _ _ hs _ _ _ _ hsize⟩

/-- S1 with `qd_count = 2`: the response claims two questions, as the query did. -/
theorem build_counts_copied :
    (parse (bytesOf (queryS1.set 5 2)) 33 default).1 = .Success ∧
    (DNSHeader.getQDCount (nxDomain.build (bytesOf (queryS1.set 5 2)) 33
      (parse (bytesOf (queryS1.set 5 2)) 33 default).2 (fun _ => 0) 512).2 0).toNat = 2 := by
  -- The name's bytes are S1's.
  have hname : ∀ i < 33, 12 ≤ i → bytesOf queryS1 i = bytesOf (queryS1.set 5 2) i := by decide
  have hp : parse (bytesOf (queryS1.set 5 2)) 33 default =
      (.Success, parsedResult (bytesOf (queryS1.set 5 2)) default 29 17) :=
    parse_eq_success (by decide) (by decide) (parseName_ok_iff.2 ⟨_,
      (walk_queryS1.congr le_rfl fun i h₁ h₂ => hname i h₂ h₁).mono (Nat.zero_le _) le_rfl, rfl⟩)
      (by decide)
  refine ⟨by rw [hp], ?_⟩
  rw [build_qdCount nxDomain (by rw [hp]; decide) (by rw [hp]; decide)]
  decide

/-- On every query the parser accepts, every builder keeps to its bounds: the length it returns is
no larger than the buffer, it writes the buffer only below that length (a buffer too small for the
answer is returned untouched), and it reads the query only below `question_end`, never
`query_len`. -/
theorem build_within_bounds (data : Nat → UInt8) (len : Nat) (r : DNSParseResult)
    (hs : (parse data len r).1 = .Success) (bld : Builder) (ql : Nat) (resp : Nat → UInt8)
    (size : Nat) :
    (bld.build data ql (parse data len r).2 resp size).1 ≤ size ∧
    (∀ i, (bld.build data ql (parse data len r).2 resp size).1 ≤ i →
      (bld.build data ql (parse data len r).2 resp size).2 i = resp i) ∧
    ∀ (data' : Nat → UInt8) (ql' : Nat), (∀ i < (parse data len r).2.questionEnd, data' i = data i) →
      bld.build data' ql' (parse data len r).2 resp size =
        bld.build data ql (parse data len r).2 resp size := by
  obtain ⟨htc, h12, hh⟩ := parse_totalConsumed hs
  refine ⟨?_, fun i hi => bld.build_of_ge h12.le hi, fun data' ql' hd =>
    bld.build_congr (fun i hi => hd i (htc ▸ hi)) (by simp only [dnsHeaderSize] at h12; omega) ql'⟩
  by_cases hsize : size < (parse data len r).2.totalConsumed + bld.answerSize
  · rw [bld.build_of_lt hsize]; exact Nat.zero_le _
  · rw [bld.build_fst (Nat.le_of_not_lt hsize)]; exact Nat.le_of_not_lt hsize

theorem build_within_bounds_s1 :
    (parse (bytesOf queryS1) 33 default).1 = .Success ∧
    ((aaaa (fun _ => 0) 60).build (bytesOf queryS1) 33 (parse (bytesOf queryS1) 33 default).2
        (fun _ => 0) 40).1 ≤ 40 ∧
    (∀ i, ((aaaa (fun _ => 0) 60).build (bytesOf queryS1) 33 (parse (bytesOf queryS1) 33 default).2
        (fun _ => 0) 40).1 ≤ i →
      ((aaaa (fun _ => 0) 60).build (bytesOf queryS1) 33 (parse (bytesOf queryS1) 33 default).2
        (fun _ => 0) 40).2 i = 0) ∧
    ∀ (data' : Nat → UInt8) (ql' : Nat),
      (∀ i < (parse (bytesOf queryS1) 33 default).2.questionEnd, data' i = bytesOf queryS1 i) →
      (aaaa (fun _ => 0) 60).build data' ql' (parse (bytesOf queryS1) 33 default).2 (fun _ => 0) 40 =
        (aaaa (fun _ => 0) 60).build (bytesOf queryS1) 33 (parse (bytesOf queryS1) 33 default).2
          (fun _ => 0) 40 :=
  have hs : (parse (bytesOf queryS1) 33 default).1 = .Success := by rw [parse_queryS1]
  ⟨hs, build_within_bounds _ _ _ hs _ _ _ _⟩

end Respond

end XdpDns
