import XdpDns.Wire.Parse

/-!
# Decoding a wire name (`DNSParser::decodeName`)

`decodeName.loop` is the loop of `decodeName` with its locals as arguments and the output buffer
passed along, so that a failed decode returns what it had already written. It walks a name as
`parseName` does but checks less: a pointer's target is not compared with `packet_len`, a length
byte below `0xC0` is taken as a literal label of that length (up to 191), and the label's bytes
are copied without a bound check against `packet_len`.

On a name that `parse` accepted the walk is a `NameWalk`, and the decoder's result is a function
of the labels it visits (`loop_walk_fits`, `loop_walk_overflow`).
-/

namespace XdpDns

/-- Writing `bs` into `out` from `pos` on. -/
def writeBytes (out : Nat → UInt8) (pos : Nat) : List UInt8 → (Nat → UInt8)
  | [] => out
  | c :: cs => writeBytes (Function.update out pos c) (pos + 1) cs

/-- The copy loop `for (uint8_t i = 0; i < label_len; i++)
out_buf[buf_pos++] = std::tolower(packet[offset + i]);` -/
def copyLabel (packet : Nat → UInt8) (offset : Nat) (out_buf : Nat → UInt8) (buf_pos : Nat) :
    Nat → (Nat → UInt8)
  | 0 => out_buf
  | n + 1 => copyLabel packet (offset + 1)
      (Function.update out_buf buf_pos (tolower (packet offset))) (buf_pos + 1) n

/-- The separator before a label: none before the first, else a `.` if it fits. -/
def decodeName.addDot (first_label : Bool) (buf_size buf_pos : Nat) (out_buf : Nat → UInt8) :
    Option ((Nat → UInt8) × Nat) :=
  if first_label then some (out_buf, buf_pos)
  else if buf_size ≤ buf_pos then none
  else some (Function.update out_buf buf_pos 0x2E, buf_pos + 1)

/-- The terminator written at the end of a non-empty name when it fits. -/
def decodeName.terminate (buf_size buf_pos : Nat) (out_buf : Nat → UInt8) : Nat → UInt8 :=
  if 0 < buf_pos ∧ buf_pos < buf_size then Function.update out_buf buf_pos 0 else out_buf

/-- One iteration of `decodeName`'s loop and the rest of the loop: the error code, the output
buffer and `*out_len`. -/
def decodeName.loop (packet : Nat → UInt8) (packet_len buf_size offset buf_pos jump_count : Nat)
    (first_label : Bool) (out_buf : Nat → UInt8) (out_len : Nat) :
    Error × (Nat → UInt8) × Nat :=
  if jump_count < maxLabels then
    if packet_len ≤ offset then (.TruncatedMessage, out_buf, out_len)
    else
      let label_len := (packet offset).toNat
      if label_len = 0 then
        (.Success, decodeName.terminate buf_size buf_pos out_buf, buf_pos)
      else if label_len &&& 0xC0 = 0xC0 then
        if packet_len ≤ offset + 1 then (.TruncatedMessage, out_buf, out_len)
        else decodeName.loop packet packet_len buf_size
          (pointerTarget label_len (packet (offset + 1)).toNat) buf_pos (jump_count + 1)
          first_label out_buf out_len
      else
        match decodeName.addDot first_label buf_size buf_pos out_buf with
        | none => (.BufferTooSmall, out_buf, out_len)
        | some (out_buf, buf_pos) =>
          if buf_size < buf_pos + label_len then (.BufferTooSmall, out_buf, out_len)
          else decodeName.loop packet packet_len buf_size (offset + 1 + label_len)
            (buf_pos + label_len) jump_count false
            (copyLabel packet (offset + 1) out_buf buf_pos label_len) out_len
  else (.PointerLoop, out_buf, out_len)
termination_by (maxLabels - jump_count, packet_len - offset)

/-- `DNSParser::decodeName`: the error code, `out_buf` and `*out_len` after the call. -/
def decodeName (packet : Nat → UInt8) (packet_len name_offset : Nat) (out_buf : Nat → UInt8)
    (buf_size out_len : Nat) : Error × (Nat → UInt8) × Nat :=
  decodeName.loop packet packet_len buf_size name_offset 0 0 true out_buf out_len

/-! ### Output buffers -/

theorem writeBytes_append (out : Nat → UInt8) (pos : Nat) (as bs : List UInt8) :
    writeBytes out pos (as ++ bs) = writeBytes (writeBytes out pos as) (pos + as.length) bs := by
  induction as generalizing out pos with
  | nil => rfl
  | cons a as ih =>
    rw [List.cons_append, writeBytes, writeBytes, ih, List.length_cons,
      show pos + 1 + as.length = pos + (as.length + 1) by omega]

theorem writeBytes_of_lt (out : Nat → UInt8) (pos : Nat) (bs : List UInt8) {i : Nat}
    (hi : i < pos) : writeBytes out pos bs i = out i := by
  induction bs generalizing out pos with
  | nil => rfl
  | cons b bs ih => rw [writeBytes, ih _ _ (by omega), Function.update_noteq (by omega)]

theorem writeBytes_of_ge (out : Nat → UInt8) (pos : Nat) (bs : List UInt8) {i : Nat}
    (hi : pos + bs.length ≤ i) : writeBytes out pos bs i = out i := by
  induction bs generalizing out pos with
  | nil => rfl
  | cons b bs ih =>
    simp only [List.length_cons] at hi
    rw [writeBytes, ih _ _ (by omega), Function.update_noteq (by omega)]

theorem writeBytes_get (out : Nat → UInt8) (pos : Nat) (bs : List UInt8) {i : Nat}
    (hi : i < bs.length) : writeBytes out pos bs (pos + i) = bs[i] := by
  induction bs generalizing out pos i with
  | nil => simp at hi
  | cons b bs ih =>
    rw [writeBytes]
    cases i with
    | zero => rw [writeBytes_of_lt _ _ _ (by omega)]; simp
    | succ i =>
      rw [show pos + (i + 1) = pos + 1 + i by omega, ih _ _ (by simpa using hi)]; rfl

theorem copyLabel_eq (packet : Nat → UInt8) (offset : Nat) (out : Nat → UInt8) (pos n : Nat) :
    copyLabel packet offset out pos n =
      writeBytes out pos (((List.range n).map fun i => packet (offset + i)).map tolower) := by
  induction n generalizing offset out pos with
  | zero => rfl
  | succ n ih =>
    have hr : ((List.range (n + 1)).map fun i => packet (offset + i)) =
        packet offset :: (List.range n).map fun i => packet (offset + 1 + i) := by
      rw [List.range_succ_eq_map]; simp [Function.comp_def, Nat.add_assoc, Nat.add_comm 1]
    rw [copyLabel, ih, hr]; rfl

/-! ### The decoded name -/

/-- The decoded name: the labels visited, each lowercased, joined by `.`. -/
def decodedName (packet : Nat → UInt8) (labels : List (Nat × Nat)) : List UInt8 :=
  List.intercalate [0x2E] (labels.map fun l => (labelBytes packet l).map tolower)

/-- What the loop emits for `labels`: a `.` before each label but the first of the name, then the
label lowercased. -/
def decodedTail (packet : Nat → UInt8) : Bool → List (Nat × Nat) → List UInt8
  | _, [] => []
  | first, l :: ls =>
    (if first then [] else [0x2E]) ++ (labelBytes packet l).map tolower ++ decodedTail packet false ls

theorem decodedTail_true (packet : Nat → UInt8) (labels : List (Nat × Nat)) :
    decodedTail packet true labels = decodedName packet labels := by
  cases labels with
  | nil => rfl
  | cons l ls =>
    induction ls generalizing l with
    | nil => simp [decodedTail, decodedName, List.intercalate]
    | cons l' ls ih =>
      have h := ih l'
      simp only [decodedTail, decodedName, List.intercalate, if_true, List.nil_append,
        List.map_cons] at h ⊢
      simp only [List.intersperse, List.flatten_cons, ← h, Bool.false_eq_true, if_false,
        List.append_assoc]

theorem tolower_decodedTail (packet : Nat → UInt8) (first : Bool) (labels : List (Nat × Nat)) :
    ∀ c ∈ decodedTail packet first labels, tolower c = c := by
  induction labels generalizing first with
  | nil => simp [decodedTail]
  | cons l ls ih =>
    intro c hc
    simp only [decodedTail, List.mem_append, List.mem_map] at hc
    rcases hc with (hc | ⟨b, -, rfl⟩) | hc
    · split_ifs at hc
      · exact absurd hc (List.not_mem_nil c)
      · rw [List.mem_singleton.1 hc]; decide
    · exact tolower_tolower b
    · exact ih false c hc

theorem length_labelBytes (packet : Nat → UInt8) (l : Nat × Nat) :
    (labelBytes packet l).length = l.2 := by simp [labelBytes]

/-! ### One lemma per branch of the loop that continues or succeeds -/

section Loop

variable {packet : Nat → UInt8} {len b offset pos k : Nat} {first : Bool} {out : Nat → UInt8}
  {ol : Nat}

theorem decodeName.loop_stop (hk : k < maxLabels) (ho : offset < len)
    (hz : (packet offset).toNat = 0) :
    decodeName.loop packet len b offset pos k first out ol =
      (.Success, decodeName.terminate b pos out, pos) := by
  rw [decodeName.loop]; simp [hk, hz, Nat.not_le.2 ho]

theorem decodeName.loop_pointer (hk : k < maxLabels) (hp : 0xC0 ≤ (packet offset).toNat)
    (hn : offset + 1 < len) :
    decodeName.loop packet len b offset pos k first out ol =
      decodeName.loop packet len b (pointerTarget (packet offset).toNat (packet (offset + 1)).toNat)
        pos (k + 1) first out ol := by
  have hc := (isPointer_iff (byte_lt (packet offset))).2 hp
  rw [decodeName.loop]
  simp [hk, hc, Nat.not_le.2 hn, show offset < len by omega, show (packet offset).toNat ≠ 0 by omega]

theorem decodeName.loop_label (hk : k < maxLabels) (ho : offset < len)
    (hz : (packet offset).toNat ≠ 0) (hnp : (packet offset).toNat < 0xC0) :
    decodeName.loop packet len b offset pos k first out ol =
      match decodeName.addDot first b pos out with
      | none => (.BufferTooSmall, out, ol)
      | some (out', pos') =>
        if b < pos' + (packet offset).toNat then (.BufferTooSmall, out', ol)
        else decodeName.loop packet len b (offset + 1 + (packet offset).toNat)
          (pos' + (packet offset).toNat) k false
          (copyLabel packet (offset + 1) out' pos' (packet offset).toNat) ol := by
  have hc : ¬ (packet offset).toNat &&& 0xC0 = 0xC0 := by
    rw [isPointer_iff (byte_lt _)]; omega
  rw [decodeName.loop]
  simp only [hk, hz, hc, Nat.not_le.2 ho, if_true, if_false]

theorem copyLabel_labelBytes (packet : Nat → UInt8) (out : Nat → UInt8) (pos offset l : Nat) :
    copyLabel packet (offset + 1) out pos l =
      writeBytes out pos ((labelBytes packet (offset, l)).map tolower) := by
  rw [copyLabel_eq]; rfl

theorem decodeName.loop_walk_fits {ret : Option Nat} {labels : List (Nat × Nat)} {e : Nat}
    (h : NameWalk packet 0 len offset k ret labels e)
    (hfit : pos + (decodedTail packet first labels).length ≤ b) :
    decodeName.loop packet len b offset pos k first out ol =
      (.Success, decodeName.terminate b (pos + (decodedTail packet first labels).length)
        (writeBytes out pos (decodedTail packet first labels)),
        pos + (decodedTail packet first labels).length) := by
  induction h generalizing pos first out with
  | stop hk ho hz => rw [decodeName.loop_stop hk ho hz]; rfl
  | @label offset _ _ labels _ hk hz hl he _ ih =>
    have hnp : (packet offset).toNat < 0xC0 := by simp only [maxLabelLength] at hl; omega
    have hlen : (labelBytes packet (offset, (packet offset).toNat)).length = (packet offset).toNat :=
      length_labelBytes _ _
    rw [decodeName.loop_label hk (by omega) hz hnp]
    cases first with
    | true =>
      simp only [decodedTail, if_true, List.nil_append, List.length_append, List.length_map,
        hlen] at hfit ⊢
      simp only [decodeName.addDot, if_true]
      rw [if_neg (by omega), ih (by omega), copyLabel_labelBytes, writeBytes_append]
      simp only [List.length_map, hlen, Nat.add_assoc]
    | false =>
      simp only [decodedTail, Bool.false_eq_true, if_false, List.length_append, List.length_map,
        hlen, List.length_singleton] at hfit ⊢
      have hpb : ¬ b ≤ pos := by omega
      simp only [decodeName.addDot, Bool.false_eq_true, if_false, hpb]
      rw [if_neg (by omega), ih (by omega), copyLabel_labelBytes, List.append_assoc,
        writeBytes_append, writeBytes_append]
      simp only [writeBytes, List.length_map, hlen, List.length_singleton, Nat.add_assoc]
  | pointer hk hp hn _ _ _ ih => rw [decodeName.loop_pointer hk hp hn, ih hfit]

theorem decodeName.loop_walk_overflow {ret : Option Nat} {labels : List (Nat × Nat)} {e : Nat}
    (h : NameWalk packet 0 len offset k ret labels e) (hpos : pos ≤ b)
    (hover : b < pos + (decodedTail packet first labels).length) :
    (decodeName.loop packet len b offset pos k first out ol).1 = .BufferTooSmall := by
  induction h generalizing pos first out with
  | stop => simp only [decodedTail, List.length_nil] at hover; omega
  | @label offset _ _ labels _ hk hz hl he _ ih =>
    have hnp : (packet offset).toNat < 0xC0 := by simp only [maxLabelLength] at hl; omega
    have hlen : (labelBytes packet (offset, (packet offset).toNat)).length = (packet offset).toNat :=
      length_labelBytes _ _
    rw [decodeName.loop_label hk (by omega) hz hnp]
    cases first with
    | true =>
      simp only [decodedTail, if_true, List.nil_append, List.length_append, List.length_map,
        hlen] at hover
      simp only [decodeName.addDot, if_true]
      split_ifs with hb
      · rfl
      · exact ih (by omega) (by omega)
    | false =>
      simp only [decodedTail, Bool.false_eq_true, if_false, List.length_append, List.length_map,
        hlen, List.length_singleton] at hover
      by_cases hpb : b ≤ pos
      · simp [decodeName.addDot, hpb]
      · simp only [decodeName.addDot, Bool.false_eq_true, hpb, if_false]
        split_ifs
        · rfl
        · exact ih (by omega) (by omega)
  | pointer hk hp hn _ _ _ ih => rw [decodeName.loop_pointer hk hp hn]; exact ih hpos hover

theorem copyLabel_congr {packet' : Nat → UInt8} {offset n : Nat} (out : Nat → UInt8) (pos : Nat)
    (hd : ∀ i < n, packet' (offset + i) = packet (offset + i)) :
    copyLabel packet' offset out pos n = copyLabel packet offset out pos n := by
  rw [copyLabel_eq, copyLabel_eq, List.map_congr_left fun i hi => hd i (List.mem_range.1 hi)]

theorem decodeName.loop_walk_congr {packet' : Nat → UInt8} {lo hi len' : Nat} {ret : Option Nat}
    {labels : List (Nat × Nat)} {e : Nat} (h : NameWalk packet lo hi offset k ret labels e)
    (hlo : lo ≤ offset) (hhi : hi ≤ len) (hhi' : hi ≤ len')
    (hd : ∀ i, lo ≤ i → i < hi → packet' i = packet i) :
    decodeName.loop packet' len' b offset pos k first out ol =
      decodeName.loop packet len b offset pos k first out ol := by
  induction h generalizing pos first out with
  | stop hk ho hz =>
    rw [decodeName.loop_stop hk (by omega) hz,
      decodeName.loop_stop hk (by omega) (by rw [hd _ hlo ho]; exact hz)]
  | @label offset _ _ labels _ hk hz hl he _ ih =>
    have hnp : (packet offset).toNat < 0xC0 := by simp only [maxLabelLength] at hl; omega
    have hb := hd offset hlo (by omega)
    rw [decodeName.loop_label hk (by omega) hz hnp,
      decodeName.loop_label hk (by omega) (by rw [hb]; exact hz) (by rw [hb]; exact hnp), hb]
    rcases decodeName.addDot first b pos out with _ | ⟨out', pos'⟩
    · rfl
    · simp only
      split_ifs
      · rfl
      · rw [ih (by omega), copyLabel_congr _ _ fun i hi => hd _ (by omega) (by omega)]
  | pointer hk hp hn hl _ _ ih =>
    rw [decodeName.loop_pointer hk hp (by omega), decodeName.loop_pointer hk
      (by rw [hd _ hlo (by omega)]; exact hp) (by omega), hd _ hlo (by omega),
      hd _ (by omega) hn, ih hl]

theorem decodeName.addDot_eq_some {b pos pos' : Nat} {out out' : Nat → UInt8}
    (h : decodeName.addDot first b pos out = some (out', pos')) :
    (first = true ∧ out' = out ∧ pos' = pos) ∨
      (first = false ∧ pos < b ∧ out' = Function.update out pos 0x2E ∧ pos' = pos + 1) := by
  unfold decodeName.addDot at h
  split_ifs at h with h₁ h₂ <;> simp only [Option.some.injEq, Prod.mk.injEq] at h
  · exact .inl ⟨h₁, h.1.symm, h.2.symm⟩
  · exact .inr ⟨by simpa using h₁, by omega, h.1.symm, h.2.symm⟩

theorem decodeName.loop_frame {i : Nat} (hi : b ≤ i) :
    (decodeName.loop packet len b offset pos k first out ol).2.1 i = out i := by
  induction offset, pos, k, first, out, ol using decodeName.loop.induct packet len b with
  | case1 offset pos k first out ol hk hle => rw [decodeName.loop]; simp [hk, hle]
  | case2 offset pos k first out ol hk hlt l hz =>
    simp only [l] at hz
    rw [decodeName.loop_stop hk (by omega) hz]
    simp only [decodeName.terminate]
    split_ifs
    · exact Function.update_noteq (by omega) _ _
    · rfl
  | case3 offset pos k first out ol hk hlt l hz hc hle =>
    simp only [l] at hz hc
    rw [decodeName.loop]; simp [hk, hlt, hz, hc, hle]
  | case4 offset pos k first out ol hk hlt l hz hc hle ih =>
    simp only [l] at hz hc ih
    rw [decodeName.loop_pointer hk ((isPointer_iff (byte_lt _)).1 hc) (by omega)]; exact ih
  | case5 offset pos k first out ol hk hlt l hz hc hnone =>
    simp only [l] at hz hc
    rw [decodeName.loop_label hk (by omega) hz (by rw [isPointer_iff (byte_lt _)] at hc; omega),
      hnone]
  | case6 offset pos k first out ol hk hlt l hz hc out' pos' hsome hb =>
    simp only [l] at hz hc hb
    rw [decodeName.loop_label hk (by omega) hz (by rw [isPointer_iff (byte_lt _)] at hc; omega),
      hsome]
    simp only [hb, if_true]
    rcases decodeName.addDot_eq_some hsome with ⟨-, rfl, -⟩ | ⟨-, hp, rfl, -⟩
    · rfl
    · exact Function.update_noteq (by omega) _ _
  | case7 offset pos k first out ol hk hlt l hz hc out' pos' hsome hb ih =>
    simp only [l] at hz hc hb ih
    rw [decodeName.loop_label hk (by omega) hz (by rw [isPointer_iff (byte_lt _)] at hc; omega),
      hsome]
    simp only [hb, if_false]
    rw [ih, copyLabel_eq, writeBytes_of_ge _ _ _ (by simp; omega)]
    rcases decodeName.addDot_eq_some hsome with ⟨-, rfl, -⟩ | ⟨-, hp, rfl, -⟩
    · rfl
    · exact Function.update_noteq (by omega) _ _
  | case8 offset pos k first out ol hk => rw [decodeName.loop]; simp [hk]

end Loop

end XdpDns

namespace XdpDns

/-! ### The decoder on accepted packets -/

/-- What `decodeName` does from `name_offset` on a name whose walk visits `labels`: it reads the
packet only below `len`, writes the output only below `buf_size`, fails with no error other than
`BufferTooSmall`, and returns the labels lowercased and joined by `.` when they fit. -/
def DecodesWalk (packet : Nat → UInt8) (len name_offset : Nat) (labels : List (Nat × Nat))
    (out : Nat → UInt8) (buf_size out_len : Nat) : Prop :=
  let res := decodeName packet len name_offset out buf_size out_len
  let n := decodedName packet labels
  (∀ packet' : Nat → UInt8, (∀ i < len, packet' i = packet i) →
    decodeName packet' len name_offset out buf_size out_len = res) ∧
  (∀ i, buf_size ≤ i → res.2.1 i = out i) ∧
  (res.1 = .Success ∨ res.1 = .BufferTooSmall) ∧
  (n.length ≤ buf_size →
    res.1 = .Success ∧ res.2.2 = n.length ∧ ∀ i (hi : i < n.length), res.2.1 i = n[i]) ∧
  (buf_size < n.length → res.1 = .BufferTooSmall)

theorem decodesWalk_of_walk {data : Nat → UInt8} {len name_offset : Nat} {ret : Option Nat}
    {labels : List (Nat × Nat)} {e : Nat} (hw : NameWalk data 0 len name_offset 0 ret labels e)
    (out : Nat → UInt8) (b ol : Nat) : DecodesWalk data len name_offset labels out b ol := by
  have ht := decodedTail_true data labels
  refine ⟨fun data' hd => decodeName.loop_walk_congr hw (Nat.zero_le _) le_rfl le_rfl fun i _ hi => hd i hi,
    fun i hi => decodeName.loop_frame hi, ?_, fun hb => ?_,
    fun hb => decodeName.loop_walk_overflow hw (Nat.zero_le _) (by rw [ht]; omega)⟩
  · by_cases hb : (decodedName data labels).length ≤ b
    · left; rw [decodeName, decodeName.loop_walk_fits hw (by rw [ht]; omega)]
    · right; exact decodeName.loop_walk_overflow hw (Nat.zero_le _) (by rw [ht]; omega)
  · rw [decodeName, decodeName.loop_walk_fits hw (by rw [ht]; omega)]
    refine ⟨rfl, by simp [ht], fun i hi => ?_⟩
    simp only [ht, Nat.zero_add, decodeName.terminate]
    have hget := writeBytes_get out 0 _ hi
    rw [Nat.zero_add] at hget
    split_ifs
    · rw [Function.update_noteq (by omega), hget]
    · exact hget

theorem decodeName_follows_parse (data : Nat → UInt8) (len : Nat) (r : DNSParseResult)
    (hs : (parse data len r).1 = .Success) (out : Nat → UInt8) (b ol : Nat) :
    ∃ labels nameEnd, parseName data len dnsHeaderSize = .ok (nameEnd, 1 + labelsWireLen labels) ∧
      NameWalk data 0 len dnsHeaderSize 0 none labels nameEnd ∧
      DecodesWalk data len (parse data len r).2.question.nameOffset labels out b ol := by
  obtain ⟨hlen, hqd, e, w, hn, he⟩ := parse_success_iff.1 hs
  obtain ⟨labels, hw, rfl⟩ := parseName_ok_iff.1 hn
  have hoff : (parse data len r).2.question.nameOffset = dnsHeaderSize := by
    rw [parse_eq_success hlen hqd hn he]; rfl
  exact ⟨labels, e, hn, hw, hoff ▸ decodesWalk_of_walk hw out b ol⟩

theorem decodeName_follows_parse_s1 :
    (parse (bytesOf queryS1) 33 default).1 = .Success ∧
    ∃ labels nameEnd, parseName (bytesOf queryS1) 33 dnsHeaderSize =
        .ok (nameEnd, 1 + labelsWireLen labels) ∧
      NameWalk (bytesOf queryS1) 0 33 dnsHeaderSize 0 none labels nameEnd ∧
      DecodesWalk (bytesOf queryS1) 33 (parse (bytesOf queryS1) 33 default).2.question.nameOffset
        labels (fun _ => 0) 256 0 :=
  have hs : (parse (bytesOf queryS1) 33 default).1 = .Success := by rw [parse_queryS1]
  ⟨hs, decodeName_follows_parse _ _ _ hs _ _ _⟩

/-- `decodeName` copies a label without checking it against `packet_len`: on the two-byte packet
`05 61`, a label that claims five bytes, the buffer it returns holds bytes read past the end. -/
theorem decodeName_reads_past_len :
    (decodeName (bytesOf [5, 0x61]) 2 0 (fun _ => 0) 256 0).1 = .TruncatedMessage ∧
    (decodeName (bytesOf [5, 0x61]) 2 0 (fun _ => 0) 256 0).2.1 1 = 0 ∧
    (decodeName (bytesOf [5, 0x61, 0x62, 0x63, 0x64, 0x65]) 2 0 (fun _ => 0) 256 0).2.1 1 = 0x62 := by
  simp +decide [decodeName, decodeName.loop, decodeName.addDot, copyLabel, bytesOf, tolower]

end XdpDns
