import XdpDns.Wire.Compare

/-!
# The walk loops terminate

`parseName`, `decodeName` and `domainEquals` walk a wire name with the same C loop,
`while (jump_count < MAX_LABELS) { ... } return ...;`, whose body returns, follows a compression
pointer or steps over a label. The recursive models of the earlier modules make one call per
iteration under `termination_by`; here each loop runs as the C code runs it: its body
(`parseName.body`, ...) is one iteration on the loop's locals, and `whileLoop` repeats it for at
most `fuel` tests of the condition.

An iteration that goes round again follows a pointer, one more jump below `MAX_LABELS`, or
advances `offset` by `1 + label_len` from below `len` (`parseName.body_next`, ...), so the pair
`(MAX_LABELS - jump_count, len - offset)` falls lexicographically (`walkMeasure`), also when a
pointer points backwards or at itself. Each recursive model satisfies the unfolding law of its loop
(`parseName.loop_unfold`, ...), so from the start of any name each loop returns within
`(MAX_LABELS + 1) * (len + 1)` iterations, with what the model computes (`walk_loops_terminate`).
-/

namespace XdpDns

/-! ### Loops run for a bounded number of iterations -/

/-- `while (cond) { body }` followed by `return exit`, run for at most `fuel` tests of `cond`:
the body returns (`.inl`) or gives the locals of the next iteration (`.inr`); `none` when the
fuel runs out first. -/
def whileLoop {σ α : Type} (cond : σ → Prop) [DecidablePred cond] (body : σ → α ⊕ σ) (exit : σ → α) :
    Nat → σ → Option α
  | 0, _ => none
  | fuel + 1, s =>
    if cond s then
      match body s with
      | .inl a => some a
      | .inr s' => whileLoop cond body exit fuel s'
    else some (exit s)

section Generic

variable {σ α : Type} {cond : σ → Prop} [DecidablePred cond] {body : σ → α ⊕ σ} {exit : σ → α}

theorem whileLoop_eq_of_unfold {F : σ → α} (μ : σ → Nat)
    (hF : ∀ s, F s = if cond s then (body s).elim id F else exit s)
    (hμ : ∀ s s', cond s → body s = .inr s' → μ s' < μ s) :
    ∀ fuel s, μ s < fuel → whileLoop cond body exit fuel s = some (F s) := by
  intro fuel
  induction fuel with
  | zero => intro s h; omega
  | succ fuel ih =>
    intro s h
    rw [whileLoop, hF s]
    by_cases hc : cond s
    · rcases hb : body s with a | s'
      · simp [hc, hb]
      · simp only [hc, hb, if_true, Sum.elim_inr]
        exact ih s' (by have := hμ s s' hc hb; omega)
    · simp [hc]

theorem ite_inl_eq_inr {c : Prop} [Decidable c] {a : α} {x : α ⊕ σ} {s' : σ}
    (h : (if c then .inl a else x) = .inr s') : ¬c ∧ x = .inr s' :=
  (ite_eq_iff.1 h).resolve_left fun ⟨_, h⟩ => Sum.inl_ne_inr h

end Generic

/-- The measure of the walk loops, `(MAX_LABELS - jump_count, len - offset)` ordered
lexicographically, as one number. -/
def walkMeasure (len jump_count offset : Nat) : Nat :=
  (maxLabels - jump_count) * (len + 1) + (len - offset)

theorem walkMeasure_jump {len k k' o o' : Nat} (hk : k < maxLabels) (hk' : k' = k + 1) :
    walkMeasure len k' o' < walkMeasure len k o := by
  subst hk'
  have h : maxLabels - k = maxLabels - (k + 1) + 1 := by omega
  unfold walkMeasure
  rw [h, Nat.succ_mul]
  omega

theorem walkMeasure_advance {len k k' o o' : Nat} (hk' : k' = k) (ho : o < len) (ho' : o < o') :
    walkMeasure len k' o' < walkMeasure len k o := by
  unfold walkMeasure; subst hk'; omega

theorem walkMeasure_lt (len k o : Nat) : walkMeasure len k o < (maxLabels + 1) * (len + 1) := by
  have := Nat.mul_le_mul_right (len + 1) (Nat.sub_le maxLabels k)
  unfold walkMeasure
  rw [Nat.succ_mul]
  omega

/-! ### `parseName` -/

/-- The locals of `parseName`'s loop. -/
structure parseName.Locals where
  offset : Nat
  originalOffset : Nat
  jumped : Bool
  jumpCount : Nat
  totalLen : Nat

/-- The body of `parseName`'s `while (jump_count < MAX_LABELS)` loop. -/
def parseName.body (data : Nat → UInt8) (len : Nat) (s : parseName.Locals) :
    Except Error (Nat × Nat) ⊕ parseName.Locals :=
  if len ≤ s.offset then .inl (.error .TruncatedMessage)
  else
    let label_len := (data s.offset).toNat
    if label_len = 0 then
      .inl (.ok (if s.jumped then s.originalOffset + 2 else s.offset + 1, s.totalLen + 1))
    else if label_len &&& 0xC0 = 0xC0 then
      if len ≤ s.offset + 1 then .inl (.error .TruncatedMessage)
      else
        let ptr := pointerTarget label_len (data (s.offset + 1)).toNat
        if len ≤ ptr then .inl (.error .PointerLoop)
        else .inr ⟨ptr, if s.jumped then s.originalOffset else s.offset, true, s.jumpCount + 1,
          s.totalLen⟩
    else if maxLabelLength < label_len then .inl (.error .InvalidLabel)
    else if len < s.offset + 1 + label_len then .inl (.error .TruncatedMessage)
    else .inr ⟨s.offset + 1 + label_len, s.originalOffset, s.jumped, s.jumpCount,
      s.totalLen + 1 + label_len⟩

/-- `parseName`'s loop, run for at most `fuel` iterations. -/
def parseName.run (data : Nat → UInt8) (len fuel : Nat) (s : parseName.Locals) :
    Option (Except Error (Nat × Nat)) :=
  whileLoop (fun s => s.jumpCount < maxLabels) (parseName.body data len)
    (fun _ => .error .PointerLoop) fuel s

theorem parseName.body_next {data : Nat → UInt8} {len : Nat} {s s' : parseName.Locals}
    (h : parseName.body data len s = .inr s') :
    s'.jumpCount = s.jumpCount + 1 ∨ s'.jumpCount = s.jumpCount ∧ s.offset < len ∧
      s'.offset = s.offset + 1 + (data s.offset).toNat := by
  unfold parseName.body at h
  dsimp only at h
  obtain ⟨hlen, h⟩ := ite_inl_eq_inr h
  obtain ⟨-, h⟩ := ite_inl_eq_inr h
  by_cases hptr : (data s.offset).toNat &&& 0xC0 = 0xC0
  · obtain ⟨-, h⟩ := ite_inl_eq_inr (by rwa [if_pos hptr] at h)
    obtain ⟨-, h⟩ := ite_inl_eq_inr h
    cases h; exact .inl rfl
  · obtain ⟨-, h⟩ := ite_inl_eq_inr (by rwa [if_neg hptr] at h)
    obtain ⟨-, h⟩ := ite_inl_eq_inr h
    cases h; exact .inr ⟨rfl, by omega, rfl⟩

theorem parseName.loop_unfold (data : Nat → UInt8) (len : Nat) (s : parseName.Locals) :
    parseName.loop data len s.offset s.originalOffset s.jumped s.jumpCount s.totalLen =
      if s.jumpCount < maxLabels then
        (parseName.body data len s).elim id fun s' =>
          parseName.loop data len s'.offset s'.originalOffset s'.jumped s'.jumpCount s'.totalLen
      else .error .PointerLoop := by
  rw [parseName.loop]
  unfold parseName.body
  simp only [apply_ite (Sum.elim _ _), Sum.elim_inl, Sum.elim_inr, id]


theorem parseName.run_eq (data : Nat → UInt8) (len : Nat) :
    ∀ fuel (s : parseName.Locals), walkMeasure len s.jumpCount s.offset < fuel →
      parseName.run data len fuel s =
        some (parseName.loop data len s.offset s.originalOffset s.jumped s.jumpCount s.totalLen) :=
  whileLoop_eq_of_unfold (fun s : parseName.Locals => walkMeasure len s.jumpCount s.offset)
    (parseName.loop_unfold data len) fun s s' hc h => by
      rcases parseName.body_next h with hk | ⟨hk, ho, ho'⟩
      · exact walkMeasure_jump hc hk
      · exact walkMeasure_advance hk ho (by omega)

/-! ### `decodeName` -/

/-- The locals of `decodeName`'s loop; `*out_len` is written only on success. -/
structure decodeName.Locals where
  offset : Nat
  bufPos : Nat
  jumpCount : Nat
  firstLabel : Bool
  outBuf : Nat → UInt8

/-- The body of `decodeName`'s `while (jump_count < MAX_LABELS)` loop. -/
def decodeName.body (packet : Nat → UInt8) (packet_len buf_size out_len : Nat)
    (s : decodeName.Locals) : (Error × (Nat → UInt8) × Nat) ⊕ decodeName.Locals :=
  if packet_len ≤ s.offset then .inl (.TruncatedMessage, s.outBuf, out_len)
  else
    let label_len := (packet s.offset).toNat
    if label_len = 0 then
      .inl (.Success, decodeName.terminate buf_size s.bufPos s.outBuf, s.bufPos)
    else if label_len &&& 0xC0 = 0xC0 then
      if packet_len ≤ s.offset + 1 then .inl (.TruncatedMessage, s.outBuf, out_len)
      else .inr ⟨pointerTarget label_len (packet (s.offset + 1)).toNat, s.bufPos, s.jumpCount + 1,
        s.firstLabel, s.outBuf⟩
    else
      match decodeName.addDot s.firstLabel buf_size s.bufPos s.outBuf with
      | none => .inl (.BufferTooSmall, s.outBuf, out_len)
      | some (out_buf, buf_pos) =>
        if buf_size < buf_pos + label_len then .inl (.BufferTooSmall, out_buf, out_len)
        else .inr ⟨s.offset + 1 + label_len, buf_pos + label_len, s.jumpCount, false,
          copyLabel packet (s.offset + 1) out_buf buf_pos label_len⟩

/-- `decodeName`'s loop, run for at most `fuel` iterations. -/
def decodeName.run (packet : Nat → UInt8) (packet_len buf_size out_len fuel : Nat)
    (s : decodeName.Locals) : Option (Error × (Nat → UInt8) × Nat) :=
  whileLoop (fun s => s.jumpCount < maxLabels) (decodeName.body packet packet_len buf_size out_len)
    (fun s => (.PointerLoop, s.outBuf, out_len)) fuel s

theorem decodeName.body_next {packet : Nat → UInt8} {packet_len buf_size out_len : Nat}
    {s s' : decodeName.Locals} (h : decodeName.body packet packet_len buf_size out_len s = .inr s') :
    s'.jumpCount = s.jumpCount + 1 ∨ s'.jumpCount = s.jumpCount ∧ s.offset < packet_len ∧
      s'.offset = s.offset + 1 + (packet s.offset).toNat := by
  unfold decodeName.body at h
  dsimp only at h
  obtain ⟨hlen, h⟩ := ite_inl_eq_inr h
  obtain ⟨-, h⟩ := ite_inl_eq_inr h
  by_cases hptr : (packet s.offset).toNat &&& 0xC0 = 0xC0
  · obtain ⟨-, h⟩ := ite_inl_eq_inr (by rwa [if_pos hptr] at h)
    cases h; exact .inl rfl
  · rw [if_neg hptr] at h
    generalize decodeName.addDot s.firstLabel buf_size s.bufPos s.outBuf = r at h
    rcases r with _ | ⟨out_buf, buf_pos⟩
    · cases h
    · obtain ⟨-, h⟩ := ite_inl_eq_inr h
      cases h; exact .inr ⟨rfl, by omega, rfl⟩

theorem decodeName.loop_unfold (packet : Nat → UInt8) (packet_len buf_size out_len : Nat)
    (s : decodeName.Locals) :
    decodeName.loop packet packet_len buf_size s.offset s.bufPos s.jumpCount s.firstLabel s.outBuf
        out_len =
      if s.jumpCount < maxLabels then
        (decodeName.body packet packet_len buf_size out_len s).elim id fun s' =>
          decodeName.loop packet packet_len buf_size s'.offset s'.bufPos s'.jumpCount s'.firstLabel
            s'.outBuf out_len
      else (.PointerLoop, s.outBuf, out_len) := by
  rw [decodeName.loop]
  unfold decodeName.body
  dsimp only
  rcases decodeName.addDot s.firstLabel buf_size s.bufPos s.outBuf with _ | ⟨out_buf, buf_pos⟩ <;>
    simp only [apply_ite (Sum.elim _ _), Sum.elim_inl, Sum.elim_inr, id]


theorem decodeName.run_eq (packet : Nat → UInt8) (packet_len buf_size out_len : Nat) :
    ∀ fuel (s : decodeName.Locals), walkMeasure packet_len s.jumpCount s.offset < fuel →
      decodeName.run packet packet_len buf_size out_len fuel s =
        some (decodeName.loop packet packet_len buf_size s.offset s.bufPos s.jumpCount s.firstLabel
          s.outBuf out_len) :=
  whileLoop_eq_of_unfold (fun s : decodeName.Locals => walkMeasure packet_len s.jumpCount s.offset)
    (decodeName.loop_unfold packet packet_len buf_size out_len) fun s s' hc h => by
      rcases decodeName.body_next h with hk | ⟨hk, ho, ho'⟩
      · exact walkMeasure_jump hc hk
      · exact walkMeasure_advance hk ho (by omega)

/-! ### `domainEquals` -/

/-- The locals of `domainEquals`'s loop. -/
structure domainEquals.Locals where
  offset : Nat
  domainPos : Nat
  jumpCount : Nat

/-- The body of `domainEquals`'s `while (jump_count < MAX_LABELS)` loop. -/
def domainEquals.body (packet : Nat → UInt8) (packet_len : Nat) (domain : Nat → UInt8)
    (domain_len : Nat) (s : domainEquals.Locals) : Bool ⊕ domainEquals.Locals :=
  if packet_len ≤ s.offset then .inl false
  else
    let label_len := (packet s.offset).toNat
    if label_len = 0 then .inl (s.domainPos = domain_len)
    else if label_len &&& 0xC0 = 0xC0 then
      if packet_len ≤ s.offset + 1 then .inl false
      else .inr ⟨pointerTarget label_len (packet (s.offset + 1)).toNat, s.domainPos, s.jumpCount + 1⟩
    else
      match domainEquals.compareLabel packet (s.offset + 1) domain domain_len s.domainPos label_len with
      | none => .inl false
      | some domain_pos =>
        if (packet (s.offset + 1 + label_len)).toNat ≠ 0 then
          if domain_len ≤ domain_pos ∨ domain domain_pos ≠ 0x2E then .inl false
          else .inr ⟨s.offset + 1 + label_len, domain_pos + 1, s.jumpCount⟩
        else .inr ⟨s.offset + 1 + label_len, domain_pos, s.jumpCount⟩

/-- `domainEquals`'s loop, run for at most `fuel` iterations. -/
def domainEquals.run (packet : Nat → UInt8) (packet_len : Nat) (domain : Nat → UInt8)
    (domain_len fuel : Nat) (s : domainEquals.Locals) : Option Bool :=
  whileLoop (fun s => s.jumpCount < maxLabels) (domainEquals.body packet packet_len domain domain_len)
    (fun _ => false) fuel s

theorem domainEquals.body_next {packet : Nat → UInt8} {packet_len : Nat} {domain : Nat → UInt8}
    {domain_len : Nat} {s s' : domainEquals.Locals}
    (h : domainEquals.body packet packet_len domain domain_len s = .inr s') :
    s'.jumpCount = s.jumpCount + 1 ∨ s'.jumpCount = s.jumpCount ∧ s.offset < packet_len ∧
      s'.offset = s.offset + 1 + (packet s.offset).toNat := by
  unfold domainEquals.body at h
  dsimp only at h
  obtain ⟨hlen, h⟩ := ite_inl_eq_inr h
  obtain ⟨-, h⟩ := ite_inl_eq_inr h
  by_cases hptr : (packet s.offset).toNat &&& 0xC0 = 0xC0
  · obtain ⟨-, h⟩ := ite_inl_eq_inr (by rwa [if_pos hptr] at h)
    cases h; exact .inl rfl
  · rw [if_neg hptr] at h
    generalize domainEquals.compareLabel packet (s.offset + 1) domain domain_len s.domainPos
      (packet s.offset).toNat = r at h
    rcases r with _ | domain_pos
    · cases h
    · dsimp only at h
      split at h
      · obtain ⟨-, h⟩ := ite_inl_eq_inr h
        cases h; exact .inr ⟨rfl, by omega, rfl⟩
      · cases h; exact .inr ⟨rfl, by omega, rfl⟩

theorem domainEquals.loop_unfold (packet : Nat → UInt8) (packet_len : Nat) (domain : Nat → UInt8)
    (domain_len : Nat) (s : domainEquals.Locals) :
    domainEquals.loop packet packet_len domain domain_len s.offset s.domainPos s.jumpCount =
      if s.jumpCount < maxLabels then
        (domainEquals.body packet packet_len domain domain_len s).elim id fun s' =>
          domainEquals.loop packet packet_len domain domain_len s'.offset s'.domainPos s'.jumpCount
      else false := by
  rw [domainEquals.loop]
  unfold domainEquals.body
  dsimp only
  rcases domainEquals.compareLabel packet (s.offset + 1) domain domain_len s.domainPos
    (packet s.offset).toNat with _ | domain_pos <;>
    simp only [apply_ite (Sum.elim _ _), Sum.elim_inl, Sum.elim_inr, id]

theorem domainEquals.run_eq (packet : Nat → UInt8) (packet_len : Nat) (domain : Nat → UInt8)
    (domain_len : Nat) :
    ∀ fuel (s : domainEquals.Locals), walkMeasure packet_len s.jumpCount s.offset < fuel →
      domainEquals.run packet packet_len domain domain_len fuel s =
        some (domainEquals.loop packet packet_len domain domain_len s.offset s.domainPos s.jumpCount) :=
  whileLoop_eq_of_unfold (fun s : domainEquals.Locals => walkMeasure packet_len s.jumpCount s.offset)
    (domainEquals.loop_unfold packet packet_len domain domain_len) fun s s' hc h => by
      rcases domainEquals.body_next h with hk | ⟨hk, ho, ho'⟩
      · exact walkMeasure_jump hc hk
      · exact walkMeasure_advance hk ho (by omega)

/-! ### The three walks terminate -/

/-- From the start of any name, each walk's `while` loop returns within
`(MAX_LABELS + 1) * (len + 1)` iterations, whatever the packet, the length, the output buffer or
the domain compared with, and returns what the recursive model computes. -/
theorem walk_loops_terminate (data : Nat → UInt8) (len offset : Nat) :
    parseName.run data len ((maxLabels + 1) * (len + 1)) ⟨offset, offset, false, 0, 0⟩ =
        some (parseName data len offset) ∧
      (∀ (out_buf : Nat → UInt8) (buf_size out_len : Nat),
        decodeName.run data len buf_size out_len ((maxLabels + 1) * (len + 1)) ⟨offset, 0, 0, true, out_buf⟩ =
          some (decodeName data len offset out_buf buf_size out_len)) ∧
      ∀ (q : DNSQuestion) (domain : Nat → UInt8) (domain_len : Nat),
        domainEquals.run data len domain domain_len ((maxLabels + 1) * (len + 1)) ⟨q.nameOffset, 0, 0⟩ =
          some (domainEquals data len q domain domain_len) :=
  ⟨parseName.run_eq data len _ _ (walkMeasure_lt len 0 offset),
    fun _ buf_size out_len => decodeName.run_eq data len buf_size out_len _ _ (walkMeasure_lt len 0 offset),
    fun _ domain domain_len => domainEquals.run_eq data len domain domain_len _ _ (walkMeasure_lt len 0 _)⟩

end XdpDns
