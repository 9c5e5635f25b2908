import XdpDns.Basic

/-!
# The label walk of a wire name

`NameWalk data lo hi offset jumps ret labels nameEnd` says what the parser's contract asks of a
wire name, independently of any of the three loops that walk one (`parseName`, `decodeName`,
`domainEquals`): from `offset`, after `jumps` compression pointers, every length byte read is a
zero byte, a literal label of at most `MAX_LABEL_LENGTH` bytes lying below `hi`, or a pointer
whose second byte lies below `hi` and whose target lies in `[lo, hi)`; no more than
`MAX_LABELS - 1` pointers are followed. `labels` lists the literal labels visited, each as the
offset of its length byte and its length. `ret` is the end offset fixed by the first pointer
followed, and `nameEnd` is that offset, or the byte after the zero byte when no pointer was followed.

The packet's own bounds are `lo = 0`, `hi = len`; a smaller window says that the walk reads only
inside it.
-/

namespace XdpDns

inductive NameWalk (data : Nat → UInt8) (lo hi : Nat) :
    Nat → Nat → Option Nat → List (Nat × Nat) → Nat → Prop
  | stop {offset jumps : Nat} {ret : Option Nat} (hk : jumps < maxLabels) (ho : offset < hi)
      (hz : (data offset).toNat = 0) :
      NameWalk data lo hi offset jumps ret [] (ret.getD (offset + 1))
  | label {offset jumps : Nat} {ret : Option Nat} {labels : List (Nat × Nat)} {nameEnd : Nat}
      (hk : jumps < maxLabels) (hz : (data offset).toNat ≠ 0)
      (hl : (data offset).toNat ≤ maxLabelLength) (he : offset + 1 + (data offset).toNat ≤ hi)
      (rest : NameWalk data lo hi (offset + 1 + (data offset).toNat) jumps ret labels nameEnd) :
      NameWalk data lo hi offset jumps ret ((offset, (data offset).toNat) :: labels) nameEnd
  | pointer {offset jumps : Nat} {ret : Option Nat} {labels : List (Nat × Nat)} {nameEnd : Nat}
      (hk : jumps < maxLabels) (hp : 0xC0 ≤ (data offset).toNat) (hn : offset + 1 < hi)
      (hlo : lo ≤ pointerTarget (data offset).toNat (data (offset + 1)).toNat)
      (ht : pointerTarget (data offset).toNat (data (offset + 1)).toNat < hi)
      (rest : NameWalk data lo hi (pointerTarget (data offset).toNat (data (offset + 1)).toNat)
        (jumps + 1) (ret <|> some (offset + 2)) labels nameEnd) :
      NameWalk data lo hi offset jumps ret labels nameEnd

/-- The bytes of the literal label whose length byte is at `offset`. -/
def labelBytes (data : Nat → UInt8) (l : Nat × Nat) : List UInt8 :=
  (List.range l.2).map fun i => data (l.1 + 1 + i)

/-- The wire bytes of the labels visited: a length byte and the label itself for each. -/
def labelsWireLen : List (Nat × Nat) → Nat
  | [] => 0
  | l :: labels => 1 + l.2 + labelsWireLen labels

theorem labelsWireLen_append (as bs : List (Nat × Nat)) :
    labelsWireLen (as ++ bs) = labelsWireLen as + labelsWireLen bs := by
  induction as with
  | nil => simp [labelsWireLen]
  | cons a as ih => rw [List.cons_append, labelsWireLen, labelsWireLen, ih]; omega

theorem labelsWireLen_ne_one {labels : List (Nat × Nat)} (h : ∀ l ∈ labels, 0 < l.2) :
    labelsWireLen labels ≠ 1 := by
  cases labels with
  | nil => simp [labelsWireLen]
  | cons l labels => have := h l (List.mem_cons_self _ _); simp only [labelsWireLen]; omega

/-- The walk from `offset` meets no compression pointer: the byte at every label boundary, the end
of the name included, is a label length or the zero byte. -/
def NoPointer (data : Nat → UInt8) (offset : Nat) (labels : List (Nat × Nat)) : Prop :=
  ∀ pre post, labels = pre ++ post → (data (offset + labelsWireLen pre)).toNat < 0xC0

namespace NameWalk

variable {data data' : Nat → UInt8} {lo hi : Nat}

theorem det {offset jumps : Nat} {ret : Option Nat} {labels labels' : List (Nat × Nat)}
    {e e' : Nat} (h : NameWalk data lo hi offset jumps ret labels e)
    (h' : NameWalk data lo hi offset jumps ret labels' e') : labels = labels' ∧ e = e' := by
  induction h generalizing labels' e' with
  | stop _ _ hz =>
    cases h' with
    | stop => exact ⟨rfl, rfl⟩
    | label _ hz' => exact absurd hz hz'
    | pointer _ hp => omega
  | label _ hz hl _ _ ih =>
    cases h' with
    | stop _ _ hz' => exact absurd hz' hz
    | label _ _ _ _ rest => obtain ⟨rfl, rfl⟩ := ih rest; exact ⟨rfl, rfl⟩
    | pointer _ hp => simp only [maxLabelLength] at hl; omega
  | pointer _ hp _ _ _ _ ih =>
    cases h' with
    | stop _ _ hz' => omega
    | label _ _ hl' => simp only [maxLabelLength] at hl'; omega
    | pointer _ _ _ _ _ rest => exact ih rest

theorem congr {offset jumps : Nat} {ret : Option Nat} {labels : List (Nat × Nat)} {e : Nat}
    (h : NameWalk data lo hi offset jumps ret labels e) (hlo : lo ≤ offset)
    (hd : ∀ i, lo ≤ i → i < hi → data i = data' i) :
    NameWalk data' lo hi offset jumps ret labels e := by
  induction h with
  | stop hk ho hz => exact .stop hk ho (by rw [← hd _ hlo ho]; exact hz)
  | @label offset _ _ _ _ hk hz hl he _ ih =>
    have hb := hd offset hlo (by omega)
    rw [hb] at hz hl he ih ⊢
    exact .label hk hz hl he (ih (by omega))
  | @pointer offset _ _ _ _ hk hp hn hl ht _ ih =>
    have hb := hd offset hlo (by omega)
    have hb' := hd (offset + 1) (by omega) hn
    simp only [hb, hb'] at hp hl ht ih
    exact .pointer hk hp hn hl ht (ih hl)

theorem mono {lo' hi' offset jumps : Nat} {ret : Option Nat} {labels : List (Nat × Nat)} {e : Nat}
    (h : NameWalk data lo hi offset jumps ret labels e) (hlo : lo' ≤ lo) (hhi : hi ≤ hi') :
    NameWalk data lo' hi' offset jumps ret labels e := by
  induction h with
  | stop hk ho hz => exact .stop hk (by omega) hz
  | label hk hz hl he _ ih => exact .label hk hz hl (by omega) ih
  | pointer hk hp hn hl ht _ ih => exact .pointer hk hp (by omega) (by omega) (by omega) ih

theorem nameEnd_cases {offset jumps : Nat} {ret : Option Nat} {labels : List (Nat × Nat)} {e : Nat}
    (h : NameWalk data lo hi offset jumps ret labels e) : ret = some e ∨ ret = none ∧ offset < e := by
  induction h with
  | @stop offset _ ret _ _ _ => cases ret <;> simp
  | label _ _ _ _ _ ih =>
    rcases ih with h | ⟨h, he⟩
    · exact .inl h
    · exact .inr ⟨h, by omega⟩
  | @pointer offset _ ret _ _ _ _ _ _ _ _ ih => cases ret <;> simp at ih ⊢ <;> omega

theorem lt_nameEnd {offset jumps : Nat} {labels : List (Nat × Nat)} {e : Nat}
    (h : NameWalk data lo hi offset jumps none labels e) : offset < e := by
  simpa using h.nameEnd_cases

theorem labels_pos {offset jumps : Nat} {ret : Option Nat} {labels : List (Nat × Nat)} {e : Nat}
    (h : NameWalk data lo hi offset jumps ret labels e) : ∀ l ∈ labels, 0 < l.2 := by
  induction h with
  | stop => simp
  | label _ hz _ _ _ ih =>
    intro l hl
    rcases List.mem_cons.1 hl with rfl | hl
    · exact Nat.pos_of_ne_zero hz
    · exact ih l hl
  | pointer _ _ _ _ _ _ ih => exact ih

theorem nameEnd_shape {offset jumps : Nat} {labels : List (Nat × Nat)} {e : Nat}
    (h : NameWalk data lo hi offset jumps none labels e) :
    (e = offset + labelsWireLen labels + 1 ∧ NoPointer data offset labels) ∨
      ∃ pre post, labels = pre ++ post ∧ 0xC0 ≤ (data (offset + labelsWireLen pre)).toNat ∧
        e = offset + labelsWireLen pre + 2 := by
  generalize hr : (none : Option Nat) = ret at h
  induction h with
  | @stop offset _ _ _ _ hz =>
    subst hr
    refine .inl ⟨rfl, fun pre post hp => ?_⟩
    obtain ⟨rfl, -⟩ := List.append_eq_nil.1 hp.symm
    simp [labelsWireLen, hz]
  | @label offset _ _ labels _ _ hz hl _ _ ih =>
    have hl' : (data offset).toNat < 0xC0 := by simp only [maxLabelLength] at hl; omega
    have hcons : ∀ pre, offset + labelsWireLen ((offset, (data offset).toNat) :: pre) =
        offset + 1 + (data offset).toNat + labelsWireLen pre := fun pre => by
      simp only [labelsWireLen]; omega
    rcases ih hr with ⟨rfl, hnp⟩ | ⟨pre, post, rfl, hp, rfl⟩
    · refine .inl ⟨by rw [hcons], fun pre post hpp => ?_⟩
      cases pre with
      | nil => simpa [labelsWireLen] using hl'
      | cons p pre =>
        obtain ⟨rfl, hrest⟩ := List.cons_eq_cons.1 hpp
        rw [hcons]; exact hnp pre post hrest
    · exact .inr ⟨_ :: pre, post, rfl, by rwa [hcons], by rw [hcons]⟩
  | @pointer offset _ _ labels _ _ hp _ _ _ rest _ =>
    subst hr
    have he := rest.nameEnd_cases
    simp only [Option.none_orElse, Option.some.injEq, reduceCtorEq, false_and, or_false] at he
    exact .inr ⟨[], labels, rfl, by simpa [labelsWireLen] using hp, by simp [labelsWireLen, he]⟩

end NameWalk

end XdpDns
