import Mathlib.Data.Nat.Bitwise

/-!
# Common definitions (`common.hpp`)

The error codes, the size limits and the byte-level helpers shared by the parser, the response
builder and the domain trie. A buffer is modelled as the function from byte index to byte
(`Nat → UInt8`), its length kept apart: this is the C view of a pointer and a length, and it lets us
say that a function reads only below the length (its result does not depend on the bytes past it).
C integer arithmetic is done in `Nat` after reading a byte or a 16-bit word, as C promotes
`uint8_t` and `uint16_t` operands to `int` or `size_t`; `size_t` values are bounded by a buffer
length, so they do not wrap.
-/

namespace XdpDns

/-- `enum class Error` of `common.hpp`. -/
inductive Error where
  | Success
  | PacketTooShort
  | InvalidHeader
  | TruncatedMessage
  | PointerLoop
  | InvalidLabel
  | BufferTooSmall
  | NotQuery
deriving DecidableEq, Repr

/-- The enumerator's value, as `static_cast<int>(err)` returns it. -/
def Error.toInt : Error → Int
  | .Success => 0
  | .PacketTooShort => -1
  | .InvalidHeader => -2
  | .TruncatedMessage => -3
  | .PointerLoop => -4
  | .InvalidLabel => -5
  | .BufferTooSmall => -6
  | .NotQuery => -7

theorem Error.toInt_injective {e e' : Error} : e.toInt = e'.toInt ↔ e = e' := by
  cases e <;> cases e' <;> decide

def maxDomainLength : Nat := 255
def maxLabelLength : Nat := 63
def maxLabels : Nat := 128
def dnsHeaderSize : Nat := 12
/-- Header, a one-byte root name, qtype and qclass. -/
def minDnsQuerySize : Nat := dnsHeaderSize + 5

namespace dns_type
def A : Nat := 1
def AAAA : Nat := 28
end dns_type

namespace dns_class
def IN : Nat := 1
end dns_class

/-! ### Bytes -/

/-- The buffer holding `l` (and zeros past its end). -/
def bytesOf (l : List UInt8) : Nat → UInt8 := fun i => l.getD i 0

/-- `ntohs` of the 16-bit word at `k`: the big-endian value of bytes `k` and `k + 1`. -/
def be16 (data : Nat → UInt8) (k : Nat) : UInt16 :=
  UInt16.ofNat ((data k).toNat * 256 + (data (k + 1)).toNat)

theorem be16_toNat (data : Nat → UInt8) (k : Nat) :
    (be16 data k).toNat = (data k).toNat * 256 + (data (k + 1)).toNat := by
  have h₁ := UInt8.toNat_lt_size (data k)
  have h₂ := UInt8.toNat_lt_size (data (k + 1))
  exact UInt16.toNat_ofNat_of_lt (by simp only [UInt8.size, UInt16.size] at *; omega)

theorem be16_congr {data data' : Nat → UInt8} {k : Nat} (h₀ : data k = data' k)
    (h₁ : data (k + 1) = data' (k + 1)) : be16 data k = be16 data' k := by
  simp only [be16, h₀, h₁]

/-- `std::tolower` in the C locale: only `A`-`Z` change. -/
def tolower (c : UInt8) : UInt8 :=
  if 65 ≤ c.toNat ∧ c.toNat ≤ 90 then c + 32 else c

theorem tolower_eq_dot (c : UInt8) : tolower c = 0x2E ↔ c = 0x2E := by
  unfold tolower
  split_ifs with h
  · have h₁ : (c + 32).toNat ≠ 46 := by
      show (c.toBitVec + (32 : UInt8).toBitVec).toNat ≠ 46
      rw [BitVec.toNat_add]; show (c.toNat + 32) % 256 ≠ 46; omega
    exact ⟨fun e => absurd (congrArg UInt8.toNat e) h₁,
      fun e => absurd (congrArg UInt8.toNat e) (by show c.toNat ≠ 46; omega)⟩
  · rfl

theorem tolower_tolower (c : UInt8) : tolower (tolower c) = tolower c := by
  unfold tolower
  split_ifs with h h'
  · have h₁ : (c + 32).toNat = c.toNat + 32 := by
      show (c.toBitVec + (32 : UInt8).toBitVec).toNat = _
      rw [BitVec.toNat_add]; show (c.toNat + 32) % 256 = _; omega
    omega
  · rfl
  · rfl

/-- The offset a compression pointer `hi lo` designates: `((hi & 0x3F) << 8) | lo`. -/
def pointerTarget (hi lo : Nat) : Nat := ((hi &&& 0x3F) <<< 8) ||| lo

set_option maxRecDepth 2000 in
theorem isPointer_iff {n : Nat} (hn : n < 256) : n &&& 0xC0 = 0xC0 ↔ 0xC0 ≤ n := by
  have h : ∀ m < 256, (m &&& 0xC0 = 0xC0 ↔ 0xC0 ≤ m) := by decide
  exact h n hn

theorem byte_lt (b : UInt8) : b.toNat < 256 := UInt8.toNat_lt_size b

theorem toNat_uint8_ofNat (n : Nat) : (UInt8.ofNat n).toNat = n % 256 := BitVec.toNat_ofNat _ _

/-! ### Counters

The counters (`rule_count_`, the statistics) are `size_t` and `uint64_t` values that wrap. -/

theorem uint64_toNat_add_one (a : UInt64) : (a + 1).toNat = (a.toNat + 1) % 2 ^ 64 := by
  simp only [UInt64.toNat, UInt64.add_def, Fin.val_add]; rfl

theorem uint64_toNat_sub_one (a : UInt64) : (a - 1).toNat = (a.toNat + (2 ^ 64 - 1)) % 2 ^ 64 := by
  simp only [UInt64.toNat, UInt64.sub_def, Fin.sub_def]; simp [Nat.add_comm]

/-! ### Flag masks

The builders update the flags word by `flags |= set; flags &= mask; flags |= code`. Reading one
bit group back distributes the last `&` over the three steps. -/

theorem mask_and (x s m c k : Nat) :
    ((x ||| s) &&& m ||| c) &&& k = (x &&& (m &&& k)) ||| (s &&& (m &&& k)) ||| (c &&& k) := by
  apply Nat.eq_of_testBit_eq; intro i
  simp only [Nat.testBit_lor, Nat.testBit_land]
  cases x.testBit i <;> cases s.testBit i <;> cases m.testBit i <;> cases c.testBit i <;>
    cases k.testBit i <;> rfl

theorem and_or_self_or_and (x m y : Nat) : (x &&& m) ||| m ||| (y &&& m) = m := by
  apply Nat.eq_of_testBit_eq; intro i
  simp only [Nat.testBit_lor, Nat.testBit_land]
  cases x.testBit i <;> cases m.testBit i <;> cases y.testBit i <;> rfl

theorem qr_of_mask (x s c : Nat) (hs : s &&& 0x8000 = 0x8000) :
    ((x ||| s) &&& 0xFFF0 ||| c) &&& 0x8000 = 0x8000 := by
  rw [mask_and, show (0xFFF0 &&& 0x8000 : Nat) = 0x8000 from rfl, hs, and_or_self_or_and]

theorem rcode_of_mask (x s c : Nat) (hc : c < 16) : ((x ||| s) &&& 0xFFF0 ||| c) &&& 0xF = c := by
  have h := Nat.and_pow_two_sub_one_of_lt_two_pow (show c < 2 ^ 4 by omega)
  rw [mask_and, show (0xFFF0 &&& 0xF : Nat) = 0 from rfl, Nat.and_zero, Nat.and_zero,
    Nat.zero_or, Nat.zero_or]
  simpa using h

theorem rd_of_mask (x s c : Nat) (hs : s &&& 0x100 = 0) (hc : c &&& 0x100 = 0) :
    ((x ||| s) &&& 0xFFF0 ||| c) &&& 0x100 = x &&& 0x100 := by
  rw [mask_and, show (0xFFF0 &&& 0x100 : Nat) = 0x100 from rfl, hs, hc, Nat.or_zero, Nat.or_zero]

end XdpDns
