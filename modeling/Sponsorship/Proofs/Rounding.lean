import Mathlib.Algebra.Group.Nat.Defs
import Sponsorship.Json.Reader

/-!
# Numbers of a format

Rounding gives a number of the format or an infinity, and every number of 32 bits can be written
with 64.

* `Binary.IsNumber`: a finite number that the format really has.
* `lt_floorLog2`, `Format.has_round`: what rounding gives.
* `Single.isFinite_toDouble`: a number of 32 bits is no overflow among those of 64.
* `Reader.single_isFinite`: the same holds of every finite number that was read.
-/

namespace Sponsorship

namespace Number

/-- The sizes of a format. -/
def Format.Has (f : Format) : Magnitude → Prop
  | .finite m e => m < 2 ^ f.precision ∧ f.lowest ≤ e ∧ e ≤ f.highest
  | .infinite => False

def Binary.IsNumber {f : Format} (x : Binary f) : Prop := f.Has x.magnitude

theorem Binary.IsNumber.isFinite {f : Format} {x : Binary f} (h : x.IsNumber) :
    x.isFinite = true := by
  unfold IsNumber at h
  unfold Binary.isFinite
  cases hx : x.magnitude with
  | finite => rfl
  | infinite => rw [hx] at h; exact h.elim

/-! ## Rounding -/

theorem floorLog2_le (num den : Nat) : floorLog2 num den ≤ Nat.log2 num - Nat.log2 den := by
  unfold floorLog2
  simp only
  split <;> omega

/-- In units of `2 ^ e` a fraction is less than `2 ^ p`, if `e` is not smaller than its leading bit
asks for. -/
theorem lt_floorLog2 {num den p : Nat} {e : Int} (hden : den ≠ 0)
    (he : floorLog2 num den - (p - 1) ≤ e) :
    if 0 ≤ e then num < den * 2 ^ e.toNat * 2 ^ p else num * 2 ^ (-e).toNat < den * 2 ^ p := by
  have hnum' : num < 2 ^ (Nat.log2 num + 1) := Nat.lt_log2_self
  have hden' : 2 ^ Nat.log2 den ≤ den := Nat.log2_self_le hden
  unfold floorLog2 at he
  simp only [Nat.pow_eq] at he
  generalize Nat.log2 num = l at *
  generalize Nat.log2 den = d at *
  -- the leading bits of the two differ by the exponent, or by one less
  by_cases hbelow : (if (0 : Int) ≤ (l : Int) - d then den * 2 ^ ((l : Int) - d).toNat ≤ num
      else den ≤ num * 2 ^ (-((l : Int) - d)).toNat)
  · rw [if_pos (by simpa using hbelow)] at he
    split
    case isTrue h =>
      calc num < 2 ^ (l + 1) := hnum'
        _ ≤ 2 ^ (d + e.toNat + p) := Nat.pow_le_pow_right (by decide) (by omega)
        _ = 2 ^ d * 2 ^ e.toNat * 2 ^ p := by rw [Nat.pow_add, Nat.pow_add]
        _ ≤ den * 2 ^ e.toNat * 2 ^ p :=
          Nat.mul_le_mul_right _ (Nat.mul_le_mul_right _ hden')
    case isFalse h =>
      calc num * 2 ^ (-e).toNat < 2 ^ (l + 1) * 2 ^ (-e).toNat :=
            Nat.mul_lt_mul_of_pos_right hnum' (Nat.two_pow_pos _)
        _ = 2 ^ (l + 1 + (-e).toNat) := (Nat.pow_add ..).symm
        _ ≤ 2 ^ (d + p) := Nat.pow_le_pow_right (by decide) (by omega)
        _ = 2 ^ d * 2 ^ p := Nat.pow_add ..
        _ ≤ den * 2 ^ p := Nat.mul_le_mul_right _ hden'
  · rw [if_neg (by simpa using hbelow)] at he
    split at hbelow
    case isTrue hk =>
      have hlt : num < den * 2 ^ ((l : Int) - d).toNat := Nat.lt_of_not_le hbelow
      split
      case isTrue h =>
        calc num < den * 2 ^ ((l : Int) - d).toNat := hlt
          _ ≤ den * 2 ^ (e.toNat + p) :=
            Nat.mul_le_mul_left _ (Nat.pow_le_pow_right (by decide) (by omega))
          _ = den * 2 ^ e.toNat * 2 ^ p := by rw [Nat.pow_add, Nat.mul_assoc]
      case isFalse h =>
        calc num * 2 ^ (-e).toNat < den * 2 ^ ((l : Int) - d).toNat * 2 ^ (-e).toNat :=
              Nat.mul_lt_mul_of_pos_right hlt (Nat.two_pow_pos _)
          _ = den * 2 ^ (((l : Int) - d).toNat + (-e).toNat) := by rw [Nat.mul_assoc, Nat.pow_add]
          _ ≤ den * 2 ^ p := Nat.mul_le_mul_left _ (Nat.pow_le_pow_right (by decide) (by omega))
    case isFalse hk =>
      have hlt : num * 2 ^ (-((l : Int) - d)).toNat < den := Nat.lt_of_not_le hbelow
      split
      case isTrue h =>
        calc num ≤ num * 2 ^ (-((l : Int) - d)).toNat :=
              Nat.le_mul_of_pos_right _ (Nat.two_pow_pos _)
          _ < den := hlt
          _ ≤ den * (2 ^ e.toNat * 2 ^ p) :=
            Nat.le_mul_of_pos_right _ (Nat.mul_pos (Nat.two_pow_pos _) (Nat.two_pow_pos _))
          _ = den * 2 ^ e.toNat * 2 ^ p := (Nat.mul_assoc ..).symm
      case isFalse h =>
        calc num * 2 ^ (-e).toNat ≤ num * 2 ^ ((-((l : Int) - d)).toNat + p) :=
              Nat.mul_le_mul_left _ (Nat.pow_le_pow_right (by decide) (by omega))
          _ = num * 2 ^ (-((l : Int) - d)).toNat * 2 ^ p := by rw [Nat.pow_add, Nat.mul_assoc]
          _ < den * 2 ^ p := Nat.mul_lt_mul_of_pos_right hlt (Nat.two_pow_pos _)

theorem roundDiv_le {num den limit : Nat} (h : num < den * limit) : roundDiv num den ≤ limit := by
  have hq : num / den < limit := Nat.div_lt_of_lt_mul h
  unfold roundDiv
  simp only
  split
  · omega
  split
  · omega
  · have := Nat.mod_lt (num / den) (show 0 < 2 by decide)
    omega

theorem roundAt_le {num den p : Nat} {e : Int} (hden : den ≠ 0)
    (he : floorLog2 num den - (p - 1) ≤ e) : roundAt num den e ≤ 2 ^ p := by
  have h := lt_floorLog2 hden he
  unfold roundAt
  split at h
  case isTrue h0 => rw [if_pos h0]; exact roundDiv_le h
  case isFalse h0 => rw [if_neg h0]; exact roundDiv_le h

namespace Format

variable {f : Format}

theorem has_zero (h : f.lowest ≤ f.highest) : f.Has (.finite 0 f.lowest) :=
  ⟨Nat.two_pow_pos _, Int.le_refl _, h⟩

theorem has_unless {m : Nat} {e : Int} (hm : m < 2 ^ f.precision) (he : f.lowest ≤ e) :
    (if f.highest < e then Magnitude.infinite else .finite m e) = .infinite ∨
      f.Has (if f.highest < e then .infinite else .finite m e) := by
  split
  · exact .inl rfl
  · exact .inr ⟨hm, he, Int.not_lt.mp ‹_›⟩

/-- A size that is not too large is one of the format: a significand that is rounded up to one bit
more moves its exponent. -/
theorem has_round (hf : f.lowest ≤ f.highest) (hp : 0 < f.precision) (num : Nat) {den : Nat}
    (hden : den ≠ 0) : f.round num den = .infinite ∨ f.Has (f.round num den) := by
  unfold round
  by_cases hnum : num = 0
  · rw [if_pos hnum]
    exact .inr (has_zero hf)
  rw [if_neg hnum]
  simp only [Nat.pow_eq]
  generalize he : max (floorLog2 num den - (f.precision - 1)) f.lowest = e
  have hsig : roundAt num den e ≤ 2 ^ f.precision := roundAt_le hden (by omega)
  by_cases hcarry : roundAt num den e = 2 ^ f.precision
  · simp only [if_pos hcarry]
    exact has_unless (Nat.pow_lt_pow_right (by decide) (by omega)) (by omega)
  · simp only [if_neg hcarry]
    exact has_unless (Nat.lt_of_le_of_ne hsig hcarry) (by omega)

/-- A fraction whose leading bit is not too high is no infinity. -/
theorem round_ne_infinite {num den : Nat} (hf : f.lowest < f.highest)
    (h : floorLog2 num den + 2 ≤ f.highest + f.precision) : f.round num den ≠ .infinite := by
  unfold round
  by_cases hnum : num = 0
  · rw [if_pos hnum]
    nofun
  rw [if_neg hnum]
  simp only
  rw [if_neg]
  · nofun
  split <;> omega

end Format

theorem Binary.convert_isNumber_or {f g : Format} (hg : g.lowest ≤ g.highest) (hp : 0 < g.precision)
    (x : Binary f) : (x.convert g).magnitude = .infinite ∨ (x.convert g).IsNumber := by
  unfold Binary.IsNumber Binary.convert
  cases x.magnitude with
  | infinite => exact .inl rfl
  | finite m e =>
    simp only [Nat.pow_eq]
    split
    · exact Format.has_round hg hp _ (by decide)
    · exact Format.has_round hg hp _ (Nat.ne_of_gt (Nat.two_pow_pos _))

/-- The largest number of 32 bits is far from the largest of 64. -/
theorem Single.isFinite_toDouble {x : Single} (h : x.IsNumber) :
    (x.convert .double).isFinite = true := by
  unfold Binary.IsNumber at h
  unfold Binary.isFinite Binary.convert
  cases hx : x.magnitude with
  | infinite => rw [hx] at h; exact h.elim
  | finite m e =>
    rw [hx] at h
    obtain ⟨hm, -, he⟩ := h
    simp only [Format.single] at hm he
    simp only [Nat.pow_eq]
    have hfit {num den : Nat} (hnum : num < 2 ^ 128) : Format.double.round num den ≠ .infinite := by
      refine Format.round_ne_infinite (by decide) ?_
      have hbits : Nat.log2 num < 128 := by
        by_cases h0 : num = 0
        · rw [h0]; decide
        · exact (Nat.log2_lt h0).mpr hnum
      have := floorLog2_le num den
      simp only [Format.double]
      omega
    have hnum : m * 2 ^ e.toNat < 2 ^ 128 := by
      calc m * 2 ^ e.toNat < 2 ^ 24 * 2 ^ e.toNat :=
            Nat.mul_lt_mul_of_pos_right hm (Nat.two_pow_pos _)
        _ = 2 ^ (24 + e.toNat) := (Nat.pow_add ..).symm
        _ ≤ 2 ^ 128 := Nat.pow_le_pow_right (by decide) (by omega)
    split
    case h_1 => rfl
    case h_2 heq =>
      split at heq
      · exact absurd heq (hfit hnum)
      · have hbits : 2 ^ 24 ≤ 2 ^ 128 := Nat.pow_le_pow_right (by decide) (by decide)
        exact absurd heq (hfit (Nat.lt_of_lt_of_le hm hbits))

theorem Format.ofInt_isNumber_or {f : Format} (hf : f.lowest ≤ f.highest) (hp : 0 < f.precision)
    (n : Int) : (f.ofInt n).magnitude = .infinite ∨ (f.ofInt n).IsNumber :=
  has_round hf hp _ (by decide)

theorem Binary.isNumber_of_or {f : Format} {x : Binary f}
    (h : x.magnitude = .infinite ∨ x.IsNumber) (hx : x.isFinite = true) : x.IsNumber := by
  refine h.resolve_left fun hinf => ?_
  rw [Binary.isFinite, hinf] at hx
  cases hx

end Number

open Number

/-- A number that was read as one of 32 bits is infinite or small enough to be read again. -/
theorem Reader.single_isFinite {d : Document} {x : Single} (h : Reader.single d = .ok x)
    (hx : x.isFinite = true) : (x.convert .double).isFinite = true := by
  have hsingle (y : Double) : (y.convert .single).isFinite = true →
      ((y.convert .single).convert .double).isFinite = true := fun hy =>
    Single.isFinite_toDouble
      (Binary.isNumber_of_or (Binary.convert_isNumber_or (by decide) (by decide) y) hy)
  cases d with
  | number n =>
    rw [Reader.single] at h
    split at h
    case isTrue => cases h
    case isFalse hover =>
      cases h
      cases n with
      | integer v =>
        simp only [Json.Number.toSingle] at hx ⊢
        by_cases hword : Json.Number.isWord v = true
        · rw [if_pos hword] at hx ⊢
          exact Single.isFinite_toDouble
            (Binary.isNumber_of_or (Format.ofInt_isNumber_or (by decide) (by decide) v) hx)
        · rw [if_neg hword] at hx ⊢
          exact hsingle _ hx
      | decimal negative digits exponent => exact hsingle _ hx
      | single y =>
        simpa [Json.Number.isOverflow, Json.Number.toDouble, Json.Number.toSingle] using hover
      | double y => exact hsingle _ hx
  | _ => cases h

end Sponsorship
