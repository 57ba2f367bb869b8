import Mathlib.Data.List.GetD
import Mathlib.Data.Nat.Digits.Lemmas
import Sponsorship.Id.Base62

/-!
# Sponsorship.Proofs.CompactIds

What can be read back from a compact identifier.

An identifier is made of arbitrary characters, the digits of a number to base 62 and a zero for each
leading zero byte. The arbitrary characters are digits like the others, and they stand next to the
least significant one. So the number is read back by a reader who knows where it begins, but not by
one who does not.

* `value`: the number that characters stand for.
* `digits_eq`, `leadingZeroBytes_eq`: digits and zero bytes as digits to base 62 and 256.
* `length_body_le`, `encode_toList`: all digits and zeros fit.
* `encode_reads_back`: an identifier has 22 characters, and they give back the number.
* `Extends`: the last arbitrary character of one identifier is the first digit of another.
* `encode_eq_iff`: two numbers have one identifier in this case alone.
* `shared_identifier`: two numbers of version 4 with one identifier.
-/

namespace Sponsorship.Base62

/-! ## Characters -/

/-- The place of a character in the alphabet. -/
def digit (c : Char) : Nat := alphabet.idxOf c

theorem character_mod (n : Nat) : character (n % 62) = character n := by
  rw [character, Nat.mod_mod, character]

theorem digit_character (n : Nat) : digit (character n) = n % 62 := by
  have hplaces : ∀ i : Fin 62, digit (character i) = i := by decide
  rw [← character_mod]
  exact hplaces ⟨n % 62, Nat.mod_lt n (by decide)⟩

theorem digit_character_val (i : Fin 62) : digit (character i) = i := by
  rw [digit_character, Nat.mod_eq_of_lt i.isLt]

theorem digit_zero : digit '0' = 0 := by decide

theorem character_mem (n : Nat) : character n ∈ alphabet := by
  have hlt : n % 62 < alphabet.length := Nat.mod_lt n (by decide)
  rw [character, List.getD_eq_getElem _ _ hlt]
  exact List.getElem_mem hlt

/-- The number that characters stand for as digits to base 62, the least significant first. -/
def value (cs : List Char) : Nat := Nat.ofDigits 62 (cs.map digit)

theorem value_cons (c : Char) (cs : List Char) : value (c :: cs) = digit c + 62 * value cs := by
  rw [value, List.map_cons, Nat.ofDigits_cons]
  rfl

theorem value_append (cs ds : List Char) :
    value (cs ++ ds) = value cs + 62 ^ cs.length * value ds := by
  rw [value, List.map_append, Nat.ofDigits_append, List.length_map]
  rfl

theorem value_zeros (k : Nat) : value (List.replicate k '0') = 0 := by
  rw [value, List.map_replicate, digit_zero, Nat.ofDigits_replicate_zero]

/-! ## Digits -/

theorem digits_eq (n : Nat) : digits n = (Nat.digits 62 n).map character := by
  fun_induction digits n with
  | case1 => rw [Nat.digits_zero, List.map_nil]
  | case2 n h ih =>
    rw [ih, Nat.digits_def' (by decide) (Nat.pos_of_ne_zero h), List.map_cons, character_mod]

theorem digits_cons {n : Nat} {i : Fin 62} (h : 62 * n + i ≠ 0) :
    digits (62 * n + i) = character i :: digits n := by
  rw [digits, dif_neg h, ← character_mod, Nat.mul_add_mod, character_mod,
    Nat.mul_add_div (by decide), Nat.div_eq_of_lt i.isLt, Nat.add_zero]

theorem value_digits (n : Nat) : value (digits n) = n := by
  fun_induction digits n with
  | case1 => rfl
  | case2 n h ih => rw [value_cons, digit_character, ih, Nat.mod_add_div]

theorem length_digits_le_iff {n k : Nat} : (digits n).length ≤ k ↔ n < 62 ^ k := by
  rw [digits_eq, List.length_map, Nat.digits_length_le_iff (by decide)]

/-- The most significant digit, which stands last, is not zero. -/
theorem reverse_digits {n : Nat} (h : n ≠ 0) :
    ∃ c rest, (digits n).reverse = c :: rest ∧ c ≠ '0' := by
  fun_induction digits n with
  | case1 => exact absurd rfl h
  | case2 n _ ih =>
    by_cases hrest : n / 62 = 0
    · refine ⟨character n, [], by rw [hrest, digits]; rfl, fun hzero => ?_⟩
      have hdigit : n % 62 = 0 := by rw [← digit_character, hzero, digit_zero]
      omega
    · obtain ⟨c, rest, hdigits, hc⟩ := ih hrest
      exact ⟨c, rest ++ [character n], by rw [List.reverse_cons, hdigits, List.cons_append], hc⟩

/-! ## Leading zero bytes -/

theorem length_takeWhile_range {p : Nat → Bool} {m k : Nat} (hk : k ≤ m)
    (hbelow : ∀ i < k, p i = true) (hstop : k < m → p k = false) :
    ((List.range m).takeWhile p).length = k := by
  obtain ⟨rest, rfl⟩ := Nat.exists_eq_add_of_le hk
  rw [List.range_add, List.takeWhile_append_of_pos fun i hi => hbelow i (List.mem_range.mp hi)]
  cases rest with
  | zero => simp
  | succ rest =>
    have hhead : p k = false := hstop (by omega)
    simp [List.range_succ_eq_map, hhead]

theorem length_bytes_le (n : BitVec 128) : (Nat.digits 256 n.toNat).length ≤ 16 :=
  (Nat.digits_length_le_iff (by decide) n.toNat).mpr n.isLt

/-- The leading zero bytes are what the digits to base 256 leave of sixteen. -/
theorem leadingZeroBytes_eq (n : BitVec 128) :
    leadingZeroBytes n.toNat = 16 - (Nat.digits 256 n.toNat).length := by
  have hbyte : ∀ i, n.toNat / Nat.pow 256 i % 256 = (Nat.digits 256 n.toNat).getD i 0 :=
    fun i => (Nat.getD_digits n.toNat i (by decide)).symm
  have hle := length_bytes_le n
  refine length_takeWhile_range (Nat.sub_le _ _) (fun i hi => ?_) fun hlt => ?_
  · rw [hbyte, List.getD_eq_default _ _ (by omega)]
    rfl
  · have hn : n.toNat ≠ 0 := by
      intro hn
      rw [hn] at hlt
      exact absurd hlt (by decide)
    have hlast : 15 - (16 - (Nat.digits 256 n.toNat).length) =
        (Nat.digits 256 n.toNat).length - 1 := by omega
    rw [hbyte, hlast, List.getD_eq_getElem _ _ (by omega), ← List.getLast_eq_getElem,
      decide_eq_false_iff_not]
    exact Nat.getLast_digit_ne_zero 256 hn

/-- Two numbers with equally many leading zero bytes are less than a factor of one byte apart. -/
theorem lt_mul_of_leadingZeroBytes_eq {a b : BitVec 128} (hne : a ≠ b)
    (hzeros : leadingZeroBytes a.toNat = leadingZeroBytes b.toNat) :
    a.toNat ≠ 0 ∧ b.toNat < 256 * a.toNat := by
  have hlength : (Nat.digits 256 a.toNat).length = (Nat.digits 256 b.toNat).length := by
    have ha := length_bytes_le a
    have hb := length_bytes_le b
    rw [leadingZeroBytes_eq, leadingZeroBytes_eq] at hzeros
    omega
  have hpos : a.toNat ≠ 0 := by
    intro ha
    rw [ha, Nat.digits_zero, List.length_nil] at hlength
    have hb : b.toNat = 0 :=
      Nat.digits_eq_nil_iff_eq_zero.mp (List.length_eq_zero_iff.mp hlength.symm)
    exact hne (BitVec.eq_of_toNat_eq (ha.trans hb.symm))
  refine ⟨hpos, ?_⟩
  calc b.toNat
    _ < 256 ^ (Nat.digits 256 b.toNat).length := Nat.lt_base_pow_length_digits (by decide)
    _ = 256 ^ (Nat.digits 256 a.toNat).length := by rw [hlength]
    _ ≤ 256 * a.toNat := Nat.base_pow_length_digits_le _ _ (by decide) hpos

/-! ## Identifiers -/

theorem length_body (n : Nat) : (body n).length = (digits n).length + leadingZeroBytes n := by
  rw [body, List.length_append, List.length_replicate]

theorem value_body (n : Nat) : value (body n) = n := by
  rw [body, value_append, value_digits, value_zeros, Nat.mul_zero, Nat.add_zero]

theorem mem_alphabet_of_mem_body {n : Nat} {c : Char} (h : c ∈ body n) : c ∈ alphabet := by
  rcases List.mem_append.mp h with hdigit | hzero
  · rw [digits_eq] at hdigit
    obtain ⟨d, _, rfl⟩ := List.mem_map.mp hdigit
    exact character_mem d
  · rw [List.eq_of_mem_replicate hzero]
    decide

/-- A number of up to sixteen bytes has at most six digits more than bytes, so there is room for the
zeros that stand for the missing bytes. -/
theorem length_body_le (n : BitVec 128) : (body n.toNat).length ≤ width := by
  have hpowers : ∀ k ≤ 16, 256 ^ k ≤ 62 ^ (k + 6) := by decide
  have hle := length_bytes_le n
  have hdigits : (digits n.toNat).length ≤ (Nat.digits 256 n.toNat).length + 6 :=
    length_digits_le_iff.mpr
      (Nat.lt_of_lt_of_le (Nat.lt_base_pow_length_digits (by decide)) (hpowers _ hle))
  rw [length_body, leadingZeroBytes_eq, width]
  omega

/-- How many characters of an identifier are arbitrary. -/
def spare (n : Nat) : Nat := width - (body n).length

/-- The first `k` arbitrary characters. -/
def front (k : Nat) (padding : Nat → Fin 62) : List Char :=
  (List.range k).map fun i => character (padding i)

theorem length_front (k : Nat) (padding : Nat → Fin 62) : (front k padding).length = k := by
  rw [front, List.length_map, List.length_range]

theorem front_add (k m : Nat) (padding : Nat → Fin 62) :
    front (k + m) padding = front k padding ++ front m fun i => padding (k + i) := by
  rw [front, List.range_add, List.map_append, List.map_map]
  rfl

theorem front_eq_iff {k : Nat} {p q : Nat → Fin 62} :
    front k p = front k q ↔ ∀ i < k, p i = q i := by
  simp only [front, List.map_inj_left, List.mem_range]
  refine forall₂_congr fun i _ => ⟨fun h => ?_, fun h => by rw [h]⟩
  have hdigit := congrArg digit h
  rw [digit_character_val, digit_character_val] at hdigit
  exact Fin.ext hdigit

theorem encode_toList (n : BitVec 128) (padding : Nat → Fin 62) :
    (encode n padding).toList = front (spare n.toNat) padding ++ body n.toNat := by
  rw [encode, String.toList_ofList, List.take_of_length_le (length_body_le n)]
  rfl

/-- An identifier has 22 characters of the alphabet, whatever is drawn. The digits of its number and
the zeros for the leading zero bytes are at most 22, and they all stand in it, after what was drawn.
Read as digits they give back the number. -/
theorem encode_reads_back (n : BitVec 128) (padding : Nat → Fin 62) :
    (encode n padding).length = 22 ∧
    (∀ c ∈ (encode n padding).toList, c ∈ alphabet) ∧
    (digits n.toNat).length + leadingZeroBytes n.toNat ≤ 22 ∧
    (encode n padding).toList =
      front (22 - ((digits n.toNat).length + leadingZeroBytes n.toNat)) padding ++
        (digits n.toNat ++ List.replicate (leadingZeroBytes n.toNat) '0') ∧
    value ((encode n padding).toList.drop
      (22 - ((digits n.toNat).length + leadingZeroBytes n.toNat))) = n.toNat := by
  have hlist := encode_toList n padding
  have hle := length_body_le n
  rw [spare, width] at hlist
  rw [← length_body]
  refine ⟨?_, ?_, hle, hlist, ?_⟩
  · rw [← String.length_toList, hlist, List.length_append, length_front]
    exact Nat.sub_add_cancel hle
  · intro c hc
    rw [hlist, List.mem_append] at hc
    rcases hc with hfront | hbody
    · obtain ⟨i, _, rfl⟩ := List.mem_map.mp hfront
      exact character_mem _
    · exact mem_alphabet_of_mem_body hbody
  · rw [hlist, List.drop_left' (length_front _ _), value_body]

/-! ## Numbers with one identifier -/

/-- How many zeros a text ends in. -/
def trailingZeros (s : String) : Nat := (s.toList.reverse.takeWhile (· = '0')).length

/-- The most significant digit keeps the zeros for the bytes apart from all that comes before; only
zero itself has no such digit, and it has all the zeros that there can be. -/
theorem min_trailingZeros_encode (n : BitVec 128) (padding : Nat → Fin 62) :
    min 16 (trailingZeros (encode n padding)) = leadingZeroBytes n.toNat := by
  have hzeros := leadingZeroBytes_eq n
  rw [trailingZeros, encode_toList, body, List.reverse_append, List.reverse_append,
    List.reverse_replicate, List.append_assoc,
    List.takeWhile_append_of_pos fun c hc => by rw [List.eq_of_mem_replicate hc]; rfl,
    List.length_append, List.length_replicate]
  by_cases hn : n.toNat = 0
  · rw [hn, Nat.digits_zero] at hzeros
    rw [hn, hzeros]
    exact Nat.min_eq_left (Nat.le_add_right _ _)
  · obtain ⟨c, rest, hdigits, hc⟩ := reverse_digits hn
    rw [hdigits, List.cons_append, List.takeWhile_cons_of_neg (by simpa using hc)]
    exact Nat.min_eq_right (hzeros ▸ Nat.sub_le _ _)

/-- The identifier of `a` reads as that of `b` as well: what was drawn last for `a` is the first
digit of `b`, and what was drawn before is the same for both. -/
structure Extends (a : BitVec 128) (p : Nat → Fin 62) (b : BitVec 128) (q : Nat → Fin 62) :
    Prop where
  zeros : leadingZeroBytes a.toNat = leadingZeroBytes b.toNat
  number : b.toNat = 62 * a.toNat + p (spare b.toNat)
  drawn : ∀ i < spare b.toNat, p i = q i

variable {a b : BitVec 128} {p q : Nat → Fin 62}

theorem Extends.encode_eq (hne : a ≠ b) (h : Extends a p b q) : encode a p = encode b q := by
  obtain ⟨hpos, -⟩ := lt_mul_of_leadingZeroBytes_eq hne h.zeros
  have hnumber := h.number
  have hdigits : digits b.toNat = character (p (spare b.toNat)) :: digits a.toNat :=
    (congrArg digits hnumber).trans (digits_cons (by omega))
  have hbody : body b.toNat = character (p (spare b.toNat)) :: body a.toNat := by
    rw [body, hdigits, ← h.zeros, List.cons_append, ← body]
  have hspare : spare a.toNat = spare b.toNat + 1 := by
    have hlength := congrArg List.length hbody
    have hle := length_body_le b
    rw [List.length_cons] at hlength
    unfold spare
    omega
  rw [← String.toList_inj, encode_toList, encode_toList, hspare, front_add, hbody,
    front_eq_iff.mpr h.drawn, List.append_assoc]
  rfl

theorem extends_of_encode_eq (hne : a ≠ b) (hspare : spare b.toNat ≤ spare a.toNat)
    (h : encode a p = encode b q) : Extends a p b q := by
  have hzeros : leadingZeroBytes a.toNat = leadingZeroBytes b.toNat := by
    rw [← min_trailingZeros_encode a p, h, min_trailingZeros_encode]
  obtain ⟨hpos, hlt⟩ := lt_mul_of_leadingZeroBytes_eq hne hzeros
  obtain ⟨k, hk⟩ := Nat.exists_eq_add_of_le hspare
  have hlists := congrArg String.toList h
  rw [encode_toList, encode_toList, hk, front_add, List.append_assoc] at hlists
  obtain ⟨hfront, hbody⟩ := List.append_inj hlists (by rw [length_front, length_front])
  have hvalue := congrArg value hbody
  rw [value_append, value_body, value_body, length_front] at hvalue
  -- No digit more would be the same number, two digits more would be a byte more.
  match k with
  | 0 =>
    refine absurd (BitVec.eq_of_toNat_eq ?_) hne
    rw [← hvalue, Nat.pow_zero, Nat.one_mul]
    exact (Nat.zero_add _).symm
  | 1 =>
    have hdigit : value (front 1 fun i => p (spare b.toNat + i)) = p (spare b.toNat) :=
      (Nat.add_zero _).trans (digit_character_val _)
    exact ⟨hzeros, by omega, front_eq_iff.mp hfront⟩
  | k + 2 =>
    have hpower : 62 ^ 2 * a.toNat ≤ 62 ^ (k + 2) * a.toNat :=
      Nat.mul_le_mul_right _ (Nat.pow_le_pow_right (by decide) (Nat.le_add_left 2 k))
    omega

/-- Different numbers, of version 4 or not, have one identifier exactly if one of them is 62 times
the other and what was drawn last for the other, with as many leading zero bytes, and the rest of
what was drawn is the same. -/
theorem encode_eq_iff (hne : a ≠ b) :
    encode a p = encode b q ↔ Extends a p b q ∨ Extends b q a p := by
  constructor
  · intro h
    rcases Nat.le_total (spare b.toNat) (spare a.toNat) with hspare | hspare
    · exact .inl (extends_of_encode_eq hne hspare h)
    · exact .inr (extends_of_encode_eq hne.symm hspare h.symm)
  · rintro (h | h)
    · exact h.encode_eq hne
    · exact (h.encode_eq hne.symm).symm

/-- A number of version 4 with one arbitrary character in its identifier. -/
def shorter : BitVec 128 := 0x01000000000043208300000000000000

/-- 62 times `shorter`, of version 4 as well; its digits take up the identifier. -/
def longer : BitVec 128 := 0x3E000000001041DFBA00000000000000

theorem extends_shorter : Extends shorter (fun _ => 0) longer (fun _ => 0) where
  zeros := by decide
  number := by decide
  drawn _ _ := rfl

theorem encode_eq_iff_of_shorter : shorter ≠ longer ∧
    encode shorter (fun _ => 0) = encode longer (fun _ => 0) ∧
    encode shorter (fun _ => 1) ≠ encode longer (fun _ => 0) := by
  have hne : shorter ≠ longer := by decide
  refine ⟨hne, (encode_eq_iff hne).mpr (.inl extends_shorter), fun h => ?_⟩
  rcases (encode_eq_iff hne).mp h with h | h
  · exact absurd h.number (by decide)
  · exact absurd h.number (by decide)

/-- The identifiers of two numbers of version 4 need not differ. -/
theorem shared_identifier : version4 shorter = shorter ∧ version4 longer = longer ∧
    shorter ≠ longer ∧ encode shorter (fun _ => 0) = encode longer (fun _ => 0) := by
  have hne : shorter ≠ longer := by decide
  exact ⟨by decide, by decide, hne, extends_shorter.encode_eq hne⟩

end Sponsorship.Base62
