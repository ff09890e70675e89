import GraphLedger.Text.Base64
import Mathlib.Data.List.GetD
import Mathlib.Data.Nat.Digits.Lemmas
import Mathlib.Tactic.Ring

/-! # Bytes in base 64

Bytes are read back from the digits that they are written with. And the digits are what the form
asks for: eight bits of each byte in a row, and zeros behind them until six bits are there for each
digit, so fewer than six. Read as one number, that is the number of the bytes shifted by the zeros.
A number has only one expansion of a given length, so no bytes can be written in two ways, and what
is read from digits is written with these digits only.

* `decode?_encode`: bytes are read back from their digits.
* `Writes`: digits that write bytes, said of the two numbers alone.
* `writes_iff`: the digits of bytes are the only ones that write them.
* `decode?_eq_some_iff`: bytes are read from the digits that write them, and from no others. -/

namespace GraphLedger.Text.Base64

/-! ### Reading what was written -/

/-- The values of the digits that bytes are written with. -/
def sextets : List Nat → List Nat
  | [] => []
  | [a] => [a / 4, a % 4 * 16]
  | [a, b] => [a / 4, a % 4 * 16 + b / 16, b % 16 * 4]
  | a :: b :: c :: rest =>
    a / 4 :: (a % 4 * 16 + b / 16) :: (b % 16 * 4 + c / 64) :: c % 64 :: sextets rest

theorem encode_eq_map : ∀ bs : List Nat, encode bs = (sextets bs).map digit
  | [] => rfl
  | [_] => rfl
  | [_, _] => rfl
  | a :: b :: c :: rest => by
    rw [encode, sextets, encode_eq_map rest]
    rfl

theorem sextets_lt : ∀ bs : List Nat, (∀ b ∈ bs, b < 256) → ∀ v ∈ sextets bs, v < 64
  | [], _, v, hv => by cases hv
  | [a], h, v, hv => by
    have ha := h a (by simp)
    simp only [sextets, List.mem_cons, List.not_mem_nil, or_false] at hv
    omega
  | [a, b], h, v, hv => by
    have ha := h a (by simp)
    have hb := h b (by simp)
    simp only [sextets, List.mem_cons, List.not_mem_nil, or_false] at hv
    omega
  | a :: b :: c :: rest, h, v, hv => by
    have ha := h a (by simp)
    have hb := h b (by simp)
    have hc := h c (by simp)
    have hrest := sextets_lt rest fun x hx => h x (by simp [hx])
    simp only [sextets, List.mem_cons] at hv
    rcases hv with hv | hv | hv | hv | hv
    · omega
    · omega
    · omega
    · omega
    · exact hrest v hv

theorem bytes?_sextets : ∀ bs : List Nat, (∀ b ∈ bs, b < 256) → bytes? (sextets bs) = some bs
  | [], _ => rfl
  | [a], _ => by
    have hlow : (a % 4 * 16 % 16 == 0) = true := beq_iff_eq.mpr (by omega)
    have hbyte : a / 4 * 4 + a % 4 * 16 / 16 = a := by omega
    rw [sextets, bytes?, if_pos hlow, hbyte]
  | [a, b], h => by
    have hb := h b (by simp)
    have hlow : (b % 16 * 4 % 4 == 0) = true := beq_iff_eq.mpr (by omega)
    have hfirst : a / 4 * 4 + (a % 4 * 16 + b / 16) / 16 = a := by omega
    have hsecond : (a % 4 * 16 + b / 16) % 16 * 16 + b % 16 * 4 / 4 = b := by omega
    rw [sextets, bytes?, if_pos hlow, hfirst, hsecond]
  | a :: b :: c :: rest, h => by
    have hb := h b (by simp)
    have hc := h c (by simp)
    have hrest := bytes?_sextets rest fun x hx => h x (by simp [hx])
    have hfirst : a / 4 * 4 + (a % 4 * 16 + b / 16) / 16 = a := by omega
    have hsecond : (a % 4 * 16 + b / 16) % 16 * 16 + (b % 16 * 4 + c / 64) / 4 = b := by omega
    have hthird : (b % 16 * 4 + c / 64) % 4 * 64 + c % 64 = c := by omega
    rw [sextets, bytes?, hrest, hfirst, hsecond, hthird]
    rfl

theorem value?_digit : ∀ n < 64, value? (digit n) = some n := by decide +kernel

theorem mapM_value?_digit {vs : List Nat} (h : ∀ v ∈ vs, v < 64) :
    (vs.map digit).mapM value? = some vs := by
  induction vs with
  | nil => rfl
  | cons v vs ih =>
    obtain ⟨hv, hvs⟩ := List.forall_mem_cons.mp h
    rw [List.map_cons, List.mapM_cons, value?_digit v hv, ih hvs]
    rfl

/-- **Bytes are read back** from their digits. -/
theorem decode?_encode {bs : List Nat} (h : ∀ b ∈ bs, b < 256) :
    decode? (encode bs) = some bs := by
  have hvalues := mapM_value?_digit (sextets_lt bs h)
  rw [decode?, encode_eq_map, hvalues]
  exact bytes?_sextets bs h

/-! ### The form of the digits -/

/-- The number that digits of a base write, the first of which counts most. -/
def number (base : Nat) (ns : List Nat) : Nat := Nat.ofDigits base ns.reverse

theorem number_cons (base n : Nat) (ns : List Nat) :
    number base (n :: ns) = n * base ^ ns.length + number base ns := by
  rw [number, List.reverse_cons, Nat.ofDigits_append, Nat.ofDigits_singleton, List.length_reverse,
    Nat.mul_comm, Nat.add_comm, number]

/-- **Digits that write bytes**: the bits of the digits are those of the bytes, and fewer than six
zeros behind them. -/
def Writes (bs : List Nat) (ds : List Char) : Prop :=
  ∃ (vs : List Nat) (zeros : Nat), ds = vs.map digit ∧ (∀ v ∈ vs, v < 64) ∧ zeros < 6 ∧
    6 * vs.length = 8 * bs.length + zeros ∧ number 64 vs = number 256 bs * 2 ^ zeros

/-- **The bits of the digits** of bytes, three bytes and four digits at a time. -/
theorem exists_zeros_sextets : ∀ bs : List Nat, ∃ zeros < 6,
    6 * (sextets bs).length = 8 * bs.length + zeros ∧
      number 64 (sextets bs) = number 256 bs * 2 ^ zeros
  | [] => ⟨0, by decide, rfl, rfl⟩
  | [a] => by
    refine ⟨4, by decide, rfl, ?_⟩
    simp only [sextets, number, List.reverse_cons, List.reverse_nil, List.nil_append,
      List.cons_append, Nat.ofDigits_cons, Nat.ofDigits_nil]
    omega
  | [a, b] => by
    refine ⟨2, by decide, rfl, ?_⟩
    simp only [sextets, number, List.reverse_cons, List.reverse_nil, List.nil_append,
      List.cons_append, Nat.ofDigits_cons, Nat.ofDigits_nil]
    omega
  | a :: b :: c :: rest => by
    obtain ⟨zeros, hzeros, hlength, hnumber⟩ := exists_zeros_sextets rest
    -- the rest takes the same number of bits on both sides
    have hpow : 64 ^ (sextets rest).length = 256 ^ rest.length * 2 ^ zeros := by
      calc 64 ^ (sextets rest).length = 2 ^ (6 * (sextets rest).length) := by rw [Nat.pow_mul]
        _ = 2 ^ (8 * rest.length) * 2 ^ zeros := by rw [hlength, Nat.pow_add]
        _ = 256 ^ rest.length * 2 ^ zeros := by rw [Nat.pow_mul]
    have hfirst : a / 4 * 64 ^ 3 + (a % 4 * 16 + b / 16) * 64 ^ 2 + (b % 16 * 4 + c / 64) * 64 +
        c % 64 = a * 256 ^ 2 + b * 256 + c := by omega
    refine ⟨zeros, hzeros, ?_, ?_⟩
    · simp only [sextets, List.length_cons]
      omega
    · calc number 64 (sextets (a :: b :: c :: rest))
          = (a / 4 * 64 ^ 3 + (a % 4 * 16 + b / 16) * 64 ^ 2 + (b % 16 * 4 + c / 64) * 64 +
              c % 64) * 64 ^ (sextets rest).length + number 64 (sextets rest) := by
            simp only [sextets, number_cons, List.length_cons]
            ring
        _ = (a * 256 ^ 2 + b * 256 + c) * (256 ^ rest.length * 2 ^ zeros) +
              number 256 rest * 2 ^ zeros := by rw [hfirst, hpow, hnumber]
        _ = number 256 (a :: b :: c :: rest) * 2 ^ zeros := by
            simp only [number_cons, List.length_cons]
            ring

/-- **The digits of bytes are the only ones that write them.** -/
theorem writes_iff {bs : List Nat} (h : ∀ b ∈ bs, b < 256) {ds : List Char} :
    Writes bs ds ↔ ds = encode bs := by
  obtain ⟨zeros, hzeros, hlength, hnumber⟩ := exists_zeros_sextets bs
  rw [encode_eq_map]
  constructor
  · rintro ⟨vs, zeros', rfl, hvs, hzeros', hlength', hnumber'⟩
    obtain rfl : zeros' = zeros := by omega
    have hsame : vs.reverse = (sextets bs).reverse := by
      refine Nat.ofDigits_inj_of_len_eq (b := 64) (by decide) ?_ ?_ ?_ (hnumber'.trans hnumber.symm)
      · rw [List.length_reverse, List.length_reverse]
        omega
      · exact fun v hv => hvs v (List.mem_reverse.mp hv)
      · exact fun v hv => sextets_lt bs h v (List.mem_reverse.mp hv)
    rw [List.reverse_injective hsame]
  · rintro rfl
    exact ⟨_, zeros, rfl, sextets_lt bs h, hzeros, hlength, hnumber⟩

/-! ### What is read -/

theorem of_value? {c : Char} {n : Nat} (h : value? c = some n) : n < 64 ∧ digit n = c := by
  obtain ⟨hlt, hget, -⟩ := List.idxOf?_eq_some_iff.mp h
  refine ⟨hlt, ?_⟩
  rw [digit, List.getD_eq_getElem _ _ hlt]
  exact hget

theorem of_mapM_value? : ∀ {ds : List Char} {vs : List Nat}, ds.mapM value? = some vs →
    ds = vs.map digit ∧ ∀ v ∈ vs, v < 64
  | [], _, h => by
    cases h
    exact ⟨rfl, fun _ hv => absurd hv List.not_mem_nil⟩
  | d :: ds, _, h => by
    rw [List.mapM_cons] at h
    obtain ⟨v, hv, h⟩ := Option.bind_eq_some_iff.mp h
    obtain ⟨vs, hvs, h⟩ := Option.bind_eq_some_iff.mp h
    cases h
    obtain ⟨hlt, rfl⟩ := of_value? hv
    obtain ⟨rfl, hrest⟩ := of_mapM_value? hvs
    exact ⟨rfl, List.forall_mem_cons.mpr ⟨hlt, hrest⟩⟩

/-- **Bytes are read from their own digits only**: no bits are left over in the last one. -/
theorem of_bytes? : ∀ {vs bs : List Nat}, (∀ v ∈ vs, v < 64) → bytes? vs = some bs →
    sextets bs = vs ∧ ∀ b ∈ bs, b < 256
  | [], _, _, h => by
    cases h
    exact ⟨rfl, fun _ hb => absurd hb List.not_mem_nil⟩
  | [_], _, _, h => by cases h
  | [v, w], _, hvs, h => by
    have hv := hvs v (by simp)
    have hw := hvs w (by simp)
    rw [bytes?] at h
    split at h
    · rename_i hlow
      have hlow := beq_iff_eq.mp hlow
      cases h
      refine ⟨?_, List.forall_mem_singleton.mpr (by omega)⟩
      rw [sextets, List.cons.injEq, List.cons.injEq]
      exact ⟨by omega, by omega, rfl⟩
    · cases h
  | [v, w, x], _, hvs, h => by
    have hv := hvs v (by simp)
    have hw := hvs w (by simp)
    have hx := hvs x (by simp)
    rw [bytes?] at h
    split at h
    · rename_i hlow
      have hlow := beq_iff_eq.mp hlow
      cases h
      refine ⟨?_, List.forall_mem_cons.mpr ⟨by omega, List.forall_mem_singleton.mpr (by omega)⟩⟩
      rw [sextets, List.cons.injEq, List.cons.injEq, List.cons.injEq]
      exact ⟨by omega, by omega, by omega, rfl⟩
    · cases h
  | v :: w :: x :: y :: vs, _, hvs, h => by
    have hv := hvs v (by simp)
    have hw := hvs w (by simp)
    have hx := hvs x (by simp)
    have hy := hvs y (by simp)
    rw [bytes?] at h
    obtain ⟨bs, hbs, rfl⟩ := Option.map_eq_some_iff.mp h
    obtain ⟨hrest, hlt⟩ := of_bytes? (fun u hu => hvs u (by simp [hu])) hbs
    refine ⟨?_, List.forall_mem_cons.mpr ⟨by omega, List.forall_mem_cons.mpr ⟨by omega,
      List.forall_mem_cons.mpr ⟨by omega, hlt⟩⟩⟩⟩
    rw [sextets, List.cons.injEq, List.cons.injEq, List.cons.injEq, List.cons.injEq]
    exact ⟨by omega, by omega, by omega, by omega, hrest⟩

/-- **Bytes are read from the digits that write them**, and from no others. -/
theorem decode?_eq_some_iff {ds : List Char} {bs : List Nat} :
    decode? ds = some bs ↔ (∀ b ∈ bs, b < 256) ∧ Writes bs ds := by
  constructor
  · intro h
    obtain ⟨vs, hvs, hbs⟩ := Option.bind_eq_some_iff.mp h
    obtain ⟨hds, hlt⟩ := of_mapM_value? hvs
    obtain ⟨hsextets, hbytes⟩ := of_bytes? hlt hbs
    rw [← hsextets, ← encode_eq_map] at hds
    exact ⟨hbytes, (writes_iff hbytes).mpr hds⟩
  · rintro ⟨hbytes, h⟩
    rw [(writes_iff hbytes).mp h]
    exact decode?_encode hbytes

end GraphLedger.Text.Base64
