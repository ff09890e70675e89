import GraphLedger.Page
import Mathlib.Data.Nat.Digits.Lemmas

/-! # Offsets in digits

An offset is read from more than the digits that it is written with. It may have a plus sign, and
then zeros before its digits; for the digits tell the number if those zeros are taken off, and there
is nothing else that writes the number. So what is read as an offset is one of its spellings, and a
spelling tells its sign, its zeros and its offset.

* `exists_zeros_of_isDigit`: decimal digits are zeros and the digits of their number.
* `readOffset_eq_some_iff`: what is read as an offset are its spellings.
* `spelling_injective`: a spelling has one sign, one number of zeros and one offset. -/

namespace GraphLedger.Cursor

/-! ### Decimal digits -/

/-- The number that decimal digits write. -/
def digitsValue (ds : List Char) : Nat := ds.foldl (fun n c => n * 10 + (c.toNat - 48)) 0

theorem digitsValue_concat (ds : List Char) (d : Char) :
    digitsValue (ds ++ [d]) = digitsValue ds * 10 + (d.toNat - 48) := by
  rw [digitsValue, List.foldl_append]
  rfl

theorem digitsValue_zeros (zeros : Nat) (ds : List Char) :
    digitsValue (List.replicate zeros '0' ++ ds) = digitsValue ds := by
  induction zeros with
  | zero => rfl
  | succ zeros ih => exact ih

theorem digitsValue_toDigits (n : Nat) : digitsValue (Nat.toDigits 10 n) = n := by
  have hof := Nat.ofDigitChars_ten_toDigits (n := n)
  rw [Nat.ofDigitChars_eq_foldl] at hof
  simp only [Nat.mul_comm 10] at hof
  exact hof

theorem toDigits_isDigit (n : Nat) : ∀ c ∈ Nat.toDigits 10 n, c.isDigit = true := fun _ hc =>
  Nat.isDigit_of_mem_toDigits (by decide) (by decide) hc

theorem toNat_of_isDigit {c : Char} (h : c.isDigit = true) : 48 ≤ c.toNat ∧ c.toNat ≤ 57 := by
  rw [Char.isDigit, Bool.and_eq_true, decide_eq_true_eq, decide_eq_true_eq] at h
  exact ⟨UInt32.le_iff_toNat_le.mp h.1, UInt32.le_iff_toNat_le.mp h.2⟩

theorem digit_of_isDigit {c : Char} (h : c.isDigit = true) :
    c.toNat - 48 < 10 ∧ Nat.toDigits 10 (c.toNat - 48) = [c] := by
  obtain ⟨hlow, hhigh⟩ := toNat_of_isDigit h
  have hlt : c.toNat - 48 < 10 := by omega
  refine ⟨hlt, ?_⟩
  rw [Nat.toDigits_of_lt_base hlt, List.singleton_inj, ← Char.toNat_inj,
    Nat.toNat_digitChar_of_lt_ten hlt]
  omega

/-- **Decimal digits** are zeros and the digits of the number that they write. -/
theorem exists_zeros_of_isDigit (ds : List Char) : ds ≠ [] → (∀ c ∈ ds, c.isDigit = true) →
    ∃ zeros, ds = List.replicate zeros '0' ++ Nat.toDigits 10 (digitsValue ds) := by
  induction ds using List.reverseRecOn with
  | nil => exact fun hne => absurd rfl hne
  | append_singleton ds d ih =>
    intro _ hall
    obtain ⟨hlt, hd⟩ := digit_of_isDigit (hall d (by simp))
    rw [digitsValue_concat]
    by_cases hds : ds = []
    · refine ⟨0, ?_⟩
      rw [hds]
      simpa [digitsValue] using hd.symm
    · obtain ⟨zeros, hzeros⟩ := ih hds fun c hc => hall c (by simp [hc])
      rcases Nat.eq_zero_or_pos (digitsValue ds) with hzero | hpos
      · -- all digits before the last are zeros
        have hreplicate : ds = List.replicate (zeros + 1) '0' := by
          rw [hzeros, hzero, List.replicate_succ']
          rfl
        refine ⟨zeros + 1, ?_⟩
        rw [hzero, Nat.zero_mul, Nat.zero_add, hd, ← hreplicate]
      · refine ⟨zeros, ?_⟩
        rw [Nat.mul_comm, ← Nat.toDigits_append_toDigits (by decide) hpos hlt, hd,
          ← List.append_assoc, ← hzeros]

theorem readDigits_eq_some_iff {ds : List Char} {n : Nat} : readDigits ds = some n ↔
    n < offsetLimit ∧ ∃ zeros, ds = List.replicate zeros '0' ++ Nat.toDigits 10 n := by
  have hvalue : readDigits ds = if ds.isEmpty || !ds.all Char.isDigit then none
      else if digitsValue ds < offsetLimit then some (digitsValue ds) else none := rfl
  rw [hvalue]
  constructor
  · intro h
    split at h
    · cases h
    · rename_i hdigits
      simp only [Bool.or_eq_true, Bool.not_eq_true', not_or, Bool.not_eq_false,
        List.isEmpty_iff, List.all_eq_true] at hdigits
      split at h
      · cases h
        exact ⟨‹_›, exists_zeros_of_isDigit ds hdigits.1 hdigits.2⟩
      · cases h
  · rintro ⟨hlt, zeros, rfl⟩
    have hdigits : ∀ c ∈ List.replicate zeros '0' ++ Nat.toDigits 10 n, c.isDigit = true := by
      intro c hc
      rcases List.mem_append.mp hc with hc | hc
      · rw [List.eq_of_mem_replicate hc]
        rfl
      · exact toDigits_isDigit n c hc
    have hne : (List.replicate zeros '0' ++ Nat.toDigits 10 n).isEmpty = false := by
      simp [Nat.toDigits_ne_nil]
    rw [hne, List.all_eq_true.mpr hdigits, digitsValue_zeros, digitsValue_toDigits, if_pos hlt]
    rfl

/-! ### Spellings of an offset -/

/-- What is read as an offset: its digits, with or without a plus sign and with zeros before them. -/
def spelling (plus : Bool) (zeros n : Nat) : List Char :=
  (if plus then ['+'] else []) ++ (List.replicate zeros '0' ++ Nat.toDigits 10 n)

theorem head_digits_ne (zeros n : Nat) (ds : List Char) :
    List.replicate zeros '0' ++ Nat.toDigits 10 n ≠ '+' :: ds := by
  intro h
  have hplus : '+' ∈ List.replicate zeros '0' ++ Nat.toDigits 10 n := by
    rw [h]
    exact List.mem_cons_self
  rcases List.mem_append.mp hplus with hplus | hplus
  · exact absurd (List.eq_of_mem_replicate hplus) (by decide)
  · exact absurd (toDigits_isDigit n _ hplus) (by decide)

/-- **What is read as an offset** are its spellings. -/
theorem readOffset_eq_some_iff {ds : List Char} {n : Nat} :
    readOffset ds = some n ↔ n < offsetLimit ∧ ∃ plus zeros, ds = spelling plus zeros n := by
  unfold readOffset
  split
  · rename_i ds
    rw [readDigits_eq_some_iff]
    constructor
    · rintro ⟨hlt, zeros, rfl⟩
      exact ⟨hlt, true, zeros, rfl⟩
    · rintro ⟨hlt, plus, zeros, h⟩
      cases plus with
      | true => exact ⟨hlt, zeros, (List.cons.inj h).2⟩
      | false => exact absurd h.symm (head_digits_ne zeros n ds)
  · rename_i hplus
    rw [readDigits_eq_some_iff]
    constructor
    · rintro ⟨hlt, zeros, rfl⟩
      exact ⟨hlt, false, zeros, rfl⟩
    · rintro ⟨hlt, plus, zeros, h⟩
      cases plus with
      | true => exact absurd h (hplus _)
      | false => exact ⟨hlt, zeros, h⟩

/-- **A spelling tells** the sign, the zeros and the offset. -/
theorem spelling_injective {plus plus' : Bool} {zeros zeros' n n' : Nat}
    (h : spelling plus zeros n = spelling plus' zeros' n') :
    plus = plus' ∧ zeros = zeros' ∧ n = n' := by
  have hdigits : ∀ {zeros zeros' n n' : Nat}, List.replicate zeros '0' ++ Nat.toDigits 10 n =
      List.replicate zeros' '0' ++ Nat.toDigits 10 n' → zeros = zeros' ∧ n = n' := by
    intro zeros zeros' n n' h
    have hvalue := congrArg digitsValue h
    rw [digitsValue_zeros, digitsValue_zeros, digitsValue_toDigits, digitsValue_toDigits] at hvalue
    subst hvalue
    have hlength := congrArg List.length (List.append_cancel_right h)
    rw [List.length_replicate, List.length_replicate] at hlength
    exact ⟨hlength, rfl⟩
  cases plus with
  | true =>
    cases plus' with
    | true => exact ⟨rfl, hdigits (List.cons.inj h).2⟩
    | false => exact absurd h.symm (head_digits_ne zeros' n' _)
  | false =>
    cases plus' with
    | true => exact absurd h (head_digits_ne zeros n _)
    | false => exact ⟨rfl, hdigits h⟩

theorem spelling_ascii (plus : Bool) (zeros n : Nat) :
    ∀ c ∈ spelling plus zeros n, c.toNat < 128 := by
  have hdigits : ∀ c ∈ List.replicate zeros '0' ++ Nat.toDigits 10 n, c.toNat < 128 := by
    intro c hc
    rcases List.mem_append.mp hc with hc | hc
    · rw [List.eq_of_mem_replicate hc]
      decide
    · exact Nat.lt_of_le_of_lt (toNat_of_isDigit (toDigits_isDigit n c hc)).2 (by decide)
  cases plus with
  | true => exact List.forall_mem_cons.mpr ⟨by decide, hdigits⟩
  | false => exact hdigits

end GraphLedger.Cursor
