import GraphLedger.JsonLd.Skolem
import GraphLedger.Proofs.Statement.WellFormed
import Mathlib.Tactic.Ring

/-! # Minted IRIs

A minted IRI ends in the digits of its number in base 32, in lower case, with as many digits as the
number needs. The number can be read from these digits, so that no two numbers have the same IRI.
All minted IRIs are absolute.

* `Ulid.written_digits`: the number that digits are of.
* `Skolem.minted_injective`, `Skolem.absolute_minted`: what minted IRIs are. -/

namespace GraphLedger

namespace Ulid

/-- The number that digits in either case write, the last digit first. -/
def written (cs : List Char) : Nat := cs.foldr (fun c m => (value? c).getD 0 + 32 * m) 0

theorem value?_toLower : ∀ d < 32, value? (alphabet.getD d '0').toLower = some d ∧
    Text.isBlank (alphabet.getD d '0').toLower = false := by decide

/-- **The number can be read from its digits** if these are enough. -/
theorem written_digits {k n : Nat} (h : n < 32 ^ k) :
    written ((digits k n).map Char.toLower) = n := by
  induction k generalizing n with
  | zero =>
    have hn : n = 0 := by simpa using h
    rw [hn]
    rfl
  | succ k ih =>
    have hrest : n / 32 < 32 ^ k := by
      rw [Nat.pow_succ] at h
      omega
    have hdigit := (value?_toLower (n % 32) (Nat.mod_lt n (by omega))).1
    have hwritten := ih hrest
    unfold written at hwritten
    rw [digits, List.map_cons, written, List.foldr_cons, hwritten, hdigit, Option.getD_some]
    omega

theorem lt_pow_digitCount (n : Nat) : n < 32 ^ digitCount n := by
  have hlog : n < 2 ^ (n.log2 + 1) := Nat.lt_log2_self
  have hle : n.log2 + 1 ≤ 5 * digitCount n := by
    unfold digitCount
    omega
  calc n < 2 ^ (n.log2 + 1) := hlog
    _ ≤ 2 ^ (5 * digitCount n) := Nat.pow_le_pow_right (by omega) hle
    _ = 32 ^ digitCount n := by rw [Nat.pow_mul]

theorem isBlank_of_mem_digits {k n : Nat} {c : Char}
    (h : c ∈ (digits k n).map Char.toLower) : Text.isBlank c = false := by
  induction k generalizing n with
  | zero => cases h
  | succ k ih =>
    rw [digits, List.map_cons, List.mem_cons] at h
    rcases h with rfl | h
    · exact (value?_toLower (n % 32) (Nat.mod_lt n (by omega))).2
    · exact ih h

end Ulid

namespace JsonLd.Skolem

theorem toList_minted (n : Nat) : (minted n).toList = Vocabulary.skolemStart.toList ++
    ((Ulid.digits (Ulid.digitCount n) n).map Char.toLower).reverse := by
  unfold minted Ulid.encode
  rw [String.toList_append, String.toList_ofList, String.toList_ofList, List.map_reverse]

/-- **No two numbers have the same IRI.** -/
theorem minted_injective : Function.Injective minted := by
  intro n m h
  have hlist := congrArg String.toList h
  rw [toList_minted, toList_minted] at hlist
  have hdigits := List.reverse_inj.mp (List.append_cancel_left hlist)
  rw [← Ulid.written_digits (Ulid.lt_pow_digitCount n), hdigits,
    Ulid.written_digits (Ulid.lt_pow_digitCount m)]

/-- **Minted IRIs are absolute.** -/
theorem absolute_minted (n : Nat) : Iri.isAbsolute (minted n) = true := by
  rw [Iri.isAbsolute_iff]
  have hscheme : ("rn".toList.all Iri.isSchemePart) = true := by decide
  have hstart : (Vocabulary.skolemStart.toList.all fun c => !Text.isBlank c) = true := by decide
  refine ⟨'u', "rn".toList, "podgraph:skolem:".toList ++
    ((Ulid.digits (Ulid.digitCount n) n).map Char.toLower).reverse, ?_, by decide,
    List.all_eq_true.mp hscheme, ?_, ?_⟩
  · rw [toList_minted]
    rfl
  · exact List.cons_ne_nil 'p' _
  · rw [toList_minted]
    intro c hc
    rcases List.mem_append.mp hc with hc | hc
    · have hblank := List.all_eq_true.mp hstart c hc
      rwa [Bool.not_eq_true'] at hblank
    · exact Ulid.isBlank_of_mem_digits (List.mem_reverse.mp hc)

end JsonLd.Skolem

end GraphLedger
