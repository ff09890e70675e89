import GraphLedger.Proofs.Page.Offset
import GraphLedger.Proofs.Text.Base64

/-! # Cursors are read back

A cursor is written in three layers: the offset in decimal digits behind the version, the bytes of
that text, and the digits of base 64 for these bytes. Each layer is read back by the one that takes
it off, so that a cursor gives the offset that it was made for, as long as the offset is a number of
64 bits.

* `textOf?_map_toNat`: an ASCII text is read back from its bytes.
* `decode_of_bytes`: an offset is read from the bytes of a cursor's text.
* `decode_encode`: an offset is read back from its cursor. -/

namespace GraphLedger.Cursor

/-! ### Texts -/

theorem utf8EncodeChar_of_lt {c : Char} (h : c.toNat < 128) :
    String.utf8EncodeChar c = [UInt8.ofNat c.toNat] := by
  have hval : c.val ≤ 0x7f := by
    rw [UInt32.le_iff_toNat_le]
    exact Nat.le_of_lt_succ h
  rw [String.utf8EncodeChar_eq_singleton (Char.utf8Size_eq_one_iff.mpr hval)]
  rfl

/-- **An ASCII text is read back** from its bytes. -/
theorem textOf?_map_toNat {cs : List Char} (h : ∀ c ∈ cs, c.toNat < 128) :
    textOf? (cs.map Char.toNat) = some (String.ofList cs) := by
  have hbytes : cs.utf8Encode = ⟨((cs.map Char.toNat).map UInt8.ofNat).toArray⟩ := by
    have hflat : cs.flatMap String.utf8EncodeChar = (cs.map Char.toNat).map UInt8.ofNat := by
      induction cs with
      | nil => rfl
      | cons c cs ih =>
        obtain ⟨hc, hcs⟩ := List.forall_mem_cons.mp h
        rw [List.flatMap_cons, utf8EncodeChar_of_lt hc, ih hcs]
        rfl
    rw [List.utf8Encode, hflat]
    exact ByteArray.ext (Array.toList_inj.mp List.toList_data_toByteArray)
  have hvalid : ByteArray.IsValidUTF8 cs.utf8Encode := ByteArray.isValidUTF8_utf8Encode
  rw [textOf?, ← hbytes, String.fromUTF8?, dif_pos hvalid]
  rfl

/-! ### Cursors -/

/-- The bytes of the text of a cursor: the version and what stands for the offset. -/
def textBytes (offset : List Char) : List Nat := (version ++ ':' :: offset).map Char.toNat

theorem toNat_lt_of_mem_text {offset : List Char} (h : ∀ c ∈ offset, c.toNat < 128) :
    ∀ c ∈ version ++ ':' :: offset, c.toNat < 128 := by
  intro c hc
  rcases List.mem_append.mp hc with hc | hc
  · have hversion : (version.all fun c => c.toNat < 128) = true := by decide
    exact of_decide_eq_true (List.all_eq_true.mp hversion c hc)
  · rcases List.mem_cons.mp hc with rfl | hc
    · decide
    · exact h c hc

theorem textBytes_lt {offset : List Char} (h : ∀ c ∈ offset, c.toNat < 128) :
    ∀ b ∈ textBytes offset, b < 256 := by
  intro b hb
  obtain ⟨c, hc, rfl⟩ := List.mem_map.mp hb
  exact Nat.lt_trans (toNat_lt_of_mem_text h c hc) (by decide)

/-- **An offset is read from a cursor** if its digits are of a text that writes the offset. -/
theorem decode_of_bytes {cursor : String} {offset : List Char} {n : Nat}
    (hascii : ∀ c ∈ offset, c.toNat < 128)
    (hbytes : Text.Base64.decode? cursor.toList = some (textBytes offset))
    (hoffset : readOffset offset = some n) : decode cursor = .ok n := by
  have hsplit : splitVersion (version ++ ':' :: offset) = some (version, offset) := rfl
  have htext : (Text.Base64.decode? cursor.toList).bind textOf? =
      some (String.ofList (version ++ ':' :: offset)) := by
    rw [hbytes]
    exact textOf?_map_toNat (toNat_lt_of_mem_text hascii)
  rw [decode, htext]
  dsimp only
  rw [String.toList_ofList, hsplit]
  dsimp only
  rw [hoffset]
  rfl

/-- **An offset is read back** from its cursor. -/
theorem decode_encode {n : Nat} (h : n < offsetLimit) : decode (encode n) = .ok n := by
  have hascii := spelling_ascii false 0 n
  refine decode_of_bytes hascii ?_ (readOffset_eq_some_iff.mpr ⟨h, false, 0, rfl⟩)
  rw [encode, String.toList_ofList]
  exact Text.Base64.decode?_encode (textBytes_lt hascii)

end GraphLedger.Cursor
