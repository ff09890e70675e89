import GraphLedger.Proofs.Page.Cursor

/-! # Which cursors are accepted

Of the three layers of a cursor two are strict. Bytes have one form in base 64, and an ASCII text has
one form in bytes. The offset behind the version is read as any number is: it may have a plus sign,
and then zeros before its digits. So a cursor that is accepted need not be the one that is written
for its offset, and there are others for the same offset; but they differ in the sign and the zeros
only, as the cursors of one spelling of an offset are all the same.

* `map_toNat_of_textOf?`: an ASCII text is read from its own bytes only.
* `decode_eq_ok_iff`: an offset is read from the cursors of its spellings.
* `decode_iff_spelled`: the same of cursors that are written, and when two cursors are the same. -/

namespace GraphLedger.Cursor

/-! ### Layers that are strict -/

theorem append_of_splitVersion : ∀ {cs v offset : List Char},
    splitVersion cs = some (v, offset) → cs = v ++ ':' :: offset
  | [], _, _, h => by cases h
  | c :: cs, _, _, h => by
    rw [splitVersion] at h
    split at h
    · rename_i hc
      cases h
      rw [beq_iff_eq.mp hc]
      rfl
    · obtain ⟨⟨v, offset⟩, hrest, h⟩ := Option.map_eq_some_iff.mp h
      cases h
      rw [append_of_splitVersion hrest]
      rfl

/-- **An ASCII text is read from its own bytes only.** -/
theorem map_toNat_of_textOf? {bs : List Nat} (hbytes : ∀ b ∈ bs, b < 256) {text : String}
    (h : textOf? bs = some text) (hascii : ∀ c ∈ text.toList, c.toNat < 128) :
    bs = text.toList.map Char.toNat := by
  have hchars : ∀ b ∈ text.toList.map Char.toNat, b < 256 := by
    intro b hb
    obtain ⟨c, hc, rfl⟩ := List.mem_map.mp hb
    exact Nat.lt_trans (hascii c hc) (by decide)
  have hback : textOf? (text.toList.map Char.toNat) = some text := by
    rw [textOf?_map_toNat hascii, String.ofList_toList]
  have hread : ∀ {bs : List Nat}, textOf? bs = some text →
      text.toByteArray = ⟨(bs.map UInt8.ofNat).toArray⟩ := by
    intro bs h
    rw [textOf?, String.fromUTF8?] at h
    split at h
    · cases h
      rfl
    · cases h
  have hvalues : ∀ {bs : List Nat}, (∀ b ∈ bs, b < 256) →
      (bs.map UInt8.ofNat).map UInt8.toNat = bs := by
    intro bs hbs
    rw [List.map_map]
    exact (List.map_congr_left fun b hb => UInt8.toNat_ofNat_of_lt' (hbs b hb)).trans
      (List.map_id bs)
  have hsame := congrArg (fun a : ByteArray => a.data.toList) ((hread h).symm.trans (hread hback))
  rw [← hvalues hbytes, ← hvalues hchars]
  exact congrArg (List.map UInt8.toNat) hsame

/-! ### Cursors -/

/-- **An offset is read from the cursors of its spellings**, and from no others. -/
theorem decode_eq_ok_iff {c : String} {n : Nat} : decode c = .ok n ↔ n < offsetLimit ∧
    ∃ plus zeros, Text.Base64.Writes (textBytes (spelling plus zeros n)) c.toList := by
  constructor
  · intro h
    rw [decode] at h
    split at h
    · cases h
    · rename_i text htext
      obtain ⟨bs, hbs, htext⟩ := Option.bind_eq_some_iff.mp htext
      obtain ⟨hbytes, hwrites⟩ := Text.Base64.decode?_eq_some_iff.mp hbs
      split at h
      · cases h
      · rename_i v offset hsplit
        split at h
        · cases h
        · rename_i hversion
          split at h
          · rename_i m hoffset
            cases h
            obtain ⟨hlt, plus, zeros, rfl⟩ := readOffset_eq_some_iff.mp hoffset
            have hv : v = version := by simpa using hversion
            have hchars := append_of_splitVersion hsplit
            have hascii := toNat_lt_of_mem_text (spelling_ascii plus zeros n)
            rw [hv] at hchars
            have hbs := map_toNat_of_textOf? hbytes htext (hchars ▸ hascii)
            rw [hbs, hchars] at hwrites
            exact ⟨hlt, plus, zeros, hwrites⟩
          · cases h
  · rintro ⟨hlt, plus, zeros, hwrites⟩
    have hascii := spelling_ascii plus zeros n
    exact decode_of_bytes hascii
      (Text.Base64.decode?_eq_some_iff.mpr ⟨textBytes_lt hascii, hwrites⟩)
      (readOffset_eq_some_iff.mpr ⟨hlt, plus, zeros, rfl⟩)

/-- **A spelling of an offset has one cursor.** -/
theorem writes_spelling_iff {c : String} {plus : Bool} {zeros n : Nat} :
    Text.Base64.Writes (textBytes (spelling plus zeros n)) c.toList ↔
      c = String.ofList (Text.Base64.encode (textBytes (spelling plus zeros n))) := by
  rw [Text.Base64.writes_iff (textBytes_lt (spelling_ascii plus zeros n)), String.ext_iff,
    String.toList_ofList]

theorem encode_eq_of_spelling (n : Nat) :
    encode n = String.ofList (Text.Base64.encode (textBytes (spelling false 0 n))) := rfl

theorem eq_iff_of_writes {c c' : String} {plus plus' : Bool} {zeros zeros' n n' : Nat}
    (h : Text.Base64.Writes (textBytes (spelling plus zeros n)) c.toList)
    (h' : Text.Base64.Writes (textBytes (spelling plus' zeros' n')) c'.toList) :
    c = c' ↔ plus = plus' ∧ zeros = zeros' ∧ n = n' := by
  constructor
  · rintro rfl
    have hdecode := Text.Base64.decode?_eq_some_iff.mpr
      ⟨textBytes_lt (spelling_ascii plus zeros n), h⟩
    have hdecode' := Text.Base64.decode?_eq_some_iff.mpr
      ⟨textBytes_lt (spelling_ascii plus' zeros' n'), h'⟩
    have hbytes := Option.some.inj (hdecode.symm.trans hdecode')
    have htext := List.map_injective_iff.mpr (fun _ _ => Char.toNat_inj.mp) hbytes
    exact spelling_injective (List.cons.inj (List.append_cancel_left htext)).2
  · rintro ⟨rfl, rfl, rfl⟩
    rw [writes_spelling_iff.mp h, writes_spelling_iff.mp h']

/-- **Which cursors are accepted.** An offset is read from a cursor if and only if the offset is a
number of 64 bits, and the cursor is the base 64 form of the version, a colon and the digits of the
offset, which may have a plus sign and zeros before them. The form has no padding, and no bits are
left over. The cursor that is written for the offset is the one without a sign and zeros. And two
cursors that are accepted are the same if and only if they agree in the sign, the number of zeros
and the offset, so that of one offset they differ in the sign or the zeros. -/
theorem decode_iff_spelled (c : String) (n : Nat) :
    (decode c = .ok n ↔ n < offsetLimit ∧
      ∃ plus zeros, Text.Base64.Writes (textBytes (spelling plus zeros n)) c.toList) ∧
    (c = encode n ↔ Text.Base64.Writes (textBytes (spelling false 0 n)) c.toList) ∧
    ∀ plus zeros, Text.Base64.Writes (textBytes (spelling plus zeros n)) c.toList →
      ∀ c' plus' zeros' n', Text.Base64.Writes (textBytes (spelling plus' zeros' n')) c'.toList →
        (c = c' ↔ plus = plus' ∧ zeros = zeros' ∧ n = n') :=
  ⟨decode_eq_ok_iff, by rw [writes_spelling_iff, encode_eq_of_spelling],
    fun _ _ h _ _ _ _ h' => eq_iff_of_writes h h'⟩

/-- A cursor in which the offset 7 is written with a sign and two zeros, and the one that is written
for it. -/
theorem decode_iff_spelled_of_sign :
    let c := "djE6KzAwNw"
    let c' := "djE6Nw"
    Text.Base64.Writes (textBytes (spelling true 2 7)) c.toList ∧ decode c = .ok 7 ∧
      c' = encode 7 ∧ decode c' = .ok 7 ∧ (c = c' ↔ true = false ∧ 2 = 0 ∧ 7 = 7) := by
  intro c c'
  have h : Text.Base64.Writes (textBytes (spelling true 2 7)) c.toList :=
    writes_spelling_iff.mpr rfl
  have h' : Text.Base64.Writes (textBytes (spelling false 0 7)) c'.toList :=
    writes_spelling_iff.mpr rfl
  obtain ⟨hdecode, -, hsame⟩ := decode_iff_spelled c 7
  obtain ⟨hdecode', hencode', -⟩ := decode_iff_spelled c' 7
  exact ⟨h, hdecode.mpr ⟨by decide, true, 2, h⟩, hencode'.mpr h',
    hdecode'.mpr ⟨by decide, false, 0, h'⟩, hsame true 2 h c' false 0 7 h'⟩

/-- The offset 40 is also read from a cursor with a plus sign and from one with a zero before its
digits, neither of which is written for it. -/
theorem other_spellings_accepted :
    decode "djE6KzQw" = .ok 40 ∧ decode "djE6MDQw" = .ok 40 ∧ encode 40 = "djE6NDA" ∧
      ¬ ∀ c n, n < offsetLimit → (decode c = .ok n ↔ c = encode n) := by
  have hplus : decode "djE6KzQw" = .ok 40 := rfl
  have hwritten : encode 40 = "djE6NDA" := rfl
  refine ⟨hplus, rfl, hwritten, fun h => ?_⟩
  have hsame := (h "djE6KzQw" 40 (by decide)).mp hplus
  rw [hwritten] at hsame
  revert hsame
  decide

end GraphLedger.Cursor
