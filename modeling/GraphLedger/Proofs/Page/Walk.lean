import GraphLedger.Proofs.Audit.Written
import GraphLedger.Proofs.Page.Cursor
import GraphLedger.Proofs.Storage.Commit
import Mathlib.Data.List.Induction
import Mathlib.Data.List.Infix

/-! # Reading page by page

A list that is kept somewhere is read page by page: first without a cursor, then with the cursor
that the last page named, until a page names none. Meanwhile it may be written to, by some finite
number of writes behind each page. If a write never changes the keys that are listed already and
only puts new ones behind them, an offset means the same place before and after it. So the reading
ends, the pages together list all that is there in the end, and all pages but the last are full.

Offsets are numbers of 64 bits, and so are the lengths of all lists that a memory can hold.

* `Walk`: the pages that are read one after the other.
* `Paged.exists_walk`: reading ends.
* `Paged.of_walk`: what the pages list, and how long they are.
* `Backend.paged`, `ChangeLog.paged`, `Page.paged`: so stored records are read, reports, and lists.
* `ChangeLog.ids_kept`: the reports that are kept, by their identifiers.
* `pages_lose_nothing`: what reading page by page gives, for all three. -/

namespace GraphLedger

/-! ### Walks -/

section Walk
variable {σ ω α β : Type} (read : σ → Option String → Except Cursor.Fault (Page α))
  (write : σ → ω → σ)

/-- **The pages that are read one after the other**, from a cursor on until a page names no other,
with the state by then. Behind the first page come the first writes, and so on; when these are used
up, nothing more is written. -/
inductive Walk : σ → Option String → List (List ω) → List (List α) → σ → Prop where
  | last {s : σ} {cursor : Option String} {writes : List (List ω)} {items : List α}
    (h : read s cursor = .ok ⟨items, none⟩) : Walk s cursor writes [items] s
  | more {s s' : σ} {cursor : Option String} {writes : List (List ω)} {items : List α}
    {next : String} {pages : List (List α)} (h : read s cursor = .ok ⟨items, some next⟩)
    (rest : Walk ((writes.headD []).foldl write s) (some next) writes.tail pages s') :
    Walk s cursor writes (items :: pages) s'

/-- A state is read by pages of a list, and writes put new keys behind those of the list. -/
structure Paged (view : σ → List α) (key : α → β) (limit : Nat) : Prop where
  read : ∀ s cursor, read s cursor = Page.ofItems (view s) cursor limit
  write : ∀ s w, (view s).map key <+: (view (write s w)).map key

/-- **What reading page by page gives**: it ends, and however it goes, the pages together list all
that is there in the end, and all pages but the last are full. -/
structure ReadsAll (key : α → β) (limit : Nat) (listed : σ → List β) (s : σ)
    (writes : List (List ω)) : Prop where
  ends : ∃ pages s', Walk read write s none writes pages s'
  keys : ∀ pages s', Walk read write s none writes pages s' →
    pages.flatten.map key = listed s'
  full : ∀ pages s', Walk read write s none writes pages s' →
    ∀ page ∈ pages.dropLast, page.length = max limit 1

variable {read write}

theorem Walk.pages_ne_nil {s s' : σ} {cursor : Option String} {writes : List (List ω)}
    {pages : List (List α)} (h : Walk read write s cursor writes pages s') : pages ≠ [] := by
  cases h <;> simp

/-! ### Pages at an offset -/

/-- A cursor says that reading goes on at an offset. -/
def PointsTo (cursor : Option String) (offset : Nat) : Prop :=
  (cursor = none ∧ offset = 0) ∨ ∃ c, cursor = some c ∧ Cursor.decode c = .ok offset

theorem pointsTo_none : PointsTo none 0 := Or.inl ⟨rfl, rfl⟩

theorem pointsTo_encode {n : Nat} (h : n < Cursor.offsetLimit) :
    PointsTo (some (Cursor.encode n)) n := Or.inr ⟨_, rfl, Cursor.decode_encode h⟩

theorem PointsTo.ofItems_eq {cursor : Option String} {offset : Nat} (h : PointsTo cursor offset)
    (items : List α) (limit : Nat) :
    Page.ofItems items cursor limit = .ok (Page.atOffset items offset limit) := by
  rcases h with ⟨rfl, rfl⟩ | ⟨c, rfl, hc⟩
  · rfl
  · rw [Page.ofItems, hc]
    rfl

theorem Page.atOffset_cases (items : List α) (offset limit : Nat) :
    atOffset items offset limit = ⟨items.drop offset, none⟩ ∨
      offset + max limit 1 < items.length ∧ atOffset items offset limit =
        ⟨(items.drop offset).take (max limit 1),
          some (Cursor.encode (offset + max limit 1))⟩ := by
  unfold atOffset
  have hlength : (items.drop offset).length = items.length - offset := List.length_drop
  by_cases h : max limit 1 < (items.drop offset).length
  · right
    have htake : ((items.drop offset).take (max limit 1)).length = max limit 1 := by
      rw [List.length_take]
      omega
    refine ⟨by omega, ?_⟩
    dsimp only
    rw [if_pos h, htake]
  · left
    have htake : (items.drop offset).take (max limit 1) = items.drop offset :=
      List.take_of_length_le (by omega)
    dsimp only
    rw [if_neg h, htake]

/-! ### What is read -/

namespace Paged
variable {view : σ → List α} {key : α → β} {limit : Nat}

theorem keys_foldl (hp : Paged read write view key limit) (ws : List ω) (s : σ) :
    (view s).map key <+: (view (ws.foldl write s)).map key := by
  induction ws generalizing s with
  | nil => exact List.prefix_refl _
  | cons w ws ih => exact (hp.write s w).trans (ih (write s w))

theorem length_foldl_le (hp : Paged read write view key limit) (ws : List ω) (s : σ) :
    (view s).length ≤ (view (ws.foldl write s)).length := by
  have hle := (hp.keys_foldl ws s).length_le
  rwa [List.length_map, List.length_map] at hle

theorem foldl_flatten (write : σ → ω → σ) (writes : List (List ω)) (s : σ) :
    writes.tail.flatten.foldl write ((writes.headD []).foldl write s) =
      writes.flatten.foldl write s := by
  cases writes with
  | nil => rfl
  | cons ws writes =>
    rw [List.flatten_cons, List.foldl_append]
    rfl

/-- **Reading ends**: each page but the last has an item, and there are only so many. -/
theorem exists_walk (hp : Paged read write view key limit) :
    ∀ (fuel : Nat) (s : σ) (cursor : Option String) (offset : Nat) (writes : List (List ω)),
      PointsTo cursor offset →
      (view (writes.flatten.foldl write s)).length ≤ Cursor.offsetLimit →
      (view (writes.flatten.foldl write s)).length ≤ offset + fuel →
      ∃ pages s', Walk read write s cursor writes pages s'
  | fuel, s, cursor, offset, writes, hcursor, hlimit, hfuel => by
    have hread : read s cursor = .ok (Page.atOffset (view s) offset limit) := by
      rw [hp.read, hcursor.ofItems_eq]
    have hgrows := hp.length_foldl_le writes.flatten s
    rcases Page.atOffset_cases (view s) offset limit with hlast | ⟨hlt, hmore⟩
    · exact ⟨_, s, .last (hread.trans (by rw [hlast]))⟩
    · cases fuel with
      | zero => omega
      | succ fuel =>
        have hnext := pointsTo_encode (n := offset + max limit 1) (by omega)
        have hflatten := foldl_flatten write writes s
        obtain ⟨pages, s', hrest⟩ := exists_walk hp fuel ((writes.headD []).foldl write s) _
          (offset + max limit 1) writes.tail hnext (by rw [hflatten]; exact hlimit)
          (by rw [hflatten]; omega)
        exact ⟨_, s', .more (hread.trans (by rw [hmore])) hrest⟩

theorem keys_prefix (hp : Paged read write view key limit) {s s' : σ} {cursor : Option String}
    {writes : List (List ω)} {pages : List (List α)}
    (h : Walk read write s cursor writes pages s') :
    (view s).map key <+: (view s').map key := by
  induction h with
  | last => exact List.prefix_refl _
  | more _ _ ih => exact (hp.keys_foldl _ _).trans ih

/-- **What the pages list and how long they are**, from an offset on: the keys that are there in the
end, and each page but the last is full. -/
theorem of_walk (hp : Paged read write view key limit) {s s' : σ} {cursor : Option String}
    {writes : List (List ω)} {pages : List (List α)}
    (h : Walk read write s cursor writes pages s') {offset : Nat} (hcursor : PointsTo cursor offset)
    (hlimit : (view (writes.flatten.foldl write s)).length ≤ Cursor.offsetLimit) :
    pages.flatten.map key = ((view s').map key).drop offset ∧
      ∀ page ∈ pages.dropLast, page.length = max limit 1 := by
  induction h generalizing offset with
  | @last s cursor writes items hitems =>
    rw [hp.read, hcursor.ofItems_eq] at hitems
    rcases Page.atOffset_cases (view s) offset limit with hlast | ⟨-, hmore⟩
    · rw [hlast] at hitems
      cases hitems
      refine ⟨?_, by simp⟩
      rw [List.flatten_singleton, List.map_drop]
    · rw [hmore] at hitems
      cases hitems
  | @more s s' cursor writes items next pages hitems hrest ih =>
    rw [hp.read, hcursor.ofItems_eq] at hitems
    rcases Page.atOffset_cases (view s) offset limit with hlast | ⟨hlt, hmore⟩
    · rw [hlast] at hitems
      cases hitems
    · rw [hmore] at hitems
      cases hitems
      have hgrows := hp.length_foldl_le writes.flatten s
      have hnext := pointsTo_encode (n := offset + max limit 1) (by omega)
      have hflatten := foldl_flatten write writes s
      obtain ⟨hkeys, hfull⟩ := ih hnext (by rw [hflatten]; exact hlimit)
      -- the keys on this page are still at their places when the reading ends
      have hprefix := (hp.keys_foldl (writes.headD []) s).trans (hp.keys_prefix hrest)
      obtain ⟨later, hlater⟩ := hprefix
      have hpage : (((view s).drop offset).take (max limit 1)).map key =
          (((view s').map key).drop offset).take (max limit 1) := by
        rw [← hlater, List.map_take, List.map_drop, List.drop_append_of_le_length,
          List.take_append_of_le_length]
        · rw [List.length_drop, List.length_map]
          omega
        · rw [List.length_map]
          omega
      constructor
      · rw [List.flatten_cons, List.map_append, hkeys, hpage, ← List.drop_drop,
          List.take_append_drop]
      · intro page hmem
        rw [List.dropLast_cons_of_ne_nil hrest.pages_ne_nil, List.mem_cons] at hmem
        rcases hmem with rfl | hmem
        · rw [List.length_take, List.length_drop]
          omega
        · exact hfull page hmem

theorem complete (hp : Paged read write view key limit) {listed : σ → List β}
    (hlisted : ∀ s, listed s = (view s).map key) {s : σ} {writes : List (List ω)}
    (hlimit : (view (writes.flatten.foldl write s)).length ≤ Cursor.offsetLimit) :
    ReadsAll read write key limit listed s writes where
  ends := hp.exists_walk _ s none 0 writes pointsTo_none hlimit (Nat.le_add_left _ _)
  keys pages s' h := by
    rw [(hp.of_walk h pointsTo_none hlimit).1, hlisted]
    rfl
  full pages s' h := (hp.of_walk h pointsTo_none hlimit).2

end Paged

end Walk

/-! ### Stored records -/

theorem Backend.paged (q : RecordsQuery) :
    Paged (fun s c => Backend.get s { q with cursor := c }) (fun s b => (s.commit b).1)
      (fun s => s.stream q) (fun r => r) q.limit where
  read s cursor := rfl
  write s b := by
    rw [List.map_id', List.map_id']
    unfold commit
    dsimp only
    split_ifs with hnone
    · exact List.prefix_refl _
    · rw [stream, stream, RecordLog.ofPod_append, List.filter_append]
      exact List.prefix_append _ _

/-! ### Reports -/

namespace ChangeLog

/-- The change log of reports that were written one after the other. -/
def ofWrites (rs : List Report) : ChangeLog := rs.foldl (fun log r => log.write r) []

theorem map_id_put (r : Report) : ∀ rs : List Report,
    (put r rs).map Report.id =
      if r.id ∈ rs.map Report.id then rs.map Report.id else rs.map Report.id ++ [r.id]
  | [] => rfl
  | old :: rs => by
    rw [put]
    by_cases hold : old.id = r.id
    · simp [hold]
    · have ih := map_id_put r rs
      have hne : r.id ≠ old.id := fun h => hold h.symm
      rw [if_neg hold, List.map_cons, ih, List.map_cons]
      by_cases hmem : r.id ∈ rs.map Report.id
      · rw [if_pos hmem, if_pos (List.mem_cons_of_mem _ hmem)]
      · have hnot : r.id ∉ old.id :: rs.map Report.id := by
          rw [List.mem_cons]
          rintro (h | h)
          · exact hne h
          · exact hmem h
        rw [if_neg hmem, if_neg hnot, List.cons_append]

theorem ofWrites_concat (rs : List Report) (r : Report) :
    ofWrites (rs ++ [r]) = (ofWrites rs).write r := by
  rw [ofWrites, List.foldl_append]
  rfl

/-- **The reports that are kept for a pod**, by their identifiers: each that was written once, in
the order of their first writes. -/
theorem ids_kept (podId : String) (rs : List Report) :
    ((ofWrites rs).ofPod podId).map Report.id =
      ((rs.filter fun r => r.podId = podId).map Report.id).eraseDups := by
  induction rs using List.reverseRecOn with
  | nil => rfl
  | append_singleton rs r ih =>
    rw [ofWrites_concat, ofPod_write, List.filter_append]
    by_cases hpod : podId = r.podId
    · have hfilter : [r].filter (fun r => decide (r.podId = podId)) = [r] := by simp [hpod]
      rw [if_pos hpod, map_id_put, hfilter, List.map_append, List.eraseDups_append, ih]
      by_cases hmem : r.id ∈ (rs.filter fun r => r.podId = podId).map Report.id
      · rw [if_pos (List.mem_eraseDups.mpr hmem)]
        simp [List.removeAll, hmem]
      · rw [if_neg (mt List.mem_eraseDups.mp hmem)]
        simp [List.removeAll, hmem, List.eraseDups_cons]
    · have hne : ¬ r.podId = podId := fun h => hpod h.symm
      have hfilter : [r].filter (fun r => decide (r.podId = podId)) = [] := by simp [hne]
      rw [if_neg hpod, hfilter, List.append_nil, ih]

theorem paged (podId : String) (limit : Nat) :
    Paged (fun rs c => (ofWrites rs).list podId c limit) (fun rs r => rs ++ [r])
      (fun rs => (ofWrites rs).ofPod podId) Report.id limit where
  read rs cursor := rfl
  write rs r := by
    rw [ofWrites_concat, ofPod_write]
    by_cases hpod : podId = r.podId
    · rw [if_pos hpod, map_id_put]
      by_cases hmem : r.id ∈ ((ofWrites rs).ofPod podId).map Report.id
      · rw [if_pos hmem]
      · rw [if_neg hmem]
        exact List.prefix_append _ _
    · rw [if_neg hpod]

end ChangeLog

/-! ### Lists -/

theorem Page.paged {α : Type} (limit : Nat) :
    Paged (fun items c => Page.ofItems items c limit) (fun items (_ : Empty) => items)
      (fun items : List α => items) (fun item => item) limit where
  read items cursor := rfl
  write items w := by cases w

/-- **Reading page by page loses and repeats nothing.** It ends, also if records are stored or
reports are written between the pages, and the pages together list the records that a query streams
in the end, the identifiers of all reports that were written for a pod by then, each once and in the
order of the first writes, or the items of a list. All pages but the last have the wanted number of
items, and one if that is none. -/
theorem pages_lose_nothing :
    (∀ (s : Backend) (q : RecordsQuery) (writes : List (List Buffer)),
      ((writes.flatten.foldl (fun s b => (s.commit b).1) s).stream q).length ≤ Cursor.offsetLimit →
      ReadsAll (fun s c => Backend.get s { q with cursor := c }) (fun s b => (s.commit b).1)
        (fun r => r) q.limit (fun s => s.stream q) s writes) ∧
    (∀ (podId : String) (limit : Nat) (written : List Report) (writes : List (List Report)),
      (ChangeLog.ofWrites (written ++ writes.flatten)).podSize podId ≤ Cursor.offsetLimit →
      ReadsAll (fun rs c => (ChangeLog.ofWrites rs).list podId c limit) (fun rs r => rs ++ [r])
        Report.id limit
        (fun rs => ((rs.filter fun r => r.podId = podId).map Report.id).eraseDups) written
        writes) ∧
    ∀ (α : Type) (items : List α) (limit : Nat), items.length ≤ Cursor.offsetLimit →
      ReadsAll (fun items c => Page.ofItems items c limit) (fun items (_ : Empty) => items)
        (fun item => item) limit (fun items : List α => items) items [] := by
  refine ⟨fun s q writes hlimit => ?_, fun podId limit written writes hlimit => ?_,
    fun α items limit hlimit => ?_⟩
  · exact (Backend.paged q).complete (fun s => (List.map_id' _).symm) hlimit
  · have hall : ∀ (ws rs : List Report), ws.foldl (fun rs r => rs ++ [r]) rs = rs ++ ws := by
      intro ws
      induction ws with
      | nil => simp
      | cons w ws ih => intro rs; rw [List.foldl_cons, ih]; simp
    refine (ChangeLog.paged podId limit).complete (fun rs => (ChangeLog.ids_kept podId rs).symm) ?_
    rw [hall]
    exact hlimit
  · exact (Page.paged limit).complete (fun items => (List.map_id' _).symm) hlimit

/-- While two reports are read one by one, the second is replaced and a third one is written. -/
theorem pages_lose_nothing_of_replaced :
    let report : String → Nat → Report := fun id n => ⟨id, "pod-1", none, [], ⟨n, 0⟩, none, none⟩
    let written := [report "a" 0, report "b" 0]
    let meanwhile := [[report "b" 1, report "c" 0]]
    let read := fun rs c => (ChangeLog.ofWrites rs).list "pod-1" c 0
    let write := fun (rs : List Report) r => rs ++ [r]
    (ChangeLog.ofWrites (written ++ meanwhile.flatten)).podSize "pod-1" ≤ Cursor.offsetLimit ∧
      ReadsAll read write Report.id 0
        (fun rs => ((rs.filter fun r => r.podId = "pod-1").map Report.id).eraseDups) written
        meanwhile ∧
      Walk read write written none meanwhile [[report "a" 0], [report "b" 1], [report "c" 0]]
        (written ++ meanwhile.flatten) := by
  intro report written meanwhile read write
  have hsize : (ChangeLog.ofWrites (written ++ meanwhile.flatten)).podSize "pod-1" ≤
      Cursor.offsetLimit := by decide +kernel
  have hat : ∀ n < 3, PointsTo (some (Cursor.encode n)) n := fun n hn =>
    pointsTo_encode (Nat.lt_trans hn (by decide))
  exact ⟨hsize, pages_lose_nothing.2.1 "pod-1" 0 written meanwhile hsize,
    .more rfl (.more ((hat 1 (by decide)).ofItems_eq _ _)
      (.last ((hat 2 (by decide)).ofItems_eq _ _)))⟩

end GraphLedger
