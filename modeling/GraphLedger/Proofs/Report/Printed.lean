import GraphLedger.Proofs.Json.Delimited
import GraphLedger.Report

/-! # Printed reports

A report is printed with its history behind the identifiers, and before anything else that it tells.
Identifiers and history consist of strings, so that they are told by any text that begins with the
report, whatever stands behind it. In particular there is but one status with which a report at the
beginning of a text ends.

* `Report.toJson_eq`: the fields with which a report begins.
* `Report.status_of_lines`: the status of a report at the beginning of a text. -/

namespace GraphLedger

theorem Status.code_injective : Function.Injective Status.code := by
  intro a b h
  cases a <;> cases b <;> first | rfl | exact absurd h (by decide)

namespace StatusEntry

/-- The fields of an entry. -/
def fields (e : StatusEntry) : Json.Fields :=
  ("timestamp", .string e.timestamp.toText) :: ("status", .string e.status.code) ::
    e.message.toList.map fun m => ("message", .string m)

theorem toJson_eq (e : StatusEntry) : e.toJson = .object e.fields := by
  obtain ⟨timestamp, status, message⟩ := e
  cases message <;> rfl

theorem textual_toJson (e : StatusEntry) : e.toJson.Textual := by
  rw [toJson_eq]
  refine .object fun f hf => ?_
  rcases List.mem_cons.mp hf with rfl | hf
  · exact .string _
  rcases List.mem_cons.mp hf with rfl | hf
  · exact .string _
  obtain ⟨m, -, rfl⟩ := List.mem_map.mp hf
  exact .string m

theorem status_of_toJson {e e' : StatusEntry} (h : e.toJson = e'.toJson) : e.status = e'.status := by
  rw [toJson_eq, toJson_eq] at h
  obtain ⟨-, hrest⟩ := List.cons.inj (Json.object.inj h)
  obtain ⟨hstatus, -⟩ := List.cons.inj hrest
  exact Status.code_injective (Json.string.inj (Prod.mk.inj hstatus).2)

end StatusEntry

namespace Report

/-- The field of the history. -/
def historyField (r : Report) : String × Json :=
  ("status", .array (r.history.map StatusEntry.toJson))

/-- The field of the slice, if there is one. -/
def sliceFields (r : Report) : Json.Fields := r.sliceId.toList.map fun s => ("sliceId", .string s)

/-- The fields with which a report begins. -/
def firstFields (r : Report) : Json.Fields :=
  ("id", .string r.id) :: ("podId", .string r.podId) :: (r.sliceFields ++ [r.historyField])

/-- **A report begins** with its identifiers and its history. -/
theorem toJson_eq (r : Report) : ∃ more, r.toJson = .object (r.firstFields ++ more) := by
  obtain ⟨id, podId, sliceId, history, statistics, errorMessage, validationReport⟩ := r
  cases sliceId <;> exact ⟨_, rfl⟩

theorem textual_of_mem_firstFields {r : Report} {f : String × Json} (hf : f ∈ r.firstFields) :
    f.2.Textual := by
  rcases List.mem_cons.mp hf with rfl | hf
  · exact .string _
  rcases List.mem_cons.mp hf with rfl | hf
  · exact .string _
  rcases List.mem_append.mp hf with hslice | hhistory
  · obtain ⟨s, -, rfl⟩ := List.mem_map.mp hslice
    exact .string s
  · rw [List.mem_singleton.mp hhistory]
    refine .array fun v hv => ?_
    obtain ⟨e, -, rfl⟩ := List.mem_map.mp hv
    exact e.textual_toJson

/-- If the first fields of a report are among those of another, both have the same history, as the
identifier of a slice has another name. -/
theorem historyField_of_begins {r r' : Report} (h : r.firstFields <+: r'.firstFields) :
    r.historyField = r'.historyField := by
  obtain ⟨-, htail⟩ := List.cons_prefix_cons.mp h
  obtain ⟨-, htail⟩ := List.cons_prefix_cons.mp htail
  have hname : ∀ (q : Report) (s : String), q.historyField ≠ ("sliceId", .string s) :=
    fun q s hs => absurd (show "status" = "sliceId" from congrArg Prod.fst hs) (by decide)
  unfold sliceFields at htail
  generalize r.sliceId = slice, r'.sliceId = slice' at htail
  cases slice with
  | none =>
    cases slice' with
    | none => exact (List.cons_prefix_cons.mp htail).1
    | some s' => exact absurd (List.cons_prefix_cons.mp htail).1 (hname r s')
  | some s =>
    cases slice' with
    | none => exact absurd (List.cons_prefix_cons.mp htail).1.symm (hname r' s)
    | some s' => exact (List.cons_prefix_cons.mp (List.cons_prefix_cons.mp htail).2).1

theorem status_of_historyField {r r' : Report} (h : r.historyField = r'.historyField) :
    r.status = r'.status := by
  have hmap : r.history.map StatusEntry.toJson = r'.history.map StatusEntry.toJson :=
    Json.array.inj (Prod.mk.inj h).2
  have hlast := congrArg List.getLast? hmap
  rw [List.getLast?_map, List.getLast?_map] at hlast
  unfold status
  cases hr : r.history.getLast? with
  | none =>
    rw [hr, Option.map_none] at hlast
    rw [Option.map_eq_none_iff.mp hlast.symm]
  | some e =>
    rw [hr, Option.map_some] at hlast
    obtain ⟨e', he', hjson⟩ := Option.map_eq_some_iff.mp hlast.symm
    rw [he']
    exact (StatusEntry.status_of_toJson hjson).symm

/-- **The status of a report** is told by any text that begins with the report. -/
theorem status_of_lines {r r' : Report} {rest rest' : List Char}
    (h : Json.lines 0 r.toJson ++ rest = Json.lines 0 r'.toJson ++ rest') :
    r.status = r'.status := by
  obtain ⟨more, hr⟩ := r.toJson_eq
  obtain ⟨more', hr'⟩ := r'.toJson_eq
  rw [hr, hr'] at h
  rcases Json.Textual.first_fields (fun _ => textual_of_mem_firstFields)
    (fun _ => textual_of_mem_firstFields) h with hprefix | hprefix
  · exact status_of_historyField (historyField_of_begins hprefix)
  · exact (status_of_historyField (historyField_of_begins hprefix)).symm

end Report

end GraphLedger
