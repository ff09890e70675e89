import GraphLedger.Backend
import GraphLedger.Proofs.Buffer.Valid

/-! # Committing to a backend

A backend claims records by their subjects: a subject is claimed if everything is, or if some record
gives it the marker predicate. Committing appends the claimed records to the log of the pod and
takes them from the buffer, all records of a subject at once.

* `select_eq`: what is claimed are the records of claimed subjects, in the order of the buffer.
* `ofPod_receiving`: a backend that receives records has them at the end of the log of their pod,
  and nothing else changes.
* `commit_eq`, `contents_commit`: committing moves the claimed records.
* `count_statistics_commit`: each of them is counted once. -/

namespace GraphLedger

namespace ClaimSelector

/-- Whether a selector claims a subject among records. -/
def claims (s : ClaimSelector) (rs : List Record) (subject : String) : Bool :=
  match s with
  | .all => true
  | .subjectsWith p =>
    rs.any fun r => r.statement.predicate = p && r.statement.subject = subject

/-- The records of the subjects that a selector claims. -/
def claimed (s : ClaimSelector) (rs : List Record) : List Record :=
  rs.filter fun r => s.claims rs r.statement.subject

/-- The records of the subjects that a selector does not claim. -/
def unclaimed (s : ClaimSelector) (rs : List Record) : List Record :=
  rs.filter fun r => !s.claims rs r.statement.subject

/-- **Subjects leave wholesale.** Records that go or stay by their subject leave every other
subject as it was recognized. -/
theorem claims_filter (s : ClaimSelector) (rs : List Record) (keep : String → Bool)
    {subject : String} (h : keep subject = true) :
    s.claims (rs.filter fun r => keep r.statement.subject) subject = s.claims rs subject := by
  cases s with
  | all => rfl
  | subjectsWith p =>
    simp only [claims, List.any_filter]
    refine List.any_congr rfl fun r => ?_
    by_cases hr : r.statement.subject = subject
    · simp [hr, h]
    · simp [hr]

/-- **What a selector picks** from a buffer are the records of the subjects that it claims. -/
theorem select_eq {b : Buffer} (hv : b.Valid) (s : ClaimSelector) :
    s.select b = s.claimed b.contents := by
  cases s with
  | all => exact (List.filter_eq_self.mpr fun r _ => rfl).symm
  | subjectsWith p =>
    refine List.filter_congr fun r _ => ?_
    rw [hv.collect_eq, Bool.eq_iff_iff]
    simp only [List.contains_iff_mem, List.mem_map, List.mem_filter, claims, List.any_eq_true,
      Bool.and_eq_true, decide_eq_true_eq, RecordFilter.accepts, RecordFilter.ofPredicate,
      RecordFilter.any, RecordFilter.agrees, true_and, and_true]
    constructor
    · rintro ⟨x, ⟨hx, hp⟩, hs⟩
      exact ⟨x, hx, hp.symm, hs⟩
    · rintro ⟨x, hx, hp, hs⟩
      exact ⟨x, ⟨hx, hp.symm⟩, hs⟩

end ClaimSelector

/-! ### Logs -/

namespace RecordLog

theorem ofPod_append (podId : String) (rs : List Record) (q : String) (log : RecordLog) :
    (log.append podId rs).ofPod q = log.ofPod q ++ if q = podId then rs else [] := by
  induction log with
  | nil =>
    by_cases hq : q = podId
    · subst hq; simp [append, ofPod]
    · have hne : (q == podId) = false := by simpa using hq
      simp [append, ofPod, List.lookup_cons, hne, hq]
  | cons e log ih =>
    obtain ⟨p, old⟩ := e
    unfold ofPod at ih ⊢
    by_cases hp : p = podId
    · subst hp
      by_cases hq : q = p
      · subst hq; simp [append]
      · have hne : (q == p) = false := by simpa using hq
        simp [append, List.lookup_cons, hne, hq]
    · rw [append, if_neg hp]
      by_cases hq : q = p
      · subst hq; simp [hp]
      · have hne : (q == p) = false := by simpa using hq
        simpa [List.lookup_cons, hne] using ih

end RecordLog

namespace Backend

/-- A backend after it has stored records of a pod. -/
def receiving (s : Backend) (podId : String) (rs : List Record) : Backend :=
  if rs.isEmpty then s else { s with log := s.log.append podId rs }

@[simp] theorem receiving_nil (s : Backend) (podId : String) : s.receiving podId [] = s := rfl

@[simp] theorem id_receiving (s : Backend) (podId : String) (rs : List Record) :
    (s.receiving podId rs).id = s.id := by
  unfold receiving; split <;> rfl

@[simp] theorem selector_receiving (s : Backend) (podId : String) (rs : List Record) :
    (s.receiving podId rs).selector = s.selector := by
  unfold receiving; split <;> rfl

/-- **What a backend receives** is at the end of the log of its pod, and no other log changes. -/
theorem ofPod_receiving (s : Backend) (podId : String) (rs : List Record) (q : String) :
    (s.receiving podId rs).log.ofPod q = s.log.ofPod q ++ if q = podId then rs else [] := by
  cases rs with
  | nil => simp
  | cons r rs => exact RecordLog.ofPod_append podId (r :: rs) q s.log

/-! ### Committing -/

section Commit
variable {b : Buffer} (hv : b.Valid) (s : Backend)
include hv

/-- **Committing** stores the claimed records and removes them from the buffer. -/
theorem commit_eq : s.commit b =
    (s.receiving b.request.podId (s.selector.claimed b.contents),
      b.remove (s.selector.claimed b.contents) true) := by
  unfold commit
  rw [ClaimSelector.select_eq hv]
  dsimp only
  cases s.selector.claimed b.contents <;> rfl

theorem contents_commit : (s.commit b).2.contents = s.selector.unclaimed b.contents := by
  rw [commit_eq hv, hv.contents_remove]
  refine List.filter_congr fun x hx => ?_
  have hiff : (s.selector.claimed b.contents).any x.same ↔
      s.selector.claims b.contents x.statement.subject := by
    rw [List.any_eq_true]
    constructor
    · rintro ⟨y, hy, hs⟩
      rw [(Record.same_iff.mp hs).2.2]
      exact (List.mem_filter.mp hy).2
    · exact fun hc => ⟨x, List.mem_filter.mpr ⟨hx, hc⟩, Record.same_refl x⟩
  exact congrArg (!·) (Bool.eq_iff_iff.mpr hiff)

theorem valid_commit : (s.commit b).2.Valid := by
  rw [commit_eq hv]; exact hv.remove _ _

theorem request_commit : (s.commit b).2.request = b.request := by
  rw [commit_eq hv]; exact Buffer.request_remove _ _ _

theorem count_statistics_commit (t : ChangeType) :
    (s.commit b).2.statistics.count t = b.statistics.count t +
      (s.selector.claimed b.contents).countP fun r => r.changeType = t := by
  rw [commit_eq hv]
  refine hv.count_statistics_remove (fun r hr => ?_) (hv.contents_pairwise.filter _) t
  exact hv.holds_iff.mpr ⟨r, (List.mem_filter.mp hr).1, Record.same_refl r⟩

end Commit

end Backend

end GraphLedger
