import GraphLedger.CommandLine.Run
import GraphLedger.Proofs.CommandLine.Output
import GraphLedger.Proofs.Pipeline.Causes
import GraphLedger.Proofs.Pipeline.Rollback
import GraphLedger.Proofs.Statement.Displayed

/-! # Applying a request

A request that is applied is processed on stores that are empty, and then there is a report, as
nothing is in the way of writing it. Its status is final, and it tells the exit code. If anything
that the request needs cannot be read, or no pipeline is built, nothing is printed but what went
wrong.

The records that are shown are those that the request has stored in the store that is read from, for
there was nothing in it before, and they are fewer than a page can hold. They are printed one behind
the other. Each is a line if there is no line break in the tag of its literal; nothing keeps a
request from having one there.

* `applies_or_fault`: a request is processed, or there is a fault.
* `Setup.Builds.exists_storesInDefault`: what the store that is read from holds then.
* `Applies.run_eq`, `Applies.output_eq`: what comes of a request that is processed.
* `apply_outcome`: exit codes and output. -/

namespace GraphLedger

/-- Whether a status says that a request failed. -/
def Status.isFailure (c : Status) : Bool := c.isFinal && !c.isSuccess

theorem Failure.isFailure_status (e : Failure) : e.status.isFailure = true := by
  cases e <;> rfl

theorem Status.ne_committed_of_isFailure {c : Status} (h : c.isFailure = true) :
    c ≠ .committed := by
  rintro rfl
  cases h

theorem Pipeline.committed_or_isFailure (p : Pipeline) (now : Instant) (r : Request) (l : Ledger) :
    (p.report now r l).status = .committed ∨ (p.report now r l).status.isFailure = true := by
  cases hrun : (p.run now r l).1 with
  | ok u => exact Or.inl ((p.status_report_eq_committed_iff now r l).mpr hrun)
  | error e =>
    rw [(p.report_of_error now r l hrun).1]
    exact Or.inr e.isFailure_status

/-! ### The store that is read from -/

/-- **The records that a request stores in the store that is read from** are those that it appends
there, in the order in which they are in the log of its pod. -/
def Pipeline.StoresInDefault (p : Pipeline) (now : Instant) (r : Request) (l : Ledger)
    (records : List Record) : Prop :=
  ∃ share m, p.Appends now r l share ∧
    (p.process now r l).2.store? p.defaultBackend = some (.memory m) ∧
    m.log.ofPod r.podId = records ∧ share p.defaultBackend = records

theorem Setup.exists_empty_of_mem {s : Setup} (hgiven : s.stores = []) {store : RecordStore}
    (hstore : store ∈ s.allStores) : ∃ m, store = .memory m ∧ m.log = [] := by
  obtain ⟨b, -, rfl⟩ := List.mem_map.mp hstore
  refine ⟨.new b.id b.selector, ?_, rfl⟩
  rw [storeOf, given?, hgiven]
  rfl

namespace Setup.Builds
variable {s : Setup} {p : Pipeline} (h : s.Builds p)
include h

theorem exists_default : ∃ store, s.allStores.find? (fun t => t.id == p.defaultBackend) = some store
    ∧ store.id = p.defaultBackend := by
  obtain ⟨id, -, hfound⟩ := bind_eq_ok_iff.mp h.default
  cases hstore : s.allStores.find? fun t => t.id == id with
  | none =>
    rw [hstore] at hfound
    cases hfound
  | some store =>
    rw [hstore] at hfound
    have hid : store.id = id := by simpa using List.find?_some hstore
    have hdefault : store.id = p.defaultBackend := Except.ok.inj hfound
    refine ⟨store, ?_, hdefault⟩
    rw [← hdefault, hid]
    exact hstore

/-- **What a request stores in the store that is read from** if that was empty, and that the report
counts it if there is no other store. -/
theorem exists_storesInDefault (hgiven : s.stores = []) (now : Instant) (r : Request) :
    ∃ records, p.StoresInDefault now r s.ledger records ∧
      (∀ x ∈ records, x.changeRequestId = r.id ∧ x.statement.invalid? = none) ∧
      (s.config.backends.length = 1 → records.length =
        (p.report now r s.ledger).statistics.inserts +
          (p.report now r s.ledger).statistics.deletes) := by
  have hn : (s.ledger.stores.map RecordStore.id).Nodup := h.nodup_of_reaches .first
  have hm : ∀ store ∈ s.ledger.stores, ∃ m, store = .memory m := fun store hstore => by
    obtain ⟨m, hstore, -⟩ := exists_empty_of_mem hgiven hstore
    exact ⟨m, hstore⟩
  obtain ⟨share, hshare⟩ := h.exists_appends now r hn hm
  obtain ⟨store, hfind, hid⟩ := h.exists_default
  have hmem : store ∈ s.ledger.stores := List.mem_of_find?_eq_some hfind
  obtain ⟨m, rfl, hempty⟩ := exists_empty_of_mem hgiven hmem
  have hmid : m.id = p.defaultBackend := hid
  refine ⟨share m.id, ⟨share, m.receiving r.podId (share m.id), hshare, ?_, ?_, hmid ▸ rfl⟩,
    fun x hx => ?_, fun hone => ?_⟩
  · have hsame : ((fun t : RecordStore => t.id == p.defaultBackend) ∘
        fun t : RecordStore => t.receiving r.podId (share t.id)) =
          fun t => t.id == p.defaultBackend :=
      funext fun t => by rw [Function.comp, RecordStore.id_receiving]
    have hledger : s.ledger.stores.find? (fun t => t.id == p.defaultBackend) =
      some (.memory m) := hfind
    rw [Ledger.store?, hshare.stores, List.find?_map, hsame, hledger]
    rfl
  · rw [Backend.ofPod_receiving, if_pos rfl, hempty]
    rfl
  · exact ⟨hshare.request (.memory m) hmem x hx, hshare.valid (.memory m) hmem x hx⟩
  · have hlength : s.ledger.stores.length = 1 := by
      rw [ledger, allStores, List.length_map, hone]
    obtain ⟨only, honly⟩ := List.length_eq_one_iff.mp hlength
    rw [honly, List.mem_singleton] at hmem
    have hout : handedOut s.ledger.stores share = share m.id := by
      rw [handedOut, honly, ← hmem, List.flatMap_singleton]
      rfl
    rw [← hout, hshare.length_handedOut]

end Setup.Builds

namespace CommandLine

/-! ### Reading -/

/-- Whether something is to be read from the standard input, and nothing is there. -/
def Surroundings.Lacks (s : Surroundings) (args : ApplyArguments) : Prop :=
  s.input = none ∧ ∃ path ∈ args.request :: args.sliceSchemas, isStandardInput path

theorem readInput_terminal {s : Surroundings} {taken : Bool} {path : String}
    (h : readInput s taken path = .error .terminal) :
    s.input = none ∧ isStandardInput path := by
  unfold readInput at h
  split at h
  · rename_i hpath
    split at h
    · rename_i hinput
      exact ⟨hinput, hpath⟩
    · cases h
  · split at h <;> cases h

theorem mapError_ne_terminal {ε α : Type} {x : Except ε α} {f : ε → RunFault}
    (hf : ∀ e, f e ≠ .terminal) : x.mapError f ≠ .error .terminal := by
  intro h
  cases x with
  | ok a => cases h
  | error e => exact hf e (Except.error.inj h)

theorem readFixtures_ne_terminal (s : Surroundings) (path : Option String) :
    readFixtures s path ≠ .error .terminal := by
  unfold readFixtures
  split
  · exact nofun
  · split
    · exact nofun
    · split
      · exact nofun
      · exact mapError_ne_terminal fun _ => nofun

theorem readSchemas_terminal {s : Surroundings} {podId : String} {paths : List String} {taken : Bool}
    {schemas : Conformance.Schemas}
    (h : readSchemas s podId taken schemas paths = .error .terminal) :
    s.input = none ∧ ∃ path ∈ paths, isStandardInput path := by
  induction paths generalizing taken schemas with
  | nil => cases h
  | cons path paths ih =>
    unfold readSchemas at h
    rcases bind_eq_error_iff.mp h with htext | ⟨text, -, h⟩
    · obtain ⟨hinput, hpath⟩ := readInput_terminal htext
      exact ⟨hinput, path, List.mem_cons_self, hpath⟩
    · rcases bind_eq_error_iff.mp h with hschema | ⟨schema, -, hrest⟩
      · exact absurd hschema (mapError_ne_terminal fun _ => nofun)
      · obtain ⟨hinput, path', hmem, hpath⟩ := ih hrest
        exact ⟨hinput, path', List.mem_cons_of_mem _ hmem, hpath⟩

section Preparing
variable {s : Surroundings} {options : Options} {args : ApplyArguments} {config : Config}
  {prepared : Prepared} {p : Pipeline}

theorem prepare_terminal (h : prepare s config args = .error .terminal) : s.Lacks args := by
  unfold prepare at h
  rcases bind_eq_error_iff.mp h with htext | ⟨text, -, h⟩
  · obtain ⟨hinput, hpath⟩ := readInput_terminal htext
    exact ⟨hinput, args.request, List.mem_cons_self, hpath⟩
  rcases bind_eq_error_iff.mp h with hrequest | ⟨request, -, h⟩
  · exact absurd hrequest (mapError_ne_terminal fun _ => nofun)
  rcases bind_eq_error_iff.mp h with hfixtures | ⟨fixtures, -, h⟩
  · exact absurd hfixtures (readFixtures_ne_terminal s _)
  rcases bind_eq_error_iff.mp h with hschemas | ⟨schemas, -, h⟩
  · obtain ⟨hinput, path, hmem, hpath⟩ := readSchemas_terminal hschemas
    exact ⟨hinput, path, List.mem_cons_of_mem _ hmem, hpath⟩
  · cases h

theorem setup_of_prepare (h : prepare s config args = .ok prepared) :
    prepared.setup.config = config ∧ prepared.setup.stores = [] ∧
      prepared.setup.reports = .memory [] := by
  unfold prepare at h
  obtain ⟨text, -, h⟩ := bind_eq_ok_iff.mp h
  obtain ⟨request, -, h⟩ := bind_eq_ok_iff.mp h
  obtain ⟨fixtures, -, h⟩ := bind_eq_ok_iff.mp h
  obtain ⟨schemas, -, h⟩ := bind_eq_ok_iff.mp h
  cases h
  exact ⟨rfl, rfl, rfl⟩

/-- **What a request is applied with**: the configuration, the request with all that it needs, and
the pipeline that is built for it. -/
structure Applies (s : Surroundings) (options : Options) (args : ApplyArguments) (config : Config)
    (prepared : Prepared) (p : Pipeline) : Prop where
  loads : loadConfig s options.config = .ok config
  prepares : prepare s config args = .ok prepared
  builds : prepared.setup.build = .ok p

theorem fst_process_of_prepare (h : prepare s config args = .ok prepared) (p : Pipeline)
    (now : Instant) (r : Request) : (p.process now r prepared.setup.ledger).1 =
      .ok (p.report now r prepared.setup.ledger) := by
  have hreports : prepared.setup.ledger.reports = .memory [] := (setup_of_prepare h).2.2
  rw [Pipeline.process_eq, hreports]
  rfl

theorem output_conclude (colored : Bool) (p : Pipeline) (report : Report)
    (records : Option (List Record)) : (conclude colored p report records).output =
      report.toJson.indented :: (records.getD []).map Record.display := by
  unfold conclude
  dsimp only
  split <;> rfl

theorem exitCode_conclude (colored : Bool) (p : Pipeline) (report : Report)
    (records : Option (List Record)) : (conclude colored p report records).exitCode =
      if report.status = .committed then 0 else 3 := by
  unfold conclude
  simp only [Status.isSuccess, decide_eq_true_eq]
  split <;> rfl

/-- **The records of a request can be read** from the store that is read from, as far as a page can
hold them. -/
theorem storedRecords_eq {l : Ledger} {r : Request} {m : Backend}
    (hstore : l.store? p.defaultBackend = some (.memory m))
    (hrequest : ∀ x ∈ m.log.ofPod r.podId, x.changeRequestId = r.id) :
    storedRecords p l r = .ok ((m.log.ofPod r.podId).take (recordsOf r).limit) := by
  have hstream : m.stream (recordsOf r) = m.log.ofPod r.podId := by
    refine List.filter_eq_self.mpr fun x hx => ?_
    simp [RecordsQuery.accepts, recordsOf, RecordFilter.agrees, RecordFilter.accepts,
      RecordFilter.any, hrequest x hx]
  rw [storedRecords, hstore]
  show Except.ok (((m.stream (recordsOf r)).drop 0).take (max (recordsOf r).limit 1)) = _
  rw [hstream]
  rfl

theorem Applies.exists_stores (h : Applies s options args config prepared p) : ∃ records,
    p.StoresInDefault s.now prepared.request prepared.setup.ledger records ∧
    (∀ x ∈ records, x.statement.WellFormed) ∧
    (config.backends.length = 1 → records.length =
      (p.report s.now prepared.request prepared.setup.ledger).statistics.inserts +
        (p.report s.now prepared.request prepared.setup.ledger).statistics.deletes) ∧
    storedRecords p (p.process s.now prepared.request prepared.setup.ledger).2 prepared.request =
      .ok (records.take (recordsOf prepared.request).limit) := by
  obtain ⟨hconfig, hgiven, -⟩ := setup_of_prepare h.prepares
  obtain ⟨records, hstores, hvalid, hcount⟩ :=
    (Setup.build_eq_ok_iff.mp h.builds).exists_storesInDefault hgiven s.now prepared.request
  refine ⟨records, hstores, fun x hx => Statement.invalid?_eq_none_iff.mp (hvalid x hx).2,
    hconfig ▸ hcount, ?_⟩
  obtain ⟨share, m, -, hstore, hlog, -⟩ := hstores
  rw [storedRecords_eq hstore (fun x hx => (hvalid x (hlog ▸ hx)).1), hlog]

/-- **What comes of a request that is processed**: nothing fails after the report. -/
theorem Applies.run_eq (h : Applies s options args config prepared p) {records : List Record}
    (hrecords : storedRecords p (p.process s.now prepared.request prepared.setup.ledger).2
      prepared.request = .ok records) :
    Invocation.run s ⟨options, .apply args⟩ = conclude (s.isColored options.noColor) p
      (p.report s.now prepared.request prepared.setup.ledger)
      (if args.showRecords then some records else none) := by
  have happly : apply s (s.isColored options.noColor) config args =
      .ok (conclude (s.isColored options.noColor) p
        (p.report s.now prepared.request prepared.setup.ledger)
        (if args.showRecords then some records else none)) := by
    unfold apply
    rw [h.prepares]
    dsimp only [bind, Except.bind]
    rw [h.builds]
    dsimp only [Except.mapError]
    rw [fst_process_of_prepare h.prepares]
    dsimp only
    rw [hrecords]
    cases args.showRecords <;> rfl
  rw [Invocation.run, h.loads]
  dsimp only [bind, Except.bind]
  rw [happly]

/-- **What is printed of a request that is processed**: the report, and behind it the records that
the request has stored in the store that is read from, if they are wanted. -/
theorem Applies.output_eq (h : Applies s options args config prepared p) : ∃ records,
    p.StoresInDefault s.now prepared.request prepared.setup.ledger records ∧
    (∀ x ∈ records, x.statement.WellFormed) ∧
    (config.backends.length = 1 → records.length =
      (p.report s.now prepared.request prepared.setup.ledger).statistics.inserts +
        (p.report s.now prepared.request prepared.setup.ledger).statistics.deletes) ∧
    (Invocation.run s ⟨options, .apply args⟩).output =
      (p.report s.now prepared.request prepared.setup.ledger).toJson.indented ::
        if args.showRecords then
          (records.take (recordsOf prepared.request).limit).map Record.display
        else [] := by
  obtain ⟨records, hstores, hwell, hcount, hrecords⟩ := h.exists_stores
  refine ⟨records, hstores, hwell, hcount, ?_⟩
  rw [h.run_eq hrecords, output_conclude]
  cases args.showRecords <;> rfl

/-- **A request is processed, or there is a fault** in what is given. -/
theorem applies_or_fault (s : Surroundings) (options : Options) (args : ApplyArguments) :
    (∃ config prepared p, Applies s options args config prepared p) ∨
    ∃ e : RunFault, Invocation.run s ⟨options, .apply args⟩ =
      e.toOutcome (s.isColored options.noColor) ∧ (e = .terminal → s.Lacks args) := by
  cases hloads : loadConfig s options.config with
  | error e =>
    refine Or.inr ⟨e, by rw [Invocation.run, hloads]; rfl, ?_⟩
    rintro rfl
    unfold loadConfig at hloads
    split at hloads
    · cases hloads
    · exact absurd hloads (mapError_ne_terminal fun _ => nofun)
  | ok config =>
    cases hprepares : prepare s config args with
    | error e =>
      refine Or.inr ⟨e, ?_, ?_⟩
      · rw [Invocation.run, hloads]
        dsimp only [bind, Except.bind]
        rw [apply, hprepares]
        rfl
      · rintro rfl
        exact prepare_terminal hprepares
    | ok prepared =>
      cases hbuilds : prepared.setup.build with
      | error fault =>
        refine Or.inr ⟨.config fault.message, ?_, nofun⟩
        rw [Invocation.run, hloads]
        dsimp only [bind, Except.bind]
        rw [apply, hprepares]
        dsimp only [bind, Except.bind]
        rw [hbuilds]
        rfl
      | ok p => exact Or.inl ⟨config, prepared, p, hloads, hprepares, hbuilds⟩

end Preparing

/-! ### Exit codes -/

section Outcome
variable {s : Surroundings} {options : Options} {args : ApplyArguments} {config : Config}
  {prepared : Prepared} {p : Pipeline}

theorem Applies.exitCode_eq (h : Applies s options args config prepared p) :
    (Invocation.run s ⟨options, .apply args⟩).exitCode =
      if (p.report s.now prepared.request prepared.setup.ledger).status = .committed then 0
      else 3 := by
  obtain ⟨records, -, -, -, hrecords⟩ := h.exists_stores
  rw [h.run_eq hrecords, exitCode_conclude]

theorem Applies.startsWith (h : Applies s options args config prepared p) :
    (Invocation.run s ⟨options, .apply args⟩).StartsWith
      (p.report s.now prepared.request prepared.setup.ledger) := by
  obtain ⟨records, -, -, -, houtput⟩ := h.output_eq
  exact Outcome.startsWith_of_cons houtput

/-- **The report tells the exit code**, whatever report the output starts with. -/
theorem Applies.exitCode_iff (h : Applies s options args config prepared p) :
    let o := Invocation.run s ⟨options, .apply args⟩
    (o.exitCode = 0 ↔ ∃ report, o.StartsWith report ∧ report.status = .committed) ∧
    (o.exitCode = 3 ↔ ∃ report, o.StartsWith report ∧ report.status.isFailure = true) := by
  intro o
  have hstarts : o.StartsWith (p.report s.now prepared.request prepared.setup.ledger) :=
    h.startsWith
  have hcode : o.exitCode = _ := h.exitCode_eq
  rw [hcode]
  constructor
  · constructor
    · intro hzero
      refine ⟨_, hstarts, ?_⟩
      by_contra hnot
      rw [if_neg hnot] at hzero
      cases hzero
    · rintro ⟨report, hreport, hstatus⟩
      rw [if_pos ((hstarts.status_eq hreport).trans hstatus)]
  · constructor
    · intro hthree
      refine ⟨_, hstarts, ?_⟩
      rcases p.committed_or_isFailure s.now prepared.request prepared.setup.ledger with
        hcommitted | hfailure
      · rw [if_pos hcommitted] at hthree
        cases hthree
      · exact hfailure
    · rintro ⟨report, hreport, hstatus⟩
      rw [← hstarts.status_eq hreport] at hstatus
      rw [if_neg (Status.ne_committed_of_isFailure hstatus)]

end Outcome

theorem areLines_display_iff {records : List Record}
    (h : ∀ x ∈ records, x.statement.WellFormed) :
    AreLines (printed (records.map Record.display)) (records.map Record.display) ↔
      ∀ x ∈ records, '\n' ∉ x.statement.tag.toList := by
  rw [areLines_printed_iff, List.forall_mem_map]
  refine forall₂_congr fun x hx => not_congr ?_
  exact x.newline_mem_display_iff.trans (Statement.newline_mem_display_iff (h x hx))

/-- **What comes of applying a request.** The exit code is 0 exactly if the output starts with the
report of a request that is committed, and 3 exactly if it starts with the report of one that failed.
Otherwise nothing is on the output, and the exit code is 1, or 2 if something is to be read from the
standard input and nothing is there.

If there is a report, the request was processed, and what stands behind the report are the records
that it has stored in the store that is read from, if they are wanted: each of them is printed, in
the order in which they were stored, and a line break behind it. (Of more records than there are
numbers of 64 bits not all are.) They are the lines behind the report exactly if no line break is in
the tag of one of them. If there is one backend, they are as many as the report counts. -/
theorem apply_outcome (s : Surroundings) (options : Options) (args : ApplyArguments) :
    let o := Invocation.run s ⟨options, .apply args⟩
    (o.exitCode = 0 ↔ ∃ report, o.StartsWith report ∧ report.status = .committed) ∧
    (o.exitCode = 3 ↔ ∃ report, o.StartsWith report ∧ report.status.isFailure = true) ∧
    (o.exitCode ≠ 0 → o.exitCode ≠ 3 →
      o.text = [] ∧ (o.exitCode = 1 ∨ o.exitCode = 2 ∧ s.Lacks args)) ∧
    (o.exitCode = 0 ∨ o.exitCode = 3 → ∃ config prepared p records,
      Applies s options args config prepared p ∧
      p.StoresInDefault s.now prepared.request prepared.setup.ledger records ∧
      let report := p.report s.now prepared.request prepared.setup.ledger
      (records.length ≤ (recordsOf prepared.request).limit →
        o.text = printed [report.toJson.indented] ++
          if args.showRecords then printed (records.map Record.display) else []) ∧
      (AreLines (printed (records.map Record.display)) (records.map Record.display) ↔
        ∀ x ∈ records, '\n' ∉ x.statement.tag.toList) ∧
      (config.backends.length = 1 →
        records.length = report.statistics.inserts + report.statistics.deletes)) := by
  intro o
  rcases applies_or_fault s options args with ⟨config, prepared, p, h⟩ | ⟨e, hrun, hterminal⟩
  · obtain ⟨hzero, hthree⟩ := h.exitCode_iff
    refine ⟨hzero, hthree, fun hne hne' => ?_, fun _ => ?_⟩
    · have hcode : o.exitCode = _ := h.exitCode_eq
      split at hcode
      · exact absurd hcode hne
      · exact absurd hcode hne'
    · obtain ⟨records, hstores, hwell, hcount, houtput⟩ := h.output_eq
      refine ⟨config, prepared, p, records, h, hstores, fun hlimit => ?_,
        areLines_display_iff hwell, hcount⟩
      rw [List.take_of_length_le hlimit] at houtput
      show printed o.output = _
      rw [houtput, ← List.singleton_append, printed_append]
      cases args.showRecords <;> rfl
  · -- there is no output, and so no report
    have ho : o = e.toOutcome (s.isColored options.noColor) := hrun
    have houtput : o.output = [] := by rw [ho]; rfl
    have hcode : o.exitCode = e.exitCode := by rw [ho]; rfl
    have hno : ∀ report, ¬ o.StartsWith report := fun report => Outcome.not_startsWith_of_nil houtput
    have hone : o.exitCode = 1 ∨ o.exitCode = 2 ∧ s.Lacks args := by
      rw [hcode]
      cases e with
      | terminal => exact Or.inr ⟨rfl, hterminal rfl⟩
      | _ => exact Or.inl rfl
    have hne : o.exitCode ≠ 0 ∧ o.exitCode ≠ 3 := by
      rcases hone with hone | ⟨htwo, -⟩ <;> omega
    refine ⟨⟨fun h => absurd h hne.1, fun ⟨report, h, _⟩ => absurd h (hno report)⟩,
      ⟨fun h => absurd h hne.2, fun ⟨report, h, _⟩ => absurd h (hno report)⟩, fun _ _ => ⟨?_, hone⟩,
      fun h => h.elim (absurd · hne.1) (absurd · hne.2)⟩
    rw [Outcome.text, houtput]
    rfl

/-- A file with a request to insert one statement, whose literal has a line break in its
language. -/
def brokenTag : Surroundings where
  read path :=
    if path = "r.json" then
      some ("\x7b\"id\":\"01HZY3V4E0000000000000000A\",\"podId\":\"pod-1\",\"insert\":"
        ++ "\x7b\"@id\":\"urn:1\",\"urn:p\":\x7b\"@value\":\"a\",\"@language\":\"e\\nn\"\x7d\x7d\x7d")
    else none
  input := none
  noColor := false
  color := none
  forceColor := none
  terminal := false
  now := ⟨0, 0⟩
  supply := 0

/-- What the request of the file is applied with; its records are wanted. -/
def showingRecords : ApplyArguments := ⟨"r.json", none, none, [], true⟩

/-- One record is stored, as the report says, in the one store that there is. But there are two lines
behind the report, so that the lines there are not the records, nor as many as the report counts. -/
theorem record_on_two_lines :
    let o := Invocation.run brokenTag ⟨⟨false, none⟩, .apply showingRecords⟩
    o.exitCode = 0 ∧ ∃ config prepared p x rest,
      Applies brokenTag ⟨false, none⟩ showingRecords config prepared p ∧
      config.backends.length = 1 ∧
      p.StoresInDefault brokenTag.now prepared.request prepared.setup.ledger [x] ∧
      let report := p.report brokenTag.now prepared.request prepared.setup.ledger
      report.statistics.inserts + report.statistics.deletes = 1 ∧
      o.text = printed [report.toJson.indented] ++ rest ∧
      AreLines rest ["INSERT <urn:1> <urn:p> \"a\"@e", "n"] ∧ ¬ AreLines rest [x.display] ∧
      ∀ lines, AreLines rest lines →
        lines.length ≠ report.statistics.inserts + report.statistics.deletes := by
  intro o
  have hcode : o.exitCode = 0 := by decide +kernel
  have hbehind : o.output.tail = ["INSERT <urn:1> <urn:p> \"a\"@e\nn"] := by decide +kernel
  refine ⟨hcode, ?_⟩
  rcases applies_or_fault brokenTag ⟨false, none⟩ showingRecords with
    ⟨config, prepared, p, h⟩ | ⟨e, hrun, -⟩
  · obtain ⟨records, hstores, -, hcount, houtput⟩ := h.output_eq
    have hshown : (records.take (recordsOf prepared.request).limit).map Record.display =
        ["INSERT <urn:1> <urn:p> \"a\"@e\nn"] := by
      rw [← hbehind]
      exact (congrArg List.tail houtput).symm
    obtain ⟨x, rfl⟩ : ∃ x, records = [x] := by
      refine List.length_eq_one_iff.mp ?_
      have hlength := congrArg List.length hshown
      rw [List.length_map, List.length_take] at hlength
      have hlimit : (recordsOf prepared.request).limit = 0xFFFFFFFFFFFFFFFF := rfl
      simp only [hlimit, List.length_singleton] at hlength
      omega
    have hx : x.display = "INSERT <urn:1> <urn:p> \"a\"@e\nn" := (List.cons.inj hshown).1
    have hone : config.backends.length = 1 := by
      cases h.loads
      rfl
    have hcounted := (hcount hone).symm
    have hlines : AreLines (printed [x.display]) ["INSERT <urn:1> <urn:p> \"a\"@e", "n"] :=
      ⟨by rw [hx]; decide +kernel, by decide⟩
    refine ⟨config, prepared, p, x, printed [x.display], h, hone, hstores, hcounted, ?_, hlines,
      fun hx' => ?_, fun lines hlines' => ?_⟩
    · show printed o.output = _
      rw [houtput, ← List.singleton_append, printed_append]
      rfl
    · have hsame : 2 = 1 := congrArg List.length (hlines.unique hx')
      cases hsame
    · rw [← hlines.unique hlines', hcounted]
      show 2 ≠ 1
      decide
  · have ho : o = e.toOutcome _ := hrun
    rw [ho] at hcode
    cases e <;> cases hcode

end CommandLine

end GraphLedger
