import GraphLedger.Proofs.Config.Runnable
import GraphLedger.Proofs.Reference.Drafted
import GraphLedger.Proofs.Stage.Additive
import GraphLedger.Proofs.Statement.WellFormed

/-! # What materializing brings

What a part of materializing does can be told without the supply that it draws on: it adds the
statements of certain drafts, each with a type, in a certain order, or it fails in a certain way.
Names that are minted are absolute IRIs, so that they are never what is wrong with a statement. The
blank nodes of one translation are told apart from those of another by a number, its *scope*. A run
from any supply then adds the statements of these drafts, under names that it mints.

* `admitted`: what batches add, of statements or of drafts; `admitted_map`.
* `Adds`: a step without names adds certain statements, or fails; `adds_addBatches`.
* `Brings`: a step adds the statements of certain drafts, or fails, whatever the supply.
* `Brings.bind`, `Told.brings`: steps in a row; a step that loads or translates, and adds.
* `exists_brings_addReferences`: what references bring is told by their drafts. -/

namespace GraphLedger

open JsonLd

/-! ### Faults of drafts -/

namespace JsonLd.Draft

/-- What is wrong with the statement of a draft. It does not matter which names are minted. -/
def fault? (d : Draft) : Option InvalidIri := (d.statement fun _ => Skolem.minted 0).invalid?

theorem isAbsolute_of_minted {α : Blank → String} (hα : ∀ b, ∃ n, α b = Skolem.minted n)
    (b : Blank) : Iri.isAbsolute (α b) = true ∧ (α b).isEmpty = false := by
  obtain ⟨n, hn⟩ := hα b
  have habsolute : Iri.isAbsolute (α b) = true := by rw [hn, Skolem.absolute_minted]
  refine ⟨habsolute, Bool.eq_false_iff.mpr fun hempty => ?_⟩
  rw [String.isEmpty_iff.mp hempty] at habsolute
  exact absurd habsolute (by decide)

/-- Whether a place that must hold an absolute IRI does not. -/
def isRelative (c : Position × String) : Bool := !Iri.isAbsolute c.2

theorem invalid?_congr (d : Draft) {α β : Blank → String} (hα : ∀ b, ∃ n, α b = Skolem.minted n)
    (hβ : ∀ b, ∃ n, β b = Skolem.minted n) :
    (d.statement α).invalid? = (d.statement β).invalid? := by
  -- what is left of the places is the same, one by one
  have hplace : ∀ (q : Position) (id : Ident),
      [(q, id.iri α)].filter isRelative = [(q, id.iri β)].filter isRelative := by
    intro q id
    cases id with
    | given iri => rfl
    | blank b =>
      simp [isRelative, Ident.iri, (isAbsolute_of_minted hα b).1, (isAbsolute_of_minted hβ b).1]
  have hgraph : (if (d.graph.iri α).isEmpty then [] else [(Position.graph, d.graph.iri α)]).filter
        isRelative =
      (if (d.graph.iri β).isEmpty then [] else [(Position.graph, d.graph.iri β)]).filter
        isRelative := by
    cases d.graph with
    | given iri => rfl
    | blank b =>
      simp [isRelative, Ident.iri, isAbsolute_of_minted hα b, isAbsolute_of_minted hβ b]
  have hchecked : (d.statement α).checked.filter isRelative =
      (d.statement β).checked.filter isRelative := by
    unfold Statement.checked
    rw [List.filter_append, List.filter_append, List.filter_append, List.filter_append]
    refine congrArg₂ _ (congrArg₂ _ ?_ hgraph) ?_
    · show ([(Position.subject, d.subject.iri α)] ++ [(Position.predicate, d.predicate)]).filter
        isRelative = ([(Position.subject, d.subject.iri β)] ++
          [(Position.predicate, d.predicate)]).filter isRelative
      rw [List.filter_append, List.filter_append, hplace]
    · unfold Draft.statement
      cases d.object with
      | node id => exact hplace .object id
      | literal value => rfl
  show ((d.statement α).checked.find? isRelative).map _ =
    ((d.statement β).checked.find? isRelative).map _
  rw [← List.head?_filter, ← List.head?_filter, hchecked]

theorem invalid?_statement (d : Draft) {α : Blank → String}
    (hα : ∀ b, ∃ n, α b = Skolem.minted n) : (d.statement α).invalid? = d.fault? :=
  d.invalid?_congr hα fun _ => ⟨0, rfl⟩

end JsonLd.Draft

/-! ### What batches add -/

theorem mapM_map_of {ε α α' β β' : Type} {f : α → Except ε β} {f' : α' → Except ε β'}
    {g : α → α'} {k : β → β'} (h : ∀ a, f' (g a) = (f a).map k) (l : List α) :
    (l.map g).mapM f' = (l.mapM f).map (List.map k) := by
  induction l with
  | nil => rfl
  | cons a l ih =>
    rw [List.map_cons, List.mapM_cons, List.mapM_cons, h, ih]
    cases f a with
    | error e => rfl
    | ok b => cases l.mapM f <;> rfl

namespace Materialize

section Admitted
variable {A B : Type}

/-- An element, unless there is something wrong with it. -/
def sound (fault? : A → Option InvalidIri) (a : A) : Except Failure A :=
  match fault? a with
  | some e => .error (.invalidIri e)
  | none => .ok a

/-- What is added of a batch: all of it, if there is no failure in it and nothing wrong. -/
def soundBatch (fault? : A → Option InvalidIri) (batch : List (Except Failure A)) :
    Except Failure (List A) := do
  let as ← batch.mapM id
  as.mapM (sound fault?)

/-- **What is added of batches** with a type. -/
def admitted (fault? : A → Option InvalidIri) (t : ChangeType)
    (batches : List (List (Except Failure A))) : Except Failure (List (ChangeType × A)) :=
  (batches.mapM (soundBatch fault?)).map fun parts => parts.flatten.map (t, ·)

variable {fault? : A → Option InvalidIri} {t : ChangeType}

theorem admitted_cons (batch : List (Except Failure A)) (rest : List (List (Except Failure A))) :
    admitted fault? t (batch :: rest) = do
      let first ← soundBatch fault? batch
      let others ← admitted fault? t rest
      return first.map (t, ·) ++ others := by
  unfold admitted
  rw [List.mapM_cons]
  cases soundBatch fault? batch with
  | error e => rfl
  | ok as =>
    cases rest.mapM (soundBatch fault?) with
    | error e => rfl
    | ok parts => exact congrArg Except.ok (List.map_append)

theorem sound_map {fault' : B → Option InvalidIri} {g : A → B} {a : A}
    (hg : fault' (g a) = fault? a) : sound fault' (g a) = (sound fault? a).map g := by
  unfold sound
  rw [hg]
  cases fault? a <;> rfl

/-- **What is added of batches that are changed**, if this does not change what is wrong. -/
theorem admitted_map {fault' : B → Option InvalidIri} {g : A → B}
    (hg : ∀ a, fault' (g a) = fault? a) (batches : List (List (Except Failure A))) :
    admitted fault' t (batches.map (List.map (Except.map g))) =
      (admitted fault? t batches).map (List.map fun q => (q.1, g q.2)) := by
  have hbatch : ∀ batch : List (Except Failure A), soundBatch fault' (batch.map (Except.map g)) =
      (soundBatch fault? batch).map (List.map g) := by
    intro batch
    unfold soundBatch
    have hitems : (batch.map (Except.map g)).mapM id = (batch.mapM id).map (List.map g) :=
      mapM_map_of (f := id) (g := Except.map g) (k := g) (fun _ => rfl) batch
    rw [hitems]
    cases batch.mapM id with
    | error e => rfl
    | ok as => exact mapM_map_of (fun a => sound_map (hg a)) as
  unfold admitted
  rw [mapM_map_of hbatch]
  cases batches.mapM (soundBatch fault?) with
  | error e => rfl
  | ok parts =>
    refine congrArg Except.ok ?_
    simp only [List.map_flatten, List.map_map, Function.comp_def]

end Admitted

theorem mapM_id_eq_ok_iff {A : Type} {batch : List (Except Failure A)} {as : List A} :
    batch.mapM id = .ok as ↔ batch = as.map .ok := by
  rw [mapM_eq_ok_iff, ← List.forall₂_eq_eq_eq, List.forall₂_map_right_iff]
  rfl

theorem mapM_sound_eq_ok_iff {A : Type} {fault? : A → Option InvalidIri} {as as' : List A} :
    as.mapM (sound fault?) = .ok as' ↔ as = as' ∧ ∀ a ∈ as, fault? a = none := by
  have hsound : ∀ {a b : A}, sound fault? a = .ok b ↔ fault? a = none ∧ a = b := by
    intro a b
    unfold sound
    cases fault? a <;> simp
  rw [mapM_eq_ok_iff]
  constructor
  · intro h
    have hsame : as = as' := by
      rw [← List.forall₂_eq_eq_eq]
      exact h.imp fun _ _ h => (hsound.mp h).2
    subst hsame
    exact ⟨rfl, fun a ha => (hsound.mp (List.forall₂_same.mp h a ha)).1⟩
  · rintro ⟨rfl, hall⟩
    exact List.forall₂_same.mpr fun a ha => hsound.mpr ⟨hall a ha, rfl⟩

theorem soundBatch_eq_ok_iff {A : Type} {fault? : A → Option InvalidIri}
    {batch : List (Except Failure A)} {as : List A} :
    soundBatch fault? batch = .ok as ↔ batch = as.map .ok ∧ ∀ a ∈ as, fault? a = none := by
  unfold soundBatch
  rw [bind_eq_ok_iff]
  constructor
  · rintro ⟨as', hbatch, h⟩
    obtain ⟨rfl, hall⟩ := mapM_sound_eq_ok_iff.mp h
    exact ⟨mapM_id_eq_ok_iff.mp hbatch, hall⟩
  · rintro ⟨hbatch, hall⟩
    exact ⟨as, mapM_id_eq_ok_iff.mpr hbatch, mapM_sound_eq_ok_iff.mpr ⟨rfl, hall⟩⟩

/-- **Batches add something** if there is no failure in them and nothing wrong: all that is in
them. -/
theorem admitted_eq_ok_iff {A : Type} {fault? : A → Option InvalidIri} {t : ChangeType}
    {batches : List (List (Except Failure A))} {qs : List (ChangeType × A)} :
    admitted fault? t batches = .ok qs ↔ ∃ as : List A, batches.flatten = as.map .ok ∧
      (∀ a ∈ as, fault? a = none) ∧ qs = as.map (t, ·) := by
  induction batches generalizing qs with
  | nil =>
    constructor
    · intro h
      cases h
      exact ⟨[], rfl, fun _ ha => absurd ha List.not_mem_nil, rfl⟩
    · rintro ⟨as, has, -, rfl⟩
      rw [List.map_eq_nil_iff.mp has.symm]
      rfl
  | cons batch rest ih =>
    rw [admitted_cons, List.flatten_cons]
    constructor
    · intro h
      obtain ⟨first, hfirst, h⟩ := bind_eq_ok_iff.mp h
      obtain ⟨others, hothers, h⟩ := bind_eq_ok_iff.mp h
      cases h
      obtain ⟨rfl, hsound⟩ := soundBatch_eq_ok_iff.mp hfirst
      obtain ⟨as, has, hall, rfl⟩ := ih.mp hothers
      exact ⟨first ++ as, by rw [has, List.map_append], List.forall_mem_append.mpr ⟨hsound, hall⟩,
        List.map_append.symm⟩
    · rintro ⟨as, has, hall, rfl⟩
      obtain ⟨first, others, rfl, hfirst, hothers⟩ := List.append_eq_map_iff.mp has
      obtain ⟨hsound, hrest⟩ := List.forall_mem_append.mp hall
      rw [soundBatch_eq_ok_iff.mpr ⟨hfirst.symm, hsound⟩, ih.mpr ⟨others, hothers.symm, hrest, rfl⟩]
      exact congrArg Except.ok List.map_append.symm

/-! ### Steps that add certain statements -/

/-- **A step adds certain statements**, or it fails. It draws on no supply. -/
def Adds (s : Step Unit) : Except Failure (List (ChangeType × Statement)) → Prop
  | .error f => ∀ w, ∃ b, s.run.run w = (.error f, { w with buffer := b })
  | .ok qs => ∀ w, s.run.run w =
      (.ok (), { w with buffer := w.buffer.add (qs.map fun q => w.buffer.record q.1 q.2) })

theorem adds_nothing : Adds (pure ()) (.ok []) := fun _ => rfl

/-- **Steps in a row** add what each of them adds. -/
theorem Adds.bind {s : Step Unit} {f : Unit → Step Unit}
    {x y : Except Failure (List (ChangeType × Statement))} (hs : Adds s x) (hf : Adds (f ()) y) :
    Adds (s >>= f) (do let qs ← x; let more ← y; return qs ++ more) := by
  cases x with
  | error fault =>
    intro w
    obtain ⟨b, hrun⟩ := hs w
    rw [Step.run_bind, hrun]
    exact ⟨b, rfl⟩
  | ok qs =>
    have hfirst : ∀ w, (s >>= f).run.run w = (f ()).run.run
        { w with buffer := w.buffer.add (qs.map fun q => w.buffer.record q.1 q.2) } := fun w => by
      rw [Step.run_bind, hs w]
    cases y with
    | error fault =>
      intro w
      obtain ⟨b, hrun⟩ := hf _
      exact ⟨b, (hfirst w).trans hrun⟩
    | ok more =>
      intro w
      refine (hfirst w).trans ((hf _).trans ?_)
      simp only [Buffer.record, Buffer.request_add, Buffer.requestTimestamp_add, List.map_append,
        Buffer.add_append]

/-- **What is found wrong** is the first statement that is not valid. -/
theorem checkStatements_eq_error_iff {sts : List Statement} {e : Failure} :
    checkStatements sts = .error e ↔ ∃ before st after x, sts = before ++ st :: after ∧
      (∀ v ∈ before, v.invalid? = none) ∧ st.invalid? = some x ∧ e = .invalidIri x := by
  constructor
  · intro h
    induction sts with
    | nil => cases h
    | cons st sts ih =>
      rw [checkStatements] at h
      cases hst : st.invalid? with
      | some x =>
        rw [hst] at h
        cases h
        exact ⟨[], st, sts, x, rfl, fun _ hv => (by cases hv), hst, rfl⟩
      | none =>
        rw [hst] at h
        obtain ⟨before, st', after, x, rfl, hbefore, hx, rfl⟩ := ih h
        exact ⟨st :: before, st', after, x, rfl, List.forall_mem_cons.mpr ⟨hst, hbefore⟩, hx, rfl⟩
  · rintro ⟨before, st, after, x, rfl, hbefore, hx, rfl⟩
    induction before with
    | nil =>
      show checkStatements (st :: after) = _
      rw [checkStatements, hx]
    | cons v before ih =>
      obtain ⟨hv, hbefore⟩ := List.forall_mem_cons.mp hbefore
      show checkStatements (v :: (before ++ st :: after)) = _
      rw [checkStatements, hv]
      exact ih hbefore

theorem mapM_sound_statements (sts : List Statement) :
    sts.mapM (sound Statement.invalid?) = (checkStatements sts).map fun _ => sts := by
  induction sts with
  | nil => rfl
  | cons st sts ih =>
    rw [List.mapM_cons, checkStatements, ih, sound]
    cases st.invalid? with
    | some e => rfl
    | none => cases checkStatements sts <;> rfl

theorem adds_addStatements (t : ChangeType) (sts : List Statement) :
    Adds (addStatements t sts)
      ((sts.mapM (sound Statement.invalid?)).map (List.map (t, ·))) := by
  have hrun := Step.run_addStatements t sts
  rw [mapM_sound_statements]
  cases hcheck : checkStatements sts with
  | error e =>
    intro w
    rw [hrun, hcheck]
    exact ⟨w.buffer, rfl⟩
  | ok u =>
    intro w
    rw [hrun, hcheck, List.map_map]
    rfl

/-- **Batches** add what is admitted of them. -/
theorem adds_addBatches (t : ChangeType) (batches : List StatementStream) :
    Adds (addBatches t batches) (admitted Statement.invalid? t batches) := by
  induction batches with
  | nil => exact adds_nothing
  | cons batch rest ih =>
    rw [admitted_cons]
    unfold addBatches soundBatch batchStatements
    cases batch.mapM id with
    | error e => exact fun w => ⟨w.buffer, by rw [Step.run_bind, Step.run_ofExcept]⟩
    | ok sts =>
      have hadds := (adds_addStatements t sts).bind (f := fun _ => addBatches t rest) ih
      show Adds (do addStatements t sts; addBatches t rest) (do
        let first ← sts.mapM (sound Statement.invalid?)
        let others ← admitted Statement.invalid? t rest
        return first.map (t, ·) ++ others)
      cases hsound : sts.mapM (sound Statement.invalid?) with
      | error e =>
        rw [hsound] at hadds
        exact hadds
      | ok sts' =>
        rw [hsound] at hadds
        exact hadds

theorem flatten_chunks {A : Type} (size : Nat) : ∀ (fuel : Nat) (xs : List A), xs.length ≤ fuel →
    (chunks size fuel xs).flatten = xs
  | 0, xs, h => by
    rw [List.length_eq_zero_iff.mp (Nat.le_zero.mp h)]
    rfl
  | _ + 1, [], _ => rfl
  | fuel + 1, x :: xs, h => by
    have hlength : ((x :: xs).drop (max size 1)).length ≤ fuel := by
      rw [List.length_drop, List.length_cons] at *
      omega
    rw [chunks, List.flatten_cons, flatten_chunks size fuel _ hlength, List.take_append_drop]

theorem chunks_map {A B : Type} (g : A → B) (size : Nat) : ∀ (fuel : Nat) (xs : List A),
    chunks size fuel (xs.map g) = (chunks size fuel xs).map (List.map g)
  | 0, _ => rfl
  | _ + 1, [] => rfl
  | fuel + 1, x :: xs => by
    rw [List.map_cons, chunks, chunks, List.map_cons, ← List.map_cons, ← List.map_take,
      ← List.map_drop, chunks_map g size fuel]

/-! ### What a step brings -/

/-- A blank node, with the scope of the translation that comes to it. -/
abbrev Scoped := Nat × Blank

/-- A numbering with that of one more translation. -/
def joined (N : Numbering Scoped) (scope : Nat) (M : Numbering Blank) : Numbering Scoped :=
  fun x => if x.1 = scope then M x.2 else N x

/-- A draft that is added with a type. -/
structure Item where
  type : ChangeType
  scope : Nat
  draft : Draft

/-- The items of typed drafts from one translation. -/
def itemsOf (scope : Nat) (qs : List (ChangeType × Draft)) : List Item :=
  qs.map fun q => ⟨q.1, scope, q.2⟩

/-- The statement of an item. -/
def Item.statement (ν : Scoped → String) (x : Item) : Statement :=
  x.draft.statement fun b => ν (x.scope, b)

/-- The record of an item in a buffer. -/
def Item.record (b : Buffer) (ν : Scoped → String) (x : Item) : Record :=
  b.record x.type (x.statement ν)

/-- What a step is to bring: certain items in a certain order, unless it fails. -/
abbrev Plan := Except Failure (List Item)

/-- How a step ends that brings certain items, or fails: the buffer has their statements as well,
under names that agree with a numbering, and the numbering has numbers for all their blank nodes. -/
def Ends (N : Numbering Scoped) (b : Buffer) (outcome : Except Failure Unit × Workspace) :
    Plan → Prop
  | .error f => outcome.1 = .error f
  | .ok items => outcome.1 = .ok () ∧
      (∀ x ∈ items, ∀ b ∈ x.draft.blanks, ∃ n, N (x.scope, b) = some n) ∧
      ∀ ν, Agrees ν N → (∀ x, ∃ n, ν x = Skolem.minted n) →
        outcome.2.buffer = b.add (items.map (Item.record b ν))

/-- **A step brings certain items**, or it fails, whatever the supply. It starts with scopes from
some number on unused, and leaves those from another number on so. -/
def Brings (low : Nat) (r : Request) (i j : Nat) (s : Step Unit) (plan : Plan) : Prop :=
  ∀ (N : Numbering Scoped) (w : Workspace), w.buffer.request = r → Within low N w.supply →
    (∀ x, i ≤ x.1 → N x = none) →
    ∃ N' : Numbering Scoped, (∀ x n, N x = some n → N' x = some n) ∧
      (∀ x, j ≤ x.1 → N' x = none) ∧ Within low N' (s.run.run w).2.supply ∧
      Ends N' w.buffer (s.run.run w) plan

section Brings
variable {low : Nat} {r : Request} {i j k : Nat} {s : Step Unit}

theorem exists_minted_names {N : Numbering Scoped} {next : Nat} (h : Within low N next) :
    ∃ ν : Scoped → String, Agrees ν N ∧ ∀ x, ∃ n, ν x = Skolem.minted n := by
  obtain ⟨m, hm⟩ := h.exists_minting
  exact ⟨m.iri, Minting.agrees hm, fun x => ⟨m.number x, rfl⟩⟩

theorem brings_nothing (h : i ≤ j) : Brings low r i j (pure ()) (.ok []) := by
  intro N w _ hwithin hunused
  exact ⟨N, fun _ _ hx => hx, fun x hx => hunused x (h.trans hx), hwithin, rfl,
    fun _ hx => (by cases hx), fun _ _ _ => rfl⟩

theorem brings_failure (h : i ≤ j) {e : Failure}
    (hs : ∀ w, w.buffer.request = r →
      ∃ asked, s.run.run w = (.error e, { w with asked := asked })) :
    Brings low r i j s (.error e) := by
  intro N w hw hwithin hunused
  obtain ⟨asked, hrun⟩ := hs w hw
  rw [hrun]
  exact ⟨N, fun _ _ hx => hx, fun x hx => hunused x (h.trans hx), hwithin, rfl⟩

/-- A step brings what another one does to which it comes down, once queries have been put. -/
theorem Brings.of_run {s' : Step Unit} {plan : Plan} (h : Brings low r i j s' plan)
    (hs : ∀ w, w.buffer.request = r →
      ∃ asked, s.run.run w = s'.run.run { w with asked := asked }) :
    Brings low r i j s plan := by
  intro N w hw hwithin hunused
  obtain ⟨asked, hrun⟩ := hs w hw
  rw [hrun]
  exact h N { w with asked := asked } hw hwithin hunused

/-- **Steps in a row** bring what each of them brings. -/
theorem Brings.bind {f : Unit → Step Unit} {p q : Plan} (hs : Brings low r i j s p)
    (hf : Brings low r j k (f ()) q) (hjk : j ≤ k) :
    Brings low r i k (s >>= f) (do let xs ← p; let ys ← q; return xs ++ ys) := by
  intro N w hw hwithin hunused
  obtain ⟨N₁, hkept₁, hunused₁, hwithin₁, hends₁⟩ := hs N w hw hwithin hunused
  rcases hrun : s.run.run w with ⟨outcome, w₁⟩
  rw [hrun] at hwithin₁ hends₁
  rw [Step.run_bind, hrun]
  cases p with
  | error fault =>
    cases (show outcome = .error fault from hends₁)
    exact ⟨N₁, hkept₁, fun x hx => hunused₁ x (hjk.trans hx), hwithin₁, rfl⟩
  | ok xs =>
    obtain ⟨hok, hnumbered₁, hbuffer₁⟩ := hends₁
    cases (show outcome = .ok () from hok)
    obtain ⟨ν₁, hν₁, hminted₁⟩ := exists_minted_names hwithin₁
    have hw₁ : w₁.buffer.request = r := by rw [hbuffer₁ ν₁ hν₁ hminted₁, Buffer.request_add, hw]
    obtain ⟨N₂, hkept₂, hunused₂, hwithin₂, hends₂⟩ := hf N₁ w₁ hw₁ hwithin₁ hunused₁
    refine ⟨N₂, fun x n hx => hkept₂ x n (hkept₁ x n hx), hunused₂, hwithin₂, ?_⟩
    cases q with
    | error fault => exact hends₂
    | ok ys =>
      obtain ⟨hok, hnumbered₂, hbuffer₂⟩ := hends₂
      refine ⟨hok, List.forall_mem_append.mpr ⟨fun x hx b hb => ?_, hnumbered₂⟩,
        fun ν hν hminted => ?_⟩
      · obtain ⟨n, hn⟩ := hnumbered₁ x hx b hb
        exact ⟨n, hkept₂ _ n hn⟩
      · have hν' : Agrees ν N₁ := fun x n hx => hν x n (hkept₂ x n hx)
        have hrecord : w₁.buffer.record = w.buffer.record := by
          rw [hbuffer₁ ν hν' hminted, Buffer.record_add]
        dsimp only
        rw [hbuffer₂ ν hν hminted]
        unfold Item.record
        rw [hrecord, hbuffer₁ ν hν' hminted, List.map_append, Buffer.add_append]
        rfl

theorem within_joined {N : Numbering Scoped} {M : Numbering Blank} {next next' : Nat}
    (h : Within low N next) (hM : Within next M next') : Within low (joined N i M) next' := by
  have hlow := h.start
  have hnext := hM.start
  have hcases : ∀ x n, joined N i M x = some n →
      (x.1 = i ∧ M x.2 = some n ∧ next ≤ n ∧ n < next') ∨
        (x.1 ≠ i ∧ N x = some n ∧ low ≤ n ∧ n < next) := by
    intro x n hx
    unfold joined at hx
    split at hx
    · exact Or.inl ⟨‹_›, hx, hM.bounds _ _ hx⟩
    · exact Or.inr ⟨‹_›, hx, h.bounds _ _ hx⟩
  refine ⟨hlow.trans hnext, fun x n hx => ?_, fun x y n hx hy => ?_⟩
  · rcases hcases x n hx with ⟨-, -, hle, hlt⟩ | ⟨-, -, hle, hlt⟩ <;> omega
  · -- what is told by one of them has other numbers than what is told by the other
    rcases hcases x n hx with ⟨hxi, hxM, hxle, -⟩ | ⟨-, hxN, -, hxlt⟩ <;>
      rcases hcases y n hy with ⟨hyi, hyM, hyle, -⟩ | ⟨-, hyN, -, hylt⟩
    · exact Prod.ext (hxi.trans hyi.symm) (hM.injective _ _ _ hxM hyM)
    · omega
    · omega
    · exact h.injective _ _ _ hxN hyN

theorem joined_of_some {N : Numbering Scoped} (hunused : ∀ x, i ≤ x.1 → N x = none)
    (M : Numbering Blank) {x : Scoped} {n : Nat} (hx : N x = some n) :
    joined N i M x = some n := by
  have hne : x.1 ≠ i := fun h => by
    rw [hunused x h.ge] at hx
    cases hx
  rw [joined, if_neg hne, hx]

theorem joined_unused {N : Numbering Scoped} (hunused : ∀ x, i ≤ x.1 → N x = none)
    (M : Numbering Blank) {x : Scoped} (hx : i + 1 ≤ x.1) : joined N i M x = none := by
  rw [joined, if_neg (by omega), hunused x (by omega)]

/-- **What is loaded or translated and then added** is told by typed drafts: from every supply, what
is loaded is added as the statements of these, under all names that it mints. -/
def Told {A : Type} (load : Nat → Except Failure A × Nat) (f : A → Step Unit)
    (plan : Except Failure (List (ChangeType × Draft))) : Prop :=
  ∀ next, ∃ M : Numbering Blank, Within next M (load next).2 ∧
    (∀ α, Agrees α M → (∀ b, ∃ n, α b = Skolem.minted n) → match (load next).1 with
      | .ok a => Adds (f a) (plan.map (List.map fun q => (q.1, q.2.statement α)))
      | .error e => plan = .error e) ∧
    ∀ qs, plan = .ok qs → ∀ q ∈ qs, ∀ b ∈ q.2.blanks, ∃ n, M b = some n

/-- **A step that draws on the supply** brings the drafts that tell what it loads. -/
theorem Told.brings {A : Type} {load : Nat → Except Failure A × Nat} {f : A → Step Unit}
    {plan : Except Failure (List (ChangeType × Draft))} (h : Told load f plan) :
    Brings low r i (i + 1) (Step.drawing load >>= f) (plan.map (itemsOf i)) := by
  intro N w _ hwithin hunused
  obtain ⟨M, hM, hadds, hnumbered⟩ := h w.supply
  have hself : ∀ b, joined N i M (i, b) = M b := fun b => if_pos rfl
  have hwithin' := within_joined (i := i) hwithin hM
  have hnamed : ∀ ν, Agrees ν (joined N i M) → Agrees (fun b => ν (i, b)) M := fun ν hν b n hb =>
    hν (i, b) n ((hself b).trans hb)
  refine ⟨joined N i M, fun _ _ => joined_of_some hunused M, fun _ => joined_unused hunused M, ?_⟩
  obtain ⟨ν₀, hν₀, hminted₀⟩ := exists_minted_names hwithin'
  have hadds₀ := hadds _ (hnamed ν₀ hν₀) fun b => hminted₀ (i, b)
  rw [Step.run_bind, Step.run_drawing]
  cases hload : (load w.supply).1 with
  | error e =>
    rw [hload] at hadds₀
    rw [hadds₀]
    exact ⟨hwithin', rfl⟩
  | ok a =>
    rw [hload] at hadds hadds₀
    dsimp only at hadds hadds₀ ⊢
    cases plan with
    | error fault =>
      obtain ⟨b, hrun⟩ := hadds₀ { w with supply := (load w.supply).2 }
      rw [hrun]
      exact ⟨hwithin', rfl⟩
    | ok qs =>
      have hrun := hadds₀ { w with supply := (load w.supply).2 }
      rw [hrun]
      refine ⟨hwithin', rfl, fun x hx b hb => ?_, fun ν hν hminted => ?_⟩
      · obtain ⟨q, hq, rfl⟩ := List.mem_map.mp hx
        obtain ⟨n, hn⟩ := hnumbered qs rfl q hq b hb
        exact ⟨n, (hself b).trans hn⟩
      · -- the run is one, whichever names its result is told under
        have hsame := hrun.symm.trans (hadds _ (hnamed ν hν) (fun b => hminted (i, b)) _)
        refine (congrArg (fun o => o.2.buffer) hsame).trans ?_
        show w.buffer.add _ = w.buffer.add _
        rw [List.map_map, itemsOf, List.map_map]
        rfl

end Brings

/-! ### References -/

theorem exists_brings_addReference (loaders : List Loader) (limits : Limits) (t : ChangeType)
    (hl : ∀ l ∈ loaders, l.Drafted) (ref : Reference) (i : Nat) :
    ∃ plan, ∀ low r, Brings low r i (i + 1) (addReference loaders limits t ref) plan := by
  obtain ⟨d, hd⟩ := exists_loads_loadReference hl ref
  suffices htold : ∃ plan, Told (loadReference loaders ref)
      (fun stream => addBatches t (chunks limits.batchSize stream.length stream)) plan by
    obtain ⟨plan, hplan⟩ := htold
    exact ⟨_, fun low r => hplan.brings⟩
  cases d with
  | error e =>
    refine ⟨.error e, fun next => ?_⟩
    obtain ⟨M, hM, hloads, -⟩ := hd next
    refine ⟨M, hM, fun α hα _ => ?_, fun _ h => by cases h⟩
    rw [hloads α hα]
    rfl
  | ok ds =>
    refine ⟨admitted Draft.fault? t (chunks limits.batchSize ds.length ds), fun next => ?_⟩
    obtain ⟨M, hM, hloads, hnumbered⟩ := hd next
    refine ⟨M, hM, fun α hα hminted => ?_, fun qs hqs q hq b hb => ?_⟩
    · have hmap := admitted_map (t := t) (fun d : Draft => d.invalid?_statement hminted)
        (chunks limits.batchSize ds.length ds)
      rw [← chunks_map] at hmap
      rw [hloads α hα, ← hmap]
      show Adds (addBatches t (chunks limits.batchSize (ds.map _).length (ds.map _))) _
      rw [List.length_map]
      exact adds_addBatches t _
    · obtain ⟨drafts, hdrafts, -, rfl⟩ := admitted_eq_ok_iff.mp hqs
      rw [flatten_chunks _ _ _ (Nat.le_refl _)] at hdrafts
      obtain ⟨d, hd, rfl⟩ := List.mem_map.mp hq
      exact hnumbered ds rfl d (hdrafts ▸ List.mem_map_of_mem hd) b hb

/-- **What references bring** is told by their drafts, whatever the supply. -/
theorem exists_brings_addReferences (loaders : List Loader) (limits : Limits) (t : ChangeType)
    (refs : List Reference) (hl : refs ≠ [] → ∀ l ∈ loaders, l.Drafted) (i : Nat) :
    ∃ plan, ∀ low r,
      Brings low r i (i + refs.length) (addReferences loaders limits t refs) plan := by
  induction refs generalizing i with
  | nil => exact ⟨.ok [], fun _ _ => brings_nothing (Nat.le_refl i)⟩
  | cons ref refs ih =>
    have hl := hl (List.cons_ne_nil ref refs)
    obtain ⟨p, hp⟩ := exists_brings_addReference loaders limits t hl ref i
    obtain ⟨q, hq⟩ := ih (fun _ => hl) (i + 1)
    rw [Nat.add_right_comm] at hq
    exact ⟨_, fun low r => (hp low r).bind (hq low r) (by rw [List.length_cons]; omega)⟩

end Materialize

end GraphLedger
