import DarkGravity.Proofs.Replay.ChainFile
import DarkGravity.Proofs.Replay.Run

/-!
# What a report says

A report describes a chain without reference to a run: which headers pass their tests, each on the
block before it and the store of exactly the blocks up to there, and which header fails first and
why. A replay gives a report exactly when the entries of its file name headers and the report
describes these (`replay_eq_ok_iff_describes`).
-/

namespace DarkGravity

/-- The report describes the chain of these headers, the first of them at `start`. -/
structure Report.Describes (report : Report) (v : Verifier) (checkWork : Bool) (start : UInt64)
    (headers : List Header) : Prop where
  /-- Each counted header passes every test. -/
  accepted : ∀ i < report.verified, AcceptedAfter v checkWork start headers i
  /-- There is no rejection exactly when the count reaches the end of the chain. -/
  complete : report.rejection = none ↔ report.verified = headers.length - 1
  /-- A rejection is that of the header after the counted ones. -/
  rejected : ∀ rejection, report.rejection = some rejection →
    ∃ parent next, Adjacent headers report.verified parent next ∧
      rejection.height = start + UInt64.ofNat (report.verified + 1) ∧
      rejection.hash = next.hash ∧
      Rejects v checkWork (Block.ofHeader parent (start + UInt64.ofNat report.verified))
        (storeUpTo start headers report.verified) next rejection.reason

section

variable {v : Verifier} {checkWork : Bool} {start : UInt64} {headers : List Header}
  {report : Report}

/-- The report of a chain without headers is the empty one. -/
theorem describes_nil_iff : report.Describes v checkWork start [] ↔ report = Report.empty := by
  constructor
  · rintro ⟨-, hcomplete, hrejected⟩
    obtain ⟨verified, rejection⟩ := report
    cases rejection with
    | none =>
      obtain rfl : verified = 0 := hcomplete.mp rfl
      rfl
    | some rejection =>
      obtain ⟨parent, next, hadjacent, -⟩ := hrejected rejection rfl
      exact absurd hadjacent.lt_length (Nat.not_lt_zero _)
  · rintro rfl
    refine ⟨?_, ?_, ?_⟩
    · intro i hlt
      exact absurd hlt (Nat.not_lt_zero i)
    · exact iff_of_true rfl rfl
    · intro rejection hsome
      cases hsome

/-- A report describes a chain that has an anchor exactly when a run can end in it after its
counted headers. -/
theorem describes_iff_endsAfter (hne : headers ≠ []) :
    report.Describes v checkWork start headers ↔
      (∀ i < report.verified, AcceptedAfter v checkWork start headers i) ∧
        EndsAfter v checkWork start headers report.verified (.ok report) := by
  have hlength : 0 < headers.length := List.length_pos_of_ne_nil hne
  obtain ⟨verified, rejection⟩ := report
  constructor
  · rintro ⟨haccepted, hcomplete, hrejected⟩
    refine ⟨haccepted, ?_⟩
    cases rejection with
    | none =>
      have hverified : verified = headers.length - 1 := hcomplete.mp rfl
      refine .finished ?_
      dsimp only
      omega
    | some rejection =>
      obtain ⟨height, hash, reason⟩ := rejection
      obtain ⟨parent, next, hadjacent, hheight, hhash, hrejects⟩ := hrejected _ rfl
      dsimp only at hheight hhash hrejects hadjacent
      subst hheight hhash
      exact .rejected hadjacent hrejects
  · rintro ⟨haccepted, hends⟩
    dsimp only at haccepted hends
    cases hends with
    | finished hend =>
      refine ⟨haccepted, ?_, ?_⟩
      · refine iff_of_true rfl ?_
        dsimp only
        omega
      · intro rejection hsome
        cases hsome
    | rejected hadjacent hrejects =>
      refine ⟨haccepted, ?_, ?_⟩
      · have hinside := hadjacent.lt_length
        refine iff_of_false (Option.some_ne_none _) ?_
        dsimp only
        omega
      · intro rejection hsome
        obtain rfl := Option.some.inj hsome
        exact ⟨_, _, hadjacent, rfl, rfl, hrejects⟩

/-- A replay of headers gives the report that describes them, or none. -/
theorem outcome_replay_eq_ok_iff (backend : Backend) :
    (replay v backend checkWork start headers).outcome = .ok report ↔
      report.Describes v checkWork start headers := by
  by_cases hne : headers = []
  · subst hne
    rw [outcome_replay_nil, describes_nil_iff, Except.ok.injEq]
    exact eq_comm
  · rw [describes_iff_endsAfter hne]
    obtain ⟨n, haccepted, hends⟩ := replay_cases v checkWork start backend hne
    constructor
    · intro hok
      rw [hok] at hends
      have hcount : report.verified = n := by
        cases hends <;> rfl
      exact ⟨hcount ▸ haccepted, hcount ▸ hends⟩
    · rintro ⟨haccepted', hends'⟩
      have hcount := hends.count_unique haccepted haccepted' hends'
      subst hcount
      exact hends.unique hends'

/-- The replay of a file whose entries name headers gives the report that describes these. -/
theorem ChainFile.outcome_replay_eq_ok_iff {c : ChainFile} (backend : Backend)
    (hnames : List.Forall₂ Entry.Names c.headers headers) :
    (c.replay v backend checkWork).outcome = .ok report ↔
      report.Describes v checkWork c.startHeight headers := by
  rw [outcome_replay_of_named hnames, Except.mapError_eq_ok_iff,
    DarkGravity.outcome_replay_eq_ok_iff]

end

/-- A replay of a chain file gives exactly the report that describes the headers named by its
entries. With an entry that has a text that names no hash it gives none, whatever else the file
holds. -/
theorem ChainFile.replay_eq_ok_iff_describes (v : Verifier) (backend : Backend)
    (checkWork : Bool) (c : ChainFile) :
    (∀ report, (c.replay v backend checkWork).outcome = .ok report ↔
      ∃ headers, List.Forall₂ Entry.Names c.headers headers ∧
        report.Describes v checkWork c.startHeight headers) ∧
    (∀ e ∈ c.headers, ∀ text, text = e.previous ∨ text = e.merkleRoot →
      (∀ hash, Hash.ofDisplay text ≠ .ok hash) →
      ∃ fault, (c.replay v backend checkWork).outcome = .error (.badEntry fault)) := by
  constructor
  · intro report
    constructor
    · intro hok
      cases hheaders : c.headers.mapM Entry.header with
      | error fault =>
        rw [replay, hheaders] at hok
        cases hok
      | ok headers =>
        have hnames : List.Forall₂ Entry.Names c.headers headers :=
          Except.mapM_eq_ok_iff.mp hheaders
        exact ⟨headers, hnames, (outcome_replay_eq_ok_iff backend hnames).mp hok⟩
    · rintro ⟨headers, hnames, hdescribes⟩
      exact (outcome_replay_eq_ok_iff backend hnames).mpr hdescribes
  · intro e hmem text htext hnone
    obtain ⟨fault, hfault⟩ := Entry.exists_fault_of_not_hash htext hnone
    exact outcome_replay_of_not_named hmem hfault v backend checkWork

end DarkGravity
