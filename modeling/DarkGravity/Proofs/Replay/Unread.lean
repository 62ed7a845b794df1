import DarkGravity.Proofs.Replay.Ceiling

/-!
# Words that no check reads

There are two ways for a word without a target to pass its check: before the fork a relaxed network
lets a candidate claim what it likes, and inside a period the interval rule compares words and not
targets (`check_eq_ok_iff_unread`). If the work of such a header is to be tested, the replay fails,
and the headers counted so far are in no report. Every other replay of headers ends in a report
(`replay_eq_error_iff_unread`).
-/

namespace DarkGravity

/-! ## Checks -/

/-- The check of the candidate passes without a look at the target of its word. -/
def Verifier.Unread (v : Verifier) (previous : Block) (candidate : Header) : Prop :=
  relaxation? v.params previous candidate = some .beforeFork ∨
    relaxation? v.params previous candidate = none ∧ v.params.rule = .interval ∧
      isTransition v.params.periodLength previous.height = false ∧
      candidate.bits = previous.bits

/-- A word without a target passes exactly where it is not read. -/
theorem Verifier.check_eq_ok_iff_unread {v : Verifier} {previous : Block} {candidate : Header}
    {lookup : Lookup} {source : Compact.Error}
    (hdecode : Compact.decode candidate.bits = .error source) :
    (v.check previous candidate lookup).outcome = .ok () ↔ v.Unread previous candidate := by
  have hno : ∀ target, Compact.decode candidate.bits ≠ .ok target := by simp [hdecode]
  rw [outcome_check, checkHeader, Unread]
  cases relaxation? v.params previous candidate with
  | some relaxation =>
    cases relaxation with
    | beforeFork => exact iff_of_true rfl (.inl rfl)
    | late =>
      refine iff_of_false ?_ (by simp)
      intro hlate
      obtain ⟨target, htarget, -⟩ := checkLate_eq_ok_iff.mp hlate
      exact hno target htarget
  | none =>
    rw [checkRule]
    cases hrule : v.params.rule with
    | darkGravityWave =>
      refine iff_of_false ?_ (by simp)
      intro hwave
      obtain ⟨required, -, hclaim⟩ := checkWave_eq_ok_iff.mp hwave
      exact hno _ hclaim
    | interval =>
      cases hperiod : isTransition v.params.periodLength previous.height with
      | false =>
        rw [checkInterval_eq_ok_iff_of_inside hperiod]
        simp
      | true =>
        refine iff_of_false ?_ (by simp)
        intro htransition
        obtain ⟨target, hle, hword⟩ :=
          encode_of_checkInterval v.decode_ceilingBits hperiod htransition
        obtain ⟨rounded, hrounded, -⟩ := Compact.within_encode v.ceiling_lt hle
        exact hno rounded (hword ▸ hrounded)

/-- Where claims are enforced, Dark Gravity Wave reads every word. -/
theorem Verifier.not_unread_of_enforces {v : Verifier} {previous : Block} {candidate : Header}
    (hrule : v.params.rule = .darkGravityWave) (henforced : v.Enforces previous.height) :
    ¬ v.Unread previous candidate := by
  rintro (hfork | ⟨-, hinterval, -⟩)
  · exact relaxation?_ne_beforeFork henforced hfork
  · rw [hrule] at hinterval
    cases hinterval

/-! ## Replays -/

/-- The work of a header cannot be tested exactly when its word has no target. -/
theorem Header.meetsTarget_eq_error_iff {h : Header} {source : Compact.Error} :
    h.meetsTarget = .error source ↔ Compact.decode h.bits = .error source := by
  cases hdecode : Compact.decode h.bits with
  | ok target => simp [meetsTarget_of_decode hdecode]
  | error source' => simp [meetsTarget, Hash.meetsTarget, hdecode, Except.map]

/-- After `n` accepted headers comes one that is connected and whose word has no target, but is not
read by its check. -/
structure UnreadAfter (v : Verifier) (checkWork : Bool) (start : UInt64) (headers : List Header)
    (n : ℕ) (source : Compact.Error) : Prop where
  accepted : ∀ i < n, AcceptedAfter v checkWork start headers i
  unread : ∃ parent next, Adjacent headers n parent next ∧ next.previous = parent.hash ∧
    Compact.decode next.bits = .error source ∧
    v.Unread (Block.ofHeader parent (start + UInt64.ofNat n)) next

section

variable {v : Verifier} {checkWork : Bool} {start : UInt64} {headers : List Header} {n : ℕ}
  {source : Compact.Error}

/-- A run that tests work ends with an error exactly at a header whose word has no target and is not
read. -/
theorem endsAfter_error_iff (haccepted : ∀ i < n, AcceptedAfter v checkWork start headers i) :
    EndsAfter v checkWork start headers n (.error source) ↔
      checkWork = true ∧ UnreadAfter v checkWork start headers n source := by
  constructor
  · intro hends
    cases hends with
    | @stuck parent next _ hadjacent hstuck =>
      have hdecode := Header.meetsTarget_eq_error_iff.mp hstuck.work
      exact ⟨hstuck.checked, haccepted, parent, next, hadjacent, hstuck.connected, hdecode,
        (Verifier.check_eq_ok_iff_unread hdecode).mp hstuck.difficulty⟩
  · rintro ⟨hchecked, -, parent, next, hadjacent, hconnected, hdecode, hunread⟩
    exact .stuck hadjacent ⟨hconnected, (Verifier.check_eq_ok_iff_unread hdecode).mpr hunread,
      hchecked, Header.meetsTarget_eq_error_iff.mpr hdecode⟩

/-- A replay of headers fails exactly where work is tested and a run comes to a word without a
target that is not read. -/
theorem outcome_replay_eq_error_iff (backend : Backend) :
    (replay v backend checkWork start headers).outcome = .error source ↔
      checkWork = true ∧ ∃ n, UnreadAfter v checkWork start headers n source := by
  by_cases hne : headers = []
  · subst hne
    rw [outcome_replay_nil]
    refine iff_of_false (by simp) ?_
    rintro ⟨-, n, -, parent, next, hadjacent, -⟩
    exact absurd hadjacent.lt_length (Nat.not_lt_zero _)
  obtain ⟨n, haccepted, hends⟩ := replay_cases v checkWork start backend hne
  constructor
  · intro herror
    rw [herror, endsAfter_error_iff haccepted] at hends
    exact ⟨hends.1, n, hends.2⟩
  · rintro ⟨hchecked, m, hunread⟩
    have hends' := (endsAfter_error_iff hunread.accepted).mpr ⟨hchecked, hunread⟩
    obtain rfl := hends.count_unique haccepted hunread.accepted hends'
    exact hends.unique hends'

end

/-- A replay of a file whose entries name headers ends in a report that describes them, unless work
is tested and after some accepted headers comes one whose word has no target and is not read. Then
the fault of that word is all that the replay gives. Dark Gravity Wave on a network that relaxes
nothing reads every word. -/
theorem ChainFile.replay_eq_error_iff_unread {v : Verifier} {c : ChainFile} {headers : List Header}
    (backend : Backend) (checkWork : Bool)
    (hnames : List.Forall₂ Entry.Names c.headers headers) :
    (∀ fault, (c.replay v backend checkWork).outcome = .error fault ↔
      checkWork = true ∧ ∃ n source, fault = .badClaim source ∧
        UnreadAfter v checkWork c.startHeight headers n source) ∧
    ((∃ report, (c.replay v backend checkWork).outcome = .ok report ∧
        report.Describes v checkWork c.startHeight headers) ↔
      ¬ (checkWork = true ∧ ∃ n source, UnreadAfter v checkWork c.startHeight headers n source)) ∧
    (v.params.rule = .darkGravityWave → v.params.relaxed = false →
      ∃ report, (c.replay v backend checkWork).outcome = .ok report) := by
  have herror : ∀ fault, (c.replay v backend checkWork).outcome = .error fault ↔
      checkWork = true ∧ ∃ n source, fault = .badClaim source ∧
        UnreadAfter v checkWork c.startHeight headers n source := by
    intro fault
    rw [outcome_replay_of_named hnames, Except.mapError_eq_error_iff]
    constructor
    · rintro ⟨source, hfault, rfl⟩
      obtain ⟨hchecked, n, hunread⟩ := (outcome_replay_eq_error_iff backend).mp hfault
      exact ⟨hchecked, n, source, rfl, hunread⟩
    · rintro ⟨hchecked, n, source, rfl, hunread⟩
      exact ⟨source, (outcome_replay_eq_error_iff backend).mpr ⟨hchecked, n, hunread⟩, rfl⟩
  have hreport : (¬ ∃ fault, (c.replay v backend checkWork).outcome = .error fault) →
      ∃ report, (c.replay v backend checkWork).outcome = .ok report := by
    intro hno
    cases houtcome : (c.replay v backend checkWork).outcome with
    | ok report => exact ⟨report, rfl⟩
    | error fault => exact absurd ⟨fault, houtcome⟩ hno
  refine ⟨herror, ⟨?_, ?_⟩, ?_⟩
  · rintro ⟨report, hok, -⟩ ⟨hchecked, n, source, hunread⟩
    have hfault := (herror _).mpr ⟨hchecked, n, source, rfl, hunread⟩
    rw [hok] at hfault
    cases hfault
  · intro hread
    obtain ⟨report, hok⟩ := hreport fun ⟨fault, hfault⟩ => by
      obtain ⟨hchecked, n, source, -, hunread⟩ := (herror fault).mp hfault
      exact hread ⟨hchecked, n, source, hunread⟩
    exact ⟨report, hok, (outcome_replay_eq_ok_iff backend hnames).mp hok⟩
  · intro hrule hrelaxed
    refine hreport fun ⟨fault, hfault⟩ => ?_
    obtain ⟨-, n, source, -, hunread⟩ := (herror fault).mp hfault
    obtain ⟨parent, next, -, -, -, hword⟩ := hunread.unread
    exact Verifier.not_unread_of_enforces hrule (.inl hrelaxed) hword

/-- Inside a period the negative word of an anchor is handed on, and the replay ends in its fault
when it comes to the work. -/
theorem ChainFile.replay_eq_error_iff_unread_of_interval :
    let params : Params := { Params.mainnet with rule := .interval }
    let v : Verifier := ⟨params, 0xfffff * Bytes.weight 27, by decide⟩
    let anchor : Header := ⟨112, .zero, .zero, 1400000000, 0x04923456, 0⟩
    let next : Header := { anchor with previous := anchor.hash, timestamp := 1400000060 }
    let c : ChainFile := ⟨1000, [.ofHeader anchor, .ofHeader next]⟩
    List.Forall₂ Entry.Names c.headers [anchor, next] ∧
      (c.replay v .portable true).outcome = .error (.badClaim (.negative 0x04923456)) := by
  intro params v anchor next c
  have hnames : List.Forall₂ Entry.Names c.headers [anchor, next] :=
    .cons (Entry.names_ofHeader anchor) (.cons (Entry.names_ofHeader next) .nil)
  have hword : v.Unread (Block.ofHeader anchor 1000) next := .inr (by decide)
  have hunread : UnreadAfter v true c.startHeight [anchor, next] 0 (.negative 0x04923456) :=
    ⟨fun i hlt => absurd hlt i.not_lt_zero, anchor, next, ⟨rfl, rfl⟩, rfl, by decide, hword⟩
  obtain ⟨herror, -, -⟩ := replay_eq_error_iff_unread (v := v) .portable true hnames
  exact ⟨hnames, (herror _).mpr ⟨rfl, 0, _, rfl, hunread⟩⟩

/-- Not every replay of headers ends in a report: before the fork a test network does not read the
word of the next header, and its work has no target. -/
theorem ChainFile.not_every_replay_reports :
    ¬ ∀ (v : Verifier) (backend : Backend) (checkWork : Bool) (c : ChainFile)
        (headers : List Header), List.Forall₂ Entry.Names c.headers headers →
      ∃ report, (c.replay v backend checkWork).outcome = .ok report := by
  intro hreports
  let v : Verifier := ⟨.preset .testnet, 0xffff * Bytes.weight 27, by decide⟩
  let anchor : Header := ⟨112, .zero, .zero, 1400000000, 0x1e00ffff, 0⟩
  let next : Header := ⟨112, anchor.hash, .zero, 1400000060, 0x04923456, 0⟩
  let headers : List Header := [anchor, next]
  have hnames := Entry.names_map_ofHeader headers
  have hunread : UnreadAfter v true 0 headers 0 (.negative 0x04923456) :=
    ⟨fun i hlt => absurd hlt i.not_lt_zero, anchor, next, ⟨rfl, rfl⟩, rfl, by decide,
      .inl (by decide)⟩
  obtain ⟨report, hreport⟩ := hreports v .portable true ⟨0, headers.map .ofHeader⟩ headers hnames
  have herror := (outcome_replay_eq_error_iff .portable).mpr ⟨rfl, 0, hunread⟩
  rw [outcome_replay_of_named hnames, herror] at hreport
  cases hreport

end DarkGravity
