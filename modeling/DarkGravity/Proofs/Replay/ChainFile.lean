import DarkGravity.Proofs.Retarget.Walk
import DarkGravity.Proofs.Text.Hex
import DarkGravity.Replay.ChainFile
import Mathlib.Data.List.Forall2

/-!
# From entries to headers

All entries of a chain file are made headers before any header is checked: with one text that names
no hash there is no report (`outcome_replay_of_not_named`), and without one the replay is that of
the headers (`outcome_replay_of_named`). The entries of given headers name these headers.
-/

namespace DarkGravity

/-- A list is mapped with success exactly when each element is. -/
theorem Except.mapM_eq_ok_iff {ε α β : Type} {f : α → Except ε β} {xs : List α} {ys : List β} :
    xs.mapM f = .ok ys ↔ List.Forall₂ (fun x y => f x = .ok y) xs ys := by
  induction xs generalizing ys with
  | nil => cases ys <;> simp [pure, Except.pure]
  | cons x xs ih =>
    rw [List.mapM_cons, List.forall₂_cons_left_iff]
    cases hx : f x with
    | error e => simp [bind, Except.bind]
    | ok y =>
      cases hxs : xs.mapM f with
      | error e => simp [bind, Except.bind, ← ih, hxs]
      | ok rest => simp [bind, Except.bind, pure, Except.pure, ← ih, hxs, eq_comm]

namespace ChainFile

namespace Entry

/-- The entry names this header: its two texts name hashes, and the rest is taken over. -/
def Names (e : Entry) (h : Header) : Prop := e.header = .ok h

theorem names_ofHeader (h : Header) : (ofHeader h).Names h := by
  simp only [Names, header, hashOf, ofHeader, Hash.ofDisplay_display]
  rfl

/-- The entries of headers name these headers. -/
theorem names_map_ofHeader (headers : List Header) :
    List.Forall₂ Names (headers.map ofHeader) headers := by
  rw [List.forall₂_map_left_iff, List.forall₂_same]
  intro h _
  exact names_ofHeader h

/-- An entry with a text that names no hash names no header. -/
theorem exists_fault_of_not_hash {e : Entry} {text : String}
    (htext : text = e.previous ∨ text = e.merkleRoot)
    (hnone : ∀ hash, Hash.ofDisplay text ≠ .ok hash) : ∃ fault, e.header = .error fault := by
  cases hheader : e.header with
  | error fault => exact ⟨fault, rfl⟩
  | ok h =>
    exfalso
    rw [header] at hheader
    cases hprevious : Hash.ofDisplay e.previous with
    | error error => simp [hashOf, hprevious, Except.mapError, bind, Except.bind] at hheader
    | ok previous =>
      cases hroot : Hash.ofDisplay e.merkleRoot with
      | error error =>
        simp [hashOf, hprevious, hroot, Except.mapError, bind, Except.bind] at hheader
      | ok root =>
        rcases htext with rfl | rfl
        · exact hnone _ hprevious
        · exact hnone _ hroot

end Entry

variable {c : ChainFile}

/-- The replay of a file whose entries name headers is the replay of these headers. -/
theorem outcome_replay_of_named {headers : List Header}
    (hnames : List.Forall₂ Entry.Names c.headers headers)
    (v : Verifier) (backend : Backend) (checkWork : Bool) :
    (c.replay v backend checkWork).outcome =
      (DarkGravity.replay v backend checkWork c.startHeight headers).outcome.mapError
        .badClaim := by
  have hheaders : c.headers.mapM Entry.header = .ok headers := Except.mapM_eq_ok_iff.mpr hnames
  rw [replay, hheaders]
  rfl

/-- The two replays have the same events. -/
theorem events_replay_of_named {headers : List Header}
    (hnames : List.Forall₂ Entry.Names c.headers headers)
    (v : Verifier) (backend : Backend) (checkWork : Bool) :
    (c.replay v backend checkWork).events =
      (DarkGravity.replay v backend checkWork c.startHeight headers).events := by
  have hheaders : c.headers.mapM Entry.header = .ok headers := Except.mapM_eq_ok_iff.mpr hnames
  rw [replay, hheaders]
  rfl

/-- The entries of a file that has a report name headers. -/
theorem exists_named_of_replay {v : Verifier} {backend : Backend} {checkWork : Bool}
    {report : Report} (hok : (c.replay v backend checkWork).outcome = .ok report) :
    ∃ headers, List.Forall₂ Entry.Names c.headers headers := by
  cases hheaders : c.headers.mapM Entry.header with
  | error fault =>
    rw [replay, hheaders] at hok
    cases hok
  | ok headers => exact ⟨headers, Except.mapM_eq_ok_iff.mp hheaders⟩

/-- A file with an entry that names no header has no report, whatever its other headers are. -/
theorem outcome_replay_of_not_named {e : Entry} {fault : Entry.Fault} (hmem : e ∈ c.headers)
    (hfault : e.header = .error fault) (v : Verifier) (backend : Backend) (checkWork : Bool) :
    ∃ fault', (c.replay v backend checkWork).outcome = .error (.badEntry fault') := by
  rw [replay]
  cases hheaders : c.headers.mapM Entry.header with
  | error fault' => exact ⟨fault', rfl⟩
  | ok headers =>
    have hnames := Except.mapM_eq_ok_iff.mp hheaders
    obtain ⟨i, hi, rfl⟩ := List.getElem_of_mem hmem
    have hname := hnames.get hi (hnames.length_eq ▸ hi)
    rw [List.get_eq_getElem, hfault] at hname
    cases hname

end ChainFile

end DarkGravity
