import DarkGravity.Proofs.Replay.Specification

/-!
# Accepted headers stay within the ceiling

Where claims are enforced, one accepted header after another has a target that is at most the
ceiling, because each way of checking keeps the bound and the interval rule hands on the word of the
block before (`within_of_acceptedAfter`). So no work is tested against a word without a target,
every replay ends in a report, and tested work is below the ceiling too. On a relaxed network this
reaches as far as heights of 64 bits do (`Verifier.Reaches`): past the last one a chain is before
the fork again, and its headers may claim what they like
(`ChainFile.not_every_replay_within_ceiling`).
-/

namespace DarkGravity

/-- The children of a block at this height have their claims enforced: the network relaxes nothing,
or they come after the fork and can only be late. -/
def Verifier.Enforces (v : Verifier) (height : UInt64) : Prop :=
  v.params.relaxed = false ∨ v.params.forkedAfter height = true

/-- On a relaxed network the height of the `i`-th header is not past the last 64-bit height, after
which it would be before the fork again, or there is no height before the fork. -/
def Verifier.Reaches (v : Verifier) (start : UInt64) (i : ℕ) : Prop :=
  v.params.relaxed = true → start.toNat + i < 2 ^ 64 ∨ v.params.forkedAfter 0 = true

/-- What the check of the next header needs of a header to keep the ceiling. Dark Gravity Wave needs
nothing, the interval rule hands on the word and so the bound. -/
def Verifier.HandsOn (v : Verifier) (header : Header) : Prop :=
  v.params.rule = .darkGravityWave ∨ Compact.Within v.ceiling header.bits

section

variable {v : Verifier} {checkWork : Bool} {start : UInt64} {headers : List Header}

theorem Verifier.Reaches.of_le {i k : ℕ} (h : v.Reaches start k) (hle : i ≤ k) :
    v.Reaches start i :=
  fun hrelaxed => (h hrelaxed).imp_left (Nat.add_le_add_left hle _).trans_lt

/-- What is enforced on the child of the anchor is enforced later, as long as heights do not wrap
around. -/
theorem Verifier.Enforces.add {i : ℕ} (h : v.Enforces start) (hreaches : v.Reaches start i) :
    v.Enforces (start + UInt64.ofNat i) := by
  rcases h with hrelaxed | hforked
  · exact .inl hrelaxed
  · rcases Bool.eq_false_or_eq_true v.params.relaxed with hrelaxed | hrelaxed
    · right
      rcases hreaches hrelaxed with hlt | hall
      · have hheight : (start + UInt64.ofNat i).toNat = start.toNat + i := by
          rw [UInt64.toNat_add, UInt64.toNat_ofNat', Nat.add_mod_mod, Nat.mod_eq_of_lt hlt]
        simp only [Params.forkedAfter, decide_eq_true_eq] at hforked ⊢
        omega
      · simp only [Params.forkedAfter, decide_eq_true_eq, UInt64.toNat_zero] at hall ⊢
        omega
    · exact .inl hrelaxed

/-- The work of a header is done when its hash is at most the target of its word. -/
theorem Header.meetsTarget_of_decode {h : Header} {target : Target}
    (htarget : Compact.decode h.bits = .ok target) :
    h.meetsTarget = .ok (decide (h.hash.toNat ≤ target)) := by
  rw [meetsTarget, Hash.meetsTarget, htarget]
  rfl

/-- One step of a run: a header that passes its check is within the ceiling if the header before it
hands that on. -/
theorem Verifier.HandsOn.within {i : ℕ} {parent next : Header} {lookup : Lookup}
    (h : v.HandsOn parent) (henforced : v.Enforces start) (hreaches : v.Reaches start i)
    (hcheck : (v.check (Block.ofHeader parent (start + UInt64.ofNat i)) next lookup).outcome =
      .ok ()) :
    Compact.Within v.ceiling next.bits :=
  within_of_check hcheck (henforced.add hreaches) h

/-- A whole run: every header that a run has come to hands the bound on, by induction back to the
anchor. -/
theorem handsOn_of_acceptedAfter {n : ℕ} (henforced : v.Enforces start)
    (hanchor : ∀ anchor, headers[0]? = some anchor → v.HandsOn anchor)
    (haccepted : ∀ i < n, AcceptedAfter v checkWork start headers i) :
    ∀ i ≤ n, v.Reaches start i → ∀ header, headers[i]? = some header → v.HandsOn header := by
  intro i
  induction i with
  | zero =>
    intro _ _ header hheader
    exact hanchor header hheader
  | succ i ih =>
    intro hle hreaches header hheader
    have hbefore : v.Reaches start i := hreaches.of_le i.le_succ
    obtain ⟨parent, next, hadjacent, haccepts⟩ := haccepted i hle
    obtain rfl := Option.some.inj (hadjacent.next.symm.trans hheader)
    have hparent : v.HandsOn parent := ih (by omega) hbefore parent hadjacent.parent
    exact .inr (hparent.within henforced hbefore haccepts.difficulty)

/-- Every header that a run accepts is within the ceiling, and if work is asked for, its hash is at
most its target. -/
theorem within_of_acceptedAfter {n i : ℕ} (henforced : v.Enforces start)
    (hanchor : ∀ anchor, headers[0]? = some anchor → v.HandsOn anchor)
    (haccepted : ∀ i < n, AcceptedAfter v checkWork start headers i) (hlt : i < n)
    (hreaches : v.Reaches start i) :
    ∃ next target, headers[i + 1]? = some next ∧ Compact.decode next.bits = .ok target ∧
      target ≤ v.ceiling ∧ (checkWork = true → next.hash.toNat ≤ target) := by
  obtain ⟨parent, next, hadjacent, haccepts⟩ := haccepted i hlt
  have hparent : v.HandsOn parent :=
    handsOn_of_acceptedAfter henforced hanchor haccepted i hlt.le hreaches parent hadjacent.parent
  obtain ⟨target, htarget, hle⟩ := hparent.within henforced hreaches haccepts.difficulty
  refine ⟨next, target, hadjacent.next, htarget, hle, ?_⟩
  intro hchecked
  have hwork := haccepts.work hchecked
  rw [Header.meetsTarget_of_decode htarget, Except.ok.injEq, decide_eq_true_eq] at hwork
  exact hwork

end

end DarkGravity
