import DarkGravity.Proofs.Check.RequiredTarget
import DarkGravity.Proofs.Check.Transition

/-!
# The word that always passes

No rule can bring a chain to a halt. Wherever a rule arrives at a required target, the word of that
target passes (`required_word_passes`): the mask of this word leaves of the target what the word
stands for. Inside a period of the interval rule the word of the previous block passes.
-/

namespace DarkGravity.Verifier

/-- By Dark Gravity Wave the word of the required target below the ceiling passes, whatever
relaxation applies. By the interval rule the word of the previous block passes inside a period, and
at the end of a whole period the word of the old target times the time of the period over the
expected one, below the ceiling. This is because a target that fits 256 bits, masked by its own
word, is what this word stands for. -/
theorem required_word_passes (v : Verifier) (previous : Block) (lookup : Lookup) :
    (∀ (required : Retarget) (candidate : Header), v.params.rule = .darkGravityWave →
      (retarget (v.params.versionAfter previous.height) v.params previous lookup).outcome =
        .ok required →
      candidate.bits = Compact.encode (min required.target v.ceiling) →
      (v.check previous candidate lookup).outcome = .ok ()) ∧
    (isTransition v.params.periodLength previous.height = false →
      (checkInterval v.params previous previous.bits lookup).outcome = .ok ()) ∧
    (∀ (first : Block) (target : Target), lookup.SpansPeriod v.params first previous →
      v.params.TimesFit first previous → Compact.decode previous.bits = .ok target →
      (checkInterval v.params previous
        (Compact.encode (min (v.params.scaledTarget target first previous) v.ceiling))
        lookup).outcome = .ok ()) ∧
    ∀ target < 2 ^ 256,
      Compact.decode (Compact.encode target) =
        .ok (Compact.truncate target (Compact.encode target)) := by
  refine ⟨?_, ?_, ?_, ?_⟩
  · intro required candidate hrule hrequired hbits
    exact check_of_encode hrule hrequired hbits
  · intro hinside
    exact (checkInterval_eq_ok_iff_of_inside hinside).mpr rfl
  · intro first target hperiod hfits htarget
    exact checkInterval_encode_of_spansPeriod v.decode_ceilingBits hperiod hfits htarget
  · intro target hlt
    exact Compact.decode_encode hlt

/-- On a relaxed network a last block that came ten minutes after its parent: the word of the target
that version 3 requires passes for a late candidate, and the word of four times the old target
passes as the first of a period of two blocks. -/
theorem required_word_passes_of_late :
    let params : Params := { Params.preset .testnet with timespan := 120 }
    let v : Verifier := ⟨params, 0xffff * Bytes.weight 27, by decide⟩
    let parent : Block := ⟨.zero, 100000, 0x1c7fffff, 1400000000, .zero⟩
    let previous : Block := { parent with height := 100001, timestamp := 1400000600 }
    let lookup : Lookup := fun _ => .ok (some parent)
    let candidate : Header := { claim 0x1c355554 with timestamp := 1400000800 }
    relaxation? params previous candidate = some .late ∧
    (v.check previous candidate lookup).outcome = .ok () ∧
    (checkInterval params parent 0x1c7fffff lookup).outcome = .ok () ∧
    (checkInterval params previous 0x1d01ffff lookup).outcome = .ok () ∧
    Compact.decode (Compact.encode 0x80ffff01) =
      .ok (Compact.truncate 0x80ffff01 (Compact.encode 0x80ffff01)) := by
  intro params v parent previous lookup candidate
  obtain ⟨hwave, -, hperiod, hmask⟩ := required_word_passes v previous lookup
  obtain ⟨-, hinside, -, -⟩ := required_word_passes v parent lookup
  have hrequired : (retarget (params.versionAfter previous.height) params previous lookup).outcome =
      .ok ⟨0x7fffff * Bytes.weight 25 * 600 / 1440, 24, 600, 1440⟩ := by decide +kernel
  have hspans : lookup.SpansPeriod params parent previous :=
    ⟨by decide, by decide +kernel, by decide⟩
  have hfits : params.TimesFit parent previous := ⟨by decide, by decide, by decide⟩
  have hword := hperiod parent (0x7fffff * Bytes.weight 25) hspans hfits (by decide)
  refine ⟨by decide, hwave _ candidate rfl hrequired (by decide), hinside (by decide), ?_,
    hmask 0x80ffff01 (by norm_num)⟩
  rwa [show Compact.encode (min (params.scaledTarget (0x7fffff * Bytes.weight 25) parent previous)
    v.ceiling) = 0x1d01ffff by decide] at hword

end DarkGravity.Verifier
