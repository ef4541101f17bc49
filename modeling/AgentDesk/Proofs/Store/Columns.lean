import AgentDesk.Proofs.Amounts
import AgentDesk.Store
/-!
# What the columns of a database keep

A counter comes back from its column as long as it fits into a signed word, and a cost comes back
but for the sign of a zero.
-/

namespace AgentDesk

/-- A counter that fits into a signed word comes back. -/
theorem counterOf_signedWord {n : Nat} (h : n < 2 ^ 63) : counterOf (signedWord n) = n := by
  have hword : signedWord n = n := by
    unfold signedWord
    rw [UInt64.size, Int.bmod_eq_of_le] <;> omega
  rw [hword, counterOf, Int.toNat_natCast]

/-- A cost comes back but for the sign of a zero. -/
theorem realColumn?_alike {x y : Float} (h : realColumn? x = some y) : AlikeFloat y x := by
  unfold realColumn? at h
  split at h
  · cases h
  · split at h <;> cases h
    · rename_i hzero
      exact .inr ⟨by rfl, hzero⟩
    · exact .refl _

end AgentDesk
