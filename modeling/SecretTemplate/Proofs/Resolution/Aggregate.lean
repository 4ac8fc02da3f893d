import SecretTemplate.Proofs.Resolution.Accounting
import SecretTemplate.Proofs.Text.Quoting

namespace SecretTemplate.Resolution

theorem failure?_eq_some {resolution : Resolution} {cause : Failure} (failed : resolution.failure? = some cause) :
    cause = .partialResolution (resolution.failures.entries.map fun e => e.2.message) := by
  rw [failure?_eq] at failed
  split at failed
  · cases failed
  · exact (Option.some.inj failed).symm

/-- Different messages are listed in different lines, and are read back from them. What is read from the message of the
    one failure of a resolution are the messages of all its failures, in the order of the placeholders. -/
theorem aggregate_unambiguous :
    (∀ messages others : List String,
      (Failure.partialResolution messages).message = (Failure.partialResolution others).message → messages = others) ∧
    (∀ messages : List String,
      Text.unquoteList (Failure.partialResolution messages).message = some messages ∧
        ∀ c ∈ (Failure.partialResolution messages).message.toList, Text.isShown c = true) ∧
    ∀ (resolution : Resolution) (cause : Failure), resolution.failure? = some cause →
      Text.unquoteList cause.message = some (resolution.failures.entries.map fun e => e.2.message) := by
  refine ⟨fun _ _ same => Text.quoteList_injective same, fun messages => ⟨Text.unquoteList_quoteList messages, ?_⟩, ?_⟩
  · exact fun _ member => Text.isShown_of_mem_quoteList member
  · intro resolution cause failed
    rw [failure?_eq_some failed]
    exact Text.unquoteList_quoteList _

end SecretTemplate.Resolution
