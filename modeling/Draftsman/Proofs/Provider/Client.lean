/-
What can go wrong when a model is asked.

A request may not be fit to be sent, the exchange may come to nothing, and an answer may
be refused or make no sense.  Each of these failures is one of the provider, whatever the
endpoint, the conversation, the status code and the body are.  So nothing that a model is
to be told of, and that it could mend, ever comes out of asking it.
-/
import Draftsman.Program.Commands

namespace Draftsman

namespace Endpoint

/-! ### Requests -/

theorem header_kind {name value fault : String} {failure : Failure}
    (failed : header name value fault = .error failure) : failure.kind = .provider := by
  unfold header at failed
  split at failed
  · cases failed
  · cases failed
    rfl

/-- Under both protocols there is one header that can fail, that with the key. -/
theorem headers_kind {e : Endpoint} {failure : Failure} (failed : e.headers = .error failure) :
    failure.kind = .provider := by
  have keyed : ∀ {α : Type} {name value fault : String} {rest : String × String → α},
      (do .ok (rest (← header name value fault)) : Except Failure α) = .error failure →
      failure.kind = .provider := by
    intro α name value fault rest failed
    cases written : header name value fault with
    | error other =>
      rw [written] at failed
      cases failed
      exact header_kind written
    | ok key =>
      rw [written] at failed
      cases failed
  unfold headers at failed
  split at failed
  · exact keyed failed
  · exact keyed failed

theorem addressFailure?_kind {address : String} {failure : Failure}
    (failed : addressFailure? address = some failure) : failure.kind = .provider := by
  unfold addressFailure? at failed
  split at failed
  · cases failed
    rfl
  · split at failed
    · cases failed
    · cases failed
      rfl

/-- A request that cannot be made is a failure of the provider. -/
theorem prepare_kind {e : Endpoint} {messages : List Message} {failure : Failure}
    (failed : e.prepare messages = .error failure) : failure.kind = .provider := by
  unfold prepare request at failed
  cases headed : e.headers with
  | error other =>
    rw [headed] at failed
    cases failed
    exact headers_kind headed
  | ok headers =>
    rw [headed] at failed
    simp only [bind, Except.bind] at failed
    split at failed
    · rename_i other unsendable
      cases failed
      exact addressFailure?_kind unsendable
    · cases failed

/-! ### Answers -/

theorem replyOf_kind {e : Endpoint} {v : Json.Value} {failure : Failure}
    (failed : e.replyOf v = .error failure) : failure.kind = .provider := by
  unfold replyOf blocksReply choicesReply at failed
  split at failed
  · split at failed
    · cases failed
    · cases failed
      rfl
  · split at failed
    · cases failed
      rfl
    · cases failed

/-- Whatever the status code and the body are, an answer without a reply is such a failure. -/
theorem readAnswer_kind {e : Endpoint} {a : Answer} {failure : Failure}
    (failed : e.readAnswer a = .error failure) : failure.kind = .provider := by
  unfold readAnswer at failed
  by_cases limited : a.status = tooManyRequests
  · rw [if_pos limited] at failed
    cases failed
    rfl
  · rw [if_neg limited] at failed
    by_cases refused : (!isSuccess a.status) = true
    · rw [if_pos refused] at failed
      cases failed
      rfl
    · rw [if_neg refused] at failed
      cases parsed : Json.parse a.text with
      | error fault =>
        rw [parsed] at failed
        cases failed
        rfl
      | ok v =>
        rw [parsed] at failed
        exact replyOf_kind failed

theorem unansweredFailure_kind (address : String) :
    (unansweredFailure address).kind = .provider := by
  unfold unansweredFailure
  split
  · rfl
  · rfl

/-- Whatever became of a request, if there is no reply then the provider has failed. -/
theorem readDelivery_kind {e : Endpoint} {delivery : Delivery} {failure : Failure}
    (failed : e.readDelivery delivery = .error failure) : failure.kind = .provider := by
  cases delivery with
  | error reason =>
    cases failed
    rfl
  | ok exchange =>
    cases exchange with
    | answered a => exact readAnswer_kind failed
    | unanswered =>
      cases failed
      exact unansweredFailure_kind _

end Endpoint

/-! ### Asking -/

/-- What came of asking a model whose failures are all those of a provider. -/
def Response.ByProvider (response : Response (Except Failure String)) : Prop :=
  ∀ failure cancelled, response = .returned (.error failure) cancelled → failure.kind = .provider

/-- What came of sending a request is read as a reply of the model, or as its failure. -/
theorem Response.map_byProvider (e : Endpoint) (response : Response Delivery) :
    (response.map e.readDelivery).ByProvider := by
  intro failure cancelled failed
  cases response with
  | returned delivery off =>
    obtain ⟨read, -⟩ := Response.returned.inj failed
    exact Endpoint.readDelivery_kind read
  | _ => cases failed

/-- On every machine, a model that fails fails as a provider does. -/
theorem Program.ask_byProvider {m : Type → Type} [Monad m] [LawfulMonad m] (host : Program.Host m)
    (e : Endpoint) (limits : Limits) (run : Run) :
    ∃ response : m { response : Response (Except Failure String) // response.ByProvider },
      Subtype.val <$> response = Program.ask host e limits run := by
  unfold Program.ask
  cases prepared : e.prepare run.messages with
  | error failure =>
    have kind : Response.ByProvider (.returned (.error failure) false) := by
      rintro _ _ ⟨⟩
      exact Endpoint.prepare_kind prepared
    exact ⟨pure ⟨_, kind⟩, map_pure _ _⟩
  | ok request =>
    refine ⟨(fun response => ⟨response.map e.readDelivery, response.map_byProvider e⟩) <$>
      host.send limits.providerTimeout request, ?_⟩
    rw [Functor.map_map, ← bind_pure_comp]

end Draftsman
