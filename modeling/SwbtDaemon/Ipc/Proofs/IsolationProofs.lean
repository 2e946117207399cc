import SwbtDaemon.Ipc.Proofs.AnswerProofs

/-!
# Proofs: isolation of requests

A line that is answered with an error has not changed the domain, except that an update may be
counted as rejected. The lines of clients that do not own the lease move neither the lease nor the
controller.
-/

namespace Swbt.Ipc

open CString Json Written Domain

section Error

variable [Platform]

/-- The type that the reader of the daemon finds in a response. -/
theorem getString_type (response : Response) :
    getString response.text (bytes "type") jsonStringMax =
      .value (bytes response.body.typeText) := by
  have hraw : textCanBeWrittenRaw (bytes response.body.typeText) = true := by
    cases response.body <;> simp only [ResponseBody.typeText] <;> decide
  have hlen : (bytes response.body.typeText).length < jsonStringMax := by
    cases response.body <;> simp only [ResponseBody.typeText] <;> decide
  have htype : (stringField "type" (bytes response.body.typeText)).Legal :=
    legal_stringField (by decide) (plain_of_raw hraw)
  have hfields : ∃ rest, response.fields =
      stringField "type" (bytes response.body.typeText) :: rest := ⟨_, rfl⟩
  obtain ⟨rest, hfields⟩ := hfields
  rw [getString, Response.text, hfields,
    findKeyValue_second (bytes "type") versionField_legal htype (by decide) rfl]
  exact readString_written (plain_of_raw hraw) (follows_more rest _) hlen

theorem encodeResponse_ok {response : Response} {responseSize : Nat} {text : List UInt8}
    (h : encodeResponse response responseSize = .ok text) : text = [] ∨ text = response.text := by
  unfold encodeResponse at h
  split_ifs at h
  by_cases hsilent : response.Silent
  · rw [encodeBody_of_silent _ _ hsilent] at h
    exact .inl (Except.ok.inj h).symm
  · rw [encodeBody_of_not_silent _ _ hsilent, jsonWrite] at h
    split_ifs at h
    exact .inr (Except.ok.inj h).symm

/-- Only an error response has the type `error`. -/
theorem isError_of_type {response : Response} {responseSize : Nat} {text : List UInt8}
    (h : encodeResponse response responseSize = .ok text)
    (htype : getString text (bytes "type") jsonStringMax = .value (bytes "error")) :
    ∃ code message, response.body = .error code message := by
  rcases encodeResponse_ok h with rfl | rfl
  · cases htype
  · rw [getString_type] at htype
    have hbytes := ReadResult.value.inj htype
    cases hbody : response.body with
    | error code message => exact ⟨code, message, rfl⟩
    | _ =>
      rw [hbody] at hbytes
      exact absurd hbytes (by simp only [ResponseBody.typeText]; decide)

/-- A request that is answered with an error changes nothing, or it is counted as rejected. -/
theorem serve_of_error {control : Control} {request : Request} {text : List UInt8}
    (h : request.answer control = .ok text)
    (htype : getString text (bytes "type") jsonStringMax = .value (bytes "error")) :
    request.serve control = control ∨
      request.serve control = control.stepApp .recordStateUpdateRejected := by
  by_cases hdecoded : request.responseSize = 0 ∨
      ∀ command, decodeCommand request.line ≠ .ok command
  · exact .inl (serve_of_not_decoded hdecoded control)
  · obtain ⟨hsize, hex⟩ := not_or.1 hdecoded
    obtain ⟨command, hnot⟩ := not_forall.1 hex
    have hdecode := not_not.1 hnot
    have hanswer : request.answer control =
        encodeResponse (executeCommand control request.clientId command).1
          request.responseSize := by
      unfold Request.answer
      rw [handleLine_eq _ _ _ hsize, typedResponse, hdecode]
    rw [hanswer] at h
    obtain ⟨code, message, hbody⟩ := isError_of_type h htype
    have hexec := executed control request.clientId command
    rw [serve_of_decoded hsize hdecode]
    rw [hbody] at hexec
    generalize (executeCommand control request.clientId command).2 = after at hexec ⊢
    cases hexec with
    | refused => exact .inl rfl
    | told _ hbody =>
      rcases hbody with ⟨status, hbody⟩ | hbody
      · cases hbody
      · cases hbody
    | rejected => exact .inr rfl

/-- While a client holds the lease, a request of another one leaves lease and state as they
are. -/
theorem serve_of_other {control : Control} {owner : UInt32} (hheld : control.app.lease.HeldBy owner)
    {request : Request} (hne : request.clientId ≠ owner) :
    (request.serve control).app.lease = control.app.lease ∧
      (request.serve control).app.state = control.app.state := by
  have hnot : ¬ control.app.lease.HeldBy request.clientId := fun h =>
    hne (h.2.symm.trans hheld.2)
  rcases handleLine_byClient control request.clientId request.line request.responseSize with
    heq | ⟨op, hop, heq⟩
  · unfold Request.serve
    rw [heq]
    exact ⟨rfl, rfl⟩
  · unfold Request.serve
    rw [heq]
    cases hop with
    | acquire =>
      change (control.app.acquire request.clientId).2.lease = _ ∧
        (control.app.acquire request.clientId).2.state = _
      have hbusy : control.app.lease.ownerClientId ≠ request.clientId := fun h =>
        hnot ⟨hheld.1, h⟩
      rw [acquire_of_busy hheld.1 hbusy]
      exact ⟨rfl, rfl⟩
    | setState state sequence =>
      change (control.app.setState request.clientId state sequence).2.lease = _ ∧
        (control.app.setState request.clientId state sequence).2.state = _
      rw [setState_of_not_heldBy hnot]
      exact ⟨rfl, rfl⟩
    | release =>
      change (control.app.revoke .release request.clientId).2.lease = _ ∧
        (control.app.revoke .release request.clientId).2.state = _
      rw [revoke_of_not_heldBy hnot (by simp)]
      exact ⟨rfl, rfl⟩
    | rejected => exact ⟨rfl, rfl⟩

/-- **Run lemma**: the requests of others leave lease and state as they are. -/
theorem run_of_others {control : Control} {owner : UInt32} {requests : List Request}
    (hheld : control.app.lease.HeldBy owner) (hne : ∀ r ∈ requests, r.clientId ≠ owner) :
    (Runs.run Request.serve control requests).app.lease = control.app.lease ∧
      (Runs.run Request.serve control requests).app.state = control.app.state := by
  induction requests generalizing control with
  | nil => exact ⟨rfl, rfl⟩
  | cons request requests ih =>
    obtain ⟨hlease, hstate⟩ := serve_of_other hheld (hne request List.mem_cons_self)
    have hheld' : (request.serve control).app.lease.HeldBy owner := by
      rw [hlease]
      exact hheld
    have hrest := ih hheld' fun r hr => hne r (List.mem_cons_of_mem _ hr)
    rw [hlease, hstate] at hrest
    exact hrest

end Error

/-- **Requests are isolated.** When a line is answered with an error response, lease, controller
state, rumble, SPI and player lights are as before, and at most the count of rejected updates is
one higher. While a client holds the lease, any sequence of lines of other clients, whatever owner
ids they carry, leaves lease and controller state as they are. -/
theorem requests_isolated [Platform] :
    (∀ (control : Control) (request : Request) (text : List UInt8),
      request.answer control = .ok text →
      getString text (bytes "type") jsonStringMax = .value (bytes "error") →
      let before := control.app
      let after := (request.serve control).app
      after.lease = before.lease ∧ after.state = before.state ∧ after.rumble = before.rumble ∧
        after.spi = before.spi ∧ after.playerLights = before.playerLights ∧
        (after = before ∨ after = { before with
          metrics := { before.metrics with
            snapshot := { before.metrics.snapshot with
              ipcStateRejected := before.metrics.snapshot.ipcStateRejected + 1 } } })) ∧
    (∀ (control : Control) (owner : UInt32) (requests : List Request),
      control.app.lease.HeldBy owner → (∀ r ∈ requests, r.clientId ≠ owner) →
      (Runs.run Request.serve control requests).app.lease = control.app.lease ∧
        (Runs.run Request.serve control requests).app.state = control.app.state) := by
  refine ⟨?_, fun control owner requests hheld hne => run_of_others hheld hne⟩
  intro control request text hanswer htype before after
  rcases serve_of_error hanswer htype with hserve | hserve
  · have hafter : after = before := congrArg Control.app hserve
    rw [hafter]
    exact ⟨rfl, rfl, rfl, rfl, rfl, .inl rfl⟩
  · have hafter : after = before.recordStateUpdateRejected := congrArg Control.app hserve
    rw [hafter]
    exact ⟨rfl, rfl, rfl, rfl, rfl, .inr rfl⟩

end Swbt.Ipc
