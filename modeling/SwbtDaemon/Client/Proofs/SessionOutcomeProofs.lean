import SwbtDaemon.Client.Proofs.DaemonSessionProofs

/-!
# Proofs: how a session with the daemon ends

While nothing else concerns the ownership, the start of a session decides its end: the controller is
owned by another client, or the daemon does not read the sequence, or it does not report its status,
or the session succeeds and shows the state that it was told to set.
-/

namespace Swbt.DebugClient

open CString Json Written Ipc

/-- The operations between the requests do not concern the ownership. -/
def Peer.Quiet (peer : Peer) : Prop := ∀ ops ∈ peer.between, ∀ op ∈ ops, op.event = .other

/-- What a request of the client finds at the daemon. -/
structure Peer.Stands (peer : Peer) (clientId : UInt32)
    (runtime : Option (Option RuntimeStatus)) (lease : Lease) (state : State) : Prop where
  clientId : peer.clientId = clientId
  unread : peer.unread = []
  quiet : peer.Quiet
  runtime : peer.control.readRuntimeStatus = runtime
  lease : peer.control.app.lease = lease
  state : peer.control.app.state = state

section Stands

variable {peer : Peer} {clientId : UInt32} {runtime : Option (Option RuntimeStatus)} {lease : Lease}
  {state : State}

/-- The operations between the requests leave what a request finds. -/
theorem Peer.Stands.interleave (h : peer.Stands clientId runtime lease state) :
    peer.interleave.Stands clientId runtime lease state := by
  obtain ⟨control, id, unread, between⟩ := peer
  obtain ⟨hid, hunread, hquiet, hruntime, hlease, hstate⟩ := h
  cases between with
  | nil => exact ⟨hid, hunread, hquiet, hruntime, hlease, hstate⟩
  | cons ops between =>
    obtain ⟨hops, hbetween⟩ := List.forall_mem_cons.1 hquiet
    have hstep : ∀ (app : Domain) (op : Domain.Op), app.lease = lease ∧ app.state = state →
        op.event = .other → (app.step op).lease = lease ∧ (app.step op).state = state := by
      rintro app op ⟨rfl, rfl⟩ hop
      exact Domain.step_of_other app hop
    have hsteps : Runs.AllSteps Domain.step (fun _ op => op.event = .other) control.app ops :=
      Runs.allSteps_of_forall (fun _ => hops) control.app
    obtain ⟨hlease', hstate'⟩ :=
      Runs.run_invariant_of_allSteps hstep ⟨hlease, hstate⟩ hsteps
    exact ⟨hid, hunread, hbetween, hruntime, hlease', hstate'⟩

/-- What a request finds after one that left the domain `app`. -/
theorem Peer.Stands.after (h : peer.Stands clientId runtime lease state) {app : Domain}
    {lease' : Lease} {state' : State} (hlease : app.lease = lease') (hstate : app.state = state') :
    Peer.Stands
      { peer with control := { peer.control with app := app }, unread := [] }
      clientId runtime lease' state' :=
  ⟨h.clientId, rfl, h.quiet, h.runtime, hlease, hstate⟩

theorem Peer.Stands.heldBy {sequence : UInt64}
    (h : peer.Stands clientId runtime ⟨true, clientId, sequence⟩ state) :
    peer.control.app.lease.HeldBy clientId := by
  rw [h.lease]
  exact ⟨rfl, rfl⟩

end Stands

/-! ## The requests of the owner -/

/-- The error for a state that the daemon cannot read. -/
def invalidStateResponse : Response :=
  (setError (some (bytes "s1")) .invalidState "state field is invalid").toResponse

section Owner

variable [Platform] (control : Control) (clientId : UInt32)

theorem handleLine_setState {state : State} (hstate : state.Reportable) {sequence : UInt64}
    (hsequence : sequence.toNat < 2 ^ 63) (hheld : control.app.lease.HeldBy clientId)
    (hlast : ¬ sequence < control.app.lease.lastSequence) :
    typedResponse control clientId (requestLine clientId state sequence) =
        ⟨some (bytes "s1"), .stateAccepted sequence⟩ ∧
      (handleLine control clientId (requestLine clientId state sequence) jsonResponseMax).2 =
        { control with app := (control.app.setState clientId state sequence).2 } := by
  have hdecode := decodeCommand_requestLine clientId sequence hstate
  rw [if_pos hsequence] at hdecode
  have hsubmit : control.submitClientState clientId state sequence =
      (.ok, { control with app := (control.app.setState clientId state sequence).2 }) := by
    unfold Control.submitClientState Control.onApp
    rw [Domain.setState_of_accepted hheld state hlast]
    rfl
  have hmatch : commandOwnerMatchesClient
      ⟨.setState, some (bytes "s1"), some clientId, sequence, state⟩ clientId = true := by
    simp [commandOwnerMatchesClient]
  obtain ⟨htyped, hcontrol⟩ := handleLine_decoded control clientId hdecode
  rw [htyped, hcontrol, executeCommand]
  dsimp only
  rw [hmatch, if_neg (by simp), hsubmit]
  exact ⟨rfl, rfl⟩

theorem handleLine_setState_invalid {state : State} (hstate : state.Reportable)
    {sequence : UInt64} (hsequence : ¬ sequence.toNat < 2 ^ 63) :
    typedResponse control clientId (requestLine clientId state sequence) = invalidStateResponse ∧
      (handleLine control clientId (requestLine clientId state sequence) jsonResponseMax).2 =
        control := by
  have hdecode := decodeCommand_requestLine clientId sequence hstate
  rw [if_neg hsequence] at hdecode
  unfold typedResponse handleLine
  rw [hdecode, if_neg (by decide)]
  exact ⟨rfl, rfl⟩

theorem handleLine_getStatus (hruntime : control.readRuntimeStatus ≠ some none) :
    typedResponse control clientId getStatusRequest =
        ⟨some (bytes "g1"), .status control.app.readStatus⟩ ∧
      (handleLine control clientId getStatusRequest jsonResponseMax).2 = control := by
  have hstatus : ∃ runtime, control.getStatus = .ok ⟨control.app.readStatus, runtime⟩ := by
    unfold Control.getStatus
    cases hr : control.readRuntimeStatus with
    | none => exact ⟨_, rfl⟩
    | some r =>
      cases r with
      | none => exact absurd hr hruntime
      | some runtime => exact ⟨_, rfl⟩
  obtain ⟨runtime, hstatus⟩ := hstatus
  obtain ⟨htyped, hcontrol⟩ := handleLine_decoded control clientId decodeCommand_getStatus
  rw [htyped, hcontrol, executeCommand]
  dsimp only
  rw [hstatus]
  exact ⟨rfl, rfl⟩

/-- The error for a status that the daemon cannot read. -/
def statusFailedResponse : Response :=
  ⟨some (bytes "g1"), .error .internalError (bytes "failed to get status")⟩

theorem handleLine_getStatus_failed (hruntime : control.readRuntimeStatus = some none) :
    typedResponse control clientId getStatusRequest = statusFailedResponse ∧
      (handleLine control clientId getStatusRequest jsonResponseMax).2 = control := by
  have hstatus : control.getStatus = .error .invalidArgument := by
    unfold Control.getStatus
    rw [hruntime]
  obtain ⟨htyped, hcontrol⟩ := handleLine_decoded control clientId decodeCommand_getStatus
  rw [htyped, hcontrol, executeCommand]
  dsimp only
  rw [hstatus]
  exact ⟨rfl, rfl⟩

theorem handleLine_released (hheld : control.app.lease.HeldBy clientId) :
    typedResponse control clientId (releaseText (formatOwnerId clientId)) =
      ⟨some (bytes "r1"), .released⟩ := by
  have hmatch : commandOwnerMatchesClient { Command.init with
      type := .release
      requestId := some (bytes "r1")
      ownerClientId := some clientId } clientId = true := by
    simp [commandOwnerMatchesClient]
  have hrelease : control.releaseClient clientId =
      (.ok, { control with app := control.app.revokeAll }) := by
    unfold Control.releaseClient Control.onApp
    rw [Domain.revoke_of_heldBy hheld]
    rfl
  rw [(handleLine_decoded control clientId (decodeCommand_release clientId)).1, executeCommand]
  dsimp only
  rw [hmatch, if_neg (by simp), hrelease]
  rfl

end Owner

/-! ## The stages of a session -/

/-- What a successful session leaves: the state that it set, if it was told to skip the release. -/
def Leaves (config : Config) (clientId : UInt32) (app : Domain) : Prop :=
  if config.skipRelease then
    app.lease = ⟨true, clientId, config.sequence⟩ ∧ app.state = config.state
  else app.Shows none

section Stages

variable [Platform] (hlen : Platform.versionString.length ≤ 512)
  (hversion : ∀ b ∈ Platform.versionString, PlainByte b) (config : Config) {peer : Peer}
  {clientId : UInt32} {runtime : Option (Option RuntimeStatus)} {last : UInt64} {state : State}

/-- The release that is made on a failure ends the tenure. -/
theorem releaseBestEffort_shows (h : peer.Stands clientId runtime ⟨true, clientId, last⟩ state) :
    (releaseBestEffort Peer.io peer (formatOwnerId clientId)).control.app.Shows none := by
  obtain rfl := h.clientId
  have hsize := formatOwnerId_length peer.clientId
  have hne : formatOwnerId peer.clientId ≠ [] :=
    List.ne_nil_of_length_pos (by rw [hsize]; decide)
  rw [releaseBestEffort, if_neg hne, ioSendRelease_eq (by rw [hsize]; decide),
    sendReceive_control peer (isRequest_release peer.clientId), handleLine_release,
    Domain.revoke_of_heldBy h.interleave.heldBy]
  exact Domain.revokeAll_shows _

include hlen hversion

/-- The end of a session that has its status. -/
theorem runRelease_of_stands
    (h : peer.Stands clientId runtime ⟨true, clientId, config.sequence⟩ config.state)
    (status : List UInt8) :
    ∃ peer', runRelease config Peer.io peer (formatOwnerId clientId) status =
        ⟨0, status, [], peer'⟩ ∧ Leaves config clientId peer'.control.app := by
  obtain rfl := h.clientId
  unfold runRelease
  by_cases hskip : config.skipRelease = true
  · rw [if_pos hskip]
    refine ⟨peer, rfl, ?_⟩
    rw [Leaves, if_pos hskip]
    exact ⟨h.lease, h.state⟩
  have hheld := h.interleave.heldBy
  have htyped := handleLine_released peer.interleave.control peer.clientId hheld
  have hline := isRequest_release peer.clientId
  have hraw := typedResponse_raw peer.interleave.control peer.clientId
    (releaseText (formatOwnerId peer.clientId))
  have hresponse := sendReceive_response peer hline hlen hversion h.unread
  rw [htyped] at hraw hresponse
  have herror : responseContains (Response.text ⟨some (bytes "r1"), .released⟩) "error" = false := by
    rw [responseContains_text hversion hraw "error" (by decide)]
    exact decide_eq_false (by simp only [ResponseBody.typeText]; decide)
  have hsize : (formatOwnerId peer.clientId).length < idSize := by
    rw [formatOwnerId_length]
    decide
  rw [if_neg hskip, ioSendRelease_eq hsize, hresponse (by simp [Response.Silent]),
    handleLine_release, Domain.revoke_of_heldBy hheld]
  dsimp only
  rw [herror, if_neg (by simp)]
  refine ⟨_, rfl, ?_⟩
  rw [Leaves, if_neg hskip]
  exact Domain.revokeAll_shows _

/-- The status request, answered. -/
theorem runStatus_of_stands (h : peer.Stands clientId runtime ⟨true, clientId, last⟩ state)
    (hruntime : runtime ≠ some none) :
    ∃ peer' status, runStatus config Peer.io peer (formatOwnerId clientId) =
        runRelease config Peer.io peer' (formatOwnerId clientId)
          (Response.text ⟨some (bytes "g1"), .status status⟩) ∧
      peer'.Stands clientId runtime ⟨true, clientId, last⟩ state ∧
      status.hasOwner = true ∧ status.ownerClientId = clientId ∧ status.lastSequence = last ∧
      status.state = state := by
  obtain rfl := h.clientId
  have hfound := h.interleave
  obtain ⟨htyped, hcontrol⟩ := handleLine_getStatus peer.interleave.control peer.clientId
    (by rwa [hfound.runtime])
  have hraw := typedResponse_raw peer.interleave.control peer.clientId getStatusRequest
  have hresponse := sendReceive_response peer isRequest_getStatus hlen hversion h.unread
  rw [htyped] at hraw hresponse
  have herror : responseContains (Response.text
      ⟨some (bytes "g1"), .status peer.interleave.control.app.readStatus⟩) "error" = false := by
    rw [responseContains_text hversion hraw "error" (by decide)]
    exact decide_eq_false (by simp only [ResponseBody.typeText]; decide)
  have hlease := hfound.lease
  unfold runStatus
  rw [hresponse (by simp [Response.Silent]), hcontrol]
  dsimp only
  rw [herror, if_neg (by simp)]
  exact ⟨_, _, rfl, hfound.after hlease hfound.state, congrArg Lease.hasOwner hlease,
    congrArg Lease.ownerClientId hlease, congrArg Lease.lastSequence hlease, hfound.state⟩

/-- The status request, when the daemon cannot read its status. -/
theorem runStatus_failed (h : peer.Stands clientId runtime ⟨true, clientId, last⟩ state)
    (hruntime : runtime = some none) :
    ∃ peer', runStatus config Peer.io peer (formatOwnerId clientId) =
        failed (bytes "get_status failed\n") peer' ∧ peer'.control.app.Shows none := by
  obtain rfl := h.clientId
  have hfound := h.interleave
  obtain ⟨htyped, hcontrol⟩ := handleLine_getStatus_failed peer.interleave.control peer.clientId
    (hfound.runtime.trans hruntime)
  have hraw := typedResponse_raw peer.interleave.control peer.clientId getStatusRequest
  have hresponse := sendReceive_response peer isRequest_getStatus hlen hversion h.unread
  rw [htyped] at hraw hresponse
  have herror : responseContains statusFailedResponse.text "error" = true := by
    rw [responseContains_text hversion hraw "error" (by decide)]
    exact decide_eq_true rfl
  unfold runStatus
  rw [hresponse (by simp [Response.Silent, statusFailedResponse]), hcontrol]
  dsimp only
  rw [herror, if_pos rfl]
  exact ⟨_, rfl, releaseBestEffort_shows (hfound.after hfound.lease hfound.state)⟩

/-- The update, accepted. -/
theorem runOwner_of_stands (h : peer.Stands clientId runtime ⟨true, clientId, last⟩ state)
    (hstate : config.state.Reportable) (hsequence : config.sequence.toNat < 2 ^ 63)
    (hlast : ¬ config.sequence < last) :
    ∃ peer', runOwner config Peer.io peer (formatOwnerId clientId) =
        runStatus config Peer.io peer' (formatOwnerId clientId) ∧
      peer'.Stands clientId runtime ⟨true, clientId, config.sequence⟩ config.state := by
  obtain rfl := h.clientId
  have hfound := h.interleave
  have hheld := hfound.heldBy
  have hlast' : ¬ config.sequence < peer.interleave.control.app.lease.lastSequence := by
    rwa [hfound.lease]
  obtain ⟨htyped, hcontrol⟩ := handleLine_setState peer.interleave.control peer.clientId hstate
    hsequence hheld hlast'
  have hline := isRequest_setState peer.clientId config.state config.sequence
  have hraw := typedResponse_raw peer.interleave.control peer.clientId
    (requestLine peer.clientId config.state config.sequence)
  have hresponse := sendReceive_response peer hline hlen hversion h.unread
  rw [htyped] at hraw hresponse
  have herror : responseContains (Response.text
      ⟨some (bytes "s1"), .stateAccepted config.sequence⟩) "error" = false := by
    rw [responseContains_text hversion hraw "error" (by decide)]
    exact decide_eq_false (by simp only [ResponseBody.typeText]; decide)
  unfold runOwner
  rw [ioSendSetState_eq, hresponse (by simp [Response.Silent]), hcontrol]
  dsimp only
  rw [herror, if_neg (by simp)]
  refine ⟨_, rfl, hfound.after ?_ ?_⟩
  · rw [Domain.setState_of_accepted hheld config.state hlast', hfound.lease]
  · rw [Domain.setState_of_accepted hheld config.state hlast']

/-- The update, when the daemon does not read its sequence. -/
theorem runOwner_invalid (h : peer.Stands clientId runtime ⟨true, clientId, last⟩ state)
    (hstate : config.state.Reportable) (hsequence : ¬ config.sequence.toNat < 2 ^ 63) :
    ∃ peer', runOwner config Peer.io peer (formatOwnerId clientId) =
        failed invalidStateResponse.text peer' ∧ peer'.control.app.Shows none := by
  obtain rfl := h.clientId
  have hfound := h.interleave
  obtain ⟨htyped, hcontrol⟩ := handleLine_setState_invalid peer.interleave.control peer.clientId
    hstate hsequence
  have hline := isRequest_setState peer.clientId config.state config.sequence
  have hraw := typedResponse_raw peer.interleave.control peer.clientId
    (requestLine peer.clientId config.state config.sequence)
  have hresponse := sendReceive_response peer hline hlen hversion h.unread
  rw [htyped] at hraw hresponse
  have herror : responseContains invalidStateResponse.text "error" = true := by
    rw [responseContains_text hversion hraw "error" (by decide)]
    exact decide_eq_true rfl
  unfold runOwner
  rw [ioSendSetState_eq, hresponse (by simp [Response.Silent, invalidStateResponse, setError,
    ErrorResponse.toResponse]), hcontrol]
  dsimp only
  rw [herror, if_pos rfl]
  exact ⟨_, rfl, releaseBestEffort_shows (hfound.after hfound.lease hfound.state)⟩

end Stages

/-! ## Whole sessions -/

/-- The status shows the client `clientId` as the owner, with the state that it was told to set. -/
structure ShowsUpdate (config : Config) (clientId : UInt32) (status : Domain.StatusSnapshot) :
    Prop where
  hasOwner : status.hasOwner = true
  ownerClientId : status.ownerClientId = clientId
  lastSequence : status.lastSequence = config.sequence
  state : status.state = config.state

/-- The end of a session that starts at the control `control`. -/
def Ends [Platform] (config : Config) (control : Control) (clientId : UInt32)
    (outcome : Outcome Peer) : Prop :=
  if control.app.lease.hasOwner then
    outcome.result = 1 ∧ outcome.out = [] ∧ outcome.err = busyResponse.text ∧
      outcome.peer.control.app.lease = control.app.lease ∧
      outcome.peer.control.app.state = control.app.state
  else if ¬ config.sequence.toNat < 2 ^ 63 then
    outcome.result = 1 ∧ outcome.out = [] ∧ outcome.err = invalidStateResponse.text ∧
      outcome.peer.control.app.Shows none
  else if control.readRuntimeStatus = some none then
    outcome.result = 1 ∧ outcome.out = [] ∧ outcome.err = bytes "get_status failed\n" ∧
      outcome.peer.control.app.Shows none
  else
    outcome.result = 0 ∧ outcome.err = [] ∧
      (∃ status, outcome.out = Response.text ⟨some (bytes "g1"), .status status⟩ ∧
        ShowsUpdate config clientId status) ∧
      Leaves config clientId outcome.peer.control.app

/-- **How a session with the daemon ends**, while other clients and the daemon do nothing between
its requests that concerns the ownership. -/
theorem runIo_ends [Platform] (hlen : Platform.versionString.length ≤ 512)
    (hversion : ∀ b ∈ Platform.versionString, PlainByte b) (config : Config)
    (hstate : config.state.Reportable) (peer : Peer) (hunread : peer.unread = [])
    (hquiet : peer.Quiet) (hconsistent : peer.control.app.Consistent) (hfree : peer.Free) :
    Ends config peer.control peer.clientId (runIo config Peer.io peer) := by
  have hstart : peer.Stands peer.clientId peer.control.readRuntimeStatus peer.control.app.lease
      peer.control.app.state := ⟨rfl, hunread, hquiet, rfl, rfl, rfl⟩
  set greeted : Peer := { peer.interleave with unread := [] } with hgreetedEq
  have hgreeted : greeted.Stands peer.clientId peer.control.readRuntimeStatus
      peer.control.app.lease peer.control.app.state :=
    hstart.interleave.after hstart.interleave.lease hstart.interleave.state
  have hfound := hgreeted.interleave
  rw [runIo_hello hlen hversion config hunread, ← hgreetedEq]
  unfold Ends
  by_cases hbusy : peer.control.app.lease.hasOwner = true
  · have hbusy' : greeted.interleave.control.app.lease.hasOwner = true := by
      rwa [hfound.lease]
    have hother : greeted.interleave.control.app.lease.ownerClientId ≠ greeted.clientId := by
      rw [hfound.lease, hgreeted.clientId]
      exact fun hid => hfree ⟨hbusy, hid⟩
    rw [if_pos hbusy, runAcquire_busy hlen hversion config hgreeted.unread hbusy' hother]
    exact ⟨rfl, rfl, rfl, hfound.lease, hfound.state⟩
  rw [if_neg hbusy]
  have hbusy := Bool.eq_false_iff.2 hbusy
  have hfree' : greeted.interleave.control.app.lease.hasOwner = false := by
    rwa [hfound.lease]
  -- the tenure of the client starts with no sequence
  have hlast : ¬ config.sequence < peer.control.app.lease.lastSequence := by
    rw [hconsistent.lastSequence_eq_zero hbusy]
    exact UInt64.not_lt.2 UInt64.zero_le
  have howner : Peer.Stands
      { greeted.interleave with
        control := { greeted.interleave.control with
          app := (greeted.interleave.control.app.acquire peer.clientId).2 }
        unread := [] }
      peer.clientId peer.control.readRuntimeStatus
      ⟨true, peer.clientId, peer.control.app.lease.lastSequence⟩ peer.control.app.state := by
    refine hfound.after ?_ ?_
    · rw [Domain.acquire_of_free hfree', hfound.lease]
    · rw [Domain.acquire_of_free hfree', hfound.state]
  rw [runAcquire_free hlen hversion config hgreeted.unread hfree', hgreeted.clientId]
  by_cases hsequence : config.sequence.toNat < 2 ^ 63
  · obtain ⟨updated, hrun, hupdated⟩ :=
      runOwner_of_stands hlen hversion config howner hstate hsequence hlast
    rw [if_neg (not_not.2 hsequence), hrun]
    by_cases hruntime : peer.control.readRuntimeStatus = some none
    · obtain ⟨last, hrun, hlast⟩ := runStatus_failed hlen hversion config hupdated hruntime
      rw [if_pos hruntime, hrun]
      exact ⟨rfl, rfl, rfl, hlast⟩
    · obtain ⟨reported, status, hrun, hreported, hshows⟩ :=
        runStatus_of_stands hlen hversion config hupdated hruntime
      obtain ⟨last, hrun', hleaves⟩ :=
        runRelease_of_stands hlen hversion config hreported
          (Response.text ⟨some (bytes "g1"), .status status⟩)
      rw [if_neg hruntime, hrun, hrun']
      exact ⟨rfl, rfl,
        ⟨status, rfl, hshows.1, hshows.2.1, hshows.2.2.1, hshows.2.2.2⟩, hleaves⟩
  · obtain ⟨last, hrun, hlast⟩ := runOwner_invalid hlen hversion config howner hstate hsequence
    rw [if_pos hsequence, hrun]
    exact ⟨rfl, rfl, rfl, hlast⟩

/-- The client presses A and keeps the lease, while the daemon counts a rejected update. -/
theorem runIo_ends_skipRelease :
    let _ : Platform := Platform.lp64
    let config : Config := ⟨1, { State.neutral with buttons := 8 }, 7, 0, true⟩
    ∃ app, Domain.init = .ok app ∧
      Ends config (Control.init app none) 5
        (runIo config Peer.io ⟨Control.init app none, 5, [], [[], [.recordStateUpdateRejected]]⟩) := by
  let _ : Platform := Platform.lp64
  obtain ⟨spi, hinit⟩ := Domain.init_ok
  have hstate : ({ State.neutral with buttons := 8 } : State).Reportable :=
    ⟨by decide, by decide, by decide, by decide, by decide⟩
  have hends := runIo_ends (by decide) (plain_of_raw (by decide))
    ⟨1, { State.neutral with buttons := 8 }, 7, 0, true⟩ hstate
    ⟨Control.init (Domain.initWith spi) none, 5, [], [[], [.recordStateUpdateRejected]]⟩ rfl
    (by simp [Peer.Quiet, Domain.Op.event]) ⟨none, Domain.initWith_shows spi⟩
    (fun hheld => Bool.false_ne_true hheld.1)
  exact ⟨_, hinit, hends⟩

end Swbt.DebugClient
